import CatalogSearch.Proofs.Compiler.Typing
import CatalogSearch.Proofs.Compiler.Untokenized

/-!
Groups and their members. A clause that compares whole values in a group has one query for each
member, and each is a query on the field that the clause has on the member alone. They are the same
queries wherever a member takes the value as it is written. A single field with typed values reads
the value first; in a group no value is read.
-/

namespace CatalogSearch

/-- The query for a text, or for a pattern, on a field of the index. -/
def Query.whole (text field : String) : Query :=
  if Compiler.isPattern (.text text) then .wildcard field text else .term field (.text text)

/-- The query for a text as the whole value of a field, as it is written. -/
def Field.writtenQuery (f : Field) (text : String) : Query :=
  .whole text (Member.ofField f).termField

theorem Field.writtenQuery_of_isFulltext {f : Field} (hfull : f.isFulltext = true)
    (text : String) : f.writtenQuery text = .whole text (FieldName.literal f.path) := by
  simp [writtenQuery, Member.termField, Member.ofField, hfull]

theorem Field.writtenQuery_of_not_isFulltext {f : Field} (hfull : f.isFulltext = false)
    (text : String) : f.writtenQuery text = .whole text f.path := by
  simp [writtenQuery, Member.termField, Member.ofField, hfull]

theorem Query.whole_of_not_isPattern {text : String}
    (htext : Compiler.isPattern (.text text) = false) (field : String) :
    whole text field = .term field (.text text) := by
  rw [whole, htext, if_neg Bool.false_ne_true]

/-- A value of a type is read as it is written exactly if it is a text of the type. -/
theorem ValueType.typedValue_eq_text_iff {t : ValueType} {text : String} :
    Compiler.typedValue t text = .ok (.text text) ↔ t.Accepts (.text text) := by
  refine ⟨accepts_of_typedValue, fun h => ?_⟩
  cases t with
  | keyword => rfl
  | date => exact typedValue_date_eq_ok_iff.2 ⟨rfl, accepts_date_text.1 h⟩
  | long =>
      obtain ⟨n, hn, -⟩ := h
      cases hn
  | boolean =>
      rcases h with h | h <;> obtain rfl := Value.text.inj h <;> decide

namespace Compiler

variable {c : Compiler} {resource : String}

/-- Without a normalizer, the value of a clause goes to the strategy for whole values as it is. -/
theorem clauseQuery_whole (hd : c.dispatch = .standard) {index text : String} {t : Target}
    (ht : target? c.catalog resource (c.catalog.resolveAlias resource index) = some t)
    (hnormalizer : t.normalizer? c.catalog resource = none) (modifiers : List Modifier) :
    c.clauseQuery resource ⟨index, "==", text, modifiers⟩ =
      targetQuery c.catalog resource (wholeStrategy (.text text)) (.text text) modifiers t := by
  have hvalue : c.normalizedValue resource t text = .ok (.text text) := by
    simp only [normalizedValue, hnormalizer]
  have hall : isMatchAll ⟨index, "==", text, modifiers⟩ = false :=
    isMatchAll_of_ne_equal (by decide)
  rw [clauseQuery, hall, if_neg Bool.false_ne_true]
  simp only [ht, hvalue, strategyFor_eq_wholeStrategy hd (Or.inl rfl)]
  rfl

theorem onGroup_wholeStrategy (text : String) (members : List Member) :
    (wholeStrategy (.text text)).onGroup (.text text) members =
      .ok (Strategy.anyOf ((members.map Member.termField).map (.whole text))) := by
  rw [List.map_map]
  unfold wholeStrategy Query.whole
  cases isPattern (.text text) <;> rfl

theorem onFulltext_wholeStrategy (text : String) (t : FulltextTarget) (modifiers : List Modifier) :
    (wholeStrategy (.text text)).onFulltext (.text text) t modifiers =
      .ok (.whole text t.literalField) := by
  unfold wholeStrategy Query.whole
  cases isPattern (.text text) <;> rfl

theorem onTerm_wholeStrategy (text field : String) :
    (wholeStrategy (.text text)).onTerm (.text text) field = .ok (.whole text field) := by
  unfold wholeStrategy Query.whole
  cases isPattern (.text text) <;> rfl

end Compiler

/-! ### Groups -/

/-- A path that is the name of a group of several fields without normalizers, each of which its own
path stands for. -/
structure Catalog.GroupOf (k : Catalog) (resource path : String) (fields : List Field) :
    Prop where
  members : k.resolveGroup resource path = fields.map Field.path
  several : 2 ≤ fields.length
  named : ∀ f ∈ fields, k.NamedByPath resource f
  unnormalized : ∀ f ∈ fields, f.normalizer = none

namespace Catalog.GroupOf

variable {k : Catalog} {resource path : String} {fields : List Field}

theorem target? (h : k.GroupOf resource path fields) :
    Compiler.target? k resource path = some (.group (fields.map Field.path)) := by
  have hseveral := h.several
  rw [Compiler.target?, h.members]
  rcases fields with _ | ⟨f, _ | ⟨g, rest⟩⟩
  · simp at hseveral
  · simp at hseveral
  · rfl

theorem normalizer? (h : k.GroupOf resource path fields) :
    (Compiler.Target.group (fields.map Field.path)).normalizer? k resource = none := by
  cases fields with
  | nil => rfl
  | cons f rest =>
      have hf := h.named f List.mem_cons_self
      have hnormalizer := h.unnormalized f List.mem_cons_self
      simp [Compiler.Target.normalizer?, hf.described, hnormalizer]

theorem map_wholeField (h : k.GroupOf resource path fields) :
    (fields.map Field.path).map (k.wholeField resource) =
      fields.map fun f => (Member.ofField f).termField := by
  rw [List.map_map]
  refine List.map_congr_left fun f hf => ?_
  simp [Catalog.wholeField, (h.named f hf).described]

end Catalog.GroupOf

namespace Compiler

variable {c : Compiler} {resource text : String} {modifiers : List Modifier} {f : Field}
  {fields : List Field}

/-- In a group each member is asked for the value as it is written. -/
theorem clauseQuery_group (hd : c.dispatch = .standard) {index : String}
    (h : c.catalog.GroupOf resource (c.catalog.resolveAlias resource index) fields)
    (text : String) (modifiers : List Modifier) :
    c.clauseQuery resource ⟨index, "==", text, modifiers⟩ =
      .ok (.bool [] (fields.map (·.writtenQuery text)) [] []) := by
  rw [clauseQuery_whole hd h.target? h.normalizer?, targetQuery, onGroup_wholeStrategy,
    map_termField_groupMembers, h.map_wholeField, List.map_map]
  rfl

/-! ### Members alone -/

theorem clauseQuery_alone (hd : c.dispatch = .standard) (hf : c.catalog.NamedByPath resource f)
    (hnormalizer : f.normalizer = none) :
    c.clauseQuery resource ⟨f.path, "==", text, modifiers⟩ =
      targetQuery c.catalog resource (wholeStrategy (.text text)) (.text text) modifiers
        (.field f) :=
  clauseQuery_whole hd hf.target? hnormalizer modifiers

/-- A field whose values are not typed takes a value as it is written. -/
theorem clauseQuery_alone_untyped (hd : c.dispatch = .standard)
    (hf : c.catalog.NamedByPath resource f) (hnormalizer : f.normalizer = none)
    (huntyped : f.isFulltext = true ∨ f.valueType = .keyword) :
    c.clauseQuery resource ⟨f.path, "==", text, modifiers⟩ = .ok (f.writtenQuery text) := by
  rw [clauseQuery_alone hd hf hnormalizer]
  cases hfull : f.isFulltext with
  | true =>
      rw [targetQuery, hfull, if_pos rfl, onFulltext_wholeStrategy,
        Field.writtenQuery_of_isFulltext hfull]
      rfl
  | false =>
      have hkeyword := huntyped.resolve_left (by simp [hfull])
      refine (targetQuery_field_eq_ok_iff hfull).2 ⟨fun _ => hkeyword, .text text, ?_, ?_⟩
      · rw [checkValue_text_eq_ok_iff, hkeyword]
        rfl
      · rw [onTerm_wholeStrategy, Field.writtenQuery_of_not_isFulltext hfull]

/-- A field that is not full-text reads a value that is no pattern. -/
theorem clauseQuery_alone_eq_ok_iff (hd : c.dispatch = .standard)
    (hf : c.catalog.NamedByPath resource f) (hnormalizer : f.normalizer = none)
    (hfull : f.isFulltext = false) (htext : isPattern (.text text) = false) {q : Query} :
    c.clauseQuery resource ⟨f.path, "==", text, modifiers⟩ = .ok q ↔
      ∃ w, typedValue f.valueType text = .ok w ∧ q = .term f.path w := by
  have hstrategy : wholeStrategy (.text text) = .exact := by
    rw [wholeStrategy, htext, if_neg Bool.false_ne_true]
  rw [clauseQuery_alone hd hf hnormalizer, targetQuery_field_eq_ok_iff hfull, hstrategy, htext]
  simp only [Bool.false_eq_true, false_implies, true_and, checkValue_text_eq_ok_iff]
  refine exists_congr fun w => and_congr_right fun _ => ?_
  exact ⟨fun h => (Except.ok.inj h).symm, fun h => congrArg Except.ok h.symm⟩

theorem clauseQuery_alone_eq_written_iff (hd : c.dispatch = .standard)
    (hf : c.catalog.NamedByPath resource f) (hnormalizer : f.normalizer = none)
    (htext : isPattern (.text text) = true → f.isFulltext = true ∨ f.valueType = .keyword) :
    c.clauseQuery resource ⟨f.path, "==", text, modifiers⟩ = .ok (f.writtenQuery text) ↔
      f.isFulltext = true ∨ f.valueType.Accepts (.text text) := by
  by_cases huntyped : f.isFulltext = true ∨ f.valueType = .keyword
  · refine iff_of_true (clauseQuery_alone_untyped hd hf hnormalizer huntyped) ?_
    refine huntyped.imp_right fun hkeyword => ?_
    rw [hkeyword]
    trivial
  · have hfull : f.isFulltext = false := by simpa using fun h => huntyped (Or.inl h)
    have htext' : isPattern (.text text) = false := by simpa using fun h => huntyped (htext h)
    rw [clauseQuery_alone_eq_ok_iff hd hf hnormalizer hfull htext',
      Field.writtenQuery_of_not_isFulltext hfull, Query.whole_of_not_isPattern htext',
      ← ValueType.typedValue_eq_text_iff, hfull]
    simp

/-- **A group and its members.** A comparison of whole values in a group always has a query, which
offers a choice between one query for each member, in order, for the value as it is written. Each
is the query of the member alone if the member is full-text or a keyword. Alone, a member with
typed values reads the value, and has a query only if the value is of its type. So the choice in
the group is one between the queries of the members alone exactly if all members with typed values
read the value as it is written: it is a date, or a truth value in lower case. A pattern is only
spoken of where no member has typed values. -/
theorem clauseQuery_fanOut (c : Compiler) (hd : c.dispatch = .standard)
    (resource index text : String) (modifiers : List Modifier) (fields : List Field)
    (h : c.catalog.GroupOf resource (c.catalog.resolveAlias resource index) fields)
    (htext : isPattern (.text text) = true →
      ∀ f ∈ fields, f.isFulltext = true ∨ f.valueType = .keyword) :
    c.clauseQuery resource ⟨index, "==", text, modifiers⟩ =
      .ok (.bool [] (fields.map (·.writtenQuery text)) [] []) ∧
    (∀ f ∈ fields,
      (f.isFulltext = true ∨ f.valueType = .keyword →
        c.clauseQuery resource ⟨f.path, "==", text, modifiers⟩ = .ok (f.writtenQuery text)) ∧
      (f.isFulltext = false → f.valueType ≠ .keyword →
        f.writtenQuery text = .term f.path (.text text) ∧
        ∀ q, c.clauseQuery resource ⟨f.path, "==", text, modifiers⟩ = .ok q ↔
          ∃ w, typedValue f.valueType text = .ok w ∧ q = .term f.path w)) ∧
    ((∃ queries, List.Forall₂
        (fun f q => c.clauseQuery resource ⟨f.path, "==", text, modifiers⟩ = .ok q)
        fields queries ∧
        c.clauseQuery resource ⟨index, "==", text, modifiers⟩ = .ok (.bool [] queries [] [])) ↔
      ∀ f ∈ fields, f.isFulltext = true ∨ f.valueType.Accepts (.text text)) := by
  have hgroup := clauseQuery_group hd h text modifiers
  refine ⟨hgroup, fun f hf => ⟨?_, ?_⟩, ?_⟩
  · exact clauseQuery_alone_untyped hd (h.named f hf) (h.unnormalized f hf)
  · intro hfull htype
    have htext' : isPattern (.text text) = false := by
      refine Bool.eq_false_iff.2 fun hpattern => ?_
      rcases htext hpattern f hf with huntyped | huntyped
      · rw [hfull] at huntyped
        cases huntyped
      · exact htype huntyped
    rw [Field.writtenQuery_of_not_isFulltext hfull]
    exact ⟨Query.whole_of_not_isPattern htext' f.path, fun q =>
      clauseQuery_alone_eq_ok_iff hd (h.named f hf) (h.unnormalized f hf) hfull htext'⟩
  · have hwritten : (∀ f ∈ fields, c.clauseQuery resource ⟨f.path, "==", text, modifiers⟩ =
        .ok (f.writtenQuery text)) ↔
          ∀ f ∈ fields, f.isFulltext = true ∨ f.valueType.Accepts (.text text) :=
      forall₂_congr fun f hf => clauseQuery_alone_eq_written_iff hd (h.named f hf)
        (h.unnormalized f hf) fun hpattern => htext hpattern f hf
    rw [← hwritten]
    constructor
    · rintro ⟨queries, hqueries, hsame⟩
      obtain ⟨-, rfl, -⟩ := Query.bool.inj (Except.ok.inj (hgroup.symm.trans hsame))
      rwa [List.forall₂_map_right_iff, List.forall₂_same] at hqueries
    · intro hall
      refine ⟨_, ?_, hgroup⟩
      rwa [List.forall₂_map_right_iff, List.forall₂_same]

theorem namedByPath_stock {f : Field} (hf : f ∈ [copies, genre, title]) :
    stock.catalog.NamedByPath "book" f := by
  simp only [List.mem_cons, List.not_mem_nil, or_false] at hf
  rcases hf with rfl | rfl | rfl <;> exact ⟨by decide +kernel, by decide +kernel, by decide +kernel⟩

theorem groupOf_stock {index : String} {fields : List Field}
    (hmembers : stock.catalog.resolveGroup "book" (stock.catalog.resolveAlias "book" index) =
      fields.map Field.path)
    (hseveral : 2 ≤ fields.length) (hfields : fields ⊆ [copies, genre, title]) :
    stock.catalog.GroupOf "book" (stock.catalog.resolveAlias "book" index) fields where
  members := hmembers
  several := hseveral
  named _ hf := namedByPath_stock (hfields hf)
  unnormalized f hf := by
    have hnone : ∀ f ∈ [copies, genre, title], f.normalizer = none := by decide
    exact hnone f (hfields hf)

/-- Genres and titles are asked for as they are alone, and copies are not. -/
theorem clauseQuery_fanOut_stock :
    (∃ queries, List.Forall₂
        (fun (f : Field) q => stock.clauseQuery "book" ⟨f.path, "==", "sea", []⟩ = .ok q)
        [genre, title] queries ∧
        stock.clauseQuery "book" ⟨"topics", "==", "sea", []⟩ = .ok (.bool [] queries [] [])) ∧
    stock.clauseQuery "book" ⟨"holdings", "==", "sea", []⟩ =
      .ok (.bool [] [.term "genre" (.text "sea"), .term "copies" (.text "sea")] [] []) ∧
    ∀ q, stock.clauseQuery "book" ⟨"copies", "==", "sea", []⟩ ≠ .ok q := by
  have htext : ¬ isPattern (.text "sea") = true := by decide
  have htopics := clauseQuery_fanOut stock rfl "book" "topics" "sea" [] [genre, title]
    (groupOf_stock (by decide +kernel) (by decide) (by decide)) fun h => absurd h htext
  have hholdings := clauseQuery_fanOut stock rfl "book" "holdings" "sea" [] [genre, copies]
    (groupOf_stock (by decide +kernel) (by decide) (by decide)) fun h => absurd h htext
  refine ⟨htopics.2.2.2 ?_, hholdings.1.trans (by decide +kernel), fun q hq => ?_⟩
  · exact List.forall_mem_cons.2
      ⟨Or.inr trivial, List.forall_mem_singleton.2 (Or.inl (by decide))⟩
  · obtain ⟨-, hcopies⟩ := (hholdings.2.1 copies (by decide)).2 (by decide) (by decide)
    obtain ⟨w, hw, -⟩ := (hcopies q).1 hq
    have hread : typedValue copies.valueType "sea" = .error "expected an integer" := by
      decide +kernel
    cases hread.symm.trans hw

/-- A group is not always a choice between what its members are asked for alone: in a group a number
stays the text that it is written as. -/
theorem not_forall_group_eq_members :
    ¬ ∀ (c : Compiler) (resource index text : String) (fields : List Field),
      c.dispatch = .standard →
      c.catalog.GroupOf resource (c.catalog.resolveAlias resource index) fields →
      ((∃ q, c.clauseQuery resource ⟨index, "==", text, []⟩ = .ok q) ↔
        ∀ f ∈ fields, ∃ q, c.clauseQuery resource ⟨f.path, "==", text, []⟩ = .ok q) ∧
      ∀ q, c.clauseQuery resource ⟨index, "==", text, []⟩ = .ok q →
        ∃ queries, List.Forall₂
          (fun f q => c.clauseQuery resource ⟨f.path, "==", text, []⟩ = .ok q) fields queries ∧
          q = .bool [] queries [] [] := by
  intro h
  have hgroup : stock.clauseQuery "book" ⟨"holdings", "==", "5", []⟩ =
      .ok (.bool [] [.term "genre" (.text "5"), .term "copies" (.text "5")] [] []) := by
    decide +kernel
  have hcopies : stock.clauseQuery "book" ⟨"copies", "==", "5", []⟩ =
      .ok (.term "copies" (.long 5)) := by
    decide +kernel
  obtain ⟨queries, hqueries, hsame⟩ := (h stock "book" "holdings" "5" [genre, copies] rfl
    (groupOf_stock (by decide +kernel) (by decide) (by decide))).2 _ hgroup
  obtain ⟨-, rfl, -⟩ := Query.bool.inj hsame
  obtain ⟨-, hqueries⟩ := List.forall₂_cons.1 hqueries
  obtain ⟨htext, -⟩ := List.forall₂_cons.1 hqueries
  cases htext.symm.trans hcopies

end Compiler

end CatalogSearch
