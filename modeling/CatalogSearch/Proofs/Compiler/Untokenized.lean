import CatalogSearch.Proofs.Compiler.Pattern

/-!
Untokenized forms of full-text fields. A modifier asks for them. In a group it is heard before the
strategy sees the members, for every comparator; on a single field it is left to the strategies,
and all but one pass over it. Strategies that compare whole values look at untokenized forms in any
case, and a form that the modifier has asked for before is not formed again. So the modifier makes
no difference to them.
-/

namespace CatalogSearch

/-! ### Names of untokenized forms -/

namespace FieldName

theorem length_withoutLanguages (cs : List Char) :
    (withoutLanguages cs).length = cs.length ∨ (withoutLanguages cs).length + 2 = cs.length := by
  unfold withoutLanguages
  split
  · next rest hrest =>
      have hlength := congrArg List.length hrest
      simp only [List.length_reverse, List.length_cons] at hlength ⊢
      exact Or.inr hlength.symm
  · exact Or.inl rfl

theorem append_splitLast (cs : List Char) : (splitLast cs).1 ++ (splitLast cs).2 = cs := by
  rw [splitLast, ← List.reverse_append, List.takeWhile_append_dropWhile, List.reverse_reverse]

theorem length_literal (path : String) : (literal path).length =
    (withoutLanguages path.toList).length + literalMark.length := by
  have hsplit := congrArg List.length (append_splitLast (withoutLanguages path.toList))
  rw [List.length_append] at hsplit
  simp only [literal, String.length_ofList, List.length_append, String.length_toList]
  omega

/-- The untokenized form of a field is no field that words are searched in. -/
theorem literal_ne (path : String) : literal path ≠ path ∧ literal path ≠ allLanguages path := by
  -- The lengths tell the names apart: the mark is longer than the ending for all languages.
  have hlength := length_literal path
  have hpath : path.toList.length = path.length := String.length_toList
  have hmark : literalMark.length = 6 := rfl
  constructor
  · intro h
    rw [h] at hlength
    have := length_withoutLanguages path.toList
    omega
  · intro h
    have hall : (allLanguages path).length = path.length + 2 := String.length_append ..
    rw [h] at hlength
    have := length_withoutLanguages path.toList
    omega

end FieldName

theorem FulltextTarget.fieldUnderString_eq_literal_iff {t : FulltextTarget} {comparator : String} :
    t.fieldUnderString comparator = FieldName.literal t.path ↔
      comparator ∈ Strategy.untokenizedComparators := by
  have hne := FieldName.literal_ne t.path
  unfold fieldUnderString
  split_ifs with huntokenized hrange
  · exact iff_of_true rfl huntokenized
  · exact iff_of_false hne.1.symm huntokenized
  · refine iff_of_false ?_ huntokenized
    unfold searchField
    split
    · exact hne.2.symm
    · exact hne.1.symm

namespace Compiler

variable {c : Compiler} {resource : String}

/-! ### The modifier -/

/-- Where untokenized forms are asked for, the full-text members of a group are nothing else. -/
theorem groupMembers_true (k : Catalog) (resource : String) (members : List String) :
    List.Forall₂ (fun path m => ∀ f, k.field? resource path = some f → f.isFulltext = true →
      m = .untokenized (FieldName.literal f.path)) members
      (groupMembers k resource true members) := by
  rw [groupMembers, List.forall₂_map_right_iff, List.forall₂_same]
  intro path _ f hf hfull
  simp [hf, hfull]

/-- The fields of a group's query under the modifier. -/
theorem fields_onGroup_true {k : Catalog} {s : Strategy} (hs : s ∈ Strategy.standard) {v : Value}
    {members : List String} {q : Query}
    (hq : s.onGroup v (groupMembers k resource true members) = .ok q) :
    List.Forall₂ (fun path field => ∀ f, k.field? resource path = some f → f.isFulltext = true →
      field = FieldName.literal f.path) members q.fields := by
  obtain ⟨form, hform, hfields⟩ : ∃ form : Member → String,
      (∀ path, form (.untokenized path) = path) ∧
        q.fields = (groupMembers k resource true members).map form := by
    rcases Strategy.fields_onGroup hs v _ q hq with hfields | hfields
    · exact ⟨Member.searchField, fun _ => rfl, hfields⟩
    · exact ⟨Member.termField, fun _ => rfl, hfields⟩
  rw [hfields, List.forall₂_map_right_iff]
  refine (groupMembers_true k resource members).imp fun path m h f hf hfull => ?_
  rw [h f hf hfull, hform]

/-- **The modifier for untokenized forms.** Let a clause with this modifier have a query. If it
names a group, the query looks at the full-text members in their untokenized forms and in no other.
If it names a single full-text field, the query looks at the field in one form; this is the
untokenized one exactly if the value is a pattern or the comparator is one of equality or the one
for patterns. -/
theorem fields_of_stringModifier (c : Compiler) (hd : c.dispatch = .standard) (resource : String)
    (clause : Clause) {t : Target} {q : Query} (hall : isMatchAll clause = false)
    (hmodifier : hasModifier clause.modifiers Strategy.stringModifier = true)
    (ht : target? c.catalog resource (c.catalog.resolveAlias resource clause.index) = some t)
    (hq : c.clauseQuery resource clause = .ok q) :
    (∀ members, t = .group members →
      List.Forall₂ (fun path field => ∀ f, c.catalog.field? resource path = some f →
        f.isFulltext = true → field = FieldName.literal f.path) members q.fields) ∧
    ∀ f, t = .field f → f.isFulltext = true →
      ∃ v, c.normalizedValue resource t clause.term = .ok v ∧
        q.fields = [FulltextTarget.fieldUnderString ⟨f.path, f.multilang⟩
          (lookupKey v clause.comparator)] ∧
        ((∀ field ∈ q.fields, field = FieldName.literal f.path) ↔
          isPattern v = true ∨
            Text.lowerString clause.comparator ∈ Strategy.untokenizedComparators) := by
  rcases clauseQuery_eq_ok_iff.1 hq with ⟨hmatchAll, -⟩ | ⟨-, t', v, s, ht', hv, hs, hq⟩
  · rw [hall] at hmatchAll
    cases hmatchAll
  obtain rfl := Option.some.inj (ht.symm.trans ht')
  obtain ⟨hmem, hcomparator⟩ := mem_standard_of_strategyFor hd hs
  constructor
  · rintro members rfl
    rw [targetQuery, hmodifier] at hq
    exact fields_onGroup_true hmem hq
  · rintro f rfl hfull
    rw [targetQuery, hfull, if_pos rfl] at hq
    have hfields := Strategy.fields_onFulltext hmem hcomparator hmodifier v _ q hq
    refine ⟨v, hv, hfields, ?_⟩
    rw [hfields, List.forall_mem_singleton, FulltextTarget.fieldUnderString_eq_literal_iff]
    cases hpattern : isPattern v with
    | true =>
        rw [lookupKey_of_isPattern hpattern]
        simp [Strategy.untokenizedComparators]
    | false =>
        rw [lookupKey_of_not_isPattern hpattern]
        simp

def books : Compiler := ⟨.books, .standard, .standard, .standard⟩

/-- The names of books in their untokenized forms, and titles in one form or the other. -/
theorem fields_of_stringModifier_names :
    (∃ q, books.clauseQuery "book" ⟨"names", "any", "sea", [⟨"STRING", none, none⟩]⟩ = .ok q ∧
      List.Forall₂ (fun path field => ∀ f, Catalog.books.field? "book" path = some f →
        f.isFulltext = true → field = FieldName.literal f.path) ["title", "author"] q.fields) ∧
    (∃ q, books.clauseQuery "book" ⟨"title", "=", "sea", [⟨"string", none, none⟩]⟩ = .ok q ∧
      ∀ field ∈ q.fields, field = "plain_title") ∧
    ∃ q, books.clauseQuery "book" ⟨"title", "any", "sea", [⟨"string", none, none⟩]⟩ = .ok q ∧
      ¬ ∀ field ∈ q.fields, field = "plain_title" := by
  have hgroup : books.clauseQuery "book" ⟨"names", "any", "sea", [⟨"STRING", none, none⟩]⟩ =
      .ok (.fulltext ["plain_title", "plain_author"] "sea" .any) := by
    decide +kernel
  have hequal : books.clauseQuery "book" ⟨"title", "=", "sea", [⟨"string", none, none⟩]⟩ =
      .ok (.term "plain_title" (.text "sea")) := by
    decide +kernel
  have hany : books.clauseQuery "book" ⟨"title", "any", "sea", [⟨"string", none, none⟩]⟩ =
      .ok (.fulltext ["title.*"] "sea" .any) := by
    decide +kernel
  have hliteral : FieldName.literal "title" = "plain_title" := by decide +kernel
  refine ⟨⟨_, hgroup, ?_⟩, ⟨_, hequal, ?_⟩, ⟨_, hany, ?_⟩⟩
  · exact (fields_of_stringModifier books rfl "book" _ (by decide +kernel) (by decide +kernel) rfl
      hgroup).1 _ rfl
  · obtain ⟨v, hv, -, hiff⟩ := (fields_of_stringModifier books rfl "book" _ (by decide +kernel)
      (by decide +kernel) rfl hequal).2 _ rfl (by decide)
    exact hliteral ▸ hiff.2 (Or.inr (by decide +kernel))
  · obtain ⟨v, hv, -, hiff⟩ := (fields_of_stringModifier books rfl "book" _ (by decide +kernel)
      (by decide +kernel) rfl hany).2 _ rfl (by decide)
    obtain rfl : .text "sea" = v := Except.ok.inj hv
    exact fun h => absurd (hiff.1 (hliteral.symm ▸ h)) (by decide +kernel)

/-- Not every comparator hears the modifier on a single field. -/
theorem not_forall_stringModifier_untokenized :
    ¬ ∀ (c : Compiler) (resource : String) (clause : Clause) (f : Field) (q : Query),
      c.dispatch = .standard → isMatchAll clause = false →
      hasModifier clause.modifiers Strategy.stringModifier = true →
      target? c.catalog resource (c.catalog.resolveAlias resource clause.index) =
        some (.field f) →
      f.isFulltext = true → c.clauseQuery resource clause = .ok q →
      ∀ field ∈ q.fields, field = FieldName.literal f.path := by
  intro h
  have hfield := h books "book" ⟨"title", "all", "sea", [⟨"string", none, none⟩]⟩
    ⟨"title", [.fulltext], true, none, .keyword, none⟩ (.fulltext ["title.*"] "sea" .all) rfl
    (by decide +kernel) (by decide +kernel) rfl (by decide) (by decide +kernel) "title.*"
    (by decide)
  exact absurd hfield (by decide +kernel)

end Compiler

/-! ### Strategies that compare whole values -/

/-- A strategy that looks at the fields that whole values are compared with, and at no modifiers. -/
structure Strategy.ComparesWhole (s : Strategy) : Prop where
  onGroup : ∀ v members members', members.map Member.termField = members'.map Member.termField →
    s.onGroup v members = s.onGroup v members'
  onFulltext : ∀ v t modifiers modifiers', s.onFulltext v t modifiers = s.onFulltext v t modifiers'

namespace Strategy

theorem onGroup_congr {s : Strategy} (leaf : Value → String → Query)
    (h : ∀ v members, s.onGroup v members = .ok (anyOf (members.map fun m => leaf v m.termField)))
    (v : Value) (members members' : List Member)
    (hfields : members.map Member.termField = members'.map Member.termField) :
    s.onGroup v members = s.onGroup v members' := by
  have hleaves := congrArg (List.map (leaf v)) hfields
  rw [List.map_map, List.map_map] at hleaves
  rw [h, h]
  exact congrArg (fun queries => Except.ok (anyOf queries)) hleaves

theorem comparesWhole_exact : exact.ComparesWhole where
  onGroup := onGroup_congr (fun v field => .term field v) fun _ _ => rfl
  onFulltext _ _ _ _ := rfl

theorem comparesWhole_wildcard : wildcard.ComparesWhole where
  onGroup := onGroup_congr (fun v field => .wildcard field v.display) fun _ _ => rfl
  onFulltext _ _ _ _ := rfl

end Strategy

/-- The field that whole values of a path are compared with. -/
def Catalog.wholeField (k : Catalog) (resource path : String) : String :=
  match k.field? resource path with
  | some f => (Member.ofField f).termField
  | none => path

namespace Compiler

variable {c : Compiler} {resource : String}

/-- The field that whole values of a member are compared with does not depend on whether its
untokenized form has been asked for. -/
theorem map_termField_groupMembers (k : Catalog) (resource : String) (literal : Bool)
    (members : List String) :
    (groupMembers k resource literal members).map Member.termField =
      members.map (k.wholeField resource) := by
  rw [groupMembers, List.map_map]
  refine List.map_congr_left fun path _ => ?_
  simp only [Function.comp_apply, Catalog.wholeField]
  cases k.field? resource path with
  | none => rfl
  | some f =>
      simp only
      split_ifs with h
      · have hfull := (Bool.and_eq_true_iff.1 h).2
        simp [Member.termField, Member.untokenized, Member.ofField, hfull]
      · rfl

theorem wholeField_of_fulltext {k : Catalog} {path : String} {f : Field}
    (hf : k.field? resource path = some f) (hfull : f.isFulltext = true) :
    k.wholeField resource path = FieldName.literal f.path := by
  simp [Catalog.wholeField, hf, Member.termField, Member.ofField, hfull]

theorem targetQuery_of_comparesWhole {s : Strategy} (hs : s.ComparesWhole) (k : Catalog)
    (resource : String) (v : Value) (modifiers modifiers' : List Modifier) (t : Target) :
    targetQuery k resource s v modifiers t = targetQuery k resource s v modifiers' t := by
  cases t with
  | group members =>
      apply hs.onGroup
      rw [map_termField_groupMembers, map_termField_groupMembers]
  | field f =>
      simp only [targetQuery]
      rw [hs.onFulltext v _ modifiers modifiers']

/-- The strategy for whole values: that for patterns if the value is one. -/
def wholeStrategy (v : Value) : Strategy := if isPattern v then .wildcard else .exact

theorem comparesWhole_wholeStrategy (v : Value) : (wholeStrategy v).ComparesWhole := by
  unfold wholeStrategy
  split
  · exact Strategy.comparesWhole_wildcard
  · exact Strategy.comparesWhole_exact

/-- A comparator for whole values, or a pattern, goes to the strategy for whole values. -/
theorem strategyFor_eq_wholeStrategy (hd : c.dispatch = .standard) {v : Value}
    {comparator : String} (hwhole : comparator = "==" ∨ isPattern v = true) :
    c.strategyFor v comparator = .ok (wholeStrategy v) := by
  cases hpattern : isPattern v with
  | true => rw [strategyFor_of_isPattern hd hpattern, wholeStrategy, if_pos hpattern]
  | false =>
      obtain rfl := hwhole.resolve_right (by simp [hpattern])
      have hmem : Strategy.exact ∈ Strategy.standard := by simp [Strategy.standard]
      rw [strategyFor_of_not_isPattern hd hpattern hmem (List.mem_singleton.2 rfl) (by decide),
        wholeStrategy, hpattern, if_neg Bool.false_ne_true]

/-- A full-text member is compared in its untokenized form, which is formed once, whether or not it
has been asked for before. -/
theorem termField_groupMembers (k : Catalog) (resource : String) (literal : Bool)
    (members : List String) :
    List.Forall₂ (fun path m => ∀ f, k.field? resource path = some f → f.isFulltext = true →
      m.termField = FieldName.literal f.path ∧
        m.termField ≠ FieldName.literal (FieldName.literal f.path))
      members (groupMembers k resource literal members) := by
  have hwhole : List.Forall₂ (fun path m => m.termField = k.wholeField resource path) members
      (groupMembers k resource literal members) := by
    rw [← List.forall₂_map_right_iff (R := fun path field => field = k.wholeField resource path),
      map_termField_groupMembers, List.forall₂_map_right_iff, List.forall₂_same]
    exact fun _ _ => rfl
  refine hwhole.imp fun path m hm f hf hfull => ?_
  rw [hm, wholeField_of_fulltext hf hfull]
  exact ⟨rfl, (FieldName.literal_ne _).1.symm⟩

/-- **Whole values and patterns, whatever the modifiers.** Where a clause compares whole values
with `==`, or its value, in the form that the target holds, is a pattern, its query or its error is
the same under all modifiers. A full-text member of a group is looked at in its untokenized form,
whether a modifier has asked for that form before or not, and the form is formed only once. -/
theorem clauseQuery_modifiers (c : Compiler) (hd : c.dispatch = .standard)
    (resource index comparator term : String)
    (hwhole : comparator = "==" ∨
      ∃ t v, target? c.catalog resource (c.catalog.resolveAlias resource index) = some t ∧
        c.normalizedValue resource t term = .ok v ∧ isPattern v = true)
    (modifiers modifiers' : List Modifier) :
    c.clauseQuery resource ⟨index, comparator, term, modifiers⟩ =
      c.clauseQuery resource ⟨index, comparator, term, modifiers'⟩ ∧
    ∀ literal members, List.Forall₂
      (fun path m => ∀ f, c.catalog.field? resource path = some f → f.isFulltext = true →
        m.termField = FieldName.literal f.path ∧
          m.termField ≠ FieldName.literal (FieldName.literal f.path))
      members (groupMembers c.catalog resource literal members) := by
  constructor
  · have hall : isMatchAll ⟨index, comparator, term, modifiers'⟩ =
        isMatchAll ⟨index, comparator, term, modifiers⟩ := rfl
    simp only [clauseQuery]
    rw [hall]
    split
    · rfl
    · cases ht : target? c.catalog resource (c.catalog.resolveAlias resource index) with
      | none => rfl
      | some t =>
          refine bind_congr_ok fun v hv => bind_congr_ok fun s hs => ?_
          have hwhole' : comparator = "==" ∨ isPattern v = true := by
            refine hwhole.imp_right ?_
            rintro ⟨t', v', ht', hv', hpattern⟩
            obtain rfl := Option.some.inj (ht.symm.trans ht')
            obtain rfl := Except.ok.inj (hv.symm.trans hv')
            exact hpattern
          obtain rfl := Except.ok.inj (hs.symm.trans (strategyFor_eq_wholeStrategy hd hwhole'))
          exact targetQuery_of_comparesWhole (comparesWhole_wholeStrategy v) ..
  · exact fun literal members => termField_groupMembers c.catalog resource literal members

/-- Names are compared as a whole, and titles with a pattern, whether or not untokenized forms are
asked for. -/
theorem clauseQuery_modifiers_names :
    books.clauseQuery "book" ⟨"names", "==", "sea", [⟨"string", none, none⟩]⟩ =
      .ok (.bool [] [.term "plain_title" (.text "sea"), .term "plain_author" (.text "sea")]
        [] []) ∧
    books.clauseQuery "book" ⟨"title", "all", "sea*", [⟨"string", none, none⟩]⟩ =
      .ok (.wildcard "plain_title" "sea*") := by
  constructor
  · exact (clauseQuery_modifiers books rfl "book" "names" "==" "sea" (Or.inl rfl) _ []).1.trans
      (by decide +kernel)
  · exact (clauseQuery_modifiers books rfl "book" "title" "all" "sea*"
      (Or.inr ⟨_, .text "sea*", rfl, rfl, by decide⟩) _ []).1.trans (by decide +kernel)

end Compiler

end CatalogSearch
