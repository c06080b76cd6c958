import CatalogSearch.Proofs.Expression.Record
import CatalogSearch.Proofs.Json.RoundTrip

/-!
The JSON form of expressions. Every expression is read back from the JSON value that is written for
it. That value has only texts for scalars, so its text is read as the value; and it is nested no
more deeply than any other value that is read as the expression, so the text of what has been read
once can be read again.
-/

namespace CatalogSearch

open Json

/-! ### Values -/

/-- The fields of a modifier. -/
def Modifier.fields (m : Modifier) : List (String × Option Json) :=
  [("name", some (.string m.name)), ("comparator", m.comparator.map .string),
    ("value", m.value.map .string)]

theorem Modifier.toJson_eq (m : Modifier) : m.toJson = .object (present m.fields) := by
  rw [toJson, fields]
  cases m.comparator <;> cases m.value <;> rfl

theorem Modifier.ofJson?_toJson (m : Modifier) : ofJson? m.toJson = some m := by
  have hrecord : recordOf? ["name", "comparator", "value"] (.inl (present m.fields)) =
      some [some (.string m.name), m.comparator.map .string, m.value.map .string] :=
    recordOf?_present rfl (by decide)
  simp [toJson_eq, ofJson?, parts?, hrecord, string?, optionalString?_map]

/-- Modifiers as a field that is absent when there are none. -/
def modifiersField (modifiers : List Modifier) : Option Json :=
  match modifiers with
  | [] => none
  | modifiers => some (.array (modifiers.map Modifier.toJson))

theorem modifiersMember_eq (modifiers : List Modifier) :
    modifiersMember modifiers = present [("modifiers", modifiersField modifiers)] := by
  cases modifiers <;> rfl

theorem modifiers?_modifiersField (modifiers : List Modifier) :
    modifiers? (modifiersField modifiers) = some modifiers := by
  match modifiers with
  | [] => rfl
  | m :: ms =>
      have hread := mapM_map_eq_some (m :: ms) fun m _ => Modifier.ofJson?_toJson m
      rw [List.map_id'] at hread
      exact hread

/-- The fields of a sort key. -/
def SortIndex.fields (s : SortIndex) : List (String × Option Json) :=
  [("base", some (.string s.base)), ("modifiers", modifiersField s.modifiers)]

theorem SortIndex.toJson_eq (s : SortIndex) : s.toJson = .object (present s.fields) := by
  rw [toJson, modifiersMember_eq]
  rfl

theorem SortIndex.ofJson?_toJson (s : SortIndex) : ofJson? s.toJson = some s := by
  have hrecord : recordOf? ["base", "modifiers"] (.inl (present s.fields)) =
      some [some (.string s.base), modifiersField s.modifiers] :=
    recordOf?_present rfl (by decide)
  simp [toJson_eq, ofJson?, parts?, hrecord, string?, modifiers?_modifiersField]

namespace Expression

/-- The name of the kind of a node. -/
def kindName : Expression → String
  | clause _ => "term"
  | boolean .. => "boolean"
  | sorted .. => "sort"
  | assigned .. => "prefix"

/-- The fields of a node, apart from its kind. -/
def fields : Expression → List (String × Option Json)
  | clause c =>
    [("index", some (.string c.index)), ("comparator", some (.string c.comparator)),
      ("term", some (.string c.term)), ("modifiers", modifiersField c.modifiers)]
  | boolean op left right =>
    [("operator", some (.string op.text)), ("left", some left.toJson), ("right", some right.toJson)]
  | sorted subtree indexes =>
    [("subtree", some subtree.toJson), ("indexes", some (.array (indexes.map SortIndex.toJson)))]
  | assigned name uri subtree =>
    [("name", name.map .string), ("uri", some (.string uri)), ("subtree", some subtree.toJson)]

theorem toJson_eq (e : Expression) :
    e.toJson = .object (present (("type", some (.string e.kindName)) :: e.fields)) := by
  cases e with
  | clause c =>
      rw [toJson, modifiersMember_eq]
      rfl
  | boolean op left right => rfl
  | sorted subtree indexes => rfl
  | assigned name uri subtree => cases name <;> rfl

/-- A part of a node, with the expression it is read as. -/
def Part.read (v : Json) : Part := ⟨v, ofJsonAt? true v⟩

theorem readMembers_eq (members : List (String × Json)) :
    readMembers members = members.map fun member => (member.1, Part.read member.2) := by
  induction members with
  | nil => rfl
  | cons member members ih =>
      rw [readMembers, ih]
      rfl

theorem readItems_eq (items : List Json) : readItems items = items.map Part.read := by
  induction items with
  | nil => rfl
  | cons item items ih =>
      rw [readItems, ih]
      rfl

/-- The fields of a node that are read. -/
def readFields (fields : List (String × Option Json)) : List (String × Option Part) :=
  fields.map fun field => (field.1, field.2.map Part.read)

theorem ofJsonAt?_present (belowRoot : Bool) (kind : Json) {fields : List (String × Option Json)}
    (hkeys : (("type", some kind) :: fields).map Prod.fst |>.Nodup) :
    ofJsonAt? belowRoot (.object (present (("type", some kind) :: fields))) =
      (Kind.ofJson? belowRoot kind).bind (ofParts? (.inl (present (readFields fields)))) := by
  have hread : readMembers (present (("type", some kind) :: fields)) =
      present (("type", some (Part.read kind)) :: readFields fields) := by
    rw [readMembers_eq, map_present]
    rfl
  have hkeys' : (("type", some (Part.read kind)) :: readFields fields).map Prod.fst |>.Nodup := by
    simpa [readFields, Function.comp_def] using hkeys
  have hkind := unique?_present hkeys' List.mem_cons_self
  -- No field is called like the kind, so all of them are left when the kind is taken out.
  have hrest : (present (("type", some (Part.read kind)) :: readFields fields)).filter
      (fun member => member.1 != "type") = present (readFields fields) := by
    have hcons : present (("type", some (Part.read kind)) :: readFields fields) =
        ("type", Part.read kind) :: present (readFields fields) := rfl
    rw [hcons, List.filter_cons, bne_self_eq_false]
    exact filter_ne_present_of_notMem (List.nodup_cons.1 hkeys').1
  rw [ofJsonAt?, hread, assemble?, hkind, hrest]
  rfl

theorem nodup_keys (e : Expression) :
    ((("type", some (.string e.kindName)) :: e.fields).map Prod.fst).Nodup := by
  cases e <;> simp [fields]

/-- The kind of a node. -/
def kind : Expression → Kind
  | clause _ => .term
  | boolean .. => .boolean
  | sorted .. => .sort
  | assigned .. => .assignment

theorem ofJsonAt?_toJson_eq (belowRoot : Bool) (e : Expression) :
    ofJsonAt? belowRoot e.toJson = ofParts? (.inl (present (readFields e.fields))) e.kind := by
  have hkind : Kind.ofJson? belowRoot (.string e.kindName) = some e.kind := by cases e <;> rfl
  rw [toJson_eq, ofJsonAt?_present belowRoot _ e.nodup_keys, hkind, Option.bind_some]

/-- An expression is read back from its JSON form, at the root and below it. -/
theorem ofJsonAt?_toJson (belowRoot : Bool) (e : Expression) :
    ofJsonAt? belowRoot e.toJson = some e := by
  induction e generalizing belowRoot with
  | clause c =>
      have hrecord : recordOf? ["index", "comparator", "term", "modifiers"]
          (.inl (present (readFields (clause c).fields))) =
          some [some (.read (.string c.index)), some (.read (.string c.comparator)),
            some (.read (.string c.term)), (modifiersField c.modifiers).map .read] :=
        recordOf?_present rfl (by decide)
      have hmodifiers : ((modifiersField c.modifiers).map Part.read).map Part.json =
          modifiersField c.modifiers := by
        rw [Option.map_map]
        exact Option.map_id'
      rw [ofJsonAt?_toJson_eq]
      simp [kind, ofParts?, hrecord, hmodifiers, modifiers?_modifiersField, string?, Part.read]
  | boolean op left right ihleft ihright =>
      have hrecord : recordOf? ["operator", "left", "right"]
          (.inl (present (readFields (boolean op left right).fields))) =
          some [some (.read (.string op.text)), some (.read left.toJson),
            some (.read right.toJson)] :=
        recordOf?_present rfl (by decide)
      have hop : Connective.ofJson? (.string op.text) = some op := by cases op <;> decide
      rw [ofJsonAt?_toJson_eq]
      simp [kind, ofParts?, hrecord, hop, Part.read, ihleft, ihright]
  | sorted subtree indexes ih =>
      have hrecord : recordOf? ["subtree", "indexes"]
          (.inl (present (readFields (sorted subtree indexes).fields))) =
          some [some (.read subtree.toJson),
            some (.read (.array (indexes.map SortIndex.toJson)))] :=
        recordOf?_present rfl (by decide)
      have hindexes := mapM_map_eq_some indexes fun s _ => SortIndex.ofJson?_toJson s
      rw [List.map_id'] at hindexes
      rw [ofJsonAt?_toJson_eq]
      simp [kind, ofParts?, hrecord, hindexes, items?, Part.read, ih]
  | assigned name uri subtree ih =>
      have hrecord : recordOf? ["name", "uri", "subtree"]
          (.inl (present (readFields (assigned name uri subtree).fields))) =
          some [(name.map Json.string).map .read, some (.read (.string uri)),
            some (.read subtree.toJson)] :=
        recordOf?_present rfl (by decide)
      have hname :
          optionalString? (name.map (Part.json ∘ Part.read ∘ Json.string)) = some name := by
        cases name <;> rfl
      rw [ofJsonAt?_toJson_eq]
      simp [kind, ofParts?, hrecord, hname, string?, Part.read, ih]

end Expression

/-! ### Scalars -/

theorem forall_map_string {P : Json → Prop} (hP : ∀ s, P (.string s)) (x : Option String) :
    ∀ v, x.map Json.string = some v → P v := by
  rintro v hv
  obtain ⟨s, -, rfl⟩ := Option.map_eq_some_iff.1 hv
  exact hP s

theorem Modifier.forall_fields {P : Json → Prop} (hP : ∀ s, P (.string s)) (m : Modifier) :
    ∀ field ∈ m.fields, ∀ v, field.2 = some v → P v := by
  simp only [fields, List.forall_mem_cons, Option.some.injEq, forall_eq']
  exact ⟨hP _, forall_map_string hP _, forall_map_string hP _, List.forall_mem_nil _⟩

theorem textual_object_present {fields : List (String × Option Json)}
    (h : ∀ field ∈ fields, ∀ v, field.2 = some v → Textual v) :
    Textual (.object (present fields)) :=
  .object fun member hmember => h _ (mem_present.1 hmember) member.2 rfl

theorem Modifier.textual_toJson (m : Modifier) : Textual m.toJson := by
  rw [toJson_eq]
  exact textual_object_present (m.forall_fields .string)

theorem textual_of_modifiersField (modifiers : List Modifier) :
    ∀ v, modifiersField modifiers = some v → Textual v := by
  rintro v hv
  match modifiers with
  | [] => cases hv
  | m :: ms =>
      obtain rfl := Option.some.inj hv
      exact .array (List.forall_mem_map.2 fun m _ => m.textual_toJson)

theorem SortIndex.textual_toJson (s : SortIndex) : Textual s.toJson := by
  rw [toJson_eq]
  refine textual_object_present ?_
  simp only [fields, List.forall_mem_cons, Option.some.injEq, forall_eq']
  exact ⟨.string _, textual_of_modifiersField _, List.forall_mem_nil _⟩

theorem Expression.textual_toJson (e : Expression) : Textual e.toJson := by
  induction e with
  | clause c =>
      rw [toJson_eq]
      refine textual_object_present ?_
      simp only [fields, List.forall_mem_cons, Option.some.injEq, forall_eq']
      exact ⟨.string _, .string _, .string _, .string _, textual_of_modifiersField _,
        List.forall_mem_nil _⟩
  | boolean op left right ihleft ihright =>
      rw [toJson_eq]
      refine textual_object_present ?_
      simp only [fields, List.forall_mem_cons, Option.some.injEq, forall_eq']
      exact ⟨.string _, .string _, ihleft, ihright, List.forall_mem_nil _⟩
  | sorted subtree indexes ih =>
      have hindexes : Textual (.array (indexes.map SortIndex.toJson)) :=
        .array (List.forall_mem_map.2 fun s _ => s.textual_toJson)
      rw [toJson_eq]
      refine textual_object_present ?_
      simp only [fields, List.forall_mem_cons, Option.some.injEq, forall_eq']
      exact ⟨.string _, ih, hindexes, List.forall_mem_nil _⟩
  | assigned name uri subtree ih =>
      rw [toJson_eq]
      refine textual_object_present ?_
      simp only [fields, List.forall_mem_cons, Option.some.injEq, forall_eq']
      exact ⟨.string _, forall_map_string .string _, .string _, ih, List.forall_mem_nil _⟩

/-! ### Depth -/

namespace Json

theorem depth_object_present_le_iff {fields : List (String × Option Json)} {n : Nat} :
    depth (.object (present fields)) ≤ n ↔
      0 < n ∧ ∀ field ∈ fields, ∀ v, field.2 = some v → depth v < n := by
  rw [depth_object_le_iff]
  refine and_congr_right fun _ => ⟨fun h field hfield v hv => ?_, fun h member hmember => ?_⟩
  · exact h (field.1, v) (mem_present.2 (hv ▸ hfield))
  · exact h _ (mem_present.1 hmember) member.2 rfl

theorem depth_lt_of_parts? {v : Json} {parts : List (String × Json) ⊕ List Json}
    (h : v.parts? = some parts) : 0 < depth v ∧ ∀ x ∈ values parts, depth x < depth v := by
  revert h
  fun_cases parts? v
  case case1 members =>
    rintro ⟨⟩
    obtain ⟨hpos, hmembers⟩ := depth_object_le_iff.1 (Nat.le_refl (depth (.object members)))
    exact ⟨hpos, List.forall_mem_map.2 hmembers⟩
  case case2 items =>
    rintro ⟨⟩
    exact depth_array_le_iff.1 (Nat.le_refl (depth (.array items)))
  case case3 => rintro ⟨⟩

/-- Items that are read one by one and written again are nested no more deeply. -/
theorem depth_array_map_le {α : Type} {read : Json → Option α} {write : α → Json}
    (hread : ∀ {v a}, read v = some a → depth (write a) ≤ depth v) {v : Json} {items : List Json}
    (hv : v.items? = some items) {as : List α} (h : items.mapM read = some as) :
    depth (.array (as.map write)) ≤ depth v := by
  revert hv
  fun_cases items? v
  case case1 items' =>
    rintro ⟨⟩
    obtain ⟨hpos, hitems⟩ := depth_array_le_iff.1 (Nat.le_refl (depth (.array items)))
    refine depth_array_le_iff.2 ⟨hpos, List.forall_mem_map.2 fun a ha => ?_⟩
    obtain ⟨item, hitem, hitem'⟩ := exists_of_mem_mapM h ha
    exact Nat.lt_of_le_of_lt (hread hitem') (hitems item hitem)
  case case2 => rintro ⟨⟩

end Json

theorem Modifier.depth_toJson_le {v : Json} {m : Modifier} (h : ofJson? v = some m) :
    depth m.toJson ≤ depth v := by
  obtain ⟨parts, hparts, -⟩ := Option.bind_eq_some_iff.1 h
  have hpos := (depth_lt_of_parts? hparts).1
  rw [toJson_eq, depth_object_present_le_iff]
  exact ⟨hpos, m.forall_fields fun _ => hpos⟩

theorem depth_modifiersField_lt {field : Option Json} {modifiers : List Modifier} {n : Nat}
    (h : modifiers? field = some modifiers) (hfield : ∀ v, field = some v → depth v < n) :
    ∀ v, modifiersField modifiers = some v → depth v < n := by
  rintro v hv
  match field with
  | none =>
      obtain rfl := Option.some.inj h
      cases hv
  | some w =>
      obtain ⟨items, hitems, h⟩ := Option.bind_eq_some_iff.1 h
      match modifiers with
      | [] => cases hv
      | m :: ms =>
          obtain rfl := Option.some.inj hv
          exact Nat.lt_of_le_of_lt (depth_array_map_le Modifier.depth_toJson_le hitems h)
            (hfield w rfl)

theorem SortIndex.depth_toJson_le {v : Json} {s : SortIndex} (h : ofJson? v = some s) :
    depth s.toJson ≤ depth v := by
  obtain ⟨parts, hparts, h⟩ := Option.bind_eq_some_iff.1 h
  obtain ⟨record, hrecord, h⟩ := Option.bind_eq_some_iff.1 h
  obtain ⟨hpos, hlt⟩ := depth_lt_of_parts? hparts
  split at h
  case h_1 base field =>
    obtain ⟨name, -, h⟩ := Option.bind_eq_some_iff.1 h
    obtain ⟨modifiers, hmodifiers, h⟩ := Option.bind_eq_some_iff.1 h
    obtain rfl := Option.some.inj h
    have hfield : ∀ w, field = some w → depth w < depth v := by
      rintro w rfl
      exact hlt w (mem_values_of_recordOf? hrecord (by simp))
    rw [toJson_eq, depth_object_present_le_iff]
    simp only [fields, List.forall_mem_cons, Option.some.injEq, forall_eq']
    exact ⟨hpos, hpos, depth_modifiersField_lt hmodifiers hfield, List.forall_mem_nil _⟩
  case h_2 => cases h

namespace Expression

/-- What is read from parts that are not nested too deeply can be written as one more level. -/
theorem depth_of_ofParts? {n : Nat} (hn : 0 < n) {parts : List (String × Part) ⊕ List Part}
    (hparts : ∀ part ∈ values parts, depth part.json < n ∧
      ∀ e, part.expression = some e → depth e.toJson < n)
    {kind : Kind} {e : Expression} (h : ofParts? parts kind = some e) : depth e.toJson ≤ n := by
  have hfield {names record} (hrecord : recordOf? names parts = some record) (part : Part)
      (hpart : some part ∈ record) := hparts part (mem_values_of_recordOf? hrecord hpart)
  rw [toJson_eq, depth_object_present_le_iff]
  cases kind with
  | term =>
      obtain ⟨record, hrecord, h⟩ := Option.bind_eq_some_iff.1 h
      split at h
      case h_1 index comparator term field =>
        obtain ⟨_, -, h⟩ := Option.bind_eq_some_iff.1 h
        obtain ⟨_, -, h⟩ := Option.bind_eq_some_iff.1 h
        obtain ⟨_, -, h⟩ := Option.bind_eq_some_iff.1 h
        obtain ⟨modifiers, hmodifiers, h⟩ := Option.bind_eq_some_iff.1 h
        obtain rfl := Option.some.inj h
        have hjson : ∀ v, field.map Part.json = some v → depth v < n := by
          rintro v hv
          obtain ⟨part, rfl, rfl⟩ := Option.map_eq_some_iff.1 hv
          exact (hfield hrecord part (by simp)).1
        simp only [fields, List.forall_mem_cons, Option.some.injEq, forall_eq']
        exact ⟨hn, hn, hn, hn, hn, depth_modifiersField_lt hmodifiers hjson, List.forall_mem_nil _⟩
      case h_2 => cases h
  | boolean =>
      obtain ⟨record, hrecord, h⟩ := Option.bind_eq_some_iff.1 h
      split at h
      case h_1 op left right =>
        obtain ⟨_, -, h⟩ := Option.bind_eq_some_iff.1 h
        obtain ⟨l, hl, h⟩ := Option.bind_eq_some_iff.1 h
        obtain ⟨r, hr, h⟩ := Option.bind_eq_some_iff.1 h
        obtain rfl := Option.some.inj h
        have hleft := (hfield hrecord left (by simp)).2 l hl
        have hright := (hfield hrecord right (by simp)).2 r hr
        simp only [fields, List.forall_mem_cons, Option.some.injEq, forall_eq']
        exact ⟨hn, hn, hn, hleft, hright, List.forall_mem_nil _⟩
      case h_2 => cases h
  | sort =>
      obtain ⟨record, hrecord, h⟩ := Option.bind_eq_some_iff.1 h
      split at h
      case h_1 subtree indexes =>
        obtain ⟨e, he, h⟩ := Option.bind_eq_some_iff.1 h
        obtain ⟨items, hitems, h⟩ := Option.bind_eq_some_iff.1 h
        obtain ⟨sorts, hsorts, h⟩ := Option.bind_eq_some_iff.1 h
        obtain rfl := Option.some.inj h
        have hsubtree := (hfield hrecord subtree (by simp)).2 e he
        have hindexes := Nat.lt_of_le_of_lt
          (depth_array_map_le SortIndex.depth_toJson_le hitems hsorts)
          (hfield hrecord indexes (by simp)).1
        simp only [fields, List.forall_mem_cons, Option.some.injEq, forall_eq']
        exact ⟨hn, hn, hsubtree, hindexes, List.forall_mem_nil _⟩
      case h_2 => cases h
  | assignment =>
      obtain ⟨record, hrecord, h⟩ := Option.bind_eq_some_iff.1 h
      split at h
      case h_1 name uri subtree =>
        obtain ⟨_, -, h⟩ := Option.bind_eq_some_iff.1 h
        obtain ⟨_, -, h⟩ := Option.bind_eq_some_iff.1 h
        obtain ⟨e, he, h⟩ := Option.bind_eq_some_iff.1 h
        obtain rfl := Option.some.inj h
        have hsubtree := (hfield hrecord subtree (by simp)).2 e he
        simp only [fields, List.forall_mem_cons, Option.some.injEq, forall_eq']
        exact ⟨hn, hn, forall_map_string (fun _ => hn) _, hn, hsubtree, List.forall_mem_nil _⟩
      case h_2 => cases h

/-- What is read as an expression is nested no less deeply than what is written for it. -/
theorem depth_toJson_le {belowRoot : Bool} {v : Json} {e : Expression}
    (h : ofJsonAt? belowRoot v = some e) : depth e.toJson ≤ depth v := by
  induction hdepth : depth v using Nat.strongRecOn generalizing belowRoot v e with
  | ind n ih =>
    -- The parts of the value are nested less deeply, so what they are read as is covered.
    have hread : ∀ w, depth w < n → depth (Part.read w).json < n ∧
        ∀ e, (Part.read w).expression = some e → depth e.toJson < n := fun w hw =>
      ⟨hw, fun e he => Nat.lt_of_le_of_lt (ih (depth w) hw he rfl) hw⟩
    match v with
    | .object members =>
        obtain ⟨hn, hmembers⟩ := depth_object_le_iff.1 (Nat.le_of_eq hdepth)
        rw [ofJsonAt?, readMembers_eq] at h
        obtain ⟨_, -, h⟩ := Option.bind_eq_some_iff.1 h
        obtain ⟨_, -, h⟩ := Option.bind_eq_some_iff.1 h
        obtain ⟨kind, -, h⟩ := Option.bind_eq_some_iff.1 h
        refine depth_of_ofParts? hn (List.forall_mem_map.2 fun member hmember => ?_) h
        obtain ⟨written, hwritten, rfl⟩ := List.mem_map.1 (List.mem_filter.1 hmember).1
        exact hread written.2 (hmembers written hwritten)
    | .array items =>
        obtain ⟨hn, hitems⟩ := depth_array_le_iff.1 (Nat.le_of_eq hdepth)
        rw [ofJsonAt?, readItems_eq] at h
        match items with
        | [] => cases h
        | first :: rest =>
            obtain ⟨kind, -, h⟩ := Option.bind_eq_some_iff.1 h
            refine depth_of_ofParts? hn (List.forall_mem_map.2 fun item hitem => ?_) h
            exact hread item (hitems item (List.mem_cons_of_mem first hitem))

/-! ### Text -/

/-- **JSON text of an expression is read as the expression.** It is, exactly if the JSON form is not
nested more deeply than text from outside may be; and this holds of every expression that has been
read from any text, whatever members that text leaves out, sets to null or adds. -/
theorem parse?_render_toJson :
    (∀ e : Expression, parse? (render e.toJson) = some e ↔ depth e.toJson ≤ nestingLimit) ∧
    ∀ text e, parse? text = some e → parse? (render e.toJson) = some e := by
  have hwritten : ∀ e : Expression,
      parse? (render e.toJson) = some e ↔ depth e.toJson ≤ nestingLimit := by
    intro e
    rw [parse?, Json.parse?, parseWithin?_render (textual_toJson e)]
    by_cases hdepth : depth e.toJson ≤ nestingLimit
    · rw [if_pos hdepth]
      exact iff_of_true (ofJsonAt?_toJson false e) hdepth
    · rw [if_neg hdepth]
      exact iff_of_false nofun hdepth
  refine ⟨hwritten, fun text e h => (hwritten e).2 ?_⟩
  obtain ⟨v, hv, h⟩ := Option.bind_eq_some_iff.1 h
  exact Nat.le_trans (depth_toJson_le h) (depth_of_parseWithin? hv)

/-- Text by hand: a node and a modifier without the names of their parts, an option that is null, a
member that nobody knows, and an escape. -/
def handwritten : String :=
  "[\"prefix\", null, \"x\", \x7b\"note\": [1], \"index\": \"a\", \"type\": \"term\"," ++
  "\"comparator\": \"=\", \"term\": \"d\\u00fcne\", \"modifiers\": [[\"m\"]]\x7d]"

/-- The tree that the text by hand stands for. -/
def handwrittenTree : Expression :=
  .assigned none "x" (.clause ⟨"a", "=", "düne", [⟨"m", none, none⟩]⟩)

/-- A clause under so many assignments. -/
def nestedTree (n : Nat) : Expression :=
  Nat.repeat (assigned none "info:x") n (.clause ⟨"title", "all", "dune", []⟩)

/-- The text by hand is read, and so is what is written for its tree. Of clauses under assignments,
the one with as many objects as may be open is the last that is read. -/
theorem parse?_render_toJson_handwritten :
    parse? handwritten = some handwrittenTree ∧
    parse? (render handwrittenTree.toJson) = some handwrittenTree ∧
    parse? (render (nestedTree 126).toJson) = some (nestedTree 126) ∧
    parse? (render (nestedTree 127).toJson) ≠ some (nestedTree 127) := by
  have hread : parse? handwritten = some handwrittenTree := by decide +kernel
  exact ⟨hread, parse?_render_toJson.2 handwritten handwrittenTree hread,
    (parse?_render_toJson.1 (nestedTree 126)).2 (by decide +kernel),
    mt (parse?_render_toJson.1 (nestedTree 127)).1 (by decide +kernel)⟩

end Expression

end CatalogSearch
