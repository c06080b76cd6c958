import CatalogSearch.Expression.Json

/-!
Records in JSON. A record that is written as an object has its fields for members, apart from those
that are absent; when it is read, its fields are found by their names, or by their order in an
array, and each field that is there is a part of what is read.
-/

namespace CatalogSearch

theorem mapM_map_eq_some {α β γ : Type} {f : α → Option β} {g : γ → α} {result : γ → β}
    (xs : List γ) (h : ∀ x ∈ xs, f (g x) = some (result x)) :
    (xs.map g).mapM f = some (xs.map result) := by
  induction xs with
  | nil => rfl
  | cons x xs ih =>
      obtain ⟨hx, hxs⟩ := List.forall_mem_cons.1 h
      rw [List.map_cons, List.mapM_cons, hx, ih hxs]
      rfl

theorem exists_of_mem_mapM {α β : Type} {f : α → Option β} {xs : List α} {ys : List β}
    (h : xs.mapM f = some ys) {y : β} (hy : y ∈ ys) : ∃ x ∈ xs, f x = some y := by
  induction xs generalizing ys with
  | nil =>
      obtain rfl := Option.some.inj h
      cases hy
  | cons x xs ih =>
      rw [List.mapM_cons] at h
      obtain ⟨y', hy', h⟩ := Option.bind_eq_some_iff.1 h
      obtain ⟨ys', hys', h⟩ := Option.bind_eq_some_iff.1 h
      obtain rfl := Option.some.inj h
      obtain rfl | hy := List.mem_cons.1 hy
      · exact ⟨x, List.mem_cons_self, hy'⟩
      · obtain ⟨x', hx', hf⟩ := ih hys' hy
        exact ⟨x', List.mem_cons_of_mem x hx', hf⟩

namespace Json

variable {α β : Type} {fields : List (String × Option α)} {key : String}

/-! ### Fields that are written -/

/-- The members of a record: its fields, without those that are absent. -/
def present (fields : List (String × Option α)) : List (String × α) :=
  fields.filterMap fun field => field.2.map fun value => (field.1, value)

theorem mem_present {value : α} : (key, value) ∈ present fields ↔ (key, some value) ∈ fields := by
  rw [present, List.mem_filterMap]
  constructor
  · rintro ⟨⟨name, x⟩, hmem, h⟩
    obtain ⟨value', rfl, h⟩ := Option.map_eq_some_iff.1 h
    cases h
    exact hmem
  · intro hmem
    exact ⟨(key, some value), hmem, rfl⟩

theorem fst_ne_of_mem_present (h : key ∉ fields.map Prod.fst) {member : String × α}
    (hmember : member ∈ present fields) : member.1 ≠ key := by
  rintro rfl
  exact h (List.mem_map_of_mem (f := Prod.fst) (mem_present.1 hmember))

theorem filter_present_of_notMem (h : key ∉ fields.map Prod.fst) :
    (present fields).filter (fun member => member.1 == key) = [] :=
  List.filter_eq_nil_iff.2 fun _ hmember heq => fst_ne_of_mem_present h hmember (beq_iff_eq.1 heq)

theorem filter_ne_present_of_notMem (h : key ∉ fields.map Prod.fst) :
    (present fields).filter (fun member => member.1 != key) = present fields :=
  List.filter_eq_self.2 fun _ hmember => bne_iff_ne.2 (fst_ne_of_mem_present h hmember)

theorem unique?_present (hkeys : (fields.map Prod.fst).Nodup) {x : Option α}
    (h : (key, x) ∈ fields) : unique? key (present fields) = some x := by
  have hfilter : (present fields).filter (fun member => member.1 == key) =
      (x.map fun value => (key, value)).toList := by
    induction fields with
    | nil => cases h
    | cons field fields ih =>
        obtain ⟨hkey, hkeys⟩ := List.nodup_cons.1 hkeys
        have happend : present (field :: fields) =
            (field.2.map fun value => (field.1, value)).toList ++ present fields := by
          rw [present, List.filterMap_cons]
          cases field.2 <;> rfl
        rw [happend, List.filter_append]
        obtain rfl | h := List.mem_cons.1 h
        · rw [filter_present_of_notMem hkey, List.append_nil]
          cases x <;> simp
        · -- Another field has another name, so the search passes it over.
          have hne : field.1 ≠ key := fun heq => hkey (heq ▸ List.mem_map_of_mem (f := Prod.fst) h)
          rw [ih hkeys h]
          cases field.2 <;> simp [hne]
  rw [unique?, hfilter]
  cases x <;> rfl

/-- What is read of the members of a record are its fields. -/
theorem recordOf?_present {names : List String} (hnames : fields.map Prod.fst = names)
    (hnodup : names.Nodup) :
    recordOf? names (.inl (present fields)) = some (fields.map Prod.snd) := by
  subst hnames
  exact mapM_map_eq_some fields fun field hfield => unique?_present hnodup hfield

theorem map_present (f : α → β) (fields : List (String × Option α)) :
    (present fields).map (fun member => (member.1, f member.2)) =
      present (fields.map fun field => (field.1, field.2.map f)) := by
  rw [present, present, List.map_filterMap, List.filterMap_map]
  refine congrArg (fields.filterMap ·) (funext fun field => ?_)
  rw [Function.comp_apply, Option.map_map, Option.map_map]
  rfl

theorem optionalString?_map (x : Option String) : optionalString? (x.map Json.string) = some x := by
  cases x <;> rfl

/-! ### Fields that are read -/

/-- The parts of an object or an array, without their names. -/
def values {α : Type} : List (String × α) ⊕ List α → List α
  | .inl members => members.map Prod.snd
  | .inr items => items

theorem mem_of_unique? {α : Type} {key : String} {members : List (String × α)} {x : α}
    (h : unique? key members = some (some x)) : x ∈ members.map Prod.snd := by
  rw [unique?] at h
  split at h
  · cases h
  case h_2 member hfilter =>
    cases h
    have hmember : member ∈ members.filter fun member => member.1 == key := by
      rw [hfilter]
      exact List.mem_singleton_self member
    exact List.mem_map_of_mem (List.mem_filter.1 hmember).1
  · cases h

/-- Each field of a record that is there is one of the parts. -/
theorem mem_values_of_recordOf? {α : Type} {names : List String}
    {parts : List (String × α) ⊕ List α} {fields : List (Option α)}
    (h : recordOf? names parts = some fields) {x : α} (hx : some x ∈ fields) :
    x ∈ values parts := by
  match parts with
  | .inl members =>
      obtain ⟨name, -, hname⟩ := exists_of_mem_mapM h hx
      exact mem_of_unique? hname
  | .inr items =>
      rw [recordOf?] at h
      split at h
      · obtain rfl := Option.some.inj h
        simpa [values] using hx
      · cases h

end Json

end CatalogSearch
