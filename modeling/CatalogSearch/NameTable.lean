/-!
Tables from names to values, kept as lists in the order of the names. Names are compared by their
characters, which is also the order of their encoded bytes. What a table lists never depends on the
order in which it was filled.
-/

namespace CatalogSearch

/-- Values under names, in the order of the names and without repetitions. -/
structure NameTable (α : Type) where
  entries : List (String × α)
  ordered : entries.Pairwise fun entry later => entry.1 < later.1
  deriving Repr

namespace NameTable

variable {α : Type}

def empty : NameTable α := ⟨[], .nil⟩

instance : Inhabited (NameTable α) := ⟨empty⟩

theorem eq_of_entries {s t : NameTable α} (h : s.entries = t.entries) : s = t := by
  cases s
  cases t
  simp_all

instance [DecidableEq α] : DecidableEq (NameTable α) := fun s t =>
  decidable_of_iff (s.entries = t.entries) ⟨eq_of_entries, fun h => h ▸ rfl⟩

/-- Puts an entry into a list of entries at the place of its name. -/
def insertEntry (name : String) (a : α) : List (String × α) → List (String × α)
  | [] => [(name, a)]
  | (other, b) :: rest =>
    if name < other then (name, a) :: (other, b) :: rest
    else if name = other then (name, a) :: rest
    else (other, b) :: insertEntry name a rest

theorem mem_insertEntry {name : String} {a : α} {es : List (String × α)} {entry : String × α}
    (h : entry ∈ insertEntry name a es) : entry = (name, a) ∨ entry ∈ es := by
  induction es with
  | nil => simpa [insertEntry] using h
  | cons head rest ih =>
    rw [insertEntry] at h
    split at h
    · simpa using h
    · split at h
      · rcases List.mem_cons.1 h with h | h
        · exact .inl h
        · exact .inr (List.mem_cons_of_mem _ h)
      · rcases List.mem_cons.1 h with h | h
        · exact .inr (h ▸ List.mem_cons_self)
        · exact (ih h).imp_right (List.mem_cons_of_mem _)

theorem ordered_insertEntry (name : String) (a : α) {es : List (String × α)}
    (h : es.Pairwise fun entry later => entry.1 < later.1) :
    (insertEntry name a es).Pairwise fun entry later => entry.1 < later.1 := by
  induction es with
  | nil => simp [insertEntry]
  | cons head rest ih =>
    obtain ⟨hhead, hrest⟩ := List.pairwise_cons.1 h
    rw [insertEntry]
    split
    · next hlt =>
      refine List.pairwise_cons.2 ⟨fun entry hentry => ?_, h⟩
      rcases List.mem_cons.1 hentry with hentry | hentry
      · exact hentry ▸ hlt
      · exact String.lt_trans hlt (hhead entry hentry)
    · next hlt =>
      split
      · next heq => exact List.pairwise_cons.2 ⟨heq ▸ hhead, hrest⟩
      · next hne =>
        refine List.pairwise_cons.2 ⟨fun entry hentry => ?_, ih hrest⟩
        rcases mem_insertEntry hentry with hentry | hentry
        · subst hentry
          exact Std.lt_of_le_of_ne (String.not_lt.1 hlt) (Ne.symm hne)
        · exact hhead entry hentry

/-- Puts a value under a name, in place of the one that was there. -/
def insert (t : NameTable α) (name : String) (a : α) : NameTable α :=
  ⟨insertEntry name a t.entries, ordered_insertEntry name a t.ordered⟩

/-- The table of a list of entries, the last of which counts where names repeat. -/
def ofList (entries : List (String × α)) : NameTable α :=
  entries.foldl (fun t entry => t.insert entry.1 entry.2) empty

def get? (t : NameTable α) (name : String) : Option α := t.entries.lookup name

theorem lookup_insertEntry (name : String) (a : α) (es : List (String × α)) (other : String) :
    (insertEntry name a es).lookup other = if other = name then some a else es.lookup other := by
  induction es with
  | nil => grind [insertEntry]
  | cons head rest ih => grind [insertEntry]

@[simp]
theorem get?_empty (name : String) : (empty : NameTable α).get? name = none := rfl

@[simp]
theorem get?_insert (t : NameTable α) (name : String) (a : α) (other : String) :
    (t.insert name a).get? other = if other = name then some a else t.get? other :=
  lookup_insertEntry name a t.entries other

theorem mem_of_get?_foldl {entries : List (String × α)} {t : NameTable α} {name : String} {a : α}
    (h : (entries.foldl (fun t entry => t.insert entry.1 entry.2) t).get? name = some a) :
    (name, a) ∈ entries ∨ t.get? name = some a := by
  induction entries generalizing t with
  | nil => exact .inr h
  | cons entry rest ih =>
    rcases ih h with h | h
    · exact .inl (List.mem_cons_of_mem _ h)
    · rw [get?_insert] at h
      split at h
      · next hname => exact .inl (by simp [hname, ← Option.some.inj h])
      · exact .inr h

/-- A table made from a list holds nothing but the entries of the list. -/
theorem mem_of_get?_ofList {entries : List (String × α)} {name : String} {a : α}
    (h : (ofList entries).get? name = some a) : (name, a) ∈ entries :=
  (mem_of_get?_foldl h).resolve_right (by simp)

theorem get?_foldl_of_notMem {entries : List (String × α)} {t : NameTable α} {name : String}
    (h : name ∉ entries.map Prod.fst) :
    (entries.foldl (fun t entry => t.insert entry.1 entry.2) t).get? name = t.get? name := by
  induction entries generalizing t with
  | nil => rfl
  | cons entry rest ih =>
    rw [List.map_cons, List.mem_cons, not_or] at h
    rw [List.foldl_cons, ih h.2, get?_insert, if_neg h.1]

theorem get?_foldl_of_mem {entries : List (String × α)} {t : NameTable α} {name : String} {a : α}
    (hnodup : (entries.map Prod.fst).Nodup) (h : (name, a) ∈ entries) :
    (entries.foldl (fun t entry => t.insert entry.1 entry.2) t).get? name = some a := by
  induction entries generalizing t with
  | nil => cases h
  | cons entry rest ih =>
    obtain ⟨hfresh, hrest⟩ := List.nodup_cons.1 hnodup
    rcases List.mem_cons.1 h with rfl | h
    · rw [List.foldl_cons, get?_foldl_of_notMem hfresh, get?_insert, if_pos rfl]
    · exact ih hrest h

/-- A table made from a list without repeated names holds all entries of the list. -/
theorem get?_ofList_of_mem {entries : List (String × α)} {name : String} {a : α}
    (hnodup : (entries.map Prod.fst).Nodup) (h : (name, a) ∈ entries) :
    (ofList entries).get? name = some a :=
  get?_foldl_of_mem hnodup h

theorem get?_ofList_iff {entries : List (String × α)} {name : String} {a : α}
    (hnodup : (entries.map Prod.fst).Nodup) :
    (ofList entries).get? name = some a ↔ (name, a) ∈ entries :=
  ⟨mem_of_get?_ofList, get?_ofList_of_mem hnodup⟩

def contains (t : NameTable α) (name : String) : Bool := (t.get? name).isSome

theorem contains_eq_false_iff {t : NameTable α} {name : String} :
    t.contains name = false ↔ t.get? name = none := by
  rw [contains, Option.isSome_eq_false_iff, Option.isNone_iff_eq_none]

def names (t : NameTable α) : List String := t.entries.map Prod.fst

theorem mem_names_iff {t : NameTable α} {name : String} :
    name ∈ t.names ↔ (t.get? name).isSome = true := by
  unfold names get?
  induction t.entries with
  | nil => simp
  | cons entry rest ih =>
    rw [List.map_cons, List.mem_cons, List.lookup_cons]
    by_cases h : name = entry.1
    · simp [h]
    · simp only [h, false_or, ih, beq_false_of_ne h]

theorem names_ordered (t : NameTable α) : t.names.Pairwise (· < ·) :=
  List.pairwise_map.2 t.ordered

theorem names_nodup (t : NameTable α) : t.names.Nodup :=
  t.names_ordered.imp String.ne_of_lt

theorem mem_of_lookup {es : List (String × α)} {name : String} {a : α}
    (h : es.lookup name = some a) : (name, a) ∈ es := by
  obtain ⟨before, after, rfl, -⟩ := List.lookup_eq_some_iff.1 h
  exact List.mem_append_right _ List.mem_cons_self

theorem lookup_of_mem {es : List (String × α)} {name : String} {a : α}
    (hnodup : (es.map Prod.fst).Nodup) (h : (name, a) ∈ es) : es.lookup name = some a := by
  induction es with
  | nil => cases h
  | cons entry rest ih =>
    obtain ⟨hfresh, hrest⟩ := List.nodup_cons.1 hnodup
    rcases List.mem_cons.1 h with rfl | h
    · exact List.lookup_cons_self
    · have hne : name ≠ entry.1 := by
        rintro rfl
        exact hfresh (List.mem_map.2 ⟨_, h, rfl⟩)
      rw [List.lookup_cons, beq_false_of_ne hne]
      exact ih hrest h

theorem get?_ofList {es : List (String × α)} (hnodup : (es.map Prod.fst).Nodup) (name : String) :
    (ofList es).get? name = es.lookup name :=
  Option.ext fun _ => (get?_ofList_iff hnodup).trans ⟨lookup_of_mem hnodup, mem_of_lookup⟩

theorem mem_entries_iff {t : NameTable α} {name : String} {a : α} :
    (name, a) ∈ t.entries ↔ t.get? name = some a :=
  ⟨lookup_of_mem t.names_nodup, mem_of_lookup⟩

/-- A table is what can be looked up in it. -/
theorem eq_of_get? {s t : NameTable α}
    (h : ∀ name a, s.get? name = some a ↔ t.get? name = some a) : s = t := by
  have hmem : ∀ entry, entry ∈ s.entries ↔ entry ∈ t.entries := fun entry =>
    mem_entries_iff.trans ((h entry.1 entry.2).trans mem_entries_iff.symm)
  have hnodup : ∀ u : NameTable α, u.entries.Nodup := fun u =>
    u.ordered.imp fun hlt heq => String.ne_of_lt hlt (congrArg Prod.fst heq)
  have hperm := (List.perm_ext_iff_of_nodup (hnodup s) (hnodup t)).2 hmem
  refine eq_of_entries (List.Perm.eq_of_pairwise ?_ s.ordered t.ordered hperm)
  intro entry later _ _ hlt hgt
  exact absurd (String.lt_trans hlt hgt) (String.lt_irrefl _)

theorem lookup_eq_of_perm {es fs : List (String × α)} (hnodup : (es.map Prod.fst).Nodup)
    (h : es.Perm fs) (name : String) : es.lookup name = fs.lookup name := by
  have hnodup' : (fs.map Prod.fst).Nodup := (h.map Prod.fst).nodup_iff.1 hnodup
  refine Option.ext fun a => ⟨fun ha => ?_, fun ha => ?_⟩
  · exact lookup_of_mem hnodup' (h.mem_iff.1 (mem_of_lookup ha))
  · exact lookup_of_mem hnodup (h.mem_iff.2 (mem_of_lookup ha))

/-- The order of a list does not bear on the table that is made from it. -/
theorem ofList_eq_of_perm {es fs : List (String × α)} (hnodup : (es.map Prod.fst).Nodup)
    (h : es.Perm fs) : ofList es = ofList fs := by
  have hnodup' : (fs.map Prod.fst).Nodup := (h.map Prod.fst).nodup_iff.1 hnodup
  refine eq_of_get? fun name a => ?_
  rw [get?_ofList hnodup, get?_ofList hnodup', lookup_eq_of_perm hnodup h]

def values (t : NameTable α) : List α := t.entries.map Prod.snd

theorem mem_values_iff {t : NameTable α} {a : α} : a ∈ t.values ↔ ∃ name, t.get? name = some a := by
  simp only [values, List.mem_map, Prod.exists, exists_eq_right, mem_entries_iff]

def size (t : NameTable α) : Nat := t.entries.length

def isEmpty (t : NameTable α) : Bool := t.entries.isEmpty

end NameTable

end CatalogSearch
