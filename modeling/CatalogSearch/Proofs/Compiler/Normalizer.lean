import CatalogSearch.Proofs.Compiler.Failure
import CatalogSearch.Proofs.Compiler.Refusal
import CatalogSearch.Proofs.Settings.Definition

/-!
Normalizers that there are. Before settings are used, the fields that name a normalizer are gone
through in order, and the first one whose normalizer there is not is reported. A clause comes to its
normalizer by another way, through an alias, the only member of a group or the first one of several;
whichever way it takes, the field has been looked at.
-/

namespace CatalogSearch.Compiler

variable {c c' : Compiler} {resource : String}

/-! ### The check of the fields -/

theorem checked_eq_ok_iff : c.checked = .ok c' ↔
    (∀ ref ∈ c.catalog.normalizerReferences, c.normalizers.contains ref.normalizer = true) ∧
      c' = c := by
  rw [checked]
  split
  · next ref hfind =>
      have hunknown := List.find?_some hfind
      refine iff_of_false nofun ?_
      rintro ⟨hall, -⟩
      rw [hall ref (List.mem_of_find?_eq_some hfind)] at hunknown
      cases hunknown
  · next hfind =>
      have hall := List.find?_eq_none.1 hfind
      simp only [Bool.not_eq_true', Bool.not_eq_false] at hall
      rw [and_iff_right hall, Except.ok.injEq]
      exact eq_comm

theorem checked_eq_error {err : RegistryError} (h : c.checked = .error err) :
    ∃ before ref after, c.catalog.normalizerReferences = before ++ ref :: after ∧
      c.normalizers.contains ref.normalizer = false ∧
      (∀ other ∈ before, c.normalizers.contains other.normalizer = true) ∧
      err = .unknownNormalizer ref.resource ref.field ref.normalizer := by
  rw [checked] at h
  split at h
  · next ref hfind =>
      obtain ⟨hunknown, before, after, hsplit, hbefore⟩ := List.find?_eq_some_iff_append.1 hfind
      simp only [Bool.not_eq_true', Bool.not_not] at hunknown hbefore
      exact ⟨before, ref, after, hsplit, hunknown, hbefore, (Except.error.inj h).symm⟩
  · cases h

/-- A compiler all of whose fields name normalizers that there are. -/
def Registered (c : Compiler) : Prop :=
  ∀ resource path f name, c.catalog.field? resource path = some f → f.normalizer = some name →
    c.normalizers.contains name = true

theorem registered_of_checked (h : c.checked = .ok c') : c.Registered := by
  intro resource path f name hf hname
  obtain ⟨r, hr, hf⟩ := Catalog.field?_eq_some_iff.1 hf
  apply (checked_eq_ok_iff.1 h).1 ⟨r.name, f.path, name⟩
  exact Catalog.mem_normalizerReferences_iff.2 ⟨resource, path, r, f, hr, hf, hname, rfl, rfl⟩

/-! ### The way of a clause to its normalizer -/

/-- A single field that a path leads to is one of the catalog, by itself or as the only member of a
group. -/
theorem exists_field?_of_target? {k : Catalog} {path : String} {f : Field}
    (h : target? k resource path = some (.field f)) :
    ∃ path', k.field? resource path' = some f := by
  have hfield : ∀ path', (k.field? resource path').map Target.field = some (.field f) →
      k.field? resource path' = some f := by
    intro path' h
    obtain ⟨f', hf, hfield⟩ := Option.map_eq_some_iff.1 h
    rwa [← Target.field.inj hfield]
  rw [target?] at h
  split at h
  · exact ⟨path, hfield _ h⟩
  · next only _ => exact ⟨only, hfield _ h⟩
  · cases h

theorem Registered.contains (hc : c.Registered) {path name : String} {t : Target}
    (ht : target? c.catalog resource path = some t)
    (hname : t.normalizer? c.catalog resource = some name) :
    c.normalizers.contains name = true := by
  cases t with
  | field f =>
      obtain ⟨path', hf⟩ := exists_field?_of_target? ht
      exact hc resource path' f name hf hname
  | group members =>
      obtain ⟨first, -, hname⟩ := Option.bind_eq_some_iff.1 hname
      obtain ⟨f, hf, hname⟩ := Option.bind_eq_some_iff.1 hname
      exact hc resource first f name hf hname

/-- Every value can be brought to the form that its target holds. -/
theorem Registered.exists_normalizedValue (hc : c.Registered) {path : String} {t : Target}
    (ht : target? c.catalog resource path = some t) (term : String) :
    ∃ v, c.normalizedValue resource t term = .ok v := by
  rw [← failure?_eq_none_iff, Option.eq_none_iff_forall_ne_some]
  intro err herr
  obtain ⟨name, hname, hunknown, -⟩ := normalizedValue_eq_error (failure?_eq_some_iff.1 herr)
  rw [hc.contains ht hname] at hunknown
  cases hunknown

theorem Registered.clauseQuery_ne (hc : c.Registered) (hdispatch : c.dispatch.OnlyRefuses)
    (clause : Clause) (name : String) :
    c.clauseQuery resource clause ≠ .error (.unsupported (.normalizer name)) := by
  intro h
  rcases clauseFault_of_clauseQuery hdispatch h with _ | ⟨ht, hname, hunknown⟩ | _ | ⟨-, ⟨⟩⟩
  rw [hc.contains ht hname] at hunknown
  cases hunknown

/-! ### The keys of a sort -/

theorem orderOf_eq_error {order : SortOrder} {modifiers : List Modifier} {err : CompileError}
    (h : SortIndex.orderOf order modifiers = .error err) :
    ∃ name, err = .unsupported (.sortModifier name) := by
  induction modifiers generalizing order with
  | nil => cases h
  | cons m rest ih =>
      rw [SortIndex.orderOf] at h
      split at h
      · exact ih h
      · exact ⟨m.name, (Except.error.inj h).symm⟩

theorem resolve_ne_unknownNormalizer (k : Catalog) (i : SortIndex) (name : String) :
    i.resolve k resource ≠ .error (.unsupported (.normalizer name)) := by
  intro h
  simp only [SortIndex.resolve] at h
  split at h
  · cases h
  · rcases bind_eq_error_iff.1 h with h | ⟨order, -, h⟩
    · obtain ⟨modifier, hmodifier⟩ := orderOf_eq_error h
      cases hmodifier
    · cases h

/-! ### Expressions -/

/-- No error of an expression is about a normalizer, for none of its clauses is and its sort does
not use any. -/
theorem Registered.compile_ne (hc : c.Registered) (hdispatch : c.dispatch.OnlyRefuses)
    (e : Expression) (name : String) :
    c.compile resource e ≠ .error (.unsupported (.normalizer name)) := by
  intro h
  rw [← failure?_eq_some_iff, failure?_compile, Option.or_eq_some_iff] at h
  rcases h with h | ⟨-, h⟩
  · obtain ⟨node, -, hnode⟩ := List.exists_of_findSome?_eq_some h
    cases fault?_eq_some_iff.1 hnode with
    | clause hclause => exact hc.clauseQuery_ne hdispatch _ _ hclause
  · obtain ⟨i, -, hi⟩ := List.exists_of_findSome?_eq_some h
    exact resolve_ne_unknownNormalizer c.catalog i name (failure?_eq_some_iff.1 hi)

/-- The field that is reported comes before all others whose normalizer there is not. -/
theorem unknownNormalizer_first (hcatalog : c.catalog.WellFormed) {path name : String}
    (h : c.checked = .error (.unknownNormalizer resource path name)) :
    (∃ f, c.catalog.field? resource path = some f ∧ f.normalizer = some name ∧
      c.normalizers.contains name = false) ∧
    ∀ resource' path' f' name', c.catalog.field? resource' path' = some f' →
      f'.normalizer = some name' → c.normalizers.contains name' = false →
        resource < resource' ∨ resource = resource' ∧ path ≤ path' := by
  obtain ⟨before, ref, after, hsplit, hunknown, hbefore, herr⟩ := checked_eq_error h
  obtain ⟨rfl, rfl, rfl⟩ := RegistryError.unknownNormalizer.inj herr
  constructor
  · have href : ref ∈ c.catalog.normalizerReferences := by
      rw [hsplit]
      exact List.mem_append_right _ List.mem_cons_self
    obtain ⟨f, hf, hname⟩ := hcatalog.mem_normalizerReferences_iff.1 href
    exact ⟨f, hf, hname, hunknown⟩
  · intro resource' path' f' name' hf' hname' hunknown'
    let other : NormalizerReference := ⟨resource', path', name'⟩
    have hother : other ∈ c.catalog.normalizerReferences :=
      hcatalog.mem_normalizerReferences_iff.2 ⟨f', hf', hname'⟩
    have hordered := hcatalog.normalizerReferences_ordered
    rw [hsplit] at hother hordered
    -- All fields before the one reported are fine, and those behind it come later in the order.
    rcases List.mem_append.1 hother with hother | hother
    · rw [hbefore other hother] at hunknown'
      cases hunknown'
    · rcases List.mem_cons.1 hother with rfl | hother
      · exact Or.inr ⟨rfl, String.le_refl _⟩
      · have hafter := (List.pairwise_append.1 hordered).2.1
        rcases (List.pairwise_cons.1 hafter).1 other hother with hlt | ⟨heq, hlt⟩
        · exact Or.inl hlt
        · exact Or.inr ⟨heq, Std.le_of_lt hlt⟩

/-- **A compiler that can be had knows all normalizers that its fields name.** If the compiler of
settings can be had, then every value of every target can be normalized, and no expression is turned
down for a normalizer. Otherwise the field that is reported is the first one, by resource and then
by path, whose normalizer there is not. -/
theorem ofSettings_normalizers (s : Settings) :
    (∀ c, ofSettings s = .ok c →
      (∀ resource path t term, target? c.catalog resource path = some t →
        ∃ v, c.normalizedValue resource t term = .ok v) ∧
      ∀ resource e name, c.compile resource e ≠ .error (.unsupported (.normalizer name))) ∧
    ∀ resource path name, s.Loaded →
      ofSettings s = .error (.unknownNormalizer resource path name) →
        (∃ f, s.catalog.field? resource path = some f ∧ f.normalizer = some name ∧
          NormalizerRegistry.standard.contains name = false) ∧
        ∀ resource' path' f' name', s.catalog.field? resource' path' = some f' →
          f'.normalizer = some name' → NormalizerRegistry.standard.contains name' = false →
            resource < resource' ∨ resource = resource' ∧ path ≤ path' := by
  constructor
  · intro c hc
    have hregistered := registered_of_checked hc
    obtain ⟨-, rfl⟩ := checked_eq_ok_iff.1 hc
    refine ⟨fun resource path t term ht => hregistered.exists_normalizedValue ht term, ?_⟩
    intro resource e name
    exact hregistered.compile_ne Dispatch.onlyRefuses_standard e name
  · intro resource path name hs h
    exact unknownNormalizer_first (c := standard s) hs.wellFormed h

/-- A file that describes numbers of books, which are compared without their hyphens. -/
def numberedBooks : String := "[resource.book.fields.number]\nnormalizer = 'isbn'\n"

/-- A file with three normalizers that there are not, and not in their order. -/
def invertedNames : String :=
  "[resource.book.fields]\ntitle.normalizer = 'reverse'\n" ++
  "[resource.article.fields]\ntitle.normalizer = 'reverse'\nauthor.normalizer = 'invert'\n"

/-- Nothing asked of numbered books fails for a normalizer; of the inverted names, the authors of
articles are reported. -/
theorem ofSettings_normalizers_names :
    ∃ s s', Settings.ofText numberedBooks = .ok s ∧ Settings.ofText invertedNames = .ok s' ∧
      (∀ e name, (standard s).compile "book" e ≠ .error (.unsupported (.normalizer name))) ∧
      ofSettings s' = .error (.unknownNormalizer "article" "author" "invert") ∧
      ∀ path f name, s'.catalog.field? "article" path = some f → f.normalizer = some name →
        NormalizerRegistry.standard.contains name = false → "author" ≤ path := by
  let whole (path name : String) : String × Field :=
    (path, ⟨path, [], false, some name, .keyword, none⟩)
  let books (f : String × Field) : String × Resource :=
    ("book", ⟨"book", .empty, .empty, .ofList [f]⟩)
  let articles : Resource :=
    ⟨"article", .empty, .empty, .ofList [whole "title" "reverse", whole "author" "invert"]⟩
  let s : Settings := ⟨.standard, ⟨.ofList [books (whole "number" "isbn")]⟩, none⟩
  let s' : Settings :=
    ⟨.standard, ⟨.ofList [books (whole "title" "reverse"), ("article", articles)]⟩, none⟩
  have hs : Settings.ofText numberedBooks = .ok s := by decide +kernel
  have hs' : Settings.ofText invertedNames = .ok s' := by decide +kernel
  have hknown : ofSettings s = .ok (standard s) :=
    checked_eq_ok_iff.2 ⟨by decide +kernel, rfl⟩
  have hfind : (standard s').catalog.normalizerReferences.find?
      (fun r => !(standard s').normalizers.contains r.normalizer) =
        some ⟨"article", "author", "invert"⟩ := by
    decide +kernel
  have hunknown : ofSettings s' = .error (.unknownNormalizer "article" "author" "invert") := by
    rw [ofSettings, checked, hfind]
  refine ⟨s, s', hs, hs', ((ofSettings_normalizers s).1 _ hknown).2 "book", hunknown, ?_⟩
  intro path f name hf hname hnone
  have hfirst := (ofSettings_normalizers s').2 _ _ _ (.ofText hs') hunknown
  rcases hfirst.2 "article" path f name hf hname hnone with hlt | ⟨-, hle⟩
  · exact absurd hlt (String.lt_irrefl _)
  · exact hle

end CatalogSearch.Compiler
