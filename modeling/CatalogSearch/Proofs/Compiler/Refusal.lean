import CatalogSearch.Proofs.Compiler.Shape

/-!
Why a clause has no query. A clause is turned down at one of the steps from its index to its query:
the index leads nowhere, the normalizer of the target or the comparator is not known, or the target
does not take the comparator, the pattern or the value.
-/

namespace CatalogSearch

/-! ### Strategies -/

/-- A strategy that fails only by refusing a kind of target. -/
structure Strategy.OnlyRefuses (s : Strategy) : Prop where
  onGroup : ∀ v members err, s.onGroup v members = .error err →
    ∃ name kind, err = .unsupported (.target name kind)
  onFulltext : ∀ v t modifiers err, s.onFulltext v t modifiers = .error err →
    ∃ name kind, err = .unsupported (.target name kind)
  onTerm : ∀ v field err, s.onTerm v field = .error err →
    ∃ name kind, err = .unsupported (.target name kind)

namespace Strategy

/-- A strategy that takes every target. -/
theorem onlyRefuses_of_total {s : Strategy}
    (hgroup : ∀ v members, ∃ q, s.onGroup v members = .ok q)
    (hfulltext : ∀ v t modifiers, ∃ q, s.onFulltext v t modifiers = .ok q)
    (hterm : ∀ v field, ∃ q, s.onTerm v field = .ok q) : s.OnlyRefuses where
  onGroup v members err h := by
    obtain ⟨q, hq⟩ := hgroup v members
    cases hq.symm.trans h
  onFulltext v t modifiers err h := by
    obtain ⟨q, hq⟩ := hfulltext v t modifiers
    cases hq.symm.trans h
  onTerm v field err h := by
    obtain ⟨q, hq⟩ := hterm v field
    cases hq.symm.trans h

theorem onlyRefuses_equal : equal.OnlyRefuses := by
  refine onlyRefuses_of_total (fun _ _ => ⟨_, rfl⟩) ?_ (fun _ _ => ⟨_, rfl⟩)
  intro v t modifiers
  simp only [equal]
  split
  · exact ⟨_, rfl⟩
  · exact ⟨_, rfl⟩

theorem onlyRefuses_relational (name comparator : String) (range : String → Value → Range) :
    (relational name comparator range).OnlyRefuses where
  onGroup _ _ _ h := ⟨name, "multi-field groups", (Except.error.inj h).symm⟩
  onFulltext _ _ _ _ h := by cases h
  onTerm _ _ _ h := by cases h

theorem onlyRefuses_of_mem_standard {s : Strategy} (h : s ∈ standard) : s.OnlyRefuses := by
  simp only [standard, List.mem_cons, List.not_mem_nil, or_false] at h
  rcases h with rfl | rfl | rfl | rfl | rfl | rfl | rfl | rfl | rfl | rfl | rfl
  · exact onlyRefuses_equal
  · exact onlyRefuses_of_total (fun _ _ => ⟨_, rfl⟩) (fun _ _ _ => ⟨_, rfl⟩) (fun _ _ => ⟨_, rfl⟩)
  · exact onlyRefuses_of_total (fun _ _ => ⟨_, rfl⟩) (fun _ _ _ => ⟨_, rfl⟩) (fun _ _ => ⟨_, rfl⟩)
  · exact onlyRefuses_of_total (fun _ _ => ⟨_, rfl⟩) (fun _ _ _ => ⟨_, rfl⟩) (fun _ _ => ⟨_, rfl⟩)
  · exact onlyRefuses_of_total (fun _ _ => ⟨_, rfl⟩) (fun _ _ _ => ⟨_, rfl⟩) (fun _ _ => ⟨_, rfl⟩)
  · exact onlyRefuses_of_total (fun _ _ => ⟨_, rfl⟩) (fun _ _ _ => ⟨_, rfl⟩) (fun _ _ => ⟨_, rfl⟩)
  · exact onlyRefuses_relational ..
  · exact onlyRefuses_relational ..
  · exact onlyRefuses_relational ..
  · exact onlyRefuses_relational ..
  · exact onlyRefuses_of_total (fun _ _ => ⟨_, rfl⟩) (fun _ _ _ => ⟨_, rfl⟩) (fun _ _ => ⟨_, rfl⟩)

end Strategy

/-- A table all of whose strategies fail only by refusing a kind of target. -/
def Dispatch.OnlyRefuses (d : Dispatch) : Prop :=
  ∀ comparator s, d.lookup comparator = some s → s.OnlyRefuses

theorem Dispatch.onlyRefuses_standard : standard.OnlyRefuses :=
  fun _ _ h => Strategy.onlyRefuses_of_mem_standard (mem_standard_of_lookup h)

namespace Compiler

variable {c : Compiler} {resource : String}

/-! ### The steps of a clause -/

theorem normalizedValue_eq_error {t : Target} {term : String} {err : CompileError}
    (h : c.normalizedValue resource t term = .error err) :
    ∃ name, t.normalizer? c.catalog resource = some name ∧ c.normalizers.contains name = false ∧
      err = .unsupported (.normalizer name) := by
  rw [normalizedValue] at h
  cases hname : t.normalizer? c.catalog resource with
  | none =>
      rw [hname] at h
      cases h
  | some name =>
      rw [hname] at h
      simp only at h
      split at h
      · cases h
      · next hnone =>
          refine ⟨name, rfl, ?_, (Except.error.inj h).symm⟩
          exact NameTable.contains_eq_false_iff.2 (Option.map_eq_none_iff.1 hnone)

theorem strategyFor_eq_error {v : Value} {comparator : String} {err : CompileError}
    (h : c.strategyFor v comparator = .error err) :
    err = .unsupported (.comparator comparator) := by
  simp only [strategyFor] at h
  split at h
  · cases h
  · exact (Except.error.inj h).symm

theorem checkValue_eq_error {f : Field} {v : Value} {err : CompileError}
    (h : checkValue f v = .error err) : ∃ s reason, err = .invalidValue f.path s reason := by
  cases v with
  | long n => cases h
  | text s =>
      simp only [checkValue] at h
      split at h
      · cases h
      · next reason _ => exact ⟨s, reason, (Except.error.inj h).symm⟩

/-- What a target does not take: a kind of comparator, a pattern, or a value that is not of its
type. -/
inductive TargetFault : Target → CompileError → Prop where
  | comparator (t : Target) (strategy kind : String) :
      TargetFault t (.unsupported (.target strategy kind))
  | pattern (f : Field) (h : f.valueType ≠ .keyword) :
      TargetFault (.field f) (.unsupported (.wildcard f.valueType.text f.path))
  | value (f : Field) (s reason : String) : TargetFault (.field f) (.invalidValue f.path s reason)

theorem targetFault_of_targetQuery {k : Catalog} {s : Strategy} (hs : s.OnlyRefuses) {v : Value}
    {modifiers : List Modifier} {t : Target} {err : CompileError}
    (h : targetQuery k resource s v modifiers t = .error err) : TargetFault t err := by
  cases t with
  | group members =>
      obtain ⟨name, kind, rfl⟩ := hs.onGroup _ _ _ h
      exact .comparator _ name kind
  | field f =>
      rw [targetQuery] at h
      split at h
      · obtain ⟨name, kind, rfl⟩ := hs.onFulltext _ _ _ _ h
        exact .comparator _ name kind
      · split at h
        · next hpattern =>
            obtain rfl := Except.error.inj h
            exact .pattern f (of_decide_eq_true (Bool.and_eq_true_iff.1 hpattern).2)
        · rcases bind_eq_error_iff.1 h with h | ⟨w, -, h⟩
          · obtain ⟨text, reason, rfl⟩ := checkValue_eq_error h
            exact .value f text reason
          · obtain ⟨name, kind, rfl⟩ := hs.onTerm _ _ _ h
            exact .comparator _ name kind

/-! ### The clause -/

/-- Why a clause has no query. -/
inductive ClauseFault (c : Compiler) (resource : String) (clause : Clause) :
    CompileError → Prop where
  | index (h : target? c.catalog resource (c.catalog.resolveAlias resource clause.index) = none) :
      ClauseFault c resource clause
        (.invalidField (c.catalog.resolveAlias resource clause.index) resource)
  | normalizer {t : Target} {name : String}
      (ht : target? c.catalog resource (c.catalog.resolveAlias resource clause.index) = some t)
      (hname : t.normalizer? c.catalog resource = some name)
      (hunknown : c.normalizers.contains name = false) :
      ClauseFault c resource clause (.unsupported (.normalizer name))
  | comparator : ClauseFault c resource clause (.unsupported (.comparator clause.comparator))
  | target {t : Target} {err : CompileError}
      (ht : target? c.catalog resource (c.catalog.resolveAlias resource clause.index) = some t)
      (h : TargetFault t err) : ClauseFault c resource clause err

/-- The error of a clause is that of the step at which it was turned down. -/
theorem clauseFault_of_clauseQuery (hdispatch : c.dispatch.OnlyRefuses) {clause : Clause}
    {err : CompileError} (h : c.clauseQuery resource clause = .error err) :
    ClauseFault c resource clause err := by
  simp only [clauseQuery] at h
  split at h
  · cases h
  · cases ht : target? c.catalog resource (c.catalog.resolveAlias resource clause.index) with
    | none =>
        rw [ht] at h
        obtain rfl := Except.error.inj h
        exact .index ht
    | some t =>
        rw [ht] at h
        rcases bind_eq_error_iff.1 h with h | ⟨v, -, h⟩
        · obtain ⟨name, hname, hunknown, rfl⟩ := normalizedValue_eq_error h
          exact .normalizer ht hname hunknown
        · rcases bind_eq_error_iff.1 h with h | ⟨s, hs, h⟩
          · obtain rfl := strategyFor_eq_error h
            exact .comparator
          · have hrefuses := hdispatch _ s (strategyFor_eq_ok_iff.1 hs)
            exact .target ht (targetFault_of_targetQuery hrefuses h)

end Compiler

end CatalogSearch
