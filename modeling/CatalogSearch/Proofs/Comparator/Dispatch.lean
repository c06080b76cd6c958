import CatalogSearch.Comparator.Dispatch
import CatalogSearch.Proofs.Except
import Mathlib.Data.List.Induction

/-!
Owners of comparators. Strategies claim their comparators one after the other, and a comparator that
is taken cannot be claimed again, by another strategy or by the same one. As long as no claim fails,
the table holds what has been claimed. So the table can be set up exactly if no comparator is listed
twice, and otherwise the first claim of a comparator that is taken is reported.
-/

namespace CatalogSearch.Dispatch

/-- The claims of strategies in the order in which they are made: comparators with the strategies
that list them. -/
def claims (strategies : List Strategy) : List (String × Strategy) :=
  strategies.flatMap fun s => s.comparators.map fun comparator => (comparator, s)

theorem map_fst_claims (strategies : List Strategy) :
    (claims strategies).map Prod.fst = strategies.flatMap Strategy.comparators := by
  simp only [claims, List.map_flatMap, List.map_map]
  congr 1
  funext s
  exact List.map_id _

theorem mem_claims_iff {strategies : List Strategy} {comparator : String} {s : Strategy} :
    (comparator, s) ∈ claims strategies ↔ s ∈ strategies ∧ comparator ∈ s.comparators := by
  simp only [claims, List.mem_flatMap, List.mem_map, Prod.mk.injEq]
  constructor
  · intro ⟨owner, howner, token, htoken, heq, hs⟩
    subst heq hs
    exact ⟨howner, htoken⟩
  · intro ⟨hs, hcomparator⟩
    exact ⟨s, hs, comparator, hcomparator, rfl, rfl⟩

/-! ### One claim after the other -/

/-- A single claim. -/
def register (owners : NameTable Strategy) (entry : String × Strategy) :
    Except RegistryError (NameTable Strategy) :=
  match owners.get? entry.1 with
  | some owner => .error (.duplicateComparator entry.1 owner.name entry.2.name)
  | none => .ok (owners.insert entry.1 entry.2)

theorem claim_eq_foldlM (s : Strategy) (owners : NameTable Strategy) (comparators : List String) :
    claim s owners comparators = (comparators.map fun c => (c, s)).foldlM register owners := by
  induction comparators generalizing owners with
  | nil => rfl
  | cons comparator rest ih =>
      rw [List.map_cons, List.foldlM_cons, claim, register]
      cases owners.get? comparator with
      | some owner => rfl
      | none => exact ih (owners.insert comparator s)

/-- The loop over strategies and the loops over their comparators are one loop over all claims. -/
theorem foldlM_claim (strategies : List Strategy) (owners : NameTable Strategy) :
    strategies.foldlM (fun owners s => claim s owners s.comparators) owners =
      (claims strategies).foldlM register owners := by
  induction strategies generalizing owners with
  | nil => rfl
  | cons s rest ih =>
      rw [List.foldlM_cons, claims, List.flatMap_cons, List.foldlM_append, claim_eq_foldlM]
      apply bind_congr
      intro owners'
      exact ih owners'

variable {entries : List (String × Strategy)} {comparator : String} {first second : Strategy}

theorem register_of_notMem (h : comparator ∉ entries.map Prod.fst) :
    register (.ofList entries) (comparator, second) =
      .ok (.ofList (entries ++ [(comparator, second)])) := by
  have hnone : (NameTable.ofList entries).get? comparator = none :=
    (NameTable.get?_foldl_of_notMem h).trans (NameTable.get?_empty comparator)
  rw [register, hnone, NameTable.ofList, NameTable.ofList, List.foldl_append]
  rfl

theorem register_of_mem (hnodup : (entries.map Prod.fst).Nodup)
    (h : (comparator, first) ∈ entries) :
    register (.ofList entries) (comparator, second) =
      .error (.duplicateComparator comparator first.name second.name) := by
  rw [register, NameTable.get?_ofList_of_mem hnodup h]

theorem nodup_concat_iff : ((entries ++ [(comparator, second)]).map Prod.fst).Nodup ↔
    comparator ∉ entries.map Prod.fst ∧ (entries.map Prod.fst).Nodup := by
  rw [List.map_append, List.map_singleton, (List.perm_append_singleton _ _).nodup_iff,
    List.nodup_cons]

/-- Claims of different comparators succeed, and the table holds them, by induction on the claims
from the last one. -/
theorem foldlM_register_of_nodup (h : (entries.map Prod.fst).Nodup) :
    entries.foldlM register .empty = .ok (.ofList entries) := by
  induction entries using List.reverseRecOn with
  | nil => rfl
  | append_singleton entries entry ih =>
      obtain ⟨hfresh, hnodup⟩ := nodup_concat_iff.1 h
      rw [List.foldlM_append, ih hnodup]
      show register (.ofList entries) entry >>= pure = _
      rw [bind_pure, register_of_notMem hfresh]

/-- The first claim of a comparator that is taken ends the loop. -/
theorem foldlM_register_of_mem (hnodup : (entries.map Prod.fst).Nodup)
    (h : (comparator, first) ∈ entries) (after : List (String × Strategy)) :
    (entries ++ (comparator, second) :: after).foldlM register .empty =
      .error (.duplicateComparator comparator first.name second.name) := by
  rw [List.foldlM_append, foldlM_register_of_nodup hnodup]
  show register (.ofList entries) (comparator, second) >>= _ = _
  rw [register_of_mem hnodup h]
  rfl

/-- Of claims that repeat a comparator, one is the first to do so. -/
theorem exists_first_repetition (h : ¬ (entries.map Prod.fst).Nodup) :
    ∃ before comparator first second after, entries = before ++ (comparator, second) :: after ∧
      (before.map Prod.fst).Nodup ∧ (comparator, first) ∈ before := by
  induction entries using List.reverseRecOn with
  | nil => exact absurd List.nodup_nil h
  | append_singleton entries entry ih =>
      obtain ⟨comparator, second⟩ := entry
      by_cases hnodup : (entries.map Prod.fst).Nodup
      · have htaken : comparator ∈ entries.map Prod.fst := by
          by_contra hfresh
          exact h (nodup_concat_iff.2 ⟨hfresh, hnodup⟩)
        obtain ⟨⟨_, first⟩, hfirst, rfl⟩ := List.mem_map.1 htaken
        exact ⟨entries, _, first, second, [], rfl, hnodup, hfirst⟩
      · obtain ⟨before, comparator', first, second', after, rfl, hbefore, hfirst⟩ := ih hnodup
        refine ⟨before, comparator', first, second', after ++ [(comparator, second)], ?_, hbefore,
          hfirst⟩
        rw [List.append_assoc, List.cons_append]

/-! ### The table -/

theorem ofStrategies_eq (strategies : List Strategy) :
    ofStrategies strategies = Dispatch.mk <$> (claims strategies).foldlM register .empty := by
  rw [ofStrategies, foldlM_claim]
  rfl

theorem ofStrategies_of_nodup {strategies : List Strategy}
    (h : ((claims strategies).map Prod.fst).Nodup) :
    ofStrategies strategies = .ok ⟨.ofList (claims strategies)⟩ := by
  rw [ofStrategies_eq, foldlM_register_of_nodup h]
  rfl

theorem ofStrategies_of_mem {strategies : List Strategy} {before after : List (String × Strategy)}
    (hclaims : claims strategies = before ++ (comparator, second) :: after)
    (hnodup : (before.map Prod.fst).Nodup) (h : (comparator, first) ∈ before) :
    ofStrategies strategies = .error (.duplicateComparator comparator first.name second.name) := by
  rw [ofStrategies_eq, hclaims, foldlM_register_of_mem hnodup h]
  rfl

theorem ofStrategies_eq_ok_iff {strategies : List Strategy} {d : Dispatch} :
    ofStrategies strategies = .ok d ↔
      ((claims strategies).map Prod.fst).Nodup ∧ d = ⟨.ofList (claims strategies)⟩ := by
  by_cases h : ((claims strategies).map Prod.fst).Nodup
  · rw [ofStrategies_of_nodup h, and_iff_right h, Except.ok.injEq]
    exact eq_comm
  · obtain ⟨before, comparator, first, second, after, hclaims, hnodup, hfirst⟩ :=
      exists_first_repetition h
    rw [ofStrategies_of_mem hclaims hnodup hfirst]
    exact iff_of_false nofun fun h' => h h'.1

theorem ofStrategies_eq_error_iff {strategies : List Strategy} {err : RegistryError} :
    ofStrategies strategies = .error err ↔ ∃ before comparator first second after,
      claims strategies = before ++ (comparator, second) :: after ∧
        (before.map Prod.fst).Nodup ∧ (comparator, first) ∈ before ∧
          err = .duplicateComparator comparator first.name second.name := by
  constructor
  · intro herr
    have hrepeated : ¬ ((claims strategies).map Prod.fst).Nodup := by
      intro h
      rw [ofStrategies_of_nodup h] at herr
      cases herr
    obtain ⟨before, comparator, first, second, after, hclaims, hnodup, hfirst⟩ :=
      exists_first_repetition hrepeated
    rw [ofStrategies_of_mem hclaims hnodup hfirst] at herr
    exact ⟨before, comparator, first, second, after, hclaims, hnodup, hfirst,
      (Except.error.inj herr).symm⟩
  · intro ⟨before, comparator, first, second, after, hclaims, hnodup, hfirst, herr⟩
    rw [herr]
    exact ofStrategies_of_mem hclaims hnodup hfirst

theorem lookup_ofList_claims {strategies : List Strategy}
    (h : ((claims strategies).map Prod.fst).Nodup) (comparator : String) (s : Strategy) :
    (Dispatch.mk (.ofList (claims strategies))).lookup comparator = some s ↔
      s ∈ strategies ∧ comparator ∈ s.comparators :=
  (NameTable.get?_ofList_iff h).trans mem_claims_iff

/-- The comparators of a table are those that have an owner, in order. -/
theorem mem_comparators_iff {d : Dispatch} {comparator : String} :
    comparator ∈ d.comparators ↔ ∃ s, d.lookup comparator = some s :=
  NameTable.mem_names_iff.trans Option.isSome_iff_exists

/-- **Every comparator has one owner.** A table of strategies can be set up exactly if no comparator
is listed twice. Then the owner of a comparator is the strategy that lists it, what nobody lists has
no owner, and the comparators of the table are all that are listed, in ascending order. Otherwise
the error names the first comparator that was listed before, with the strategy that was there first
and the one that claims it again. -/
theorem ofStrategies_owners (strategies : List Strategy) :
    ((∃ d, ofStrategies strategies = .ok d) ↔
      (strategies.flatMap Strategy.comparators).Nodup) ∧
    (∀ d, ofStrategies strategies = .ok d →
      (∀ comparator s, d.lookup comparator = some s ↔
        s ∈ strategies ∧ comparator ∈ s.comparators) ∧
      (∀ comparator, d.lookup comparator = none ↔
        ∀ s ∈ strategies, comparator ∉ s.comparators) ∧
      d.comparators.Pairwise (· < ·) ∧
      d.comparators.Perm (strategies.flatMap Strategy.comparators)) ∧
    ∀ err, ofStrategies strategies = .error err ↔ ∃ before comparator first second after,
      claims strategies = before ++ (comparator, second) :: after ∧
        (before.map Prod.fst).Nodup ∧ (comparator, first) ∈ before ∧
          err = .duplicateComparator comparator first.name second.name := by
  refine ⟨?_, ?_, fun err => ofStrategies_eq_error_iff⟩
  · rw [← map_fst_claims]
    constructor
    · intro ⟨d, hd⟩
      exact (ofStrategies_eq_ok_iff.1 hd).1
    · intro h
      exact ⟨_, ofStrategies_of_nodup h⟩
  · intro d hd
    obtain ⟨hnodup, rfl⟩ := ofStrategies_eq_ok_iff.1 hd
    have howner := lookup_ofList_claims hnodup
    have hperm : (Dispatch.mk (.ofList (claims strategies))).comparators.Perm
        (strategies.flatMap Strategy.comparators) := by
      rw [← map_fst_claims]
      apply (List.perm_ext_iff_of_nodup (NameTable.names_nodup _) hnodup).2
      intro comparator
      rw [map_fst_claims, List.mem_flatMap]
      exact mem_comparators_iff.trans (exists_congr (howner comparator))
    refine ⟨howner, fun comparator => ?_, NameTable.names_ordered _, hperm⟩
    simp only [Option.eq_none_iff_forall_ne_some, ne_eq, howner, not_and]

/-- The strategies of the query language share no comparator; a strategy that lists its comparator
twice is reported as both owners. -/
theorem ofStrategies_owners_standard :
    ofStrategies Strategy.standard = .ok standard ∧
      (∀ comparator, standard.lookup comparator = none ↔
        comparator ∉ Strategy.standard.flatMap Strategy.comparators) ∧
      ofStrategies [.equal, .refusing "twice" ["same", "same"]] =
        .error (.duplicateComparator "same" "twice" "twice") := by
  have hnodup : (Strategy.standard.flatMap Strategy.comparators).Nodup := by decide
  have hstandard : ofStrategies Strategy.standard = .ok standard :=
    ofStrategies_of_nodup (map_fst_claims Strategy.standard ▸ hnodup)
  refine ⟨hstandard, fun comparator => ?_, ?_⟩
  · have hnone := ((ofStrategies_owners Strategy.standard).2.1 standard hstandard).2.1 comparator
    simp only [hnone, List.mem_flatMap, not_exists, not_and]
  · apply ((ofStrategies_owners _).2.2 _).2
    exact ⟨[("=", .equal), ("same", .refusing "twice" ["same", "same"])], "same",
      .refusing "twice" ["same", "same"], .refusing "twice" ["same", "same"], [], rfl, by decide,
      List.mem_cons_of_mem _ List.mem_cons_self, rfl⟩

end CatalogSearch.Dispatch
