import CatalogSearch.Comparator.Dispatch
import CatalogSearch.Proofs.Except
import CatalogSearch.Proofs.Query.Shape

/-!
The shape of the queries that strategies make. Every strategy of the query language makes unmixed
queries on every kind of target; the only condition is that a group has members, without which a
choice between them would be empty.
-/

namespace CatalogSearch

/-- A strategy that makes unmixed queries. -/
structure Strategy.Unmixed (s : Strategy) : Prop where
  onGroup : ∀ v members, members ≠ [] → Yields Query.Unmixed (s.onGroup v members)
  onFulltext : ∀ v t modifiers, Yields Query.Unmixed (s.onFulltext v t modifiers)
  onTerm : ∀ v field, Yields Query.Unmixed (s.onTerm v field)

namespace Strategy

/-! ### The queries that strategies are built from -/

theorem unmixed_anyOf {queries : List Query} (hne : queries ≠ [])
    (h : ∀ q ∈ queries, q.Unmixed) : (anyOf queries).Unmixed :=
  .choice queries hne h

theorem unmixed_noneOf {q : Query} (h : q.Unmixed) : (noneOf q).Unmixed :=
  .demands [] [q] (by simp) (by simp) (List.forall_mem_singleton.2 h)

theorem unmixed_wordTerms {join : List Query → Query}
    (hjoin : ∀ terms, terms ≠ [] → (∀ q ∈ terms, q.Unmixed) → (join terms).Unmixed)
    (v : Value) (field : String) : (wordTerms join v field).Unmixed := by
  unfold wordTerms
  split
  · exact .term field v
  · exact .term field _
  · next hne _ =>
      apply hjoin
      · simpa using hne
      · intro q hq
        obtain ⟨word, -, rfl⟩ := List.mem_map.1 hq
        exact .term field word

theorem unmixed_anyOf_map {members : List Member} (hne : members ≠ []) {f : Member → Query}
    (h : ∀ m, (f m).Unmixed) : (anyOf (members.map f)).Unmixed := by
  refine unmixed_anyOf (by simpa using hne) ?_
  intro q hq
  obtain ⟨m, -, rfl⟩ := List.mem_map.1 hq
  exact h m

/-! ### The strategies -/

theorem unmixed_equal : equal.Unmixed where
  onGroup _ _ _ := yields_ok (.fulltext ..)
  onFulltext v t modifiers := by
    simp only [equal]
    split
    · exact yields_ok (.term ..)
    · exact yields_ok (.fulltext ..)
  onTerm _ _ := yields_ok (.term ..)

theorem unmixed_exact : exact.Unmixed where
  onGroup _ _ hne := yields_ok (unmixed_anyOf_map hne fun _ => .term ..)
  onFulltext _ _ _ := yields_ok (.term ..)
  onTerm _ _ := yields_ok (.term ..)

theorem unmixed_all : all.Unmixed where
  onGroup _ _ _ := yields_ok (.fulltext ..)
  onFulltext _ _ _ := yields_ok (.fulltext ..)
  onTerm v field := by
    apply yields_ok
    apply unmixed_wordTerms
    intro terms hne hterms
    exact .demands terms [] (by simpa using hne) hterms (by simp)

theorem unmixed_any : any.Unmixed where
  onGroup _ _ _ := yields_ok (.fulltext ..)
  onFulltext _ _ _ := yields_ok (.fulltext ..)
  onTerm v field := yields_ok (unmixed_wordTerms (fun _ => unmixed_anyOf) v field)

theorem unmixed_adjacent : adjacent.Unmixed where
  onGroup _ _ _ := yields_ok (.fulltext ..)
  onFulltext _ _ _ := yields_ok (.fulltext ..)
  onTerm _ _ := yields_ok (.term ..)

theorem unmixed_notEqual : notEqual.Unmixed where
  onGroup _ _ _ := yields_ok (unmixed_noneOf (.fulltext ..))
  onFulltext _ _ _ := yields_ok (unmixed_noneOf (.fulltext ..))
  onTerm _ _ := yields_ok (unmixed_noneOf (.term ..))

theorem unmixed_relational (name comparator : String) (range : String → Value → Range) :
    (relational name comparator range).Unmixed where
  onGroup _ _ _ := yields_error _ _
  onFulltext _ _ _ := yields_ok (.range _)
  onTerm _ _ := yields_ok (.range _)

theorem unmixed_wildcard : wildcard.Unmixed where
  onGroup _ _ hne := yields_ok (unmixed_anyOf_map hne fun _ => .wildcard ..)
  onFulltext _ _ _ := yields_ok (.wildcard ..)
  onTerm _ _ := yields_ok (.wildcard ..)

theorem unmixed_of_mem_standard {s : Strategy} (h : s ∈ standard) : s.Unmixed := by
  simp only [standard, List.mem_cons, List.not_mem_nil, or_false] at h
  rcases h with rfl | rfl | rfl | rfl | rfl | rfl | rfl | rfl | rfl | rfl | rfl
  · exact unmixed_equal
  · exact unmixed_exact
  · exact unmixed_all
  · exact unmixed_any
  · exact unmixed_adjacent
  · exact unmixed_notEqual
  · exact unmixed_relational ..
  · exact unmixed_relational ..
  · exact unmixed_relational ..
  · exact unmixed_relational ..
  · exact unmixed_wildcard

end Strategy

namespace Dispatch

/-- A table all of whose strategies make unmixed queries. -/
def Unmixed (d : Dispatch) : Prop := ∀ comparator s, d.lookup comparator = some s → s.Unmixed

theorem mem_standard_of_lookup {comparator : String} {s : Strategy}
    (h : standard.lookup comparator = some s) : s ∈ Strategy.standard := by
  obtain ⟨owner, howner, h⟩ := List.mem_flatMap.1 (NameTable.mem_of_get?_ofList h)
  obtain ⟨token, -, hentry⟩ := List.mem_map.1 h
  obtain ⟨-, rfl⟩ := Prod.mk.inj hentry
  exact howner

theorem mem_comparators_of_lookup {comparator : String} {s : Strategy}
    (h : standard.lookup comparator = some s) : comparator ∈ s.comparators := by
  obtain ⟨owner, -, h⟩ := List.mem_flatMap.1 (NameTable.mem_of_get?_ofList h)
  obtain ⟨token, htoken, hentry⟩ := List.mem_map.1 h
  obtain ⟨rfl, rfl⟩ := Prod.mk.inj hentry
  exact htoken

/-- Each comparator of the query language belongs to the strategy that lists it. -/
theorem lookup_standard {s : Strategy} {token : String} (hs : s ∈ Strategy.standard)
    (htoken : token ∈ s.comparators) : standard.lookup token = some s := by
  apply NameTable.get?_ofList_of_mem
  · decide
  · exact List.mem_flatMap.2 ⟨s, hs, List.mem_map.2 ⟨token, htoken, rfl⟩⟩

theorem unmixed_standard : standard.Unmixed :=
  fun _ _ h => Strategy.unmixed_of_mem_standard (mem_standard_of_lookup h)

end Dispatch

end CatalogSearch
