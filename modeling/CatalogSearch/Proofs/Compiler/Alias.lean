import CatalogSearch.Proofs.Catalog.WellFormed
import CatalogSearch.Proofs.Compiler.Shape

/-!
Names behind aliases. A name is replaced by what it stands for once, before anything is looked up
under it, in clauses as in the keys of a sort, so an alias and its target go the same way and errors
speak of the target. Only the two ways to ask for all records are told by the name as it is written,
before the aliases are looked at. They are the difference that an alias can make.
-/

namespace CatalogSearch

/-! ### Aliases -/

namespace Catalog

/-- What a name stands for, if it is an alias. -/
def alias? (k : Catalog) (resource name : String) : Option String := do
  (← k.resource? resource).aliases.get? name

/-- A name that is an alias of another one, which is no alias itself. -/
structure StandsFor (k : Catalog) (resource name target : String) : Prop where
  stands : k.alias? resource name = some target
  final : k.alias? resource target = none

theorem resolveAlias_eq_getD (k : Catalog) (resource name : String) :
    k.resolveAlias resource name = (k.alias? resource name).getD name := by
  rw [resolveAlias, alias?]
  cases k.resource? resource <;> rfl

/-- An alias and its target lead to the same name. -/
theorem StandsFor.resolveAlias_eq {k : Catalog} {resource name target : String}
    (h : k.StandsFor resource name target) :
    k.resolveAlias resource name = k.resolveAlias resource target :=
  calc k.resolveAlias resource name = target := by
        rw [resolveAlias_eq_getD, h.stands, Option.getD_some]
    _ = k.resolveAlias resource target := by
        rw [resolveAlias_eq_getD, h.final, Option.getD_none]

/-- Of the name of a key only what it stands for matters. -/
theorem resolve_congr {k : Catalog} {resource name name' : String}
    (h : k.resolveAlias resource name = k.resolveAlias resource name')
    (modifiers : List Modifier) :
    SortIndex.resolve k resource ⟨name, modifiers⟩ =
      SortIndex.resolve k resource ⟨name', modifiers⟩ := by
  simp only [SortIndex.resolve, h]

theorem resolveSort_congr {k : Catalog} {resource : String} {i j : SortIndex}
    (h : i.resolve k resource = j.resolve k resource) (before after : List SortIndex) :
    k.resolveSort resource (before ++ i :: after) =
      k.resolveSort resource (before ++ j :: after) := by
  have hkeys : (before ++ i :: after).mapM (SortIndex.resolve k resource) =
      (before ++ j :: after).mapM (SortIndex.resolve k resource) := by
    rw [List.mapM_append, List.mapM_append, List.mapM_cons, List.mapM_cons, h]
  rw [resolveSort, resolveSort, hkeys]

end Catalog

/-! ### All records -/

/-- A strategy that never asks for all records. -/
structure Strategy.Selects (s : Strategy) : Prop where
  onGroup : ∀ v members, s.onGroup v members ≠ .ok .matchAll
  onFulltext : ∀ v t modifiers, s.onFulltext v t modifiers ≠ .ok .matchAll
  onTerm : ∀ v field, s.onTerm v field ≠ .ok .matchAll

namespace Strategy

theorem ok_wordTerms_ne_matchAll {join : List Query → Query}
    (hjoin : ∀ terms, join terms ≠ .matchAll) (v : Value) (field : String) :
    (.ok (wordTerms join v field) : Except CompileError Query) ≠ .ok .matchAll := by
  unfold wordTerms
  intro h
  split at h
  · cases h
  · cases h
  · exact hjoin _ (Except.ok.inj h)

theorem selects_equal : equal.Selects where
  onGroup _ _ h := by cases h
  onFulltext v t modifiers h := by
    simp only [equal] at h
    split at h
    · cases h
    · cases h
  onTerm _ _ h := by cases h

theorem selects_exact : exact.Selects where
  onGroup _ _ h := by cases h
  onFulltext _ _ _ h := by cases h
  onTerm _ _ h := by cases h

theorem selects_all : all.Selects where
  onGroup _ _ h := by cases h
  onFulltext _ _ _ h := by cases h
  onTerm := ok_wordTerms_ne_matchAll fun _ h => by cases h

theorem selects_any : any.Selects where
  onGroup _ _ h := by cases h
  onFulltext _ _ _ h := by cases h
  onTerm := ok_wordTerms_ne_matchAll fun _ h => by cases h

theorem selects_adjacent : adjacent.Selects where
  onGroup _ _ h := by cases h
  onFulltext _ _ _ h := by cases h
  onTerm _ _ h := by cases h

theorem selects_notEqual : notEqual.Selects where
  onGroup _ _ h := by cases h
  onFulltext _ _ _ h := by cases h
  onTerm _ _ h := by cases h

theorem selects_relational (name comparator : String) (range : String → Value → Range) :
    (relational name comparator range).Selects where
  onGroup _ _ h := by cases h
  onFulltext _ _ _ h := by cases h
  onTerm _ _ h := by cases h

theorem selects_wildcard : wildcard.Selects where
  onGroup _ _ h := by cases h
  onFulltext _ _ _ h := by cases h
  onTerm _ _ h := by cases h

theorem selects_of_mem_standard {s : Strategy} (h : s ∈ standard) : s.Selects := by
  simp only [standard, List.mem_cons, List.not_mem_nil, or_false] at h
  rcases h with rfl | rfl | rfl | rfl | rfl | rfl | rfl | rfl | rfl | rfl | rfl
  · exact selects_equal
  · exact selects_exact
  · exact selects_all
  · exact selects_any
  · exact selects_adjacent
  · exact selects_notEqual
  · exact selects_relational ..
  · exact selects_relational ..
  · exact selects_relational ..
  · exact selects_relational ..
  · exact selects_wildcard

end Strategy

namespace Compiler

variable {c : Compiler} {resource : String}

theorem targetQuery_ne_matchAll {k : Catalog} {s : Strategy} (hs : s.Selects) (v : Value)
    (modifiers : List Modifier) (t : Target) :
    targetQuery k resource s v modifiers t ≠ .ok .matchAll := by
  intro h
  cases t with
  | group members => exact hs.onGroup _ _ h
  | field f =>
      rw [targetQuery] at h
      split at h
      · exact hs.onFulltext _ _ _ h
      · split at h
        · cases h
        · obtain ⟨w, -, h⟩ := bind_eq_ok_iff.1 h
          exact hs.onTerm _ _ h

/-- No clause finds all records but those that ask for them. -/
theorem clauseQuery_eq_matchAll_iff (hd : c.dispatch = .standard) {clause : Clause} :
    c.clauseQuery resource clause = .ok .matchAll ↔ isMatchAll clause = true := by
  rw [clauseQuery_eq_ok_iff]
  constructor
  · rintro (⟨hall, -⟩ | ⟨-, t, v, s, -, -, hs, h⟩)
    · exact hall
    · have hmem := Dispatch.mem_standard_of_lookup (hd ▸ strategyFor_eq_ok_iff.1 hs)
      exact absurd h (targetQuery_ne_matchAll (Strategy.selects_of_mem_standard hmem) v _ t)
  · intro hall
    exact Or.inl ⟨hall, rfl⟩

/-! ### Clauses -/

/-- Of the index of a clause only what it stands for matters, and whether the clause asks for all
records. -/
theorem clauseQuery_congr {name name' comparator term : String} {modifiers : List Modifier}
    (hpath : c.catalog.resolveAlias resource name = c.catalog.resolveAlias resource name')
    (hall : isMatchAll ⟨name, comparator, term, modifiers⟩ =
      isMatchAll ⟨name', comparator, term, modifiers⟩) :
    c.clauseQuery resource ⟨name, comparator, term, modifiers⟩ =
      c.clauseQuery resource ⟨name', comparator, term, modifiers⟩ := by
  simp only [clauseQuery, hpath, hall]

/-- **Aliases can be taken for what they stand for.** A clause on an alias has the query, or the
error, of the same clause on its target, if both ask for all records or neither does. With the
comparators of the query language, clauses of which only one asks for all records differ. A key of a
sort can always be replaced by the same key on the target. -/
theorem clauseQuery_alias (c : Compiler) (resource name target : String)
    (h : c.catalog.StandsFor resource name target) :
    (∀ comparator term modifiers,
      (isMatchAll ⟨name, comparator, term, modifiers⟩ =
          isMatchAll ⟨target, comparator, term, modifiers⟩ →
        c.clauseQuery resource ⟨name, comparator, term, modifiers⟩ =
          c.clauseQuery resource ⟨target, comparator, term, modifiers⟩) ∧
      (c.dispatch = .standard →
        c.clauseQuery resource ⟨name, comparator, term, modifiers⟩ =
          c.clauseQuery resource ⟨target, comparator, term, modifiers⟩ →
        isMatchAll ⟨name, comparator, term, modifiers⟩ =
          isMatchAll ⟨target, comparator, term, modifiers⟩)) ∧
    ∀ before modifiers after,
      c.catalog.resolveSort resource (before ++ ⟨name, modifiers⟩ :: after) =
        c.catalog.resolveSort resource (before ++ ⟨target, modifiers⟩ :: after) := by
  have hpath := h.resolveAlias_eq
  refine ⟨fun comparator term modifiers => ⟨clauseQuery_congr hpath, fun hd hsame => ?_⟩, ?_⟩
  · rw [Bool.eq_iff_iff, ← clauseQuery_eq_matchAll_iff hd, ← clauseQuery_eq_matchAll_iff hd, hsame]
  · intro before modifiers after
    apply Catalog.resolveSort_congr
    exact Catalog.resolve_congr hpath modifiers

/-- A catalog of books in which all names can be searched as keywords, and under an alias. Another
alias bears the name that stands for all records. -/
def library : Compiler where
  catalog := ⟨.ofList [("book",
    { name := "book"
      aliases := .ofList [("anywhere", "keyword"), ("cql.allRecords", "copies")]
      groups := .ofList [("keyword", ["title", "author"])]
      fields := .ofList [
        ("author", ⟨"author", [.fulltext], false, none, .keyword, none⟩),
        ("copies", ⟨"copies", [.filter, .sort], false, none, .long, none⟩),
        ("title", ⟨"title", [.fulltext], true, none, .keyword, none⟩)] })]⟩
  normalizers := .standard
  dispatch := .standard
  browse := .standard

theorem standsFor_library : library.catalog.StandsFor "book" "anywhere" "keyword" ∧
    library.catalog.StandsFor "book" "cql.allRecords" "copies" :=
  ⟨⟨by decide +kernel, by decide +kernel⟩, ⟨by decide +kernel, by decide +kernel⟩⟩

/-- Keywords are searched under either name, patterns among them, but under one of the names a lone
`*` asks for all records. Copies are sorted by under either name, and counted under one of them only
if not a single one is asked for. -/
theorem clauseQuery_alias_library :
    library.clauseQuery "book" ⟨"anywhere", "=", "sea*", []⟩ =
        .ok (.bool [] [.wildcard "plain_title" "sea*", .wildcard "plain_author" "sea*"] [] []) ∧
      library.clauseQuery "book" ⟨"anywhere", "=", "*", []⟩ ≠
        library.clauseQuery "book" ⟨"keyword", "=", "*", []⟩ ∧
      library.clauseQuery "book" ⟨"cql.allRecords", "=", "2", []⟩ =
        .ok (.term "copies" (.long 2)) ∧
      library.catalog.resolveSort "book" [⟨"cql.allRecords", []⟩] =
        .ok [⟨"sort_copies", .ascending, none⟩] := by
  obtain ⟨hanywhere, hcopies⟩ := standsFor_library
  refine ⟨?_, fun hsame => ?_, ?_, ?_⟩
  · exact (((clauseQuery_alias library "book" _ _ hanywhere).1 "=" "sea*" []).1
      (by decide +kernel)).trans (by decide +kernel)
  · have hall := ((clauseQuery_alias library "book" _ _ hanywhere).1 "=" "*" []).2 rfl hsame
    exact absurd hall (by decide +kernel)
  · exact (((clauseQuery_alias library "book" _ _ hcopies).1 "=" "2" []).1
      (by decide +kernel)).trans (by decide +kernel)
  · exact ((clauseQuery_alias library "book" _ _ hcopies).2 [] [] []).trans (by decide +kernel)

/-- Not every clause on an alias can be taken for the one on its target. -/
theorem not_forall_alias_transparent :
    ¬ ∀ (c : Compiler) (resource name target : String), c.dispatch = .standard →
      c.catalog.StandsFor resource name target →
      ∀ comparator term modifiers, c.clauseQuery resource ⟨name, comparator, term, modifiers⟩ =
        c.clauseQuery resource ⟨target, comparator, term, modifiers⟩ := by
  intro h
  have hsame := h library "book" "anywhere" "keyword" rfl standsFor_library.1 "=" "*" []
  have hpattern : library.clauseQuery "book" ⟨"anywhere", "=", "*", []⟩ =
      .ok (.bool [] [.wildcard "plain_title" "*", .wildcard "plain_author" "*"] [] []) := by
    decide +kernel
  have hall : library.clauseQuery "book" ⟨"keyword", "=", "*", []⟩ = .ok .matchAll := by
    decide +kernel
  cases hpattern.symm.trans (hsame.trans hall)

end Compiler

end CatalogSearch
