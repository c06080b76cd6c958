import CatalogSearch.Proofs.Browse.Shape

/-!
What a browse context asks for. The filters of a context and its ranges together find the same
documents as the query that the context was recovered from, so paging through the ranges leaves no
demand of the query out and adds none.
-/

namespace CatalogSearch

/-- Whether a document is within one of the ranges of a context. -/
def BrowseContext.admits (b : BrowseContext) (d : Document) : Bool :=
  b.preceding.any (Range.admits · d) || b.succeeding.any (Range.admits · d)

/-- Whether a document is one that a context pages through. -/
def BrowseContext.finds (b : BrowseContext) (d : Document) : Bool :=
  b.filters.all (Query.finds .always d) && b.admits d

namespace Query

theorem finds_choice_ranges (d : Document) (r s : Range) (filter : List Query) :
    (bool [] [range r, range s] [] filter).finds .always d =
      (filter.all (finds .always d) && (r.admits d || s.admits d)) := by
  rw [finds_bool]
  simp [ChoiceRule.binds, finds]

end Query

namespace BrowseRequest

variable {b : BrowseRequest} {r s : Range} {filters : List Query} {context : BrowseContext}

theorem finds_oneDirection (d : Document) (h : b.oneDirection r filters = .ok context) :
    context.finds d = (filters.all (Query.finds .always d) && r.admits d) := by
  obtain ⟨-, v, ⟨-, rfl⟩ | ⟨-, rfl⟩⟩ := oneDirection_eq_ok_iff.1 h
  · simp [BrowseContext.finds, BrowseContext.admits, pageBefore]
  · simp [BrowseContext.finds, BrowseContext.admits, pageAfter]

theorem finds_aroundRanges (d : Document) (h : b.aroundRanges r s filters = .ok context) :
    context.finds d = (filters.all (Query.finds .always d) && (r.admits d || s.admits d)) := by
  obtain ⟨-, -, v, share, -, ⟨-, -, rfl⟩ | ⟨-, -, rfl⟩⟩ := aroundRanges_eq_ok_iff.1 h
  · rfl
  · rw [Bool.or_comm]
    rfl

/-- **A browse context drops no constraint of its query.** Whatever the shape of the query, a
document is found by it exactly if it passes all filters of the context and is within one of its
ranges, where a choice beside other clauses is always a demand. -/
theorem finds_context (b : BrowseRequest) (search : SearchQuery) (context : BrowseContext)
    (d : Document) (h : b.context search = .ok context) :
    search.query.finds .always d = context.finds d := by
  rcases ofQuery_eq_ok_iff.1 (context_eq_ok_iff.1 h).2 with
    ⟨r, filters, hq, h⟩ | ⟨r, s, inner, outer, hq, h⟩
  · rw [hq, Query.finds_beside, finds_oneDirection d h, Bool.and_comm]
    rfl
  · rw [hq, Query.finds_beside, Query.finds_choice_ranges, finds_aroundRanges d h,
      List.all_append]
    ac_rfl

end BrowseRequest

/-- A novel of which there are five copies. -/
def Document.fiveCopies : Document where
  term field v := field == "genre" && v == .text "novel"
  wildcard _ _ := false
  fulltext _ _ _ := false
  atLeast field v _ := field == "copies" && v == .long 5
  atMost field v inclusive := field == "copies" && v == .long 5 && inclusive

namespace BrowseRequest

/-- The novel is on the page, after the anchor: it passes the filters of both levels. -/
theorem finds_context_fiveCopies :
    let below : Range := .atMost "copies" (.long 5) false
    let above : Range := .atLeast "copies" (.long 5) true
    let novel : Query := .term "genre" (.text "novel")
    let poem : Query := .term "genre" (.text "poem")
    let search : SearchQuery :=
      ⟨.bool [.bool [] [.range above, .range below] [] [novel]] [] []
        [.bool [] [poem, novel] [] []], []⟩
    let context : BrowseContext :=
      ⟨some below, some above, [.bool [] [poem, novel] [] [], novel], .long 5, some 5, some 5⟩
    BrowseRequest.context ⟨"", "copies", 10, none⟩ search = .ok context ∧
      search.query.finds .always .fiveCopies = true ∧ context.finds .fiveCopies = true := by
  intro below above novel poem search context
  have hcontext : BrowseRequest.context ⟨"", "copies", 10, none⟩ search = .ok context := by
    decide
  have hfinds := finds_context ⟨"", "copies", 10, none⟩ search context .fiveCopies hcontext
  have hpage : context.finds .fiveCopies = true := by decide
  exact ⟨hcontext, hfinds.trans hpage, hpage⟩

end BrowseRequest

end CatalogSearch
