import CatalogSearch.Proofs.Browse.Shape

/-!
The pages that requests get. Whatever query a context is recovered from, its ranges lie on the field
of the request and meet in the anchor, and the records that they may give are together as many as
were asked for. So a request for more records before the anchor than the page holds cannot be met,
and where nothing else is wrong with it, that is the fault it is refused with.
-/

namespace CatalogSearch

/-- A context that is a page of a request: it has a range, each range has its one end at the anchor,
and where there are two ranges, the one before the anchor gives as many records as are asked for, or
half of the page, and the other one the rest. -/
structure BrowseContext.PageOf (c : BrowseContext) (b : BrowseRequest) : Prop where
  directed : c.preceding.isSome = true ∨ c.succeeding.isSome = true
  preceding : ∀ r ∈ c.preceding, r.field = b.field ∧ r.UpTo c.anchor
  succeeding : ∀ r ∈ c.succeeding, r.field = b.field ∧ r.From c.anchor
  limited : ∀ forward, (c.limit? forward).isSome = (c.range? forward).isSome
  whole : c.isAround = false → ∀ forward, ∀ n ∈ c.limit? forward, n = b.limit
  shared : c.isAround = true → ∃ m n, c.precedingLimit = some m ∧ c.succeedingLimit = some n ∧
    m + n = b.limit ∧ m = b.precedingCount.getD (b.limit / 2)

namespace BrowseRequest

variable {b : BrowseRequest} {r s : Range} {v : Value} {share : Nat}

theorem pageOf_pageBefore (filters : List Query) (hfield : r.field = b.field) (hr : r.UpTo v) :
    (b.pageBefore r filters v).PageOf b where
  directed := Or.inl rfl
  preceding := by
    rintro _ ⟨⟩
    exact ⟨hfield, hr⟩
  succeeding := by
    rintro _ ⟨⟩
  limited forward := by cases forward <;> rfl
  whole _ forward := by
    cases forward with
    | true => rintro _ ⟨⟩
    | false =>
        rintro _ ⟨⟩
        rfl
  shared := by
    rintro ⟨⟩

theorem pageOf_pageAfter (filters : List Query) (hfield : r.field = b.field) (hr : r.From v) :
    (b.pageAfter r filters v).PageOf b where
  directed := Or.inr rfl
  preceding := by
    rintro _ ⟨⟩
  succeeding := by
    rintro _ ⟨⟩
    exact ⟨hfield, hr⟩
  limited forward := by cases forward <;> rfl
  whole _ forward := by
    cases forward with
    | true =>
        rintro _ ⟨⟩
        rfl
    | false => rintro _ ⟨⟩
  shared := by
    rintro ⟨⟩

theorem share_le_limit (h : b.precedingShare = .ok share) : share ≤ b.limit := by
  obtain ⟨hcount, rfl⟩ := precedingShare_eq_ok_iff.1 h
  cases hb : b.precedingCount with
  | none =>
      rw [Option.getD_none]
      omega
  | some count => exact hcount count hb

theorem pageOf_pageAround (filters : List Query) (hrfield : r.field = b.field)
    (hsfield : s.field = b.field) (hr : r.UpTo v) (hs : s.From v)
    (hshare : b.precedingShare = .ok share) : (b.pageAround r s filters v share).PageOf b where
  directed := Or.inl rfl
  preceding := by
    rintro _ ⟨⟩
    exact ⟨hrfield, hr⟩
  succeeding := by
    rintro _ ⟨⟩
    exact ⟨hsfield, hs⟩
  limited forward := by cases forward <;> rfl
  whole := by
    rintro ⟨⟩
  shared _ := by
    refine ⟨share, b.limit - share, rfl, rfl, ?_, (precedingShare_eq_ok_iff.1 hshare).2⟩
    exact Nat.add_sub_cancel' (share_le_limit hshare)

theorem pageOf_ofQuery {q : Query} {context : BrowseContext} (h : b.ofQuery q = .ok context) :
    context.PageOf b := by
  rcases ofQuery_eq_ok_iff.1 h with ⟨r, filters, -, h⟩ | ⟨r, s, inner, outer, -, h⟩
  · obtain ⟨hfield, v, ⟨hr, rfl⟩ | ⟨hr, rfl⟩⟩ := oneDirection_eq_ok_iff.1 h
    · exact pageOf_pageBefore filters hfield hr
    · exact pageOf_pageAfter filters hfield hr
  · obtain ⟨hrfield, hsfield, v, share, hshare, ⟨hr, hs, rfl⟩ | ⟨hs, hr, rfl⟩⟩ :=
      aroundRanges_eq_ok_iff.1 h
    · exact pageOf_pageAround _ hrfield hsfield hr hs hshare
    · exact pageOf_pageAround _ hsfield hrfield hs hr hshare

/-! ### Requests that ask for too many records before the anchor -/

theorem exists_fault_of_ne_ok {search : SearchQuery}
    (h : ∀ context, b.context search ≠ .ok context) :
    ∃ fault, b.context search = .error (.invalidBrowseQuery fault b.query) := by
  cases hresult : b.withQuery (if search.sort.isEmpty then b.ofQuery search.query
      else .error .sorted) with
  | ok context => exact absurd hresult (h context)
  | error e =>
      unfold withQuery at hresult
      split at hresult
      · cases hresult
      · next fault hfault =>
          refine ⟨fault, ?_⟩
          rw [context, hfault, withQuery]

/-- Of two ranges that meet in a value, in either order, only the shares are left to be determined. -/
theorem aroundRanges_of_meet (filters : List Query) (hrfield : r.field = b.field)
    (hsfield : s.field = b.field) (h : (r.UpTo v ∧ s.From v) ∨ (s.UpTo v ∧ r.From v)) :
    ∃ page : Nat → BrowseContext,
      b.aroundRanges r s filters = b.precedingShare >>= fun share => .ok (page share) := by
  have hr : b.checkField r = .ok () := checkField_eq_ok_iff.2 hrfield
  have hs : b.checkField s = .ok () := checkField_eq_ok_iff.2 hsfield
  unfold aroundRanges
  rcases h with ⟨hupper, hlower⟩ | ⟨hupper, hlower⟩
  · refine ⟨b.pageAround r s filters v, ?_⟩
    simp only [hr, hs, hupper.isUpperOnly, hlower.isLowerOnly, hupper.anchor?, hlower.anchor?,
      ne_eq, not_true_eq_false, if_true, if_false, Bool.not_true, Bool.or_self, Bool.false_eq_true]
    rfl
  · refine ⟨b.pageAround s r filters v, ?_⟩
    simp only [hr, hs, hlower.isUpperOnly, hupper.isUpperOnly, hlower.isLowerOnly, hupper.anchor?,
      hlower.anchor?, ne_eq, not_true_eq_false, if_false, Bool.not_true, Bool.or_self,
      Bool.false_eq_true]
    rfl

theorem precedingShare_eq_error {count : Nat} (hcount : b.precedingCount = some count)
    (h : b.limit < count) : b.precedingShare = .error (.precedingExceedsLimit count b.limit) := by
  unfold precedingShare
  rw [hcount]
  exact if_pos h

variable {search : SearchQuery} {inner outer : List Query} {count : Nat}

/-- A choice of two ranges that would be a page but for the count of records before the anchor. -/
theorem context_eq_error_of_exceeds
    (hq : search.query = (Query.bool [] [.range r, .range s] [] inner).beside outer)
    (hcount : b.precedingCount = some count) (h : b.limit < count) {context : BrowseContext}
    (hcontext : BrowseRequest.context { b with precedingCount := none } search = .ok context) :
    b.context search =
      .error (.invalidBrowseQuery (.precedingExceedsLimit count b.limit) b.query) := by
  obtain ⟨hsort, hcontext⟩ := context_eq_ok_iff.1 hcontext
  rw [hq, ofQuery_choice_beside] at hcontext
  obtain ⟨hrfield, hsfield, v, share, -, hpage⟩ := aroundRanges_eq_ok_iff.1 hcontext
  have hmeet : (r.UpTo v ∧ s.From v) ∨ (s.UpTo v ∧ r.From v) :=
    hpage.imp (fun h => ⟨h.1, h.2.1⟩) fun h => ⟨h.1, h.2.1⟩
  obtain ⟨page, hranges⟩ := aroundRanges_of_meet (b := b) (outer ++ inner) hrfield hsfield hmeet
  rw [precedingShare_eq_error hcount h] at hranges
  rw [BrowseRequest.context, hsort, hq, ofQuery_choice_beside, hranges]
  rfl

theorem context_ne_ok_of_exceeds
    (hq : search.query = (Query.bool [] [.range r, .range s] [] inner).beside outer)
    (hcount : b.precedingCount = some count) (h : b.limit < count) (context : BrowseContext) :
    b.context search ≠ .ok context := by
  intro hcontext
  have hranges := (context_eq_ok_iff.1 hcontext).2
  rw [hq, ofQuery_choice_beside] at hranges
  obtain ⟨-, -, v, share, hshare, -⟩ := aroundRanges_eq_ok_iff.1 hranges
  rw [precedingShare_eq_error hcount h] at hshare
  cases hshare

/-- **Every context is a page of its request.** Only a search without sort keys has a context. Its
ranges are on the field of the request and have their only bound at the anchor, one for each
direction that has a limit; a single range has the limit of the request, and the limits of two are
together that limit. A choice of two ranges is refused where more records are asked for before the
anchor than the page holds, and with that fault where it would be a page otherwise. -/
theorem context_pageOf (b : BrowseRequest) (search : SearchQuery) :
    (∀ context, b.context search = .ok context → search.sort = [] ∧ context.PageOf b) ∧
    ∀ r s inner outer count,
      search.query = (Query.bool [] [.range r, .range s] [] inner).beside outer →
      b.precedingCount = some count → b.limit < count →
      ∃ fault, b.context search = .error (.invalidBrowseQuery fault b.query) ∧
        ((∃ context, BrowseRequest.context { b with precedingCount := none } search = .ok context) →
          fault = .precedingExceedsLimit count b.limit) := by
  constructor
  · intro context h
    obtain ⟨hsort, hcontext⟩ := context_eq_ok_iff.1 h
    exact ⟨hsort, pageOf_ofQuery hcontext⟩
  · intro r s inner outer count hq hcount hexceeds
    obtain ⟨fault, hfault⟩ := exists_fault_of_ne_ok (context_ne_ok_of_exceeds hq hcount hexceeds)
    refine ⟨fault, hfault, ?_⟩
    rintro ⟨context, hcontext⟩
    rw [context_eq_error_of_exceeds hq hcount hexceeds hcontext] at hfault
    obtain ⟨hfault, -⟩ := CompileError.invalidBrowseQuery.inj (Except.error.inj hfault)
    exact hfault.symm

/-- Nine books around five copies: with three of them before the anchor there are six after it, and
twelve before it are too many. -/
theorem context_pageOf_fiveCopies :
    let below : Range := .atMost "copies" (.long 5) false
    let above : Range := .atLeast "copies" (.long 5) true
    let search : SearchQuery := ⟨.bool [] [.range above, .range below] [] [], []⟩
    let context : BrowseContext := ⟨some below, some above, [], .long 5, some 3, some 6⟩
    BrowseRequest.context ⟨"", "copies", 9, some 3⟩ search = .ok context ∧
      context.PageOf ⟨"", "copies", 9, some 3⟩ ∧
      BrowseRequest.context ⟨"", "copies", 9, some 12⟩ search =
        .error (.invalidBrowseQuery (.precedingExceedsLimit 12 9) "") := by
  intro below above search context
  have hcontext : BrowseRequest.context ⟨"", "copies", 9, some 3⟩ search = .ok context := by
    decide
  have hpage := (context_pageOf ⟨"", "copies", 9, some 3⟩ search).1 context hcontext
  obtain ⟨fault, hfault, hexceeds⟩ := (context_pageOf ⟨"", "copies", 9, some 12⟩ search).2 above
    below [] [] 12 rfl rfl (by decide)
  have hhalf : BrowseRequest.context ⟨"", "copies", 9, none⟩ search =
      .ok { context with precedingLimit := some 4, succeedingLimit := some 5 } := by
    decide
  obtain rfl := hexceeds ⟨_, hhalf⟩
  exact ⟨hcontext, hpage.2, hfault⟩

end BrowseRequest

end CatalogSearch
