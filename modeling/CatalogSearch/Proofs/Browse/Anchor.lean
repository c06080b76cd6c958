import CatalogSearch.Proofs.Browse.CallNumber
import CatalogSearch.Proofs.Browse.Offset
import CatalogSearch.Proofs.Browse.Page
import CatalogSearch.Proofs.Compiler.Ends

/-!
The anchor of a page whose ranges end at an offset. The range from the anchor on is never inverted.
The range before the anchor starts at zero or above, so it is inverted exactly where the anchor is
negative. The end that an offset gives belongs to the range. So a range that is not inverted has the
anchor within both of its ends exactly if it includes the bound at the anchor, and one that does not
include that bound never has the anchor within its ends, inverted or not.
-/

namespace CatalogSearch

theorem Query.Part.beside {p q : Query} (h : p.Part q) (filters : List Query) :
    p.Part (q.beside filters) := by
  by_cases hfilters : filters = []
  · rwa [hfilters]
  · rw [beside_of_ne_nil q hfilters]
    exact .clause (List.mem_append_left _ (by simp)) h

theorem Query.part_choice {r s t : Range} (filter : List Query) (h : t = r ∨ t = s) :
    (Query.range t).Part (.bool [] [.range r, .range s] [] filter) := by
  rcases h with rfl | rfl
  · exact .clause (c := .range t) (by simp [clauses]) .whole
  · exact .clause (c := .range t) (by simp [clauses]) .whole

namespace BrowseRequest

variable {b : BrowseRequest} {search : SearchQuery} {context : BrowseContext} {offset : Nat}

theorem callNumberContext_eq_ok_iff :
    b.callNumberContext offset search = .ok context ↔
      ∃ page a, b.context search = .ok page ∧ page.anchor = .long a ∧
        context = page.withRangeOffset offset := by
  unfold callNumberContext
  rw [bind_eq_ok_iff]
  refine exists_congr fun page => ?_
  cases hanchor : page.anchor with
  | text s => simp [Value.long?, withQuery]
  | long a => simp [Value.long?, pure, Except.pure, eq_comm]

/-! ### The ranges of a page are those of the query -/

theorem eq_of_oneDirection {forward : Bool} {filters : List Query} {r s : Range}
    (h : b.oneDirection s filters = .ok context) (hr : context.range? forward = some r) :
    r = s := by
  obtain ⟨-, v, ⟨-, rfl⟩ | ⟨-, rfl⟩⟩ := oneDirection_eq_ok_iff.1 h
  · cases forward with
    | true => cases hr
    | false => exact (Option.some.inj hr).symm
  · cases forward with
    | true => exact (Option.some.inj hr).symm
    | false => cases hr

theorem eq_or_eq_of_aroundRanges {forward : Bool} {filters : List Query} {r s t : Range}
    (h : b.aroundRanges s t filters = .ok context) (hr : context.range? forward = some r) :
    r = s ∨ r = t := by
  obtain ⟨-, -, v, share, -, ⟨-, -, rfl⟩ | ⟨-, -, rfl⟩⟩ := aroundRanges_eq_ok_iff.1 h
  · cases forward with
    | true => exact Or.inr (Option.some.inj hr).symm
    | false => exact Or.inl (Option.some.inj hr).symm
  · cases forward with
    | true => exact Or.inl (Option.some.inj hr).symm
    | false => exact Or.inr (Option.some.inj hr).symm

theorem part_of_context (h : b.context search = .ok context) (forward : Bool) {r : Range}
    (hr : context.range? forward = some r) : (Query.range r).Part search.query := by
  rcases ofQuery_eq_ok_iff.1 (context_eq_ok_iff.1 h).2 with
    ⟨s, filters, hq, h⟩ | ⟨s, t, inner, outer, hq, h⟩
  · rw [hq, eq_of_oneDirection h hr]
    exact Query.Part.whole.beside filters
  · rw [hq]
    exact (Query.part_choice inner (eq_or_eq_of_aroundRanges h hr)).beside outer

theorem upTo_of_context (h : b.context search = .ok context)
    (hregular : search.query.EveryRange Range.Regular) :
    ∀ r ∈ context.preceding, r.UpTo context.anchor ∧ r.includeLower = true := by
  intro r hr
  have hends := ((pageOf_ofQuery (context_eq_ok_iff.1 h).2).preceding r hr).2
  have hpart := part_of_context h false hr
  exact ⟨hends, (hregular r hpart).includeLower hends.1⟩

theorem from_of_context (h : b.context search = .ok context)
    (hregular : search.query.EveryRange Range.Regular) :
    ∀ r ∈ context.succeeding, r.From context.anchor ∧ r.includeUpper = true := by
  intro r hr
  have hends := ((pageOf_ofQuery (context_eq_ok_iff.1 h).2).succeeding r hr).2
  have hpart := part_of_context h true hr
  exact ⟨hends, (hregular r hpart).includeUpper hends.2⟩

/-- The anchor is a bound of some range, so it fits where those do. -/
theorem fits_anchor (h : b.context search = .ok context)
    (hregular : search.query.EveryRange Range.Regular) : context.anchor.Fits := by
  rcases (pageOf_ofQuery (context_eq_ok_iff.1 h).2).directed with hsome | hsome
  · obtain ⟨r, hr⟩ := Option.isSome_iff_exists.1 hsome
    have hpart := part_of_context h false hr
    exact (hregular r hpart).upper _ (upTo_of_context h hregular r hr).1.2
  · obtain ⟨r, hr⟩ := Option.isSome_iff_exists.1 hsome
    have hpart := part_of_context h true hr
    exact (hregular r hpart).lower _ (from_of_context h hregular r hr).1.1

end BrowseRequest

/-! ### The anchor within the ends of a range -/

/-- The lower bound of a range is within it exactly if it is included. Only where it is do the bounds
have to be in order: a bound that is left out is never within its own range. -/
theorem Range.admits_lower_iff {field : String} {l u : Int} {inclusive : Bool}
    (h : inclusive = true → l ≤ u) :
    (⟨field, some (.long l), some (.long u), inclusive, true⟩ : Range).admits
        (.holding field l) = true ↔ inclusive = true := by
  have hlower : l < l ∨ inclusive = true ∧ l = l ↔ inclusive = true := by simp
  have hupper : l < u ∨ true = true ∧ l = u ↔ l ≤ u := by simp [le_iff_lt_or_eq]
  rw [admits_holding, hlower, hupper, and_iff_left_iff_imp]
  exact h

theorem Range.admits_upper_iff {field : String} {l u : Int} {inclusive : Bool}
    (h : inclusive = true → l ≤ u) :
    (⟨field, some (.long l), some (.long u), true, inclusive⟩ : Range).admits
        (.holding field u) = true ↔ inclusive = true := by
  have hlower : l < u ∨ true = true ∧ l = u ↔ l ≤ u := by simp [le_iff_lt_or_eq]
  have hupper : u < u ∨ inclusive = true ∧ u = u ↔ inclusive = true := by simp
  rw [admits_holding, hlower, hupper, and_iff_right_iff_imp]
  exact h

namespace BrowseContext

variable {c : BrowseContext} {first last : Int} {r : Range} {v : Value}

theorem succeeding_withEnds (hr : (c.withEnds first last).succeeding = some r)
    (hfrom : ∀ s ∈ c.succeeding, s.From v ∧ s.includeUpper = true) :
    ∃ field inclusive, r = ⟨field, some v, some (.long last), inclusive, true⟩ := by
  obtain ⟨s, hs, rfl⟩ := Option.map_eq_some_iff.1 hr
  obtain ⟨⟨hlower, -⟩, hopen⟩ := hfrom s hs
  refine ⟨s.field, s.includeLower, ?_⟩
  rw [hlower, hopen]

theorem preceding_withEnds (hr : (c.withEnds first last).preceding = some r)
    (hupTo : ∀ s ∈ c.preceding, s.UpTo v ∧ s.includeLower = true) :
    ∃ field inclusive, r = ⟨field, some (.long first), some v, true, inclusive⟩ := by
  obtain ⟨s, hs, rfl⟩ := Option.map_eq_some_iff.1 hr
  obtain ⟨⟨-, hupper⟩, hopen⟩ := hupTo s hs
  refine ⟨s.field, s.includeUpper, ?_⟩
  rw [hupper, hopen]

theorem includesAnchor_of_range? {forward : Bool} (hr : c.range? forward = some r) :
    c.includesAnchor forward = if forward then r.includeLower else r.includeUpper := by
  rw [includesAnchor, hr]

end BrowseContext

namespace BrowseRequest

/-- **Where the anchor of a page of call numbers lies.** Whatever expression a page is recovered
from, each of its ranges has two integers as its ends. They are in order but for the range before a
negative anchor, which starts at zero. A range includes the anchor exactly if the anchor is within
both of its ends, where the range is from the anchor on, where the anchor is not negative, and where
the end at the anchor does not belong to the range. -/
theorem callNumberContext_anchor (k : Catalog) (browse : BrowseSettings) (resource : String)
    (e : Expression) (search : SearchQuery) (b : BrowseRequest) (offset : Nat)
    (context : BrowseContext)
    (hcompile : Compiler.compile ⟨k, .standard, .standard, browse⟩ resource e = .ok search)
    (hcontext : b.callNumberContext offset search = .ok context) :
    ∃ a, context.anchor = .long a ∧ ∀ forward r, context.range? forward = some r →
      ∃ l u, r.lower = some (.long l) ∧ r.upper = some (.long u) ∧
        (l ≤ u ↔ forward = true ∨ 0 ≤ a) ∧
        (forward = true ∨ 0 ≤ a ∨ r.includeUpper = false →
          (context.includesAnchor forward = true ↔ r.admits (.holding r.field a) = true)) := by
  obtain ⟨page, a, hpage, hanchor, rfl⟩ := callNumberContext_eq_ok_iff.1 hcontext
  have hregular : search.query.EveryRange Range.Regular :=
    Compiler.everyRange_compile rfl rfl hcompile
  obtain ⟨hmin, hmax⟩ := fits_anchor hpage hregular a hanchor
  have hupTo := upTo_of_context hpage hregular
  have hfrom := from_of_context hpage hregular
  rw [hanchor] at hupTo hfrom
  rw [BrowseContext.withRangeOffset_eq_withEnds hanchor hmin hmax]
  refine ⟨a, hanchor, ?_⟩
  intro forward r hr
  rw [BrowseContext.includesAnchor_of_range? hr]
  cases forward with
  | true =>
      obtain ⟨field, inclusive, rfl⟩ := BrowseContext.succeeding_withEnds hr hfrom
      have hlast : a ≤ min (a + min (offset : Int) longMax) longMax := by
        unfold longMax at *
        omega
      refine ⟨a, _, rfl, rfl, iff_of_true hlast (Or.inl rfl), ?_⟩
      intro _
      exact (Range.admits_lower_iff fun _ => hlast).symm
  | false =>
      obtain ⟨field, inclusive, rfl⟩ := BrowseContext.preceding_withEnds hr hupTo
      -- The difference itself never exceeds the anchor; zero does where the anchor is negative.
      have hfirst : max (a - offset) 0 ≤ a ↔ 0 ≤ a := by omega
      refine ⟨_, a, rfl, rfl, ?_, ?_⟩
      · rw [Bool.false_eq_true, false_or, hfirst]
      · intro htrue
        refine (Range.admits_upper_iff fun hinclusive => ?_).symm
        rcases htrue with hforward | ha | hexclusive
        · cases hforward
        · exact hfirst.2 ha
        · exact absurd (hexclusive.symm.trans hinclusive) Bool.false_ne_true

/-- Around five copies, at most a thousand away, five copies are in the range from there on only.
Before minus five copies the range starts at zero, above its end, and does not say that it includes
them. -/
theorem callNumberContext_anchor_copies :
    let c : Compiler := ⟨.books, .standard, .standard, ⟨100, 1000⟩⟩
    let b : BrowseRequest := ⟨"", "copies", 20, none⟩
    let below : Range := ⟨"copies", some (.long 0), some (.long 5), true, false⟩
    let above : Range := ⟨"copies", some (.long 5), some (.long 1005), true, true⟩
    let inverted : Range := ⟨"copies", some (.long 0), some (.long (-5)), true, false⟩
    (∃ search context,
      c.compile "book" (.boolean .or (.clause ⟨"copies", "<", "5", []⟩)
        (.clause ⟨"copies", ">=", "5", []⟩)) = .ok search ∧
      b.callNumberContext 1000 search = .ok context ∧
      context.preceding = some below ∧ context.succeeding = some above ∧
      below.admits (.holding "copies" 5) = false ∧ above.admits (.holding "copies" 5) = true) ∧
    ∃ search context,
      c.compile "book" (.clause ⟨"copies", "<", "-5", []⟩) = .ok search ∧
      b.callNumberContext 1000 search = .ok context ∧
      context.preceding = some inverted ∧ context.includesAnchor false = false ∧
      inverted.admits (.holding "copies" (-5)) = false := by
  intro c b below above inverted
  constructor
  · let less : Query := .range (.atMost "copies" (.long 5) false)
    let least : Query := .range (.atLeast "copies" (.long 5) true)
    let search : SearchQuery := ⟨.bool [] [less, least] [] [], []⟩
    let context : BrowseContext := ⟨some below, some above, [], .long 5, some 10, some 10⟩
    have hcompile : c.compile "book" (.boolean .or (.clause ⟨"copies", "<", "5", []⟩)
        (.clause ⟨"copies", ">=", "5", []⟩)) = .ok search := by
      decide +kernel
    have hcontext : b.callNumberContext 1000 search = .ok context := by decide +kernel
    obtain ⟨a, hanchor, hranges⟩ := callNumberContext_anchor .books ⟨100, 1000⟩ "book" _ search
      b 1000 context hcompile hcontext
    obtain rfl : 5 = a := Value.long.inj hanchor
    obtain ⟨-, -, -, -, -, hbefore⟩ := hranges false below rfl
    obtain ⟨-, -, -, -, -, hfrom⟩ := hranges true above rfl
    refine ⟨search, context, hcompile, hcontext, rfl, rfl, ?_, ?_⟩
    · rw [Bool.eq_false_iff]
      exact mt (hbefore (Or.inr (Or.inl (by decide)))).2 (by decide)
    · exact (hfrom (Or.inl rfl)).1 rfl
  · let search : SearchQuery := ⟨.range (.atMost "copies" (.long (-5)) false), []⟩
    let context : BrowseContext := ⟨some inverted, none, [], .long (-5), some 20, none⟩
    have hcompile : c.compile "book" (.clause ⟨"copies", "<", "-5", []⟩) = .ok search := by
      decide +kernel
    have hcontext : b.callNumberContext 1000 search = .ok context := by decide +kernel
    obtain ⟨a, hanchor, hranges⟩ := callNumberContext_anchor .books ⟨100, 1000⟩ "book" _ search
      b 1000 context hcompile hcontext
    obtain rfl : -5 = a := Value.long.inj hanchor
    obtain ⟨-, -, -, -, -, hbefore⟩ := hranges false inverted rfl
    refine ⟨search, context, hcompile, hcontext, rfl, rfl, ?_⟩
    rw [Bool.eq_false_iff]
    exact mt (hbefore (Or.inr (Or.inr rfl))).2 (by decide)

/-- At most minus five copies, at most a thousand away: the range starts at zero, above its end, and
says that it includes the minus five copies that are not within it. -/
theorem not_forall_callNumberContext_anchor :
    (¬ ∀ (k : Catalog) (browse : BrowseSettings) (resource : String) (e : Expression)
      (search : SearchQuery) (b : BrowseRequest) (offset : Nat) (context : BrowseContext),
      Compiler.compile ⟨k, .standard, .standard, browse⟩ resource e = .ok search →
      b.callNumberContext offset search = .ok context →
      ∀ forward r, context.range? forward = some r →
        ∃ l u, r.lower = some (.long l) ∧ r.upper = some (.long u) ∧ l ≤ u) ∧
    ¬ ∀ (k : Catalog) (browse : BrowseSettings) (resource : String) (e : Expression)
      (search : SearchQuery) (b : BrowseRequest) (offset : Nat) (context : BrowseContext),
      Compiler.compile ⟨k, .standard, .standard, browse⟩ resource e = .ok search →
      b.callNumberContext offset search = .ok context →
      ∀ forward r, context.range? forward = some r →
        ∃ a, context.anchor = .long a ∧
          (context.includesAnchor forward = true ↔ r.admits (.holding r.field a) = true) := by
  let e : Expression := .clause ⟨"copies", "<=", "-5", []⟩
  let search : SearchQuery := ⟨.range (.atMost "copies" (.long (-5)) true), []⟩
  let b : BrowseRequest := ⟨"", "copies", 20, none⟩
  let r : Range := ⟨"copies", some (.long 0), some (.long (-5)), true, true⟩
  let context : BrowseContext := ⟨some r, none, [], .long (-5), some 20, none⟩
  have hcompile : Compiler.compile ⟨.books, .standard, .standard, ⟨100, 1000⟩⟩ "book" e =
      .ok search := by
    decide +kernel
  have hcontext : b.callNumberContext 1000 search = .ok context := by decide +kernel
  constructor
  · intro h
    obtain ⟨l, u, hl, hu, hlu⟩ := h _ _ _ _ _ _ _ _ hcompile hcontext false r rfl
    obtain rfl : 0 = l := Value.long.inj (Option.some.inj hl)
    obtain rfl : -5 = u := Value.long.inj (Option.some.inj hu)
    exact absurd hlu (by decide)
  · intro h
    obtain ⟨a, hanchor, hflag⟩ := h _ _ _ _ _ _ _ _ hcompile hcontext false r rfl
    obtain rfl : -5 = a := Value.long.inj hanchor
    exact absurd (hflag.1 rfl) (by decide)

end BrowseRequest

end CatalogSearch
