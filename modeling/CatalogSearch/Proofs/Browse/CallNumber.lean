import CatalogSearch.Proofs.Browse.Compile
import CatalogSearch.Proofs.Browse.Offset
import CatalogSearch.Proofs.Normalizer.CallNumber

/-!
Pages of call numbers. The ranges of such a page end at an offset from the anchor, computed with
saturation and cut off at zero. As all call numbers are natural numbers well below the largest
integer, no page loses one of them by that: a call number is on the page exactly if its integer is
within the offset of the anchor in plain integer arithmetic.
-/

namespace CatalogSearch

/-- A document with one integer in one field. -/
def Document.holding (field : String) (n : Int) : Document where
  term f v := f == field && v == .long n
  wildcard _ _ := false
  fulltext _ _ _ := false
  atLeast f v inclusive := f == field && v.long?.any fun m => m < n || inclusive && m == n
  atMost f v inclusive := f == field && v.long?.any fun m => n < m || inclusive && n == m

theorem Range.admits_holding {field : String} {l u n : Int} {includeLower includeUpper : Bool} :
    (⟨field, some (.long l), some (.long u), includeLower, includeUpper⟩ : Range).admits
        (.holding field n) = true ↔
      (l < n ∨ includeLower = true ∧ l = n) ∧ (n < u ∨ includeUpper = true ∧ n = u) := by
  simp [admits, Document.holding, Value.long?]

namespace BrowseContext

/-! ### Ends at an offset -/

variable {b : BrowseContext} {field : String} {a : Int} {inclusive : Bool}

/-- The range before an anchor: cutting its end off at zero takes no natural number away. -/
theorem admits_preceding_withRangeOffset (offset : Nat) (hanchor : b.anchor = .long a)
    (hrange : b.preceding = some (.atMost field (.long a) inclusive)) (ha : 0 ≤ a)
    (hmax : a < longMax) :
    ∃ r, (b.withRangeOffset offset).preceding = some r ∧
      ∀ n, 0 ≤ n → (r.admits (.holding field n) = true ↔
        a - offset ≤ n ∧ (n < a ∨ inclusive = true ∧ n = a)) := by
  have hmin : longMin ≤ a := le_trans (by decide) ha
  refine ⟨⟨field, some (.long (max (a - offset) 0)), some (.long a), true, inclusive⟩, ?_, ?_⟩
  · rw [withRangeOffset_eq_withEnds hanchor hmin (le_of_lt hmax)]
    simp only [withEnds, hrange, Option.map_some, Range.atMost]
  · intro n hn
    have hend : max (a - offset) 0 ≤ n ↔ a - offset ≤ n := by
      rw [max_le_iff, and_iff_left hn]
    rw [Range.admits_holding, ← hend, le_iff_lt_or_eq]
    simp

/-- The range from an anchor on: below the largest integer nothing is cut off. -/
theorem admits_succeeding_withRangeOffset (offset : Nat) (hanchor : b.anchor = .long a)
    (hrange : b.succeeding = some (.atLeast field (.long a) inclusive)) (ha : 0 ≤ a)
    (hmax : a < longMax) :
    ∃ r, (b.withRangeOffset offset).succeeding = some r ∧
      ∀ n, n < longMax → (r.admits (.holding field n) = true ↔
        (a < n ∨ inclusive = true ∧ a = n) ∧ n ≤ a + offset) := by
  have hmin : longMin ≤ a := le_trans (by decide) ha
  refine ⟨⟨field, some (.long a), some (.long (min (a + min (offset : Int) longMax) longMax)),
    inclusive, true⟩, ?_, ?_⟩
  · rw [withRangeOffset_eq_withEnds hanchor hmin (le_of_lt hmax)]
    simp only [withEnds, hrange, Option.map_some, Range.atLeast]
  · intro n hn
    have hend : n ≤ min (a + min (offset : Int) longMax) longMax ↔ n ≤ a + offset := by
      rw [(min_add_min_eq_iff hmin (le_of_lt hmax)).2 (Or.inl ha), le_min_iff,
        and_iff_left (le_of_lt hn)]
    rw [Range.admits_holding, ← hend, le_iff_lt_or_eq]
    simp

end BrowseContext

namespace Compiler

variable {k : Catalog} {browse : BrowseSettings} {resource : String} {f : Field}

/-! ### Clauses on call numbers -/

theorem normalize?_callNumber (text : String) :
    NormalizerRegistry.standard.normalize? "call-number" text =
      some (.long (CallNumber.encode text)) := by
  have hfunction : NormalizerRegistry.standard.functions.get? "call-number" =
      some fun v => .long (CallNumber.encode v) :=
    NameTable.get?_ofList_of_mem (by decide) List.mem_cons_self
  rw [NormalizerRegistry.normalize?, hfunction, Option.map_some]

/-- A relation of a field of call numbers: the integer is the bound, whatever type of value the
field has. -/
theorem clauseQuery_callNumber (hf : k.NamedByPath resource f) (hfull : f.isFulltext = false)
    (hnormalizer : f.normalizer = some "call-number") {name comparator : String}
    {ends : String → Value → Range}
    (hs : Strategy.relational name comparator ends ∈ Strategy.standard)
    (hlower : Text.lowerString comparator = comparator) (hne : comparator ≠ "=") (text : String) :
    clauseQuery ⟨k, .standard, .standard, browse⟩ resource ⟨f.path, comparator, text, []⟩ =
      .ok (.range (ends f.path (.long (CallNumber.encode text)))) := by
  have hvalue : normalizedValue ⟨k, .standard, .standard, browse⟩ resource (.field f) text =
      .ok (.long (CallNumber.encode text)) := by
    simp only [normalizedValue, Target.normalizer?, hnormalizer, normalize?_callNumber]
  exact clauseQuery_relational rfl hf hfull hs hlower hne hvalue rfl rfl

end Compiler

namespace BrowseRequest

theorem callNumberContext_of_context {b : BrowseRequest} {search : SearchQuery}
    {context : BrowseContext} {n : Int} (h : b.context search = .ok context)
    (hanchor : context.anchor = .long n) (offset : Nat) :
    b.callNumberContext offset search = .ok (context.withRangeOffset offset) := by
  refine bind_eq_ok_iff.2 ⟨context, h, ?_⟩
  rw [hanchor]
  rfl

/-- A page around a natural number, with its ends at an offset, as far as natural numbers go. -/
theorem admits_pageAround (b : BrowseRequest) (field : String) (filters : List Query)
    (share offset : Nat) {a : Int} (ha : 0 ≤ a) (hmax : a < longMax) :
    let page := b.pageAround (.atMost field (.long a) false) (.atLeast field (.long a) true) filters
      (.long a) share
    ∃ preceding succeeding,
      (page.withRangeOffset offset).preceding = some preceding ∧
      (page.withRangeOffset offset).succeeding = some succeeding ∧
      ∀ n, 0 ≤ n → n < longMax →
        (preceding.admits (.holding field n) = true ↔ a - offset ≤ n ∧ n < a) ∧
        (succeeding.admits (.holding field n) = true ↔ a ≤ n ∧ n ≤ a + offset) := by
  intro page
  obtain ⟨preceding, hpreceding, hbefore⟩ :=
    page.admits_preceding_withRangeOffset offset rfl rfl ha hmax
  obtain ⟨succeeding, hsucceeding, hfrom⟩ :=
    page.admits_succeeding_withRangeOffset offset rfl rfl ha hmax
  refine ⟨preceding, succeeding, hpreceding, hsucceeding, fun n hn hnmax => ⟨?_, ?_⟩⟩
  · simpa using hbefore n hn
  · have hfirst : a < n ∨ true = true ∧ a = n ↔ a ≤ n := by
      rw [eq_self_iff_true, true_and, le_iff_lt_or_eq]
    rw [hfrom n hnmax, hfirst]

/-- **Pages of call numbers are exact.** Browsing around any text by a field of call numbers is
accepted and anchored at the integer of the text. A call number is before the anchor, or from it on,
exactly if its integer is, and no further away than the offset that is set. -/
theorem callNumberContext_compile (k : Catalog) (browse : BrowseSettings) (resource : String)
    (f : Field) (hf : k.NamedByPath resource f) (hfull : f.isFulltext = false)
    (hnormalizer : f.normalizer = some "call-number") (b : BrowseRequest)
    (hfield : b.field = f.path)
    (hcount : ∀ count ∈ b.precedingCount, count ≤ b.limit) (s : String) :
    let c : Compiler := ⟨k, .standard, .standard, browse⟩
    let around : Expression :=
      .boolean .or (.clause ⟨f.path, "<", s, []⟩) (.clause ⟨f.path, ">=", s, []⟩)
    let offset := browse.callNumberRangeOffset
    let code (text : String) : Int := CallNumber.encode text
    ∃ context preceding succeeding,
      c.compile resource around >>= b.callNumberContext offset = .ok context ∧
      context.anchor = .long (code s) ∧
      context.preceding = some preceding ∧ context.succeeding = some succeeding ∧
      ∀ t,
        (preceding.admits (.holding f.path (code t)) = true ↔
          code s - offset ≤ code t ∧ code t < code s) ∧
        (succeeding.admits (.holding f.path (code t)) = true ↔
          code s ≤ code t ∧ code t ≤ code s + offset) := by
  intro c around offset code
  have hless : Strategy.lessThan ∈ Strategy.standard := by simp [Strategy.standard]
  have hleast : Strategy.atLeast ∈ Strategy.standard := by simp [Strategy.standard]
  have hbelow : c.expressionQuery resource (.clause ⟨f.path, "<", s, []⟩) =
      .ok (.range (.atMost f.path (.long (code s)) false)) :=
    Compiler.clauseQuery_callNumber hf hfull hnormalizer hless (by decide) (by decide) s
  have habove : c.expressionQuery resource (.clause ⟨f.path, ">=", s, []⟩) =
      .ok (.range (.atLeast f.path (.long (code s)) true)) :=
    Compiler.clauseQuery_callNumber hf hfull hnormalizer hleast (by decide) (by decide) s
  have hcompile := Compiler.compile_of_expressionQuery
    (Compiler.expressionQuery_or_ranges hbelow habove)
  rw [Query.promote_eq_self (Query.settled_choice_ranges _ _)] at hcompile
  obtain ⟨share, hshare⟩ : ∃ share, b.precedingShare = .ok share :=
    ⟨_, precedingShare_eq_ok_iff.2 ⟨hcount, rfl⟩⟩
  have hcontext := context_choice [] (Range.upTo_atMost f.path (.long (code s)) false)
    (Range.from_atLeast f.path (.long (code s)) true) hfield.symm hfield.symm hshare
    (Or.inl ⟨rfl, rfl⟩)
  rw [Query.beside_nil] at hcontext
  have hcode : ∀ text, 0 ≤ code text := fun text => Int.natCast_nonneg _
  have hmax : ∀ text, code text < longMax := CallNumber.encode_lt_longMax
  obtain ⟨preceding, succeeding, hpreceding, hsucceeding, hwindow⟩ :=
    admits_pageAround b f.path [] share offset (hcode s) (hmax s)
  refine ⟨_, preceding, succeeding, ?_, rfl, hpreceding, hsucceeding, ?_⟩
  · rw [hcompile]
    exact callNumberContext_of_context hcontext rfl offset
  · intro t
    exact hwindow (code t) (hcode t) (hmax t)

end BrowseRequest

/-- The call number of a book. -/
def Field.callNumber : Field :=
  ⟨"callNumber", [.sort], false, some "call-number", .keyword, none⟩

/-- A catalog of books by their call numbers. -/
def Catalog.shelf : Catalog :=
  ⟨.ofList [("book", ⟨"book", .empty, .empty, .ofList [("callNumber", .callNumber)]⟩)]⟩

namespace BrowseRequest

/-- Around `QA 76`, with the largest offset that can be set: `QA 75` is on the page, before the
anchor. -/
theorem callNumberContext_aroundQA76 :
    let c : Compiler := ⟨.shelf, .standard, .standard, ⟨100, 18446744073709551615⟩⟩
    let b : BrowseRequest := ⟨"", "callNumber", 20, none⟩
    Catalog.shelf.NamedByPath "book" .callNumber ∧ Field.callNumber.isFulltext = false ∧
    ∃ context preceding succeeding,
      c.compile "book" (.boolean .or (.clause ⟨"callNumber", "<", "QA 76", []⟩)
          (.clause ⟨"callNumber", ">=", "QA 76", []⟩)) >>=
        b.callNumberContext 18446744073709551615 = .ok context ∧
      context.anchor = .long 721726600239607527 ∧
      context.preceding = some preceding ∧ context.succeeding = some succeeding ∧
      preceding.admits (.holding "callNumber" (CallNumber.encode "QA 75")) = true ∧
      succeeding.admits (.holding "callNumber" (CallNumber.encode "QA 75")) = false := by
  intro c b
  have hf : Catalog.shelf.NamedByPath "book" .callNumber := ⟨by decide, by decide, by decide⟩
  have hanchor : CallNumber.encode "QA 76" = 721726600239607527 := by decide +kernel
  have hn : CallNumber.encode "QA 75" = 721726593918244478 := by decide +kernel
  obtain ⟨context, preceding, succeeding, hcontext, hat, hpreceding, hsucceeding, hwindow⟩ :=
    callNumberContext_compile .shelf ⟨100, 18446744073709551615⟩ "book" .callNumber hf (by decide)
      rfl b rfl (by decide) "QA 76"
  obtain ⟨hbefore, hfrom⟩ := hwindow "QA 75"
  simp only [hanchor, hn] at hat hbefore hfrom
  refine ⟨hf, by decide, context, preceding, succeeding, hcontext, hat, hpreceding, hsucceeding,
    ?_, ?_⟩
  · rw [hn]
    exact hbefore.2 (by decide)
  · rw [hn, Bool.eq_false_iff]
    exact mt hfrom.1 (by decide)

end BrowseRequest

end CatalogSearch
