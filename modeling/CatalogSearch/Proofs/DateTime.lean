import CatalogSearch.DateTime
import CatalogSearch.Proofs.Text.Words
import Mathlib.Data.List.Count

/-!
Dates and words. A date has two hyphens, or three if its year has a sign or its time an offset, and
it does not end in white space. So a date that is one word is that word after white space, and the
word is a date too. Of the words of a date that has several, one at least has too few hyphens to be
a date.
-/

namespace CatalogSearch.DateTime

open Text

/-! ### What readers pass over -/

/-- A text that ends in another one. In front of that there are so many hyphens, and there is no
white space that would be at the end without it. -/
structure Passes (least most : Nat) (cs rest : List Char) : Prop where
  least_le : rest.count '-' + least ≤ cs.count '-'
  le_most : cs.count '-' ≤ rest.count '-' + most
  endsInWord : EndsInWord rest → EndsInWord cs

namespace Passes

variable {least most least' most' : Nat} {cs ds rest : List Char}

theorem refl (cs : List Char) : Passes 0 0 cs cs := ⟨le_rfl, le_rfl, id⟩

theorem trans (h : Passes least most cs ds) (h' : Passes least' most' ds rest) :
    Passes (least + least') (most + most') cs rest where
  least_le := by
    have hcs := h.least_le
    have hds := h'.least_le
    omega
  le_most := by
    have hcs := h.le_most
    have hds := h'.le_most
    omega
  endsInWord hrest := h.endsInWord (h'.endsInWord hrest)

theorem mono (h : Passes least most cs rest) (hleast : least' ≤ least) (hmost : most ≤ most') :
    Passes least' most' cs rest where
  least_le := le_trans (Nat.add_le_add_left hleast _) h.least_le
  le_most := le_trans h.le_most (Nat.add_le_add_left hmost _)
  endsInWord := h.endsInWord

theorem append (hcs : ∀ c ∈ cs, isBlank c = false) (rest : List Char) :
    Passes (cs.count '-') (cs.count '-') (cs ++ rest) rest where
  least_le := by rw [List.count_append, Nat.add_comm]
  le_most := by rw [List.count_append, Nat.add_comm]
  endsInWord h := h.append hcs

theorem cons {c : Char} (hc : isBlank c = false) (rest : List Char) :
    Passes ([c].count '-') ([c].count '-') (c :: rest) rest :=
  append (List.forall_mem_singleton.2 hc) rest

theorem of_trimStart (hne : trimStart cs ≠ []) : Passes 0 0 cs (trimStart cs) := by
  have hblank : (cs.takeWhile isBlank).count '-' = 0 := by
    rw [List.count_eq_zero]
    exact fun hmem => absurd (List.mem_takeWhile_imp hmem) (by decide)
  have hcount : cs.count '-' = (trimStart cs).count '-' := by
    conv_lhs => rw [← List.takeWhile_append_dropWhile (p := isBlank) (l := cs)]
    rw [List.count_append, hblank, Nat.zero_add, trimStart]
  exact ⟨hcount.ge, hcount.le, endsInWord_of_trimStart hne⟩

end Passes

/-! ### Parts of dates -/

variable {cs rest : List Char} {n least most bound : Nat}

theorem exists_of_digits (h : digits least most cs = some (n, rest)) :
    ∃ run, cs = run ++ rest ∧ least ≤ run.length ∧ ∀ c ∈ run, c.isDigit = true := by
  have hrun : (cs.takeWhile Char.isDigit).take most <+: cs :=
    (List.take_prefix _ _).trans (List.takeWhile_prefix _)
  simp only [digits] at h
  generalize hrun' : (cs.takeWhile Char.isDigit).take most = run at h hrun
  split at h
  · cases h
  · next hlength =>
      obtain ⟨-, rfl⟩ := Prod.mk.inj (Option.some.inj h)
      refine ⟨run, ?_, not_lt.1 hlength, fun c hc => ?_⟩
      · obtain ⟨tail, rfl⟩ := hrun
        rw [List.drop_left]
      · rw [← hrun'] at hc
        exact List.mem_takeWhile_imp (List.mem_of_mem_take hc)

theorem digits_passes (h : digits least most cs = some (n, rest)) : Passes 0 0 cs rest := by
  obtain ⟨run, rfl, -, hrun⟩ := exists_of_digits h
  have hcount : run.count '-' = 0 := by
    rw [List.count_eq_zero]
    exact fun hmem => absurd (hrun '-' hmem) (by decide)
  exact hcount ▸ Passes.append (fun c hc => isBlank_of_isAsciiDigit (hrun c hc)) rest

/-- Where digits are read, one of them comes first. -/
theorem exists_cons_of_digits (h : digits least most cs = some (n, rest)) (hleast : 0 < least) :
    ∃ d tail, cs = d :: tail ∧ d.isDigit = true := by
  obtain ⟨run, rfl, hlength, hrun⟩ := exists_of_digits h
  obtain ⟨d, tail, rfl⟩ := List.exists_cons_of_length_pos (lt_of_lt_of_le hleast hlength)
  exact ⟨d, tail ++ rest, rfl, hrun d List.mem_cons_self⟩

theorem mark_passes {c : Char} {u : Unit} (hc : isBlank c = false)
    (h : mark c cs = some (u, rest)) : Passes ([c].count '-') ([c].count '-') cs rest := by
  cases cs with
  | nil => cases h
  | cons d ds =>
      obtain ⟨rfl, hread⟩ := Option.ite_none_right_eq_some.1 h
      obtain ⟨-, rfl⟩ := Prod.mk.inj (Option.some.inj hread)
      exact Passes.cons hc ds

theorem digits_of_bounded {m : Nat} {read : Option (Nat × List Char)}
    (h : (read.bind fun x => if x.1 ≤ bound then some (x.1, x.2) else none) = some (m, rest)) :
    read = some (m, rest) := by
  obtain ⟨x, hread, hbound⟩ := Option.bind_eq_some_iff.1 h
  rw [hread, ← (Option.ite_none_right_eq_some.1 hbound).2]

theorem digits_of_short (h : short bound cs = some (n, rest)) :
    digits 1 2 (trimStart cs) = some (n, rest) :=
  digits_of_bounded h

theorem digits_of_pair (h : pair bound cs = some (n, rest)) : digits 2 2 cs = some (n, rest) :=
  digits_of_bounded h

theorem digits_trimStart_passes (h : digits least most (trimStart cs) = some (n, rest))
    (hleast : 0 < least) : Passes 0 0 cs rest := by
  obtain ⟨d, tail, hcs, -⟩ := exists_cons_of_digits h hleast
  exact (Passes.of_trimStart (by simp [hcs])).trans (digits_passes h)

theorem short_passes (h : short bound cs = some (n, rest)) : Passes 0 0 cs rest :=
  digits_trimStart_passes (digits_of_short h) Nat.one_pos

theorem pair_passes (h : pair bound cs = some (n, rest)) : Passes 0 0 cs rest :=
  digits_passes (digits_of_pair h)

/-- A sign is one hyphen at most. -/
theorem signed_passes {c : Char} {signed : List Char} (hsign : trimStart cs = c :: signed)
    (hc : isBlank c = false) (h : digits least most signed = some (n, rest)) :
    Passes 0 1 cs rest := by
  have hcount : [c].count '-' ≤ 1 := List.count_le_length
  have hstart : Passes 0 0 cs (c :: signed) := hsign ▸ Passes.of_trimStart (by simp [hsign])
  have hdigits := (Passes.cons hc signed).trans (digits_passes h)
  exact (hstart.trans hdigits).mono (Nat.zero_le _) (by omega)

theorem year_passes {y : Int} (h : year cs = some (y, rest)) : Passes 0 1 cs rest := by
  simp only [year] at h
  split at h
  all_goals
    simp only [Option.bind_eq_bind, Option.bind_eq_some_iff, Prod.exists] at h
    obtain ⟨m, afterDigits, hdigits, hyear⟩ := h
    obtain ⟨-, rfl⟩ := Prod.mk.inj (Option.some.inj hyear)
  · next hsign => exact signed_passes hsign (by decide) hdigits
  · next hsign => exact signed_passes hsign (by decide) hdigits
  · exact (digits_trimStart_passes hdigits Nat.one_pos).mono le_rfl (by decide)

/-! ### Dates and times -/

theorem looseDate_passes {u : Unit} (h : looseDate cs = some (u, rest)) : Passes 2 3 cs rest := by
  simp only [looseDate, Option.bind_eq_bind, Option.bind_eq_some_iff, Prod.exists] at h
  obtain ⟨y, afterYear, hyear, _, beforeMonth, hmark, m, afterMonth, hmonth, _, beforeDay, hmark', d,
    afterDay, hday, hdate⟩ := h
  obtain ⟨-, rfl⟩ := Prod.mk.inj (Option.some.inj (Option.ite_none_right_eq_some.1 hdate).2)
  have hmonth := (mark_passes (by decide) hmark).trans (short_passes hmonth)
  have hday := (mark_passes (by decide) hmark').trans (short_passes hday)
  exact ((year_passes hyear).trans (hmonth.trans hday)).mono (by decide) (by decide)

theorem fraction_passes {u : Unit} (h : fraction cs = some (u, rest)) : Passes 0 0 cs rest := by
  unfold fraction at h
  split at h
  · next digitsText =>
      simp only [Option.bind_eq_bind, Option.bind_eq_some_iff, Prod.exists] at h
      obtain ⟨_, afterDigits, hdigits, hfraction⟩ := h
      obtain ⟨-, rfl⟩ := Prod.mk.inj (Option.some.inj hfraction)
      exact ((Passes.cons (by decide) digitsText).trans (digits_passes hdigits)).mono
        (by decide) (by decide)
  · obtain ⟨-, rfl⟩ := Prod.mk.inj (Option.some.inj h)
    exact .refl cs

theorem looseTime_passes {seconds : Bool} {u : Unit}
    (h : looseTime seconds cs = some (u, rest)) : Passes 0 0 cs rest := by
  simp only [looseTime, Option.bind_eq_bind, Option.bind_eq_some_iff, Prod.exists] at h
  obtain ⟨_, afterHour, hhour, _, beforeMinute, hmark, _, afterMinute, hminute, hseconds⟩ := h
  have hminutes := (short_passes hhour).trans
    ((mark_passes (by decide) hmark).trans (short_passes hminute))
  split at hseconds
  · simp only [Option.bind_eq_some_iff, Prod.exists] at hseconds
    obtain ⟨_, beforeSecond, hmark', _, afterSecond, hsecond, hfraction⟩ := hseconds
    have hsecond := (mark_passes (by decide) hmark').trans (short_passes hsecond)
    exact (hminutes.trans (hsecond.trans (fraction_passes hfraction))).mono
      (by decide) (by decide)
  · obtain ⟨-, rfl⟩ := Prod.mk.inj (Option.some.inj hseconds)
    exact hminutes.mono (by decide) (by decide)

theorem localDateTime_passes {seconds : Bool} {u : Unit}
    (h : localDateTime seconds cs = some (u, rest)) : Passes 2 3 cs rest := by
  simp only [localDateTime, Option.bind_eq_bind, Option.bind_eq_some_iff, Prod.exists] at h
  obtain ⟨_, afterDate, hdate, _, beforeTime, hmark, htime⟩ := h
  have htime := (mark_passes (by decide) hmark).trans (looseTime_passes htime)
  exact ((looseDate_passes hdate).trans htime).mono (by decide) (by decide)

theorem strictDate_passes {u : Unit} (h : strictDate cs = some (u, rest)) :
    Passes 2 2 cs rest := by
  simp only [strictDate, Option.bind_eq_bind, Option.bind_eq_some_iff, Prod.exists] at h
  obtain ⟨y, afterYear, hyear, _, beforeMonth, hmark, m, afterMonth, hmonth, _, beforeDay, hmark',
    d, afterDay, hday, hdate⟩ := h
  obtain ⟨-, rfl⟩ := Prod.mk.inj (Option.some.inj (Option.ite_none_right_eq_some.1 hdate).2)
  have hmonth := (mark_passes (by decide) hmark).trans (pair_passes hmonth)
  have hday := (mark_passes (by decide) hmark').trans (pair_passes hday)
  exact ((digits_passes hyear).trans (hmonth.trans hday)).mono (by decide) (by decide)

theorem strictTime_passes {u : Unit} (h : strictTime cs = some (u, rest)) :
    cs ≠ [] ∧ Passes 0 0 cs rest := by
  simp only [strictTime, Option.bind_eq_bind, Option.bind_eq_some_iff, Prod.exists] at h
  obtain ⟨_, afterHour, hhour, _, beforeMinute, hmark, _, afterMinute, hminute, _, beforeSecond,
    hmark', _, afterSecond, hsecond, hfraction⟩ := h
  obtain ⟨d, tail, hcs, -⟩ := exists_cons_of_digits (digits_of_pair hhour) Nat.two_pos
  have hminute := (mark_passes (by decide) hmark).trans (pair_passes hminute)
  have hsecond := (mark_passes (by decide) hmark').trans (pair_passes hsecond)
  have htime := (pair_passes hhour).trans
    (hminute.trans (hsecond.trans (fraction_passes hfraction)))
  exact ⟨by simp [hcs], htime.mono (by decide) (by decide)⟩

/-- The separator may be white space, so something has to follow it. -/
theorem separator_passes {u : Unit} (hne : rest ≠ []) (h : separator cs = some (u, rest)) :
    Passes 0 0 cs rest := by
  cases cs with
  | nil => cases h
  | cons c cs =>
      obtain ⟨hc, hread⟩ := Option.ite_none_right_eq_some.1 h
      obtain ⟨-, rfl⟩ := Prod.mk.inj (Option.some.inj hread)
      have hhyphen : c ≠ '-' := by
        rintro rfl
        exact absurd hc (by decide)
      have hcount : (c :: cs).count '-' = cs.count '-' := List.count_cons_of_ne hhyphen
      refine ⟨hcount.ge, hcount.le, fun hend d hd => hend d ?_⟩
      rwa [List.getLast?_cons_of_ne_nil hne] at hd

theorem offset_passes {u : Unit} (h : offset cs = some (u, rest)) : Passes 0 1 cs rest := by
  cases cs with
  | nil => cases h
  | cons c cs =>
      have hcount : [c].count '-' ≤ 1 := List.count_le_length
      simp only [offset, Option.bind_eq_bind] at h
      split at h
      · next hc =>
          obtain ⟨-, rfl⟩ := Prod.mk.inj (Option.some.inj h)
          have hblank : isBlank c = false := by rcases hc with rfl | rfl <;> decide
          exact (Passes.cons hblank cs).mono (Nat.zero_le _) hcount
      · obtain ⟨hc, hread⟩ := Option.ite_none_right_eq_some.1 h
        simp only [Option.bind_eq_some_iff, Prod.exists] at hread
        obtain ⟨_, afterHour, hhour, _, beforeMinute, hmark, _, afterMinute, hminute, hread⟩ := hread
        obtain ⟨-, rfl⟩ := Prod.mk.inj (Option.some.inj hread)
        have hblank : isBlank c = false := by rcases hc with rfl | rfl | rfl <;> decide
        have htime := (pair_passes hhour).trans
          ((mark_passes (by decide) hmark).trans (pair_passes hminute))
        exact ((Passes.cons hblank cs).trans htime).mono (Nat.zero_le _) hcount

theorem offsetDateTime_passes {u : Unit} (h : offsetDateTime cs = some (u, rest)) :
    Passes 2 3 cs rest := by
  simp only [offsetDateTime, Option.bind_eq_bind, Option.bind_eq_some_iff, Prod.exists] at h
  obtain ⟨_, afterDate, hdate, _, beforeTime, hseparator, _, afterTime, htime, hoffset⟩ := h
  obtain ⟨hne, htime⟩ := strictTime_passes htime
  exact (strictDate_passes hdate).trans
    ((separator_passes hne hseparator).trans (htime.trans (offset_passes hoffset)))

/-! ### White space in front -/

theorem looseDate_trimStart (cs : List Char) : looseDate (trimStart cs) = looseDate cs := by
  simp only [looseDate, year, trimStart_trimStart]

theorem localDateTime_trimStart (seconds : Bool) (cs : List Char) :
    localDateTime seconds (trimStart cs) = localDateTime seconds cs := by
  simp only [localDateTime, looseDate_trimStart]

/-- A date-time with an offset begins with a digit. -/
theorem trimStart_of_offsetDateTime {u : Unit} (h : offsetDateTime cs = some (u, rest)) :
    trimStart cs = cs := by
  simp only [offsetDateTime, strictDate, Option.bind_eq_bind, Option.bind_eq_some_iff,
    Prod.exists] at h
  obtain ⟨-, -, ⟨y, afterYear, hyear, -⟩, -⟩ := h
  obtain ⟨d, tail, rfl, hd⟩ := exists_cons_of_digits hyear (by decide)
  exact trimStart_cons (isBlank_of_isAsciiDigit hd) tail

/-! ### Words of dates -/

theorem readsAll_iff {reader : Reader Unit} : readsAll reader cs = true ↔
    reader cs = some ((), []) := by
  unfold readsAll
  split
  · next hread => simp [hread]
  · next hread => exact iff_of_false Bool.false_ne_true (hread ·)

theorem isValid_iff {s : String} : isValid s = true ↔
    looseDate s.toList = some ((), []) ∨ offsetDateTime s.toList = some ((), []) ∨
      ∃ seconds, localDateTime seconds s.toList = some ((), []) := by
  simp only [isValid, Bool.or_eq_true, readsAll_iff, Bool.exists_bool]
  tauto

theorem passes_of_isValid {s : String} (h : isValid s = true) : Passes 2 3 s.toList [] := by
  rcases isValid_iff.1 h with hread | hread | ⟨seconds, hread⟩
  · exact looseDate_passes hread
  · exact offsetDateTime_passes hread
  · exact localDateTime_passes hread

theorem isValid_trimStart {s : String} (h : isValid s = true) :
    isValid (String.ofList (trimStart s.toList)) = true := by
  rw [isValid_iff, String.toList_ofList, looseDate_trimStart]
  simp only [localDateTime_trimStart]
  rcases isValid_iff.1 h with hread | hread | hread
  · exact Or.inl hread
  · rw [trimStart_of_offsetDateTime hread]
    exact Or.inr (Or.inl hread)
  · exact Or.inr (Or.inr hread)

theorem endsInWord_of_isValid {s : String} (h : isValid s = true) : EndsInWord s.toList :=
  (passes_of_isValid h).endsInWord fun _ hc => nomatch hc

theorem two_le_count_of_isValid {s : String} (h : isValid s = true) : 2 ≤ s.toList.count '-' := by
  simpa using (passes_of_isValid h).least_le

theorem count_le_three_of_isValid {s : String} (h : isValid s = true) :
    s.toList.count '-' ≤ 3 := by
  simpa using (passes_of_isValid h).le_most

theorem words_ne_nil_of_isValid {s : String} (h : isValid s = true) : words s.toList ≠ [] := by
  refine (endsInWord_of_isValid h).words_ne_nil fun hnil => ?_
  have hcount := two_le_count_of_isValid h
  rw [hnil] at hcount
  exact absurd hcount (by decide)

/-- The only word of a date is a date. -/
theorem isValid_of_words_eq_singleton {s : String} {word : List Char} (h : isValid s = true)
    (hword : words s.toList = [word]) : isValid (String.ofList word) = true := by
  have hsqueeze : squeeze (trimStart s.toList) = word := by
    rw [← trimStart_squeeze, trimStart_squeeze_eq_unwords (endsInWord_of_isValid h), hword]
    exact List.append_nil word
  have hblank : ∀ c ∈ squeeze (trimStart s.toList), isBlank c = false := by
    rw [hsqueeze]
    exact not_isBlank_of_mem_words (hword ▸ List.mem_singleton_self word)
  rw [← hsqueeze, squeeze_of_forall hblank]
  exact isValid_trimStart h

/-- Of several words of a date, one is no date. -/
theorem exists_not_isValid_of_words {s : String} (h : isValid s = true)
    (hwords : 1 < (words s.toList).length) :
    ∃ word ∈ words s.toList, isValid (String.ofList word) = false := by
  by_contra hall
  push Not at hall
  simp only [Bool.not_eq_false] at hall
  have hhyphens : (words s.toList).flatten.count '-' ≤ 3 := by
    rw [flatten_words, List.count_filter (by decide)]
    exact count_le_three_of_isValid h
  have hcount : ∀ word ∈ words s.toList, 2 ≤ word.count '-' := fun word hword => by
    simpa using two_le_count_of_isValid (hall word hword)
  match hlist : words s.toList with
  | [] => simp [hlist] at hwords
  | [word] => simp [hlist] at hwords
  | first :: second :: rest =>
      rw [hlist, List.flatten_cons, List.flatten_cons, List.count_append, List.count_append]
        at hhyphens
      have hfirst := hcount first (by simp [hlist])
      have hsecond := hcount second (by simp [hlist])
      omega

end CatalogSearch.DateTime
