import CatalogSearch.Json.Reader
import Mathlib.Logic.Basic

/-!
How deeply values are nested. The machine that reads tokens builds a value from its own tokens
exactly if as many arrays and objects may be open as the value has inside each other, and it never
builds a value that is nested more deeply. Of scalars, only texts are looked at here.
-/

namespace CatalogSearch.Json

mutual

/-- How many arrays and objects are inside each other. -/
def depth : Json → Nat
  | .array items => depthItems items + 1
  | .object members => depthMembers members + 1
  | _ => 0

/-- The depth of the deepest item. -/
def depthItems : List Json → Nat
  | [] => 0
  | item :: rest => max (depth item) (depthItems rest)

/-- The depth of the deepest member. -/
def depthMembers : List (String × Json) → Nat
  | [] => 0
  | (_, value) :: rest => max (depth value) (depthMembers rest)

end

variable {items : List Json} {members : List (String × Json)} {n : Nat}

theorem depthItems_le_iff : depthItems items ≤ n ↔ ∀ item ∈ items, depth item ≤ n := by
  induction items with
  | nil => simp [depthItems]
  | cons item items ih => rw [depthItems, Nat.max_le, ih, List.forall_mem_cons]

theorem depthMembers_le_iff :
    depthMembers members ≤ n ↔ ∀ member ∈ members, depth member.2 ≤ n := by
  induction members with
  | nil => simp [depthMembers]
  | cons member members ih => rw [depthMembers, Nat.max_le, ih, List.forall_mem_cons]

theorem depth_array_le_iff : depth (.array items) ≤ n ↔ 0 < n ∧ ∀ item ∈ items, depth item < n := by
  cases n with
  | zero => simp [depth]
  | succ n =>
      rw [depth, Nat.succ_le_succ_iff, depthItems_le_iff]
      exact ⟨fun h => ⟨n.succ_pos, fun item hitem => Nat.lt_succ_of_le (h item hitem)⟩,
        fun h item hitem => Nat.le_of_lt_succ (h.2 item hitem)⟩

theorem depth_object_le_iff :
    depth (.object members) ≤ n ↔ 0 < n ∧ ∀ member ∈ members, depth member.2 < n := by
  cases n with
  | zero => simp [depth]
  | succ n =>
      rw [depth, Nat.succ_le_succ_iff, depthMembers_le_iff]
      exact ⟨fun h => ⟨n.succ_pos, fun member hmember => Nat.lt_succ_of_le (h member hmember)⟩,
        fun h member hmember => Nat.le_of_lt_succ (h.2 member hmember)⟩

/-! ### Tokens -/

mutual

/-- The tokens of a value. -/
def tokens : Json → List Token
  | .array items => .openBracket :: itemTokens items ++ [.closeBracket]
  | .object members => .openBrace :: memberTokens members ++ [.closeBrace]
  | scalar => [.scalar scalar]

/-- The tokens of items between brackets. -/
def itemTokens : List Json → List Token
  | [] => []
  | [item] => tokens item
  | item :: rest => tokens item ++ .comma :: itemTokens rest

/-- The tokens of members between braces. -/
def memberTokens : List (String × Json) → List Token
  | [] => []
  | [(key, value)] => .scalar (.string key) :: .colon :: tokens value
  | (key, value) :: rest =>
    .scalar (.string key) :: .colon :: tokens value ++ .comma :: memberTokens rest

end

/-- A value whose scalars are texts. -/
inductive Textual : Json → Prop where
  | string (s : String) : Textual (.string s)
  | array {items : List Json} (h : ∀ item ∈ items, Textual item) : Textual (.array items)
  | object {members : List (String × Json)} (h : ∀ member ∈ members, Textual member.2) :
    Textual (.object members)

/-- Takes tokens one after another. -/
def State.run (limit : Nat) (s : State) (tokens : List Token) : Option State :=
  tokens.foldlM (State.step limit) s

namespace State

variable {limit : Nat} {stack : List Frame} {v : Json}

theorem run_cons (s : State) (token : Token) (rest : List Token) :
    run limit s (token :: rest) = (step limit s token).bind fun s => run limit s rest :=
  List.foldlM_cons ..

theorem run_cons_of_step {s s' : State} {token : Token} (h : step limit s token = some s')
    (rest : List Token) : run limit s (token :: rest) = run limit s' rest := by
  rw [run_cons, h, Option.bind_some]

/-- Where a value has to follow, its tokens build it, if as many arrays and objects may be open. -/
def Reads (limit : Nat) (v : Json) : Prop :=
  ∀ stack rest, stack.length ≤ limit →
    run limit (.value stack) (tokens v ++ rest) =
      if stack.length + depth v ≤ limit then run limit (.complete stack v) rest else none

/-- The first item of an array is read as any other. -/
theorem run_arrayStart_tokens (v : Json) (rest : List Token) :
    run limit (.arrayStart stack) (tokens v ++ rest) =
      run limit (.value (.items [] :: stack)) (tokens v ++ rest) := by
  cases v <;> rfl

theorem run_arrayStart_itemTokens (item : Json) (items : List Json) (rest : List Token) :
    run limit (.arrayStart stack) (itemTokens (item :: items) ++ rest) =
      run limit (.value (.items [] :: stack)) (itemTokens (item :: items) ++ rest) := by
  match items with
  | [] => exact run_arrayStart_tokens item rest
  | next :: items =>
      rw [itemTokens, List.append_assoc]
      · exact run_arrayStart_tokens item _
      · rintro ⟨⟩

/-- Items build an array together with those that are done. -/
theorem run_itemTokens {item : Json} (h : ∀ item' ∈ item :: items, Reads limit item')
    (hstack : stack.length < limit) (done : List Json) (rest : List Token) :
    run limit (.value (.items done :: stack))
        (itemTokens (item :: items) ++ .closeBracket :: rest) =
      if stack.length + 1 + depthItems (item :: items) ≤ limit then
        run limit (.complete stack (.array (done.reverse ++ item :: items))) rest
      else none := by
  induction items generalizing item done with
  | nil =>
      rw [itemTokens, h item List.mem_cons_self (.items done :: stack) _ hstack, run_cons]
      simp [step, depthItems]
  | cons next items ih =>
      obtain ⟨hitem, hitems⟩ := List.forall_mem_cons.1 h
      have htokens : itemTokens (item :: next :: items) ++ .closeBracket :: rest =
          tokens item ++ .comma :: (itemTokens (next :: items) ++ .closeBracket :: rest) := by
        simp [itemTokens]
      have hdepth : stack.length + 1 + depthItems (item :: next :: items) ≤ limit ↔
          (Frame.items done :: stack).length + depth item ≤ limit ∧
            stack.length + 1 + depthItems (next :: items) ≤ limit := by
        rw [depthItems, List.length_cons]
        omega
      rw [htokens, hitem (.items done :: stack) _ hstack, run_cons_of_step rfl,
        ih hitems (item :: done), ← ite_and, if_congr hdepth rfl rfl, List.reverse_cons,
        List.append_assoc, List.singleton_append]

/-- Members build an object together with those that are done. -/
theorem run_memberTokens {member : String × Json}
    (h : ∀ member' ∈ member :: members, Reads limit member'.2)
    (hstack : stack.length < limit) (done : List (String × Json)) (mayClose : Bool)
    (rest : List Token) :
    run limit (.key stack done mayClose) (memberTokens (member :: members) ++ .closeBrace :: rest) =
      if stack.length + 1 + depthMembers (member :: members) ≤ limit then
        run limit (.complete stack (.object (done.reverse ++ member :: members))) rest
      else none := by
  induction members generalizing member done mayClose with
  | nil =>
      obtain ⟨key, value⟩ := member
      have htokens : memberTokens [(key, value)] ++ .closeBrace :: rest =
          .scalar (.string key) :: .colon :: (tokens value ++ .closeBrace :: rest) := by
        simp [memberTokens]
      rw [htokens, run_cons_of_step rfl, run_cons_of_step rfl,
        h (key, value) List.mem_cons_self (.members done key :: stack) _ hstack, run_cons]
      simp [step, depthMembers]
  | cons next members ih =>
      obtain ⟨key, value⟩ := member
      obtain ⟨hvalue, hmembers⟩ := List.forall_mem_cons.1 h
      have htokens : memberTokens ((key, value) :: next :: members) ++ .closeBrace :: rest =
          .scalar (.string key) :: .colon :: (tokens value ++ .comma ::
            (memberTokens (next :: members) ++ .closeBrace :: rest)) := by
        simp [memberTokens]
      have hdepth : stack.length + 1 + depthMembers ((key, value) :: next :: members) ≤ limit ↔
          (Frame.members done key :: stack).length + depth value ≤ limit ∧
            stack.length + 1 + depthMembers (next :: members) ≤ limit := by
        rw [depthMembers, List.length_cons]
        omega
      rw [htokens, run_cons_of_step rfl, run_cons_of_step rfl,
        hvalue (.members done key :: stack) _ hstack, run_cons_of_step rfl,
        ih hmembers ((key, value) :: done), ← ite_and, if_congr hdepth rfl rfl, List.reverse_cons,
        List.append_assoc, List.singleton_append]

/-- The tokens of a value build the value, by induction on the value. -/
theorem reads_of_textual (limit : Nat) (h : Textual v) : Reads limit v := by
  induction h with
  | string s =>
      intro stack rest hstack
      have hdepth : stack.length + depth (.string s) ≤ limit := hstack
      rw [if_pos hdepth]
      rfl
  | @array items _ ih =>
      intro stack rest hstack
      have htokens : tokens (.array items) ++ rest =
          .openBracket :: (itemTokens items ++ .closeBracket :: rest) := by
        simp [tokens]
      rw [htokens, run_cons, step, openValue, depth]
      -- The bracket is accepted if one more array may be open, which any items need as well.
      by_cases hopen : stack.length < limit
      · rw [if_pos hopen, Option.bind_some]
        match items with
        | [] => exact (if_pos hopen).symm
        | item :: items =>
            rw [run_arrayStart_itemTokens, run_itemTokens ih hopen, Nat.add_right_comm,
              Nat.add_assoc]
            rfl
      · rw [if_neg hopen, if_neg (by omega), Option.bind_none]
  | @object members _ ih =>
      intro stack rest hstack
      have htokens : tokens (.object members) ++ rest =
          .openBrace :: (memberTokens members ++ .closeBrace :: rest) := by
        simp [tokens]
      rw [htokens, run_cons, step, openValue, depth]
      by_cases hopen : stack.length < limit
      · rw [if_pos hopen, Option.bind_some]
        match members with
        | [] => exact (if_pos hopen).symm
        | member :: members =>
            rw [run_memberTokens ih hopen, Nat.add_right_comm, Nat.add_assoc]
            rfl
      · rw [if_neg hopen, if_neg (by omega), Option.bind_none]

end State

theorem ofTokens?_eq (limit : Nat) (tokens : List Token) :
    ofTokens? limit tokens =
      match State.run limit (.value []) tokens with
      | some (.complete [] v) => some v
      | _ => none :=
  rfl

/-- The tokens of a value are accepted exactly if it is not nested too deeply. -/
theorem ofTokens?_tokens {v : Json} (h : Textual v) (limit : Nat) :
    ofTokens? limit (tokens v) = if depth v ≤ limit then some v else none := by
  have hrun := State.reads_of_textual limit h [] [] (Nat.zero_le limit)
  rw [List.append_nil, List.length_nil, Nat.zero_add] at hrun
  rw [ofTokens?_eq, hrun]
  by_cases hdepth : depth v ≤ limit
  · rw [if_pos hdepth, if_pos hdepth]
    rfl
  · rw [if_neg hdepth, if_neg hdepth]

/-! ### The bound -/

/-- The values that an open array or object holds so far. -/
def Frame.values : Frame → List Json
  | .items done => done
  | .members done _ => done.map Prod.snd

/-- The open arrays and objects are no more than allowed, and nor will those around a value that is
in one of them already. -/
def Frame.Fit (limit : Nat) : List Frame → Prop
  | [] => True
  | frame :: stack =>
    stack.length < limit ∧ (∀ v ∈ frame.values, stack.length + 1 + depth v ≤ limit) ∧
      Frame.Fit limit stack

/-- The bound in each state. -/
def State.Fit (limit : Nat) : State → Prop
  | .value stack => Frame.Fit limit stack
  | .arrayStart stack => Frame.Fit limit (.items [] :: stack)
  | .key stack done _ => Frame.Fit limit (.members done "" :: stack)
  | .colon stack done name => Frame.Fit limit (.members done name :: stack)
  | .complete stack v => stack.length + depth v ≤ limit ∧ Frame.Fit limit stack

/-- A token that is no value with parts. -/
def Token.IsFlat : Token → Prop
  | .scalar v => depth v = 0
  | _ => True

theorem Frame.Fit.length_le {limit : Nat} {stack : List Frame} (h : Frame.Fit limit stack) :
    stack.length ≤ limit := by
  cases stack with
  | nil => exact Nat.zero_le limit
  | cons frame stack => exact h.1

theorem State.Fit.openValue {limit : Nat} {stack : List Frame} {token : Token} {s : State}
    (hstack : Frame.Fit limit stack) (htoken : token.IsFlat)
    (h : openValue limit stack token = some s) : s.Fit limit := by
  cases token with
  | scalar v =>
      obtain rfl := Option.some.inj h
      have hv : depth v = 0 := htoken
      refine ⟨?_, hstack⟩
      rw [hv]
      exact hstack.length_le
  | openBracket =>
      rw [State.openValue] at h
      split at h
      case isTrue hopen =>
        obtain rfl := Option.some.inj h
        exact ⟨hopen, fun v hv => absurd hv List.not_mem_nil, hstack⟩
      case isFalse => cases h
  | openBrace =>
      rw [State.openValue] at h
      split at h
      case isTrue hopen =>
        obtain rfl := Option.some.inj h
        exact ⟨hopen, fun v hv => absurd hv List.not_mem_nil, hstack⟩
      case isFalse => cases h
  | closeBracket => cases h
  | closeBrace => cases h
  | comma => cases h
  | colon => cases h

theorem add_depth_array_le {limit size : Nat} (hsize : size < limit)
    (h : ∀ v ∈ items, size + 1 + depth v ≤ limit) :
    size + depth (.array items.reverse) ≤ limit := by
  have hdepth : depth (.array items.reverse) ≤ limit - size :=
    depth_array_le_iff.2 ⟨by omega, fun v hv => by
      have hle := h v (List.mem_reverse.1 hv)
      omega⟩
  omega

theorem add_depth_object_le {limit size : Nat} (hsize : size < limit)
    (h : ∀ v ∈ members.map Prod.snd, size + 1 + depth v ≤ limit) :
    size + depth (.object members.reverse) ≤ limit := by
  have hdepth : depth (.object members.reverse) ≤ limit - size :=
    depth_object_le_iff.2 ⟨by omega, fun member hmember => by
      have hle := h member.2 (List.mem_map_of_mem (List.mem_reverse.1 hmember))
      omega⟩
  omega

/-- No token breaks the bound. -/
theorem State.Fit.step {limit : Nat} {token : Token} {s s' : State} (hs : s.Fit limit)
    (htoken : token.IsFlat) (h : State.step limit s token = some s') : s'.Fit limit := by
  revert h
  fun_cases State.step limit s token
  case case1 stack => exact Fit.openValue hs htoken
  case case3 stack hne => exact Fit.openValue hs htoken
  all_goals rintro ⟨⟩
  case case2 stack => exact ⟨hs.1, hs.2.2⟩
  case case4 stack done _ name => exact hs
  case case5 stack done => exact ⟨add_depth_object_le hs.1 hs.2.1, hs.2.2⟩
  case case6 stack done name => exact hs
  case case7 done stack v =>
    obtain ⟨hv, hstack, hdone, hrest⟩ := hs
    exact ⟨hstack, List.forall_mem_cons.2 ⟨hv, hdone⟩, hrest⟩
  case case8 done stack v =>
    obtain ⟨hv, hstack, hdone, hrest⟩ := hs
    exact ⟨add_depth_array_le hstack (List.forall_mem_cons.2 ⟨hv, hdone⟩), hrest⟩
  case case9 done name stack v =>
    obtain ⟨hv, hstack, hdone, hrest⟩ := hs
    exact ⟨hstack, List.forall_mem_cons.2 ⟨hv, hdone⟩, hrest⟩
  case case10 done name stack v =>
    obtain ⟨hv, hstack, hdone, hrest⟩ := hs
    exact ⟨add_depth_object_le hstack (List.forall_mem_cons.2 ⟨hv, hdone⟩), hrest⟩

theorem State.Fit.run {limit : Nat} {tokens : List Token} {s s' : State} (hs : s.Fit limit)
    (htokens : ∀ token ∈ tokens, token.IsFlat) (h : State.run limit s tokens = some s') :
    s'.Fit limit := by
  induction tokens generalizing s with
  | nil =>
      obtain rfl := Option.some.inj h
      exact hs
  | cons token tokens ih =>
      obtain ⟨htoken, htokens⟩ := List.forall_mem_cons.1 htokens
      rw [run_cons] at h
      obtain ⟨next, hnext, h⟩ := Option.bind_eq_some_iff.1 h
      exact ih (hs.step htoken hnext) htokens h

/-- No value is built that is nested too deeply. -/
theorem depth_of_ofTokens? {limit : Nat} {tokens : List Token} {v : Json}
    (htokens : ∀ token ∈ tokens, token.IsFlat) (h : ofTokens? limit tokens = some v) :
    depth v ≤ limit := by
  have hrun : State.run limit (.value []) tokens = some (.complete [] v) := by
    rw [ofTokens?_eq] at h
    split at h
    case h_1 v' hv' => rwa [Option.some.inj h] at hv'
    case h_2 => cases h
  have hfit : State.Fit limit (.complete [] v) :=
    State.Fit.run (s := .value []) trivial htokens hrun
  simpa using hfit.1

theorem depth_of_word? {cs : List Char} {v : Json} (h : word? cs = some v) : depth v = 0 := by
  revert h
  fun_cases word? cs
  all_goals rintro ⟨⟩
  all_goals rfl

theorem depth_of_bind_decimal {exponent : Option Int} {p : Int → Prop} [DecidablePred p]
    {d : Int → Decimal} {v : Json}
    (h : (exponent >>= fun e => if p e then none else some (.decimal (d e))) = some v) :
    depth v = 0 := by
  obtain ⟨e, -, h⟩ := Option.bind_eq_some_iff.1 h
  split at h
  · cases h
  · obtain rfl := Option.some.inj h
    rfl

theorem depth_of_number? {cs : List Char} {v : Json} (h : number? cs = some v) : depth v = 0 := by
  revert h
  fun_cases number? cs
  case case6 => exact depth_of_bind_decimal
  case case7 => exact depth_of_bind_decimal
  all_goals rintro ⟨⟩
  all_goals rfl

theorem isFlat_of_punctuation? {c : Char} {token : Token} (h : punctuation? c = some token) :
    token.IsFlat := by
  revert h
  fun_cases punctuation? c
  all_goals rintro ⟨⟩
  all_goals trivial

theorem isFlat_of_lex {cs : List Char} {tokens : List Token} (h : lex cs = some tokens) :
    ∀ token ∈ tokens, token.IsFlat := by
  fun_induction lex cs generalizing tokens
  case case1 =>
    obtain rfl := Option.some.inj h
    exact List.forall_mem_nil _
  case case2 ih => exact ih h
  case case3 token hpunctuation ih =>
    obtain ⟨tokens, htokens, rfl⟩ := Option.map_eq_some_iff.1 h
    exact List.forall_mem_cons.2 ⟨isFlat_of_punctuation? hpunctuation, ih htokens⟩
  case case4 => cases h
  case case5 text after _ _ _ ih =>
    obtain ⟨tokens, htokens, rfl⟩ := Option.map_eq_some_iff.1 h
    exact List.forall_mem_cons.2 ⟨rfl, ih htokens⟩
  case case6 ih =>
    obtain ⟨v, hv, h⟩ := Option.bind_eq_some_iff.1 h
    obtain ⟨tokens, htokens, h⟩ := Option.bind_eq_some_iff.1 h
    obtain rfl := Option.some.inj h
    exact List.forall_mem_cons.2 ⟨depth_of_word? hv, ih htokens⟩
  case case7 ih =>
    obtain ⟨v, hv, h⟩ := Option.bind_eq_some_iff.1 h
    obtain ⟨tokens, htokens, h⟩ := Option.bind_eq_some_iff.1 h
    obtain rfl := Option.some.inj h
    exact List.forall_mem_cons.2 ⟨depth_of_number? hv, ih htokens⟩

/-- What text is read as is not nested too deeply. -/
theorem depth_of_parseWithin? {limit : Nat} {text : String} {v : Json}
    (h : parseWithin? limit text = some v) : depth v ≤ limit := by
  obtain ⟨tokens, htokens, h⟩ := Option.bind_eq_some_iff.1 h
  exact depth_of_ofTokens? (isFlat_of_lex htokens) h

end CatalogSearch.Json
