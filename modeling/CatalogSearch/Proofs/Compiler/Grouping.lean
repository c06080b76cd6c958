import CatalogSearch.Facet.Aggregation
import CatalogSearch.Proofs.Compiler.Chain
import CatalogSearch.Proofs.Compiler.Meaning

/-!
Groupings of clauses that are joined by one connective. A connective takes the list of its left
operand apart and leaves its right operand whole. So the query of an expression lists the operands
that stand to the right along its left edge. All groupings of some clauses find the same documents,
but only the one without groups to the right has them in one list, and only there promotion sees
all of them.
-/

namespace CatalogSearch

/-- A query that is neither boolean nor a range. -/
structure Query.Plain (q : Query) : Prop where
  not_bool : ∀ must should mustNot filter, q ≠ bool must should mustNot filter
  not_range : ∀ r, q ≠ range r

namespace Query.Plain

theorem oneDemand {q : Query} (h : q.Plain) : q.OneDemand :=
  fun _ _ _ _ _ _ => h.not_bool _ _ _ _

theorem range?_eq_none {q : Query} (h : q.Plain) : q.range? = none := by
  cases q with
  | range r => exact absurd rfl (h.not_range r)
  | _ => rfl

theorem of_term (field : String) (v : Value) : (term field v).Plain :=
  ⟨by simp, by simp⟩

end Query.Plain

/-- The ways to put parentheses around clauses that are joined by one connective, in their order. -/
inductive Expression.Groups (op : Connective) : List Clause → Expression → Prop where
  | clause (cl : Clause) : Groups op [cl] (.clause cl)
  | join {cls cls' : List Clause} {left right : Expression} (hleft : Groups op cls left)
      (hright : Groups op cls' right) : Groups op (cls ++ cls') (.boolean op left right)

/-- The operands of a connective along the left edge of an expression. -/
def Expression.operands (op : Connective) : Expression → List Expression
  | boolean op' left right =>
    if op' = op then left.operands op ++ [right] else [boolean op' left right]
  | e => [e]

namespace Expression

variable {op : Connective}

theorem operands_boolean (left right : Expression) :
    (boolean op left right).operands op = left.operands op ++ [right] :=
  if_pos rfl

theorem operands_foldl (e : Expression) (es : List Expression) :
    (es.foldl (boolean op) e).operands op = e.operands op ++ es := by
  induction es generalizing e with
  | nil => rw [List.foldl_nil, List.append_nil]
  | cons right es ih =>
      rw [List.foldl_cons, ih, operands_boolean, List.append_assoc]
      rfl

theorem Groups.ne_nil {cls : List Clause} {e : Expression} (h : Groups op cls e) : cls ≠ [] := by
  induction h with
  | clause cl => exact List.cons_ne_nil cl []
  | join _ _ ihleft _ => exact List.append_ne_nil_of_left_ne_nil ihleft _

theorem Groups.eq_singleton {cls : List Clause} {cl : Clause} (h : Groups op cls (.clause cl)) :
    cls = [cl] := by
  cases h
  rfl

/-- Clauses without a group to the right are nested to the left. -/
theorem Groups.eq_foldl {cls : List Clause} {e : Expression} (h : Groups op cls e)
    (hclauses : ∀ r ∈ e.operands op, ∃ cl, r = .clause cl) :
    ∃ first rest, cls = first :: rest ∧
      e = (rest.map .clause).foldl (.boolean op) (.clause first) := by
  induction h with
  | clause cl => exact ⟨cl, [], rfl, rfl⟩
  | join hleft hright ihleft _ =>
      rw [operands_boolean, List.forall_mem_append, List.forall_mem_singleton] at hclauses
      obtain ⟨hclauses, cl, rfl⟩ := hclauses
      obtain ⟨first, rest, rfl, rfl⟩ := ihleft hclauses
      obtain rfl := hright.eq_singleton
      refine ⟨first, rest ++ [cl], rfl, ?_⟩
      rw [List.map_append, List.foldl_append]
      rfl

end Expression

namespace Query

variable {k : Catalog} {resource : String} {qs rs : List Query}

/-- Promotion does not hide the demands that stay. -/
theorem mem_of_promote_demands_eq
    (h : (bool rs [] [] []).promote k resource = (bool qs [] [] []).promote k resource) {q : Query}
    (hq : ¬ q.FilterClause k resource) (hmem : q ∈ rs) : q ∈ qs := by
  rw [promote_bool (not_filterClause_demands rs), promote_bool (not_filterClause_demands qs)] at h
  have hkept : q ∈ rs.filter fun c => ¬ c.FilterClause k resource :=
    List.mem_filter.2 ⟨hmem, decide_eq_true hq⟩
  rw [(bool.inj h).1] at hkept
  exact (List.mem_filter.1 hkept).1

theorem not_filterClause_choice_of_bool_mem {must should mustNot filter : List Query}
    (hmem : bool must should mustNot filter ∈ rs) :
    ¬ (bool [] rs [] []).FilterClause k resource := by
  intro h
  generalize hq : bool [] rs [] [] = q at h
  cases h with
  | term => cases hq
  | choice field v vs _ =>
      obtain rfl := (bool.inj hq).2.1
      obtain ⟨w, -, hw⟩ := List.mem_map.1 hmem
      cases hw

/-- Promotion does not change a choice that is no filter. -/
theorem eq_of_promote_choice_eq (hrs : ¬ (bool [] rs [] []).FilterClause k resource)
    (hne : rs ≠ [])
    (h : (bool [] rs [] []).promote k resource = (bool [] qs [] []).promote k resource) :
    rs = qs := by
  rw [promote_bool hrs] at h
  by_cases hqs : (bool [] qs [] []).FilterClause k resource
  · rw [promote_of_filterClause hqs] at h
    exact absurd (bool.inj h).2.1 hne
  · rw [promote_bool hqs] at h
    exact (bool.inj h).2.1

end Query

namespace Compiler

/-- The query that has queries in one list, for the connectives that make lists. -/
def flat? : Connective → Option (List Query → Query)
  | .and => some fun qs => .bool qs [] [] []
  | .or => some fun qs => .bool [] qs [] []
  | .not => none
  | .prox => none

variable {c : Compiler} {resource : String} {op : Connective}
  {combine : Query → Query → Query} {flat : List Query → Query}

/-! ### Flat queries -/

theorem flat?_eq_some_iff :
    flat? op = some flat ↔
      (op = .and ∧ flat = fun qs => .bool qs [] [] []) ∨
        (op = .or ∧ flat = fun qs => .bool [] qs [] []) := by
  cases op <;> simp [flat?, eq_comm]

theorem exists_combine?_of_flat? (hflat : flat? op = some flat) :
    ∃ combine, combine? op = some combine := by
  rcases flat?_eq_some_iff.1 hflat with ⟨rfl, -⟩ | ⟨rfl, -⟩
  · exact ⟨_, rfl⟩
  · exact ⟨_, rfl⟩

theorem combine_of_plain (hcombine : combine? op = some combine) (hflat : flat? op = some flat)
    {q : Query} (hq : q.Plain) (r : Query) : combine q r = flat [q, r] := by
  rcases flat?_eq_some_iff.1 hflat with ⟨rfl, rfl⟩ | ⟨rfl, rfl⟩
  · obtain rfl := Option.some.inj hcombine
    exact Query.foldl_conjunction hq.oneDemand (Or.inl hq.range?_eq_none) []
  · obtain rfl := Option.some.inj hcombine
    rcases Query.joinShould_cases q r with ⟨must, should, mustNot, filter, -, hbool, -⟩ | hjoin
    · exact absurd hbool (hq.not_bool _ _ _ _)
    · exact hjoin

theorem combine_flat (hcombine : combine? op = some combine) (hflat : flat? op = some flat)
    (a b : Query) (qs : List Query) (r : Query) :
    combine (flat (a :: b :: qs)) r = flat (a :: b :: qs ++ [r]) := by
  rcases flat?_eq_some_iff.1 hflat with ⟨rfl, rfl⟩ | ⟨rfl, rfl⟩
  · obtain rfl := Option.some.inj hcombine
    rfl
  · obtain rfl := Option.some.inj hcombine
    rfl

theorem finds_flat_singleton (hflat : flat? op = some flat) (rule : ChoiceRule) (d : Document)
    (q : Query) : (flat [q]).finds rule d = q.finds rule d := by
  rcases flat?_eq_some_iff.1 hflat with ⟨rfl, rfl⟩ | ⟨rfl, rfl⟩
  · simp [Query.finds_demands]
  · simp [Query.finds_choice]

theorem finds_flat_append (hflat : flat? op = some flat) (rule : ChoiceRule) (d : Document)
    {qs rs : List Query} (hqs : qs ≠ []) (hrs : rs ≠ []) :
    (flat (qs ++ rs)).finds rule d =
      op.holds ((flat qs).finds rule d) ((flat rs).finds rule d) := by
  rcases flat?_eq_some_iff.1 hflat with ⟨rfl, rfl⟩ | ⟨rfl, rfl⟩
  · simp [Query.finds_demands, Connective.holds]
  · have hne : qs ++ rs ≠ [] := List.append_ne_nil_of_left_ne_nil hqs rs
    simp only [Query.finds_choice rule d _ hne, Query.finds_choice rule d _ hqs,
      Query.finds_choice rule d _ hrs, List.any_append, Connective.holds]

theorem not_plain_flat (hflat : flat? op = some flat) (qs : List Query) : ¬ (flat qs).Plain := by
  intro h
  rcases flat?_eq_some_iff.1 hflat with ⟨rfl, rfl⟩ | ⟨rfl, rfl⟩
  · exact h.not_bool _ _ _ _ rfl
  · exact h.not_bool _ _ _ _ rfl

/-- A flat query among the clauses of another one is still there after promotion. -/
theorem flat_not_mem_of_promote_eq (hflat : flat? op = some flat) {k : Catalog}
    {qs rs : List Query} (hqs : ∀ q ∈ qs, q.Plain)
    (h : (flat rs).promote k resource = (flat qs).promote k resource) (group : List Query) :
    flat group ∉ rs := by
  intro hmem
  have hmem' : flat group ∈ qs := by
    rcases flat?_eq_some_iff.1 hflat with ⟨rfl, rfl⟩ | ⟨rfl, rfl⟩
    · exact Query.mem_of_promote_demands_eq h (Query.not_filterClause_demands _) hmem
    · have hchoice : ¬ (Query.bool [] rs [] []).FilterClause k resource :=
        Query.not_filterClause_choice_of_bool_mem hmem
      rw [← Query.eq_of_promote_choice_eq hchoice (List.ne_nil_of_mem hmem) h]
      exact hmem
  exact not_plain_flat hflat group (hqs _ hmem')

/-! ### The query of a grouping -/

/-- A query that lists others: a single one, or several in a flat query. -/
inductive Lists (flat : List Query → Query) : List Query → Query → Prop where
  | alone {q : Query} (hq : q.Plain) : Lists flat [q] q
  | several (a b : Query) (qs : List Query) : Lists flat (a :: b :: qs) (flat (a :: b :: qs))

namespace Lists

variable {q : Query} {qs : List Query}

theorem ne_nil (h : Lists flat qs q) : qs ≠ [] := by
  cases h <;> exact List.cons_ne_nil _ _

theorem combine_eq (hcombine : combine? op = some combine) (hflat : flat? op = some flat)
    (h : Lists flat qs q) (r : Query) : combine q r = flat (qs ++ [r]) := by
  cases h with
  | alone hq => exact combine_of_plain hcombine hflat hq r
  | several a b qs => exact combine_flat hcombine hflat a b qs r

theorem append (h : Lists flat qs q) (r : Query) :
    Lists flat (qs ++ [r]) (flat (qs ++ [r])) := by
  cases h with
  | alone => exact .several q r []
  | several a b qs => exact .several a b (qs ++ [r])

theorem finds (hflat : flat? op = some flat) (h : Lists flat qs q) (rule : ChoiceRule)
    (d : Document) : (flat qs).finds rule d = q.finds rule d := by
  cases h with
  | alone => exact finds_flat_singleton hflat rule d q
  | several => rfl

end Lists

/-- An operand with its query: a clause, or a group that has a flat query. -/
structure Operand (c : Compiler) (resource : String) (flat : List Query → Query) (e : Expression)
    (q : Query) : Prop where
  query : c.expressionQuery resource e = .ok q
  clause_or_group : (∃ cl, e = .clause cl) ∨ ∃ group, q = flat group

theorem operand_boolean (hflat : flat? op = some flat) {left right : Expression} {q r : Query}
    {qs : List Query} (hleft : c.expressionQuery resource left = .ok q) (hq : Lists flat qs q)
    (hright : c.expressionQuery resource right = .ok r) :
    c.Operand resource flat (.boolean op left right) (flat (qs ++ [r])) := by
  obtain ⟨combine, hcombine⟩ := exists_combine?_of_flat? hflat
  have hjoin := hq.combine_eq hcombine hflat r
  have hquery := expressionQuery_boolean_eq_ok_iff.2
    ⟨combine, q, r, hcombine, hleft, hright, hjoin.symm⟩
  exact ⟨hquery, Or.inr ⟨_, rfl⟩⟩

theorem exists_append_of_forall₂_append {α β : Type} {R : α → β → Prop} {xs xs' : List α}
    {ys : List β} (h : List.Forall₂ R (xs ++ xs') ys) :
    ∃ zs zs', ys = zs ++ zs' ∧ List.Forall₂ R xs zs ∧ List.Forall₂ R xs' zs' := by
  have htake := List.forall₂_take xs.length h
  have hdrop := List.forall₂_drop xs.length h
  rw [List.take_left] at htake
  rw [List.drop_left] at hdrop
  exact ⟨_, _, (List.take_append_drop xs.length ys).symm, htake, hdrop⟩

/-- The query of a grouping lists the queries of its operands and finds what the clauses find, by
induction on the grouping. -/
theorem exists_query_of_groups (hflat : flat? op = some flat) {cls : List Clause} {e : Expression}
    (hgroups : e.Groups op cls) {qs : List Query}
    (hqs : List.Forall₂ (fun cl q => c.clauseQuery resource cl = .ok q) cls qs)
    (hplain : ∀ q ∈ qs, q.Plain) :
    ∃ q rs, c.Operand resource flat e q ∧ Lists flat rs q ∧
      List.Forall₂ (c.Operand resource flat) (e.operands op) rs ∧
      ∀ rule d, q.finds rule d = (flat qs).finds rule d := by
  induction hgroups generalizing qs with
  | clause cl =>
      obtain ⟨q, _, hq, hnil, rfl⟩ := List.forall₂_cons_left_iff.1 hqs
      cases hnil
      have hoperand : c.Operand resource flat (.clause cl) q := ⟨hq, Or.inl ⟨cl, rfl⟩⟩
      have hlists : Lists flat [q] q := .alone (hplain q List.mem_cons_self)
      exact ⟨q, [q], hoperand, hlists, .cons hoperand .nil,
        fun rule d => (hlists.finds hflat rule d).symm⟩
  | @join cls cls' left right hleft hright ihleft ihright =>
      obtain ⟨qs, qs', rfl, hqs, hqs'⟩ := exists_append_of_forall₂_append hqs
      obtain ⟨hplain, hplain'⟩ := List.forall_mem_append.1 hplain
      obtain ⟨q, rs, hq, hlists, hrs, hfinds⟩ := ihleft hqs hplain
      obtain ⟨r, _, hr, -, -, hfinds'⟩ := ihright hqs' hplain'
      -- The query of the left operand gives its list, that of the right one is one more clause.
      refine ⟨flat (rs ++ [r]), rs ++ [r], operand_boolean hflat hq.query hlists hr.query,
        hlists.append r, ?_, ?_⟩
      · rw [Expression.operands_boolean]
        exact List.rel_append hrs (.cons hr .nil)
      · intro rule d
        have hne : qs ≠ [] := by
          rintro rfl
          exact hleft.ne_nil (List.forall₂_nil_right_iff.1 hqs)
        have hne' : qs' ≠ [] := by
          rintro rfl
          exact hright.ne_nil (List.forall₂_nil_right_iff.1 hqs')
        calc (flat (rs ++ [r])).finds rule d
            = op.holds ((flat rs).finds rule d) ((flat [r]).finds rule d) :=
              finds_flat_append hflat rule d hlists.ne_nil (List.cons_ne_nil r [])
          _ = op.holds (q.finds rule d) (r.finds rule d) := by
              rw [hlists.finds hflat, finds_flat_singleton hflat]
          _ = op.holds ((flat qs).finds rule d) ((flat qs').finds rule d) := by
              rw [hfinds, hfinds']
          _ = (flat (qs ++ qs')).finds rule d :=
              (finds_flat_append hflat rule d hne hne').symm

theorem clause_of_operands {es : List Expression} {rs : List Query}
    (hrs : List.Forall₂ (c.Operand resource flat) es rs) (h : ∀ group, flat group ∉ rs) :
    ∀ e ∈ es, ∃ cl, e = .clause cl := by
  induction hrs with
  | nil => exact List.forall_mem_nil _
  | cons hoperand _ ih =>
      refine List.forall_mem_cons.2 ⟨?_, ih fun group hmem => h group (List.mem_cons_of_mem _ hmem)⟩
      rcases hoperand.clause_or_group with hclause | ⟨group, rfl⟩
      · exact hclause
      · exact absurd List.mem_cons_self (h group)

/-- Several clauses have a flat query, however they are grouped. -/
theorem eq_flat_of_groups (hflat : flat? op = some flat) {first : Clause} {rest : List Clause}
    (hrest : rest ≠ []) {e : Expression} (hgroups : e.Groups op (first :: rest)) {q : Query}
    {rs : List Query} (hq : c.Operand resource flat e q) (hlists : Lists flat rs q) :
    q = flat rs := by
  cases hlists with
  | alone hplain =>
      rcases hq.clause_or_group with ⟨cl, rfl⟩ | ⟨group, rfl⟩
      · have hrest' := (List.cons.inj hgroups.eq_singleton).2
        exact absurd hrest' hrest
      · exact absurd hplain (not_plain_flat hflat group)
  | several => rfl

/-- The operands of clauses that are nested to the left are the clauses. -/
theorem queries_operands_foldl {op : Connective} {first : Clause} {rest : List Clause}
    {qs rs : List Query}
    (hqs : List.Forall₂ (fun cl q => c.clauseQuery resource cl = .ok q) (first :: rest) qs)
    (hrs : List.Forall₂ (fun e q => c.expressionQuery resource e = .ok q)
      (((rest.map .clause).foldl (Expression.boolean op) (.clause first)).operands op) rs) :
    rs = qs := by
  have hunique : Relator.RightUnique fun cl q => c.clauseQuery resource cl = .ok q := by
    intro cl q r hq hr
    exact Except.ok.inj (hq.symm.trans hr)
  have hmap : (Expression.clause first).operands op ++ rest.map .clause =
      (first :: rest).map .clause := rfl
  rw [Expression.operands_foldl, hmap, List.forall₂_map_left_iff] at hrs
  exact List.right_unique_forall₂' hunique hrs hqs

/-- **All groupings find the same documents, and one of them is flat.** Clauses whose queries are
neither boolean nor ranges, two or more of them, are joined by conjunctions only or by disjunctions
only. Wherever the parentheses stand, the expression has a query, which finds what the flat list of
the clauses finds. The query is that list, with the same filters, exactly if the clauses are nested
to the left. Otherwise it lists the operands along the left edge, of which the groups stay whole. -/
theorem compile_groups (c : Compiler) (resource : String) (op : Connective)
    {flat : List Query → Query} (hflat : flat? op = some flat) (first : Clause)
    (rest : List Clause) (hrest : rest ≠ []) (qs : List Query)
    (hqs : List.Forall₂ (fun cl q => c.clauseQuery resource cl = .ok q) (first :: rest) qs)
    (hplain : ∀ q ∈ qs, q.Plain) (e : Expression) (hgroups : e.Groups op (first :: rest)) :
    ∃ s rs, c.compile resource e = .ok s ∧ s.sort = [] ∧
      (∀ rule d, s.query.finds rule d = (flat qs).finds rule d) ∧
      (s.query = (flat qs).promote c.catalog resource ↔
        e = (rest.map .clause).foldl (.boolean op) (.clause first)) ∧
      List.Forall₂ (fun e q => c.expressionQuery resource e = .ok q) (e.operands op) rs ∧
      s.query = (flat rs).promote c.catalog resource := by
  obtain ⟨q, rs, hq, hlists, hrs, hfinds⟩ := exists_query_of_groups hflat hgroups hqs hplain
  have hqueries := hrs.imp fun _ _ h => h.query
  obtain rfl : q = flat rs := eq_flat_of_groups hflat hrest hgroups hq hlists
  refine ⟨_, rs, compile_of_expressionQuery hq.query, rfl, ?_, ⟨?_, ?_⟩, hqueries, rfl⟩
  · intro rule d
    rw [Query.finds_promote, hfinds]
  · -- A group would stand in the list after promotion, and none of the clauses is one.
    intro h
    have hclauses := clause_of_operands hrs (flat_not_mem_of_promote_eq hflat hplain h)
    obtain ⟨first', rest', hcls, he⟩ := hgroups.eq_foldl hclauses
    obtain ⟨rfl, rfl⟩ := List.cons.inj hcls
    exact he
  · rintro rfl
    rw [queries_operands_foldl hqs hqueries]

def ofGenre (genre : String) : Clause := ⟨"genre", "=", genre, []⟩

def genreTerms (genres : List String) : List Query :=
  genres.map fun genre => .term "genre" (.text genre)

theorem plain_of_mem_genreTerms (genres : List String) : ∀ q ∈ genreTerms genres, q.Plain := by
  intro q hq
  obtain ⟨genre, -, rfl⟩ := List.mem_map.1 hq
  exact .of_term _ _

theorem clauseQuery_ofGenre :
    List.Forall₂
      (fun cl q => clauseQuery ⟨.books, .standard, .standard, .standard⟩ "book" cl = .ok q)
      (["novel", "poem", "essay"].map ofGenre) (genreTerms ["novel", "poem", "essay"]) := by
  refine .cons ?_ (.cons ?_ (.cons ?_ .nil)) <;> decide +kernel

/-- Books of one of three genres, the second and third of them grouped. -/
theorem compile_groups_genres :
    let c : Compiler := ⟨.books, .standard, .standard, .standard⟩
    let listed : Query := .bool [] (genreTerms ["novel", "poem", "essay"]) [] []
    ∃ s, c.compile "book" (.boolean .or (.clause (ofGenre "novel"))
          (.boolean .or (.clause (ofGenre "poem")) (.clause (ofGenre "essay")))) = .ok s ∧
      (∀ rule d, s.query.finds rule d = listed.finds rule d) ∧
      s.query ≠ listed.promote .books "book" := by
  intro c listed
  obtain ⟨s, -, hs, -, hfinds, hflat, -⟩ := compile_groups c "book" .or rfl (ofGenre "novel")
    [ofGenre "poem", ofGenre "essay"] (List.cons_ne_nil _ _) _ clauseQuery_ofGenre
    (plain_of_mem_genreTerms _) _
    (.join (.clause _) (.join (.clause _) (.clause _)))
  refine ⟨s, hs, hfinds, fun h => ?_⟩
  cases hflat.1 h

/-- Not all groupings have the same query: three genres become a filter, but one genre beside a
group of two does not. -/
theorem not_forall_groups_same :
    ¬ ∀ (c : Compiler) (resource : String) (op : Connective) (cls : List Clause) (qs : List Query),
      op = .and ∨ op = .or → 2 ≤ cls.length →
      List.Forall₂ (fun cl q => c.clauseQuery resource cl = .ok q) cls qs →
      (∀ q ∈ qs, q.Plain) → ∀ e e', Expression.Groups op cls e → Expression.Groups op cls e' →
        c.compile resource e = c.compile resource e' := by
  intro h
  have hsame := h ⟨.books, .standard, .standard, .standard⟩ "book" .or _ _ (Or.inr rfl) (by decide)
    clauseQuery_ofGenre (plain_of_mem_genreTerms _) _ _
    (.join (.join (.clause _) (.clause _)) (.clause _))
    (.join (.clause _) (.join (.clause _) (.clause _)))
  exact absurd hsame (by decide +kernel)

/-- Only where the genres are one filter, a facet finds them selected. -/
example :
    let novels := Query.term "genre" (.text "novel")
    let others := genreTerms ["poem", "essay"]
    (FacetScope.ofQuery "genre"
        ((Query.bool [] (novels :: others) [] []).promote .books "book")).selected =
      [.text "novel", .text "poem", .text "essay"] ∧
    (FacetScope.ofQuery "genre"
        ((Query.bool [] [novels, .bool [] others [] []] [] []).promote .books "book")).selected =
      [] := by
  decide +kernel

end Compiler

end CatalogSearch
