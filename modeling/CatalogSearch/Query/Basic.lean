import CatalogSearch.Value

/-!
Queries as a document search engine takes them: leaves that test fields of a document, and boolean
queries of four lists of clauses. Equality of queries is decidable.
-/

namespace CatalogSearch

/-- How the words of a full-text query have to occur. -/
inductive MatchMode where
  | all
  | any
  | phrase
  deriving DecidableEq, Repr

def MatchMode.text : MatchMode → String
  | all => "all"
  | any => "any"
  | phrase => "phrase"

/-- Values of a field between bounds, either of which may be missing. -/
structure Range where
  field : String
  lower : Option Value
  upper : Option Value
  includeLower : Bool
  includeUpper : Bool
  deriving DecidableEq, Repr

namespace Range

def isUpperOnly (r : Range) : Bool := r.lower.isNone && r.upper.isSome

def isLowerOnly (r : Range) : Bool := r.lower.isSome && r.upper.isNone

/-- The lower bound, or else the upper one. -/
def anchor? (r : Range) : Option Value := r.lower <|> r.upper

def atLeast (field : String) (v : Value) (inclusive : Bool) : Range :=
  ⟨field, some v, none, inclusive, true⟩

def atMost (field : String) (v : Value) (inclusive : Bool) : Range :=
  ⟨field, none, some v, true, inclusive⟩

end Range

/-- A query. Of the clauses of a boolean query, those of `must` and `filter` have to match, those of
`mustNot` must not, and of `should` one has to if there are any. -/
inductive Query where
  | matchAll
  | term (field : String) (value : Value)
  | range (r : Range)
  | wildcard (field pattern : String)
  | fulltext (fields : List String) (value : String) (mode : MatchMode)
  | bool (must should mustNot filter : List Query)
  | scored (query : Query) (boost : Decimal)
  deriving Repr, Inhabited

namespace Query

mutual

/-- Whether two queries are the same. -/
def same : Query → Query → Bool
  | matchAll, matchAll => true
  | term f v, term g w => f == g && v == w
  | range r, range s => r == s
  | wildcard f p, wildcard g q => f == g && p == q
  | fulltext fs v m, fulltext gs w n => fs == gs && v == w && m == n
  | bool m s n f, bool m' s' n' f' =>
    sameAll m m' && sameAll s s' && sameAll n n' && sameAll f f'
  | scored q b, scored q' b' => same q q' && b == b'
  | _, _ => false

def sameAll : List Query → List Query → Bool
  | [], [] => true
  | q :: qs, r :: rs => same q r && sameAll qs rs
  | _, _ => false

end

mutual

theorem eq_of_same : ∀ {q r : Query}, same q r = true → q = r
  | matchAll, r, h => by cases r <;> simp_all [same]
  | term .., r, h => by cases r <;> simp_all [same]
  | range _, r, h => by cases r <;> simp_all [same]
  | wildcard .., r, h => by cases r <;> simp_all [same]
  | fulltext .., r, h => by cases r <;> simp_all [same]
  | bool m s n f, r, h => by
    cases r with
    | bool m' s' n' f' =>
      simp only [same, Bool.and_eq_true] at h
      rw [eq_of_sameAll h.1.1.1, eq_of_sameAll h.1.1.2, eq_of_sameAll h.1.2, eq_of_sameAll h.2]
    | _ => simp [same] at h
  | scored q b, r, h => by
    cases r with
    | scored q' b' =>
      simp only [same, Bool.and_eq_true, beq_iff_eq] at h
      rw [eq_of_same h.1, h.2]
    | _ => simp [same] at h

theorem eq_of_sameAll : ∀ {qs rs : List Query}, sameAll qs rs = true → qs = rs
  | [], rs, h => by cases rs <;> simp_all [sameAll]
  | q :: qs, rs, h => by
    cases rs with
    | nil => simp [sameAll] at h
    | cons r rs =>
      simp only [sameAll, Bool.and_eq_true] at h
      rw [eq_of_same h.1, eq_of_sameAll h.2]

end

mutual

theorem same_refl : ∀ q : Query, same q q = true
  | matchAll => rfl
  | term .. => by simp [same]
  | range _ => by simp [same]
  | wildcard .. => by simp [same]
  | fulltext .. => by simp [same]
  | bool m s n f => by simp [same, sameAll_refl m, sameAll_refl s, sameAll_refl n, sameAll_refl f]
  | scored q b => by simp [same, same_refl q]

theorem sameAll_refl : ∀ qs : List Query, sameAll qs qs = true
  | [] => rfl
  | q :: qs => by simp [sameAll, same_refl q, sameAll_refl qs]

end

theorem same_iff {q r : Query} : same q r = true ↔ q = r :=
  ⟨eq_of_same, fun h => h ▸ same_refl q⟩

instance : DecidableEq Query := fun q r => decidable_of_iff (same q r = true) same_iff

def termField? : Query → Option String
  | term field _ => some field
  | _ => none

def termValue? : Query → Option Value
  | term _ v => some v
  | _ => none

def range? : Query → Option Range
  | range r => some r
  | _ => none

/-- The field of a query that is nothing but a choice between terms on one field. -/
def disjunctionField? : Query → Option String
  | bool [] (q :: qs) [] [] => do
    let field ← q.termField?
    if qs.all fun r => r.termField? == some field then some field else none
  | _ => none

/-- The query as a filter: a boolean query with it as the only clause, where it does not count for
the score. -/
def inFilter (q : Query) : Query := bool [] [] [] [q]

end Query

/-- The order of a sort. -/
inductive SortOrder where
  | ascending
  | descending
  deriving DecidableEq, Repr

/-- Which of several values of a document it is sorted by. -/
inductive SortMode where
  | min
  | max
  deriving DecidableEq, Repr

/-- A field of the index to sort by. -/
structure SortKey where
  field : String
  order : SortOrder
  mode : Option SortMode
  deriving DecidableEq, Repr

/-- A query and the order of what it finds. -/
structure SearchQuery where
  query : Query
  sort : List SortKey
  deriving DecidableEq, Repr

/-- How often each value of a field occurs in what a query finds, for at most `size` values, among
the included ones if there are any, without the excluded ones; or aggregations of what also passes
filters. -/
inductive Aggregation where
  | terms (name field : String) (size : Option Nat) (including excluding : List Value)
  | filter (name : String) (filters : List Query) (aggregations : List Aggregation)

end CatalogSearch
