import CatalogSearch.Catalog.Basic
import CatalogSearch.Error
import CatalogSearch.Expression.Basic
import CatalogSearch.FieldName

/-!
Strategies: what a comparator makes of a value on each kind of target. A target is a group of
fields, a full-text field, or a field that is compared as a whole. A strategy that has no meaning
for a kind of target refuses it.
-/

namespace CatalogSearch

/-- A member of a group, as far as strategies look at it. -/
structure Member where
  path : String
  fulltext : Bool
  multilang : Bool
  deriving DecidableEq, Repr

namespace Member

/-- A member that is compared as a whole. -/
def untokenized (path : String) : Member := ⟨path, false, false⟩

def ofField (f : Field) : Member := ⟨f.path, f.isFulltext, f.multilang⟩

/-- The field that full-text queries search. -/
def searchField (m : Member) : String :=
  if m.multilang then FieldName.allLanguages m.path else m.path

/-- The field that whole values are compared with. -/
def termField (m : Member) : String := if m.fulltext then FieldName.literal m.path else m.path

end Member

/-- A full-text field, as far as strategies look at it. -/
structure FulltextTarget where
  path : String
  multilang : Bool
  deriving DecidableEq, Repr

namespace FulltextTarget

/-- The field that full-text queries search. -/
def searchField (t : FulltextTarget) : String :=
  if t.multilang then FieldName.allLanguages t.path else t.path

/-- The field that whole values are compared with. -/
def literalField (t : FulltextTarget) : String := FieldName.literal t.path

end FulltextTarget

/-- A strategy: its name, the comparators it is for, and the query it makes for a value on each kind
of target. -/
structure Strategy where
  name : String
  comparators : List String
  onGroup : Value → List Member → Except CompileError Query
  onFulltext : Value → FulltextTarget → List Modifier → Except CompileError Query
  onTerm : Value → String → Except CompileError Query

namespace Strategy

def refuse (name kind : String) : Except CompileError Query :=
  .error (.unsupported (.target name kind))

def refusing (name : String) (comparators : List String) : Strategy where
  name := name
  comparators := comparators
  onGroup _ _ := refuse name "multi-field groups"
  onFulltext _ _ _ := refuse name "full-text fields"
  onTerm _ _ := refuse name "term-level fields"

end Strategy

end CatalogSearch
