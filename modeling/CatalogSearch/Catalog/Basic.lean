import CatalogSearch.NameTable

/-!
The field catalog: for each type of resource, which fields records have, what the fields can be used
for, and which names stand for other names or for groups of fields.
-/

namespace CatalogSearch

/-- What a field can be used for. -/
inductive Capability where
  | filter
  | sort
  | facet
  | fulltext
  deriving DecidableEq, Repr

namespace Capability

/-- The capabilities in the order in which they are listed. -/
def all : List Capability := [filter, sort, facet, fulltext]

def text : Capability → String
  | filter => "filter"
  | sort => "sort"
  | facet => "facet"
  | fulltext => "fulltext"

def ofText? (word : String) : Option Capability := all.find? fun c => c.text == word

end Capability

/-- The type of the values of a field. -/
inductive ValueType where
  | keyword
  | date
  | long
  | boolean
  deriving DecidableEq, Repr

namespace ValueType

def text : ValueType → String
  | keyword => "keyword"
  | date => "date"
  | long => "long"
  | boolean => "boolean"

def ofText? (word : String) : Option ValueType :=
  [keyword, date, long, boolean].find? fun t => t.text == word

end ValueType

/-- Whether a record has one value of a sort field or several. -/
inductive SortLayout where
  | single
  | collection
  deriving DecidableEq, Repr

namespace SortLayout

def text : SortLayout → String
  | single => "single"
  | collection => "collection"

def ofText? (word : String) : Option SortLayout :=
  [single, collection].find? fun l => l.text == word

end SortLayout

/-- How records are sorted by a field: the field of the index that holds the sort values, if it is
not the usual one, and the fields that decide between equal values of a collection. -/
structure SortSettings where
  field : Option String
  layout : SortLayout
  secondary : List String
  deriving DecidableEq, Repr

/-- One searchable field of a resource. -/
structure Field where
  path : String
  capabilities : List Capability
  multilang : Bool
  normalizer : Option String
  valueType : ValueType
  sort : Option SortSettings
  deriving DecidableEq, Repr

namespace Field

def has (f : Field) (c : Capability) : Bool := f.capabilities.contains c

def isFulltext (f : Field) : Bool := f.has .fulltext

end Field

/-- The fields of one type of resource, with the names that stand for others. -/
structure Resource where
  name : String
  aliases : NameTable String
  groups : NameTable (List String)
  fields : NameTable Field
  deriving DecidableEq, Repr

/-- The fields of all types of resources. -/
structure Catalog where
  resources : NameTable Resource
  deriving DecidableEq, Repr

namespace Catalog

def resource? (k : Catalog) (resource : String) : Option Resource := k.resources.get? resource

/-- The name that a name stands for; a name without an alias stands for itself. -/
def resolveAlias (k : Catalog) (resource path : String) : String :=
  match k.resource? resource with
  | some r => (r.aliases.get? path).getD path
  | none => path

/-- The members of a group; a name that is no group has none. -/
def resolveGroup (k : Catalog) (resource path : String) : List String :=
  match k.resource? resource with
  | some r => (r.groups.get? path).getD []
  | none => []

def field? (k : Catalog) (resource path : String) : Option Field := do
  (← k.resource? resource).fields.get? path

/-- The field of the given path, if it carries a capability. -/
def fieldWith? (k : Catalog) (resource path : String) (c : Capability) : Option Field :=
  (k.field? resource path).filter fun f => f.has c

end Catalog

/-- A field that names a normalizer, with the resource it belongs to. -/
structure NormalizerReference where
  resource : String
  field : String
  normalizer : String
  deriving DecidableEq, Repr

/-- The fields of a resource that name a normalizer, in the order of their paths. -/
def Resource.normalizerReferences (r : Resource) : List NormalizerReference :=
  r.fields.values.filterMap fun f => f.normalizer.map fun n => ⟨r.name, f.path, n⟩

/-- All fields that name a normalizer, by resource and then by path. -/
def Catalog.normalizerReferences (k : Catalog) : List NormalizerReference :=
  k.resources.values.flatMap Resource.normalizerReferences

end CatalogSearch
