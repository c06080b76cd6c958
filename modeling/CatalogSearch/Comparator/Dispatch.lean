import CatalogSearch.Comparator.Standard
import CatalogSearch.NameTable

/-!
The table of comparators, each of which belongs to one strategy. Strategies claim their comparators
one after the other, and the first comparator that is claimed again is an error.
-/

namespace CatalogSearch

/-- Comparators with the strategies they belong to. -/
structure Dispatch where
  owners : NameTable Strategy

namespace Dispatch

def claim (s : Strategy) (owners : NameTable Strategy) :
    List String → Except RegistryError (NameTable Strategy)
  | [] => .ok owners
  | comparator :: rest =>
    match owners.get? comparator with
    | some owner => .error (.duplicateComparator comparator owner.name s.name)
    | none => claim s (owners.insert comparator s) rest

/-- The table of strategies, which claim their comparators in order. -/
def ofStrategies (strategies : List Strategy) : Except RegistryError Dispatch := do
  return ⟨← strategies.foldlM (fun owners s => claim s owners s.comparators) .empty⟩

def lookup (d : Dispatch) (comparator : String) : Option Strategy := d.owners.get? comparator

def comparators (d : Dispatch) : List String := d.owners.names

/-- The table of the query language, in which each comparator belongs to the strategy that lists
it. -/
def standard : Dispatch :=
  ⟨.ofList (Strategy.standard.flatMap fun s => s.comparators.map fun c => (c, s))⟩

end Dispatch

end CatalogSearch
