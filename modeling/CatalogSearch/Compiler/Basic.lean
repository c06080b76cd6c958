import CatalogSearch.Comparator.Dispatch
import CatalogSearch.Normalizer.Registry
import CatalogSearch.Settings.Basic

/-!
The tables that expressions are compiled with.
-/

namespace CatalogSearch

/-- A compiler: the catalog of fields, the functions that bring values to their form in the index,
the comparators, and the settings of browsing. -/
structure Compiler where
  catalog : Catalog
  normalizers : NormalizerRegistry
  dispatch : Dispatch
  browse : BrowseSettings

namespace Compiler

/-- The compiler of settings with the normalizers and comparators that are always there. -/
def standard (s : Settings) : Compiler := ⟨s.catalog, .standard, .standard, s.browse⟩

/-- A compiler all of whose fields name normalizers that there are. -/
def checked (c : Compiler) : Except RegistryError Compiler :=
  match c.catalog.normalizerReferences.find? fun r => !c.normalizers.contains r.normalizer with
  | some r => .error (.unknownNormalizer r.resource r.field r.normalizer)
  | none => .ok c

/-- The compiler of settings, if their fields name no unknown normalizer. -/
def ofSettings (s : Settings) : Except RegistryError Compiler := (standard s).checked

end Compiler

end CatalogSearch
