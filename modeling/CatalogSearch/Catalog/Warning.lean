import CatalogSearch.Catalog.Basic

/-!
Warnings about a catalog that can be used but is probably not what its author meant: names that
lead nowhere, and sort settings that nothing reads.
-/

namespace CatalogSearch

/-- A flaw of a catalog that does not stop it from being used. -/
inductive Warning where
  | noResources
  | undefinedGroupMember (resource group field : String)
  | undefinedAliasTarget (resource name target : String)
  | sortWithoutCapability (resource field : String)
  deriving DecidableEq, Repr

namespace Warning

def message : Warning → String
  | noResources => "no resources are defined in configuration"
  | undefinedGroupMember resource group field =>
    "group '" ++ group ++ "' of resource '" ++ resource ++ "' names undefined field '" ++ field ++
      "'"
  | undefinedAliasTarget resource name target =>
    "alias '" ++ name ++ "' of resource '" ++ resource ++ "' points to unknown name '" ++
      target ++ "'"
  | sortWithoutCapability resource field =>
    "field '" ++ field ++ "' of resource '" ++ resource ++
      "' has sort settings but no sort capability"

def hint : Warning → String
  | noResources => "Add a [resource.<name>.fields] table to describe searchable fields."
  | undefinedGroupMember .. =>
    "Describe the group member under [resource.<name>.fields] or remove it."
  | undefinedAliasTarget .. => "Point the alias at a described field or group."
  | sortWithoutCapability .. =>
    "Add \"sort\" to the field's capabilities or drop its sort settings."

end Warning

namespace Resource

/-- The members of groups that are not described. -/
def undefinedMembers (r : Resource) : List Warning :=
  r.groups.entries.flatMap fun (group, members) =>
    (members.filter fun m => !r.fields.contains m).map (.undefinedGroupMember r.name group)

/-- The aliases whose targets are neither fields nor groups. -/
def undefinedTargets (r : Resource) : List Warning :=
  (r.aliases.entries.filter fun (_, target) =>
      !r.fields.contains target && !r.groups.contains target).map
    fun (name, target) => .undefinedAliasTarget r.name name target

/-- The fields with sort settings that cannot be sorted by. -/
def unusedSorts (r : Resource) : List Warning :=
  (r.fields.values.filter fun f => f.sort.isSome && !f.has .sort).map
    fun f => .sortWithoutCapability r.name f.path

/-- The warnings about a resource: on groups, then on aliases, then on fields. -/
def warnings (r : Resource) : List Warning :=
  r.undefinedMembers ++ r.undefinedTargets ++ r.unusedSorts

end Resource

def Catalog.warnings (k : Catalog) : List Warning :=
  if k.resources.isEmpty then [.noResources] else k.resources.values.flatMap Resource.warnings

end CatalogSearch
