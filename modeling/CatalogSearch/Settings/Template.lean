/-!
The configuration file that a new project starts from.
-/

namespace CatalogSearch.Settings

def templateLines : List String := [
   "# shelf configuration.",
   "#",
   "# Each [resource.<name>] table describes the searchable fields of one resource type:",
   "# aliases rewrite incoming field names, groups expand one name into several fields,",
   "# and fields declare capabilities, value types, normalizers and sort behavior.",
   "",
   "[browse]",
   "default_limit = 100",
   "call_number_range_offset = 100000000000000",
   "",
   "[resource.instance.aliases]",
   "\"cql.serverChoice\" = \"keyword\"",
   "contributor = \"contributors.name\"",
   "",
   "[resource.instance.groups]",
   "keyword = [\"title\", \"contributors.name\", \"identifiers.isbn\"]",
   "isbn = \"identifiers.isbn\"",
   "",
   "[resource.instance.fields.title]",
   "capabilities = [\"fulltext\", \"sort\"]",
   "multilang = true",
   "sort = \x7b field = \"sort_title\", type = \"single\" \x7d",
   "",
   "[resource.instance.fields.\"contributors.name\"]",
   "capabilities = [\"fulltext\", \"sort\"]",
   "sort = \x7b field = \"sort_contributors\", type = \"collection\", secondary = [\"sort_title\"] \x7d",
   "",
   "[resource.instance.fields.\"identifiers.isbn\"]",
   "capabilities = [\"filter\"]",
   "normalizer = \"isbn\"",
   "",
   "[resource.instance.fields.languages]",
   "capabilities = [\"filter\", \"facet\"]",
   "",
   "[resource.instance.fields.genre]",
   "capabilities = [\"filter\", \"facet\"]",
   "",
   "[resource.instance.fields.\"metadata.updatedDate\"]",
   "capabilities = [\"filter\", \"sort\"]",
   "value_type = \"date\"",
   "",
   "[resource.instance.fields.callNumber]",
   "capabilities = [\"sort\"]",
   "normalizer = \"call-number\"",
   "value_type = \"long\"",
   "",
   "[resource.instance.fields.shelfKey]",
   "capabilities = [\"sort\"]",
   "normalizer = \"shelf-key\"",
   "",
   "[resource.authority.fields.headingRef]",
   "capabilities = [\"fulltext\", \"sort\"]",
   "",
   "[resource.authority.fields.headingType]",
   "capabilities = [\"filter\", \"facet\"]",
   ""]

def template : String := "\n".intercalate templateLines

end CatalogSearch.Settings
