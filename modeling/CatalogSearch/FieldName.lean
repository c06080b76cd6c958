/-!
Names of index fields that are derived from the path of a search field. The untokenized form of a
full-text field has a mark before the last name of its path, the sort form a mark before the whole.
-/

namespace CatalogSearch.FieldName

/-- The mark of untokenized fields. -/
def literalMark : String := "plain_"

/-- The mark of sort fields. -/
def sortMark : String := "sort_"

/-- The path without the wildcard for languages at its end. -/
def withoutLanguages (cs : List Char) : List Char :=
  match cs.reverse with
  | '*' :: '.' :: rest => rest.reverse
  | _ => cs

/-- Splits a path before its last name; the point between is with the first part. -/
def splitLast (cs : List Char) : List Char × List Char :=
  ((cs.reverse.dropWhile (· ≠ '.')).reverse, (cs.reverse.takeWhile (· ≠ '.')).reverse)

/-- The untokenized form of a full-text field. -/
def literal (path : String) : String :=
  let (parent, leaf) := splitLast (withoutLanguages path.toList)
  String.ofList (parent ++ literalMark.toList ++ leaf)

/-- The sort form of a field, unless the path names one already. -/
def sort (path : String) : String :=
  if sortMark.toList.isPrefixOf path.toList then path else sortMark ++ path

/-- The form of a field in all languages. -/
def allLanguages (path : String) : String := path ++ ".*"

end CatalogSearch.FieldName
