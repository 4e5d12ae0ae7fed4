/-!
# Queries of lists

The pairs of an address by which a list is filtered, sorted and cut into pages.
-/

namespace CloudDirector

/-- What a query of a list may ask for. -/
structure ListQuery where
  queryType : Option String := none
  filter : Option String := none
  format : Option String := none
  page : Option Nat := none
  pageSize : Option Nat := none
  sortAscending : Option String := none
  sortDescending : Option String := none

/-- The pairs of a query in order.  The last one says that filters are percent-encoded. -/
def ListQuery.pairs (q : ListQuery) : List (String × String) :=
  let asked := [
    ("type", q.queryType),
    ("filter", q.filter),
    ("format", q.format),
    ("page", q.page.map toString),
    ("pageSize", q.pageSize.map toString),
    ("sortAsc", q.sortAscending),
    ("sortDesc", q.sortDescending),
    ("filterEncoded", some "true")]
  asked.filterMap fun (key, value) => value.map fun value => (key, value)

end CloudDirector
