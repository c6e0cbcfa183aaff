/-!
Items filed under names: every name that has items stands once, with its items in the order in which they
were filed.
-/
namespace FeatureCert

/-- Names of a list without repeats, in order of first appearance. -/
def distinctNames (names : List String) : List String :=
  names.foldl (fun seen name => if seen.contains name then seen else seen ++ [name]) []

abbrev Index (α : Type) := List (String × List α)

namespace Index

/-- Files an item under a name, behind those that are there. -/
def file (index : Index α) (name : String) (item : α) : Index α :=
  match index with
  | [] => [(name, [item])]
  | (own, items) :: rest =>
    if own == name then (own, items ++ [item]) :: rest else (own, items) :: file rest name item

def fileAll (index : Index α) (item : α) (names : List String) : Index α :=
  names.foldl (fun index name => index.file name item) index

def ofItems (names : α → List String) (items : List α) : Index α :=
  items.foldl (fun index item => fileAll index item (names item)) []

def under (index : Index α) (name : String) : List α := (index.lookup name).getD []

end Index
end FeatureCert
