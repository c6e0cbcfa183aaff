/-!
Pairs of names and items, each name once. The last item of a name wins, and the name keeps the place of its
first mention.
-/
namespace FeatureCert.Selection

/-- Sets a name: a new one goes to the end, an old one keeps its place. -/
def put [BEq κ] (entries : List (κ × α)) (name : κ) (item : α) : List (κ × α) :=
  match entries with
  | [] => [(name, item)]
  | e :: rest => if e.1 == name then (e.1, item) :: rest else e :: put rest name item

@[simp] theorem put_nil [BEq κ] (name : κ) (item : α) : put [] name item = [(name, item)] := rfl

/-- Pairs without repeated names: the last value of each, at its first place. -/
def collect [BEq κ] (pairs : List (κ × α)) : List (κ × α) :=
  pairs.foldl (fun entries p => put entries p.1 p.2) []

@[simp] theorem collect_nil [BEq κ] : collect ([] : List (κ × α)) = [] := rfl

end FeatureCert.Selection
