import FeatureCert.Value.NumberSet
import FeatureCert.Yaml.Node
import FeatureCert.Yaml.ScalarValue

/-!
Values of YAML documents. The nodes are visited level by level from the root, each one once: a scalar gets
its value, and a container that was met waits until its level is reached. A table then takes over the
entries of the tables that its merge keys name, where its own entries win. The first fault counts.
-/
namespace FeatureCert.Yaml

/-- What a visited node stands for; the parts of a container stand by their numbers. -/
inductive Part where
  | value (v : Value)
  | list (items : List Nat)
  | dict (entries : List (Value × Nat))
  | set (items : List Value)
  | pairs (entries : List (Nat × Nat))
  deriving Repr

namespace Part

/-- Numbers of the nodes that a part holds. -/
def children : Part → List Nat
  | .value _ => []
  | .list items => items
  | .dict entries => entries.map (·.2)
  | .set _ => []
  | .pairs entries => entries.flatMap fun e => [e.1, e.2]

end Part

namespace Reading

structure State where
  nodes : Array Node
  parts : Array (Option Part)
  /-- Containers that were met and wait for their level, the last one first. -/
  waiting : List Nat := []

abbrev Build := StateT State (Except Fault)

def node (id : Nat) : Build Node := do
  match (← get).nodes[id]? with
  | some n => return n
  | none => throw .malformed

def setNode (id : Nat) (n : Node) : Build Unit :=
  modify fun s => { s with nodes := s.nodes.setIfInBounds id n }

def part? (id : Nat) : Build (Option Part) := do return ((← get).parts[id]?).join

def setPart (id : Nat) (p : Part) : Build Unit :=
  modify fun s => { s with parts := s.parts.setIfInBounds id (some p) }

/-- Text of a scalar; a table stands for its first default. -/
def textOf (nodes : Array Node) : Nat → Nat → Except Fault String
  | 0, _ => .error .tooDeep
  | fuel + 1, id =>
    match (nodes[id]?).map Node.content with
    | some (.scalar text) => .ok text
    | some (.table entries _) =>
      let isDefault (e : Nat × Nat) : Bool := (nodes[e.1]?).any (·.kind == .default)
      match entries.find? isDefault with
      | some (_, value) => textOf nodes fuel value
      | none => .error .malformed
    | _ => .error .malformed

def text (id : Nat) : Build String := do
  let nodes := (← get).nodes
  textOf nodes (nodes.size + 1) id

def scalar (id : Nat) (n : Node) : Build Value := do
  let text ← text id
  match n.kind, n.content with
  | .timestamp, .table .. => throw .notText
  | kind, _ => ScalarValue.ofKind kind text

/-- Visits a node that was not met before. -/
def meet (id : Nat) : Build Unit := do
  if (← part? id).isNone then
    let n ← node id
    match n.kind with
    | .list => wait
    | .table => wait
    | .set => wait
    | .pairs => wait
    | .merge => throw .malformed
    | .default => throw .malformed
    | .unknown => throw .malformed
    | _ => setPart id (.value (← scalar id n))
where
  wait : Build Unit := do
    setPart id (.list [])
    modify fun s => { s with waiting := id :: s.waiting }

/-- Value of a node that stands as a key; a container is none. -/
def key (id : Nat) : Build Value := do
  meet id
  match ← part? id with
  | some (.value v) => return v
  | _ => throw .malformed

/-- Entries of a table that were not taken over by merge keys. -/
def entriesOf (id : Nat) : Build (List (Nat × Nat)) := do
  match (← node id).content with
  | .table entries _ => return entries
  | _ => throw .malformed

/-- Takes the first merge key out of a table, and gives its value. -/
def takeMerge? (id : Nat) : Build (Option Nat) := do
  let n ← node id
  match n.content with
  | .table entries (target :: rest) => do
    setNode id { n with content := .table entries rest }
    return some target
  | .table _ [] => return none
  | _ => throw .malformed

/-- Puts entries in front of those of a table, and makes its default marks texts. -/
def putEntries (id : Nat) (merged : List (Nat × Nat)) : Build Unit := do
  let n ← node id
  match n.content with
  | .table entries merges => do
    entries.forM fun (k, _) => do
      let key ← node k
      if key.kind == .default then setNode k { key with kind := .text }
    setNode id { n with content := .table (merged ++ entries) merges }
  | _ => throw .malformed

/-- Tables that the value of a merge key names, the last one first. -/
def mergedTables (target : Nat) : Build (List Nat) := do
  match (← node target).content with
  | .table .. => return [target]
  | .list items => return items
  | .scalar _ => throw .malformed

/-- Puts the entries that merge keys name into a table, which has taken `merged` already. -/
def flatten (merged : List (Nat × Nat)) (id : Nat) : Nat → Build Unit
  | 0 => putEntries id merged
  | fuel + 1 => do
    match ← takeMerge? id with
    | none => putEntries id merged
    | some target => do
      let tables ← mergedTables target
      let parts ← tables.mapM fun t => do
        flatten [] t fuel
        entriesOf t
      flatten (merged ++ parts.reverse.flatten) id fuel

/-- Number of merge keys in all tables. -/
def mergeCount (nodes : Array Node) : Nat :=
  nodes.foldl (fun n node =>
    match node.content with
    | .table _ merges => n + merges.length
    | _ => n) 0

/-- Whether two nodes are the same key: what is no number is the same only if one node, or one word, gave
it. -/
def sameKey (nodes : Array Node) (a b : Nat × Value) : Bool :=
  let isWord (id : Nat) : Bool :=
    match textOf nodes (nodes.size + 1) id with
    | .ok text => ScalarValue.isNanWord text
    | .error _ => false
  match a.2, b.2 with
  | .float .nan, .float .nan => a.1 == b.1 || (isWord a.1 && isWord b.1)
  | v, w => v.sameKey w

/-- Sets a key: a new one goes to the end, an old one keeps its place and its first spelling. -/
def put (nodes : Array Node) (k : Nat × Value) (item : Nat) :
    List ((Nat × Value) × Nat) → List ((Nat × Value) × Nat)
  | [] => [(k, item)]
  | e :: rest => if sameKey nodes e.1 k then (e.1, item) :: rest else e :: put nodes k item rest

/-- Entries of a table by their keys, with the merged ones. -/
def dictionary (id : Nat) : Build (List (Value × Nat)) := do
  flatten [] id (mergeCount (← get).nodes)
  let pairs ← (← entriesOf id).mapM fun (k, v) => do
    let key ← key k
    meet v
    return ((k, key), v)
  let nodes := (← get).nodes
  let entries := pairs.foldl (fun entries (k, v) => put nodes k v entries) []
  return entries.map fun (k, v) => (k.2, v)

/-- The entry of a table that has just one. -/
def onlyEntry (id : Nat) : Build (Nat × Nat) := do
  match (← node id).content with
  | .table [entry] [] => return entry
  | _ => throw .malformed

def visit (id : Nat) : Build Unit := do
  let n ← node id
  match n.kind, n.content with
  | .list, .list items => do
    items.forM meet
    setPart id (.list items)
  | .table, _ => do setPart id (.dict (← dictionary id))
  | .set, _ => do
    let entries ← dictionary id
    setPart id (.set (Value.NumberSet.order (entries.map (·.1))))
  | .pairs, .list items => do
    let entries ← items.mapM fun i => do
      let (k, v) ← onlyEntry i
      meet k
      meet v
      return (k, v)
    setPart id (.pairs entries)
  | _, _ => throw .malformed

/-- Visits level by level what waits. -/
def visitLevels : Nat → Build Unit
  | 0 => pure ()
  | fuel + 1 => do
    match (← get).waiting with
    | [] => pure ()
    | level => do
      modify fun s => { s with waiting := [] }
      level.reverse.forM visit
      visitLevels fuel

def reachable (parts : Array (Option Part)) : Nat → List Nat → List Nat → List Nat
  | 0, _, seen => seen
  | _, [], seen => seen
  | fuel + 1, id :: rest, seen =>
    if seen.contains id then reachable parts fuel rest seen
    else reachable parts fuel (childrenOf id ++ rest) (id :: seen)
where
  childrenOf (id : Nat) : List Nat := (((parts[id]?).join).map Part.children).getD []

/-- Whether each node lies inside itself. -/
def loops (g : Graph) (parts : Array (Option Part)) : Array Bool :=
  if g.hasLoop then
    let edges := parts.foldl (fun n p => n + ((p.map Part.children).getD []).length + 1) 1
    (Array.range parts.size).map fun id =>
      (reachable parts (2 * edges) ((((parts[id]?).join).map Part.children).getD []) []).contains id
  else Array.replicate parts.size false

/-- Values that were built, by their nodes. -/
abbrev Values := StateM (Array (Option Value))

/-- Value of a node; `around` are the nodes around it that lie inside themselves. -/
def valueOf (parts : Array (Option Part)) (loops : Array Bool) :
    Nat → List Nat → Nat → Values Value
  | 0, _, _ => return .null
  | fuel + 1, around, id => do
    if around.contains id then return .again id
    match ((← get)[id]?).join with
    | some v => return v
    | none =>
      let isLoop := (loops[id]?).getD false
      let inner := valueOf parts loops fuel (if isLoop then id :: around else around)
      let v ← match (parts[id]?).join with
        | none => pure Value.null
        | some (.value v) => pure v
        | some (.list items) => do pure (.list (← items.mapM inner))
        | some (.dict entries) => do
          pure (.dict (← entries.mapM fun (k, v) => do return (k, ← inner v)))
        | some (.set items) => pure (.set items)
        | some (.pairs entries) => do
          pure (.list (← entries.mapM fun (k, v) => do return .tuple [← inner k, ← inner v]))
      if isLoop then return .knot id v
      else
        modify fun built => built.setIfInBounds id (some v)
        return v

def ofGraph (g : Graph) : Except Fault Value := do
  let size := g.nodes.size
  let (_, s) ← (do meet g.root; visitLevels (size + 1) : Build Unit).run
    { nodes := g.nodes, parts := Array.replicate size none }
  let (v, _) := (valueOf s.parts (loops g s.parts) (size + 1) [] g.root).run
    (Array.replicate size none)
  return v

end Reading

/-- Value of a text; one without a document stands for null. -/
def read (text : String) : Except Fault Value := do
  match ← Graph.ofText? text with
  | none => return .null
  | some g => Reading.ofGraph g

end FeatureCert.Yaml
