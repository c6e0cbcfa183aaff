import FeatureCert.Yaml.Kind
import FeatureCert.Yaml.Token

/-!
Nodes of a YAML document: its scalars, lists and tables, each with a number. A list or table names its
parts by their numbers, so that an alias is the number of its node and a node may lie inside itself.
-/
namespace FeatureCert.Yaml

inductive Content where
  | scalar (text : String)
  | list (items : List Nat)
  /-- Keys with their values, and apart from them the values of merge keys. -/
  | table (entries : List (Nat × Nat)) (merges : List Nat)
  deriving Repr

structure Node where
  kind : Kind
  content : Content
  deriving Repr

/-- The nodes of a document. -/
structure Graph where
  nodes : Array Node
  root : Nat
  /-- Whether an alias stands inside the node that it names. -/
  hasLoop : Bool
  deriving Repr

namespace Graph

/-- Most levels of containers inside each other. -/
def maxDepth : Nat := 480

structure State where
  tokens : List Token
  /-- What keeps the rest of the text from being read. -/
  fault : Option Fault
  nodes : Array Node := #[]
  anchors : List (String × Nat) := []
  handles : List (String × String) := []
  /-- Containers whose end is not reached, the innermost first. -/
  around : List Nat := []
  hasLoop : Bool := false

abbrev Parse := StateT State (Except Fault)

def peek? : Parse (Option Token) := do
  let s ← get
  match s.tokens, s.fault with
  | t :: _, _ => return some t
  | [], some fault => throw fault
  | [], none => return none

def advance : Parse Unit := modify fun s => { s with tokens := s.tokens.tail }

def fail : Parse α := throw .malformed

def take (t : Token) : Parse Unit := do
  if (← peek?) == some t then advance else fail

/-- Whether one of some tokens is next. -/
def isNext (ts : List Token) : Parse Bool := do
  match ← peek? with
  | some t => return ts.contains t
  | none => return false

/-- The anchor that is next, if one is. -/
def anchor? : Parse (Option String) := do
  match ← peek? with
  | some (.anchor name) => do
    advance
    return some name
  | _ => return none

/-- The tag that is next, if one is, as it is written. -/
def mark? : Parse (Option TagMark) := do
  match ← peek? with
  | some (.tag mark) => do
    advance
    return some mark
  | _ => return none

/-- The tag that a mark stands for. -/
def resolve (mark : TagMark) : Parse String := do
  match mark.handle with
  | none => return mark.suffix
  | some name =>
    match (← get).handles.find? (·.1 == name) with
    | some (_, target) => return target ++ mark.suffix
    | none => fail

/-- Anchor and tag in front of a node, in either order. -/
def properties : Parse (Option String × Option String) := do
  match ← anchor? with
  | some name =>
    match ← mark? with
    | some mark => return (some name, some (← resolve mark))
    | none => return (some name, none)
  | none =>
    match ← mark? with
    | some mark => do
      let name ← anchor?
      return (name, some (← resolve mark))
    | none => return (none, none)

/-- Fails if a name was given already. -/
def claimAnchor (name? : Option String) : Parse Unit := do
  match name? with
  | none => pure ()
  | some name => if (← get).anchors.any (·.1 == name) then fail

/-- Adds a node, which may have a name. -/
def add (name? : Option String) (n : Node) : Parse Nat :=
  modifyGet fun s =>
    let id := s.nodes.size
    let anchors := (name?.map (·, id)).toList ++ s.anchors
    (id, { s with nodes := s.nodes.push n, anchors })

def empty : Parse Nat := add none ⟨.null, .scalar ""⟩

/-- Adds a container, whose parts are read once it has its number. -/
def container (name? : Option String) (kind : Kind) (read : Parse Content) : Parse Nat := do
  let id ← add name? ⟨kind, .list []⟩
  let around := (← get).around
  if maxDepth ≤ around.length then throw .tooDeep
  modify fun s => { s with around := id :: around }
  let content ← read
  modify fun s => { s with nodes := s.nodes.setIfInBounds id ⟨kind, content⟩, around }
  return id

/-- Content of a table, with its merge keys set apart. -/
def tableContent (entries : List (Nat × Nat)) : Parse Content := do
  let nodes := (← get).nodes
  let isMerge (e : Nat × Nat) : Bool := (nodes[e.1]?).any (·.kind == .merge)
  return .table (entries.filter (!isMerge ·)) ((entries.filter isMerge).map (·.2))

def aliased (name : String) : Parse Nat := do
  match (← get).anchors.find? (·.1 == name) with
  | some (_, id) => do
    if (← get).around.contains id then modify fun s => { s with hasLoop := true }
    return id
  | none => fail

mutual

/-- A node; `inBlock` admits block lists and tables, and `loose` a list without indentation. -/
def node (inBlock loose : Bool) : Nat → Parse Nat
  | 0 => fail
  | fuel + 1 => do
    match ← peek? with
    | some (.alias name) =>
      advance
      aliased name
    | _ =>
      let (name, tag) ← properties
      let next ← peek?
      let list (read : Parse (List Nat)) : Parse Nat := do
        claimAnchor name
        if next != some .entry then advance
        container name (.ofMark tag .list) do return .list (← read)
      let table (read : Parse (List (Nat × Nat))) : Parse Nat := do
        claimAnchor name
        advance
        container name (.ofMark tag .table) do tableContent (← read)
      let scalar (kind : Kind) (text : String) : Parse Nat := do
        claimAnchor name
        add name ⟨.ofMark tag kind, .scalar text⟩
      let orEmpty : Parse Nat := if name.isSome || tag.isSome then scalar .null "" else fail
      match next with
      | some .entry => if loose then list (looseItems fuel) else orEmpty
      | some (.scalar text plain) => do
        advance
        scalar (if plain || tag == some "!" then .ofText text else .text) text
      | some .openList => list (flowItems true fuel)
      | some .openTable => table (flowEntries true fuel)
      | some .blockSequence => if inBlock then list (blockItems fuel) else orEmpty
      | some .blockMapping => if inBlock then table (blockEntries fuel) else orEmpty
      | _ => orEmpty

/-- A node, or none where a token stands that ends its place. -/
def nodeUnless (ends : List Token) (inBlock loose : Bool) : Nat → Parse Nat
  | 0 => fail
  | fuel + 1 => do
    if ← isNext ends then empty else node inBlock loose fuel

def blockItems : Nat → Parse (List Nat)
  | 0 => fail
  | fuel + 1 => do
    match ← peek? with
    | some .entry => do
      advance
      let item ← nodeUnless [.entry, .blockEnd] true false fuel
      return item :: (← blockItems fuel)
    | some .blockEnd => do
      advance
      return []
    | _ => fail

/-- Entries of a list that stands no deeper than its key. -/
def looseItems : Nat → Parse (List Nat)
  | 0 => fail
  | fuel + 1 => do
    match ← peek? with
    | some .entry => do
      advance
      let item ← nodeUnless [.entry, .key, .colon, .blockEnd] true false fuel
      return item :: (← looseItems fuel)
    | _ => return []

def blockEntries : Nat → Parse (List (Nat × Nat))
  | 0 => fail
  | fuel + 1 => do
    match ← peek? with
    | some .key => do
      advance
      let key ← nodeUnless [.key, .colon, .blockEnd] true true fuel
      let value ←
        if ← isNext [.colon] then do
          advance
          nodeUnless [.key, .colon, .blockEnd] true true fuel
        else empty
      return (key, value) :: (← blockEntries fuel)
    | some .blockEnd => do
      advance
      return []
    | _ => fail

/-- Value behind a key in brackets, if it has one. -/
def flowValue (ends : List Token) : Nat → Parse Nat
  | 0 => fail
  | fuel + 1 => do
    if ← isNext [.colon] then
      advance
      nodeUnless ends false false fuel
    else empty

/-- Members of a list in brackets; a key makes a table of one entry. -/
def flowItems (first : Bool) : Nat → Parse (List Nat)
  | 0 => fail
  | fuel + 1 => do
    if ← isNext [.closeList] then
      advance
      return []
    if !first then take .comma
    if ← isNext [.key] then
      let item ← container none .table do
        advance
        let key ← nodeUnless [.colon, .comma, .closeList] false false fuel
        let value ← flowValue [.comma, .closeList] fuel
        tableContent [(key, value)]
      return item :: (← flowItems false fuel)
    else if ← isNext [.closeList] then
      advance
      return []
    else
      let item ← node false false fuel
      return item :: (← flowItems false fuel)

def flowEntries (first : Bool) : Nat → Parse (List (Nat × Nat))
  | 0 => fail
  | fuel + 1 => do
    if ← isNext [.closeTable] then
      advance
      return []
    if !first then take .comma
    if ← isNext [.key] then
      advance
      let key ← nodeUnless [.colon, .comma, .closeTable] false false fuel
      let value ← flowValue [.comma, .closeTable] fuel
      return (key, value) :: (← flowEntries false fuel)
    else if ← isNext [.closeTable] then
      advance
      return []
    else
      let key ← node false false fuel
      let value ← empty
      return (key, value) :: (← flowEntries false fuel)

end

/-- Tag handles that need no directive. -/
def defaultHandles : List (String × String) := [("!", "!"), ("!!", "tag:yaml.org,2002:")]

/-- Directives of a document; each handle, and the version, is given once. -/
def directives (version : Bool) (handles : List (String × String)) : Nat → Parse (List (String × String))
  | 0 => fail
  | fuel + 1 => do
    match ← peek? with
    | some (.directive d) => do
      advance
      match d with
      | .version major => if version || major != 1 then fail else directives true handles fuel
      | .handle name target =>
        if handles.any (·.1 == name) then fail
        else directives version (handles ++ [(name, target)]) fuel
      | .unknown => directives version handles fuel
    | _ => return handles

/-- Moves over marks of a document's end. -/
def skipEnds : Nat → Parse Unit
  | 0 => pure ()
  | fuel + 1 => do
    if ← isNext [.documentEnd] then
      advance
      skipEnds fuel

def rootNode (first : Token) (fuel : Nat) : Parse Nat := do
  let isExplicit := match first with
    | .directive _ => true
    | .documentStart => true
    | _ => false
  if isExplicit then do
    let handles ← directives false [] fuel
    let defaults := defaultHandles.filter fun d => !handles.any (·.1 == d.1)
    modify fun s => { s with handles := handles ++ defaults }
    take .documentStart
    match ← peek? with
    | none => empty
    | some (.directive _) => empty
    | some .documentStart => empty
    | some .documentEnd => empty
    | _ => node true false fuel
  else do
    modify fun s => { s with handles := defaultHandles }
    node true false fuel

def document (fuel : Nat) : Parse (Option Nat) := do
  match ← peek? with
  | none => return none
  | some t =>
    let id ← rootNode t fuel
    skipEnds fuel
    if (← peek?).isSome then
      -- A further document has directives of its own, and nothing is right about them.
      let _ ← directives false [] fuel
      fail
    else return some id

def ofText? (text : String) : Except Fault (Option Graph) := do
  let tokens ← Tokens.ofText text
  let fuel := 4 * tokens.settled.length + 8
  let (id?, s) ← (document fuel).run { tokens := tokens.settled, fault := tokens.fault }
  return id?.map fun id => ⟨s.nodes, id, s.hasLoop⟩

end Graph
end FeatureCert.Yaml
