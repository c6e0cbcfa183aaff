import FeatureCert.Binary64.Text
import FeatureCert.Calendar
import FeatureCert.State

/-!
Values as documents and selections hold them: numbers, texts, lists and ordered dictionaries, and the
rarer kinds that a document may name by a tag. Keys of a dictionary are values; numbers are the same
key when they are equal, whatever their kind. A container that holds itself is a knot, which opens into
one level of its parts with the knot in them again.
-/
namespace FeatureCert

inductive Value where
  | null
  | bool (b : Bool)
  | int (n : Int)
  | float (x : Binary64)
  | text (s : String)
  | list (items : List Value)
  | dict (entries : List (Value × Value))
  | date (d : Date)
  | moment (t : Moment)
  | bytes (octets : List Nat)
  | tuple (items : List Value)
  | set (items : List Value)
  /-- State of a capability that an earlier run settled. -/
  | state (s : State)
  /-- A container that holds itself: inside, `again` with the label stands for it. -/
  | knot (label : Nat) (whole : Value)
  | again (label : Nat)
  deriving Inhabited, Repr

namespace Value

def kindName : Value → String
  | .null => "NoneType"
  | .bool _ => "bool"
  | .int _ => "int"
  | .float _ => "float"
  | .text _ => "str"
  | .list _ => "list"
  | .dict _ => "dict"
  | .date _ => "date"
  | .moment _ => "datetime"
  | .bytes _ => "bytes"
  | .tuple _ => "tuple"
  | .set _ => "set"
  | .state _ => "CapabilityState"
  | .knot _ whole => kindName whole
  | .again _ => "list"

/-- The integer that a number equals, a Boolean counting as 0 or 1. -/
def asInt? : Value → Option Int
  | .bool b => some (if b then 1 else 0)
  | .int n => some n
  | .float x => x.toInt?
  | _ => none

mutual

/-- Puts a value in place of a label. -/
def tie (label : Nat) (v : Value) : Value → Value
  | .list items => .list (tieAll label v items)
  | .dict entries => .dict (tieEntries label v entries)
  | .tuple items => .tuple (tieAll label v items)
  | .knot own whole => if own = label then .knot own whole else .knot own (tie label v whole)
  | .again own => if own = label then v else .again own
  | w => w

def tieAll (label : Nat) (v : Value) : List Value → List Value
  | [] => []
  | w :: rest => tie label v w :: tieAll label v rest

def tieEntries (label : Nat) (v : Value) : List (Value × Value) → List (Value × Value)
  | [] => []
  | (key, w) :: rest => (key, tie label v w) :: tieEntries label v rest

end

/-- A value whose outermost level is no knot. -/
def opened : Value → Value
  | .knot label whole => tie label (.knot label whole) whole
  | v => v

mutual

/-- Whether a value may be a key: containers that can change may not. -/
def isKey : Value → Bool
  | .list _ => false
  | .dict _ => false
  | .set _ => false
  | .knot .. => false
  | .again _ => false
  | .tuple items => areKeys items
  | _ => true

def areKeys : List Value → Bool
  | [] => true
  | v :: rest => isKey v && areKeys rest

end

mutual

/-- Whether two keys are the same. -/
def sameKey : Value → Value → Bool
  | .null, .null => true
  | .text s, .text t => s == t
  | .date d, .date e => d == e
  | .moment t, .moment u => t.isSame u
  | .state s, .state t => s == t
  | .bytes b, .bytes c => b == c
  | .tuple xs, .tuple ys => sameKeys xs ys
  | .float x, .float y => x.sameValue y
  | x, y =>
    match x.asInt?, y.asInt? with
    | some m, some n => m == n
    | _, _ => false

def sameKeys : List Value → List Value → Bool
  | [], [] => true
  | x :: xs, y :: ys => sameKey x y && sameKeys xs ys
  | _, _ => false

end

def lookup? (key : Value) (entries : List (Value × α)) : Option α :=
  (entries.find? fun e => sameKey e.1 key).map (·.2)

/-- Sets a key: a new one goes to the end, an old one keeps its place and its first spelling. -/
def put (entries : List (Value × α)) (key : Value) (item : α) : List (Value × α) :=
  match entries with
  | [] => [(key, item)]
  | e :: rest => if sameKey e.1 key then (e.1, item) :: rest else e :: put rest key item

def collect (pairs : List (Value × α)) : List (Value × α) :=
  pairs.foldl (fun entries p => put entries p.1 p.2) []

end Value
end FeatureCert
