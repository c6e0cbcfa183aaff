import FeatureCert.Value.Basic

/-!
Order of sets of numbers. A set stands in a table whose size is a power of two; each member goes to the
place that its residue names or, where that is taken, on along a fixed walk. Members are written by
their places. A set with other members than numbers keeps the order in which they came.
-/
namespace FeatureCert.Value.NumberSet

/-- The prime that residues are taken by. -/
def modulus : Nat := 0x1fffffffffffffff

/-- Power of two by which the powers of two repeat. -/
def period : Int := 61

/-- Residue of a number of a size; minus one has that of minus two. -/
def signedResidue (negative : Bool) (size : Nat) : Int :=
  let r : Int := size % modulus
  if negative then (if r = 1 then -2 else -r) else r

/-- Residue of a number; equal numbers have the same one. -/
def residue? : Value → Option Int
  | .bool b => some (if b then 1 else 0)
  | .int n => some (signedResidue (n < 0) n.natAbs)
  | .float (.finite negative m e) =>
    some (signedResidue negative (m * Nat.pow 2 (e.emod period).toNat))
  | .float (.infinite negative) => some (if negative then -314159 else 314159)
  | _ => none

/-- Number of places for a number of members. -/
def places (members : Nat) : Nat :=
  if members ≤ 4 then 8 else Nat.pow 2 (max 3 (Nat.log2 (2 * members) + 1))

/-- Places that are tried in a row from one on. -/
def row (size i : Nat) : List Nat :=
  if i + 9 < size then (List.range 10).map (i + ·) else [i]

/-- The first free place of the walk from a place on, where `shift` changes its course. -/
def free (size : Nat) (taken : Nat → Bool) : Nat → Nat → Nat → Nat
  | 0, i, _ => i
  | fuel + 1, i, shift =>
    match (row size i).find? (!taken ·) with
    | some place => place
    | none =>
      let shift := shift / 32
      free size taken fuel ((i * 5 + 1 + shift) % size) shift

def put (size : Nat) (table : List (Nat × Value)) (member : Value × Int) : List (Nat × Value) :=
  let word := (member.2.emod 0x10000000000000000).toNat
  let place := free size (fun p => table.any (·.1 == p)) (size + 64) (word % size) word
  (place, member.1) :: table

/-- The members of a set in the order in which they are written. -/
def order (members : List Value) : List Value :=
  match members.mapM fun v => (residue? v).map (v, ·) with
  | none => members
  | some numbers =>
    let table := numbers.foldl (put (places members.length)) []
    (table.mergeSort fun a b => decide (a.1 ≤ b.1)).map (·.2)

end FeatureCert.Value.NumberSet
