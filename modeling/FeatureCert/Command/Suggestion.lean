/-!
Suggestions for a mistyped word: the known words that are most like it. Two words are as alike as the
share of their characters that lies in common runs, the longest run first and then the runs on its
left and right.
-/
namespace FeatureCert.Command.Suggestion

def commonStart : List Char → List Char → Nat
  | a :: as, b :: bs => if a == b then commonStart as bs + 1 else 0
  | _, _ => 0

/-- Starts and length of the longest common run; of equally long ones the first. -/
def longestRun (a b : List Char) : Nat × Nat × Nat :=
  let starts := (List.range a.length).flatMap fun i => (List.range b.length).map fun j => (i, j)
  starts.foldl
    (fun best (i, j) =>
      let n := commonStart (a.drop i) (b.drop j)
      if best.2.2 < n then (i, j, n) else best)
    (0, 0, 0)

def commonCount : Nat → List Char → List Char → Nat
  | 0, _, _ => 0
  | fuel + 1, a, b =>
    let (i, j, n) := longestRun a b
    if n == 0 then 0
    else
      n + commonCount fuel (a.take i) (b.take j) +
        commonCount fuel (a.drop (i + n)) (b.drop (j + n))

/-- Twice the number of common characters, and the number of all characters. -/
def likeness (known word : String) : Nat × Nat :=
  let (a, b) := (known.toList, word.toList)
  (2 * commonCount (a.length + 1) a b, a.length + b.length)

/-- Whether a likeness is three fifths or more. -/
def isClose (x : Nat × Nat) : Bool := x.2 == 0 || 3 * x.2 ≤ 5 * x.1

def limit : Nat := 3

/-- The known words that are most like a word, in the order of their letters. -/
def nearest (word : String) (known : List String) : List String :=
  let scored := (known.map fun k => (likeness k word, k)).filter fun s => isClose s.1
  let better (s t : (Nat × Nat) × String) : Bool :=
    let (x, y) := (s.1.1 * t.1.2, t.1.1 * s.1.2)
    y < x || (x == y && decide (t.2 ≤ s.2))
  (((scored.mergeSort better).take limit).map (·.2)).mergeSort fun a b => decide (a ≤ b)

end FeatureCert.Command.Suggestion
