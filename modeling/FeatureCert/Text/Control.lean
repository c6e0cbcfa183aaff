import FeatureCert.Text.Half
import FeatureCert.Text.Quoted

/-!
Texts on their way out. A text that is printed loses the sequences that would steer a terminal, each of
which is an escape character, a bracket, parameters, marks and one last letter; a half has no octets, so
that a text with one is written with its code instead, or not at all.
-/
namespace FeatureCert.Text

/-- Parameters of a sequence. -/
def isParameter (c : Char) : Bool := '0' ≤ c && c ≤ '?'

/-- Marks between the parameters of a sequence and its last letter. -/
def isMark (c : Char) : Bool := ' ' ≤ c && c ≤ '/'

/-- Last letter of a sequence. -/
def isFinal (c : Char) : Bool := '@' ≤ c && c ≤ '~'

def sequenceLength? (cs : List Char) : Option Nat :=
  match cs with
  | '\x1b' :: '[' :: rest =>
    let after := (rest.dropWhile isParameter).dropWhile isMark
    match after with
    | c :: more => if isFinal c then some (cs.length - more.length) else none
    | [] => none
  | _ => none

/-- Drops the sequences of a text; `skip` characters belong to one that began before. -/
def dropFrom (skip : Nat) : List Char → List Char
  | [] => []
  | c :: rest =>
    match skip with
    | n + 1 => dropFrom n rest
    | 0 =>
      match sequenceLength? (c :: rest) with
      | some n => dropFrom (n - 1) rest
      | none => c :: dropFrom 0 rest

/-- A text without sequences that steer a terminal. -/
def dropSequences (s : String) : String := String.ofList (dropFrom 0 s.toList)

/-- A text with each half written as its escape. -/
def escapeHalves (s : String) : String :=
  String.ofList (s.toList.flatMap fun c => if isHalf c then escapeCode (codeOf c) else [c])

@[simp] theorem dropSequences_empty : dropSequences "" = "" := rfl

end FeatureCert.Text
