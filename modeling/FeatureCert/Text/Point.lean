import FeatureCert.Text.Half

/-!
Code points. A text as a row of them may hold any code, that of a half as well as those of the private
characters that stand for halves elsewhere.
-/
namespace FeatureCert.Text

/-- A code: that of a character, or that of a half. -/
@[ext]
structure Point where
  code : Nat
  lt : code < 0x110000
  deriving DecidableEq, Repr

abbrev Points := List Point

namespace Point

def ofChar (c : Char) : Point := ⟨c.toNat, by have := toNat_cases c; omega⟩

/-- The point of a code. A number that is no code has the point of zero. -/
def ofCode (n : Nat) : Point := if h : n < 0x110000 then ⟨n, h⟩ else ⟨0, by decide⟩

def is (p : Point) (c : Char) : Bool := p.code == c.toNat

variable {p : Point} {c : Char} {n : Nat}

@[simp] theorem code_ofChar (c : Char) : (ofChar c).code = c.toNat := rfl

theorem code_ofCode (h : n < 0x110000) : (ofCode n).code = n := by rw [ofCode, dif_pos h]

@[simp] theorem ofCode_code (p : Point) : ofCode p.code = p := dif_pos p.lt

theorem is_iff : p.is c = true ↔ p = ofChar c := by
  rw [is, beq_iff_eq, Point.ext_iff, code_ofChar]

end Point

/-- Points of a text, in which private characters stand for halves. -/
def Points.ofString (s : String) : Points := s.toList.map fun c => ⟨codeOf c, codeOf_lt c⟩

def Points.text (ps : Points) : String := String.ofList (ps.map (Text.ofCode ·.code))

instance : Coe String Points := ⟨Points.ofString⟩

@[simp] theorem Points.text_ofString (s : String) : (Points.ofString s).text = s := by
  simp [text, ofString, Function.comp_def]

end FeatureCert.Text
