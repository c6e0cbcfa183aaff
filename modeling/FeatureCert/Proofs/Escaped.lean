import FeatureCert.Json.Reader
import FeatureCert.Proofs.Literals
import Mathlib.Data.List.Chain

/-!
Texts between JSON quotes. They are printable ASCII, and they are read again point by point, but for one thing:
two halves of a pair that stand next to each other come back as the point of the pair.
-/
namespace FeatureCert

open FeatureCert.Text FeatureCert.Numeral

namespace Text

variable {p q : Point} {ps : Points} {n m : Nat}

def IsPrintable (text : String) : Prop := ∀ c ∈ text.toList, 32 ≤ c.toNat ∧ c.toNat < 127

instance (text : String) : Decidable (IsPrintable text) := List.decidableBAll _ text.toList

/-- Two points that are the halves of one pair. -/
def IsPair (p q : Point) : Prop := isHighCode p.code = true ∧ isLowCode q.code = true

instance (p q : Point) : Decidable (IsPair p q) := inferInstanceAs (Decidable (_ ∧ _))

/-- The halves of a pair, where they stand next to each other, made into its point. -/
def joinHalves : Points → Points
  | p :: q :: rest =>
    if IsPair p q then .ofCode (pairCode p.code q.code) :: joinHalves rest
    else p :: joinHalves (q :: rest)
  | ps => ps

/-- A text in which no halves of a pair stand next to each other. -/
def Whole (ps : Points) : Prop := ps.IsChain fun p q => ¬ IsPair p q

instance (ps : Points) : Decidable (Whole ps) := inferInstanceAs (Decidable (List.IsChain _ _))

theorem length_joinHalves_le (ps : Points) : (joinHalves ps).length ≤ ps.length := by
  fun_induction joinHalves ps with
  | case1 p q rest hpair ih => simp only [List.length_cons]; omega
  | case2 p q rest hpair ih => simpa using ih
  | case3 ps hshort => exact Nat.le_refl _

/-- Joining changes nothing exactly where no halves of a pair stand next to each other. -/
theorem joinHalves_eq_self_iff : joinHalves ps = ps ↔ Whole ps := by
  fun_induction joinHalves ps with
  | case1 p q rest hpair ih =>
    refine iff_of_false (fun he => ?_) fun h => (List.isChain_cons_cons.1 h).1 hpair
    have hlength := length_joinHalves_le rest
    have hsame := congrArg List.length he
    simp only [List.length_cons] at hsame
    omega
  | case2 p q rest hpair ih => simp [Whole, List.isChain_cons_cons, hpair, ih]
  | case3 ps hshort =>
    match ps with
    | [] => simp [Whole]
    | [p] => simp [Whole]
    | p :: q :: rest => exact absurd rfl (hshort p q rest)

/-! ### Codes -/

theorem isHighCode_iff : isHighCode n = true ↔ 0xd800 ≤ n ∧ n < 0xdc00 := by
  rw [isHighCode, Bool.and_eq_true, decide_eq_true_eq, decide_eq_true_eq]
  rfl

theorem isLowCode_iff : isLowCode n = true ↔ 0xdc00 ≤ n ∧ n < 0xe000 := by
  rw [isLowCode, Bool.and_eq_true, decide_eq_true_eq, decide_eq_true_eq]
  rfl

theorem isHighCode_of_isLowCode (h : isLowCode n = true) : ¬ isHighCode n = true := by
  rw [isLowCode_iff] at h
  rw [isHighCode_iff]
  omega

theorem not_isHighCode_toNat (c : Char) : ¬ isHighCode c.toNat = true := by
  rw [isHighCode_iff]
  have hvalid := toNat_cases c
  omega

theorem not_isLowCode_toNat (c : Char) : ¬ isLowCode c.toNat = true := by
  rw [isLowCode_iff]
  have hvalid := toNat_cases c
  omega

theorem toNat_ofNat (h : n < 0xd800) : (Char.ofNat n).toNat = n :=
  congrArg Char.toNat (dif_pos (.inl h))

/-- A pair has a code beyond those of one unit. -/
theorem pairCode_bounds (hhigh : isHighCode n = true) (hlow : isLowCode m = true) :
    0x10000 ≤ pairCode n m ∧ pairCode n m < 0x110000 := by
  rw [isHighCode_iff] at hhigh
  rw [isLowCode_iff] at hlow
  unfold pairCode firstHalf
  omega

theorem not_isHighCode_of_le (h : 0x10000 ≤ n) : ¬ isHighCode n = true := by
  rw [isHighCode_iff]
  omega

theorem not_isLowCode_of_le (h : 0x10000 ≤ n) : ¬ isLowCode n = true := by
  rw [isLowCode_iff]
  omega

/-- Two units make up a code beyond those of one unit. -/
theorem units_of_le (h : 0x10000 ≤ n) (hn : n < 0x110000) :
    isHighCode (0xd800 + (n - 0x10000) / 0x400) = true ∧ isLowCode (0xdc00 + (n - 0x10000) % 0x400) = true ∧
      pairCode (0xd800 + (n - 0x10000) / 0x400) (0xdc00 + (n - 0x10000) % 0x400) = n := by
  refine ⟨isHighCode_iff.2 (by omega), isLowCode_iff.2 (by omega), ?_⟩
  unfold pairCode firstHalf
  omega

end Text

/-! ### Hexadecimal digits -/

namespace Json

/-- Pieces that are read for code points, one after the other. -/
inductive Spells : Points → List Piece → Prop where
  | nil : Spells [] []
  | char (c : Char) (hrest : Spells ps pieces) : Spells (.ofChar c :: ps) (.char c :: pieces)
  | unit (p : Point) (hrest : Spells ps pieces) : Spells (p :: ps) (.unit p.code :: pieces)
  | pair (hhigh : isHighCode n = true) (hlow : isLowCode m = true) (hrest : Spells ps pieces) :
    Spells (.ofCode (pairCode n m) :: ps) (.unit n :: .unit m :: pieces)

variable {c : Char} {p q : Point} {ps : Points} {written rest after : List Char} {n m : Nat}
  {pieces : List Piece}

theorem digitIn?_digitChar : ∀ d < 16, digitIn? 16 (Nat.digitChar d) = some d := by
  decide

theorem unit?_concat (cs : List Char) (c : Char) :
    unit? (cs ++ [c]) = (unit? cs).bind fun n => (digitIn? 16 c).map (n * 16 + ·) := by
  rw [unit?, unit?, List.mapM_append, List.mapM_cons, List.mapM_nil]
  cases cs.mapM (digitIn? 16) <;> cases digitIn? 16 c <;> simp [ofDigits]

theorem unit?_zero_cons (cs : List Char) : unit? ('0' :: cs) = unit? cs := by
  have hzero : digitIn? 16 '0' = some 0 := rfl
  rw [unit?, unit?, List.mapM_cons, hzero]
  cases cs.mapM (digitIn? 16) <;> simp [ofDigits]

/-- Hexadecimal digits are read as the number that they write. -/
theorem unit?_toDigits (n : Nat) : unit? (Nat.toDigits 16 n) = some n := by
  induction n using Nat.strongRecOn with
  | ind n ih =>
    rw [Nat.toDigits_eq_if (by decide)]
    split
    · next hn =>
      rw [← List.nil_append [Nat.digitChar n], unit?_concat, digitIn?_digitChar n hn]
      simp [unit?, ofDigits]
    · next hn =>
      have hlast := digitIn?_digitChar (n % 16) (Nat.mod_lt _ (by decide))
      rw [unit?_concat, ih (n / 16) (by omega), hlast]
      simp only [Option.bind_some, Option.map_some, Option.some.injEq]
      omega

/-- A number in hexadecimal digits is read as that number. -/
theorem unit?_hexPadded (width n : Nat) : unit? (hexPadded width n) = some n := by
  rw [hexPadded]
  generalize width - (Nat.toDigits 16 n).length = zeros
  induction zeros with
  | zero => exact unit?_toDigits n
  | succ zeros ih => rwa [List.replicate_succ, List.cons_append, unit?_zero_cons]

theorem length_hexPadded (h : n < 0x10000) : (hexPadded 4 n).length = 4 := by
  have hdigits : (Nat.toDigits 16 n).length ≤ 4 := (Nat.length_toDigits_le_iff (by decide) (by decide)).2 h
  simp only [hexPadded, List.length_append, List.length_replicate]
  omega

theorem printable_digitChar : ∀ d < 16, 32 ≤ (Nat.digitChar d).toNat ∧ (Nat.digitChar d).toNat < 127 := by
  decide

theorem printable_of_mem_hexPadded {width : Nat} (h : c ∈ hexPadded width n) :
    32 ≤ c.toNat ∧ c.toNat < 127 := by
  rw [hexPadded, List.mem_append] at h
  rcases h with h | h
  · rw [(List.mem_replicate.1 h).2]
    decide
  · obtain ⟨d, hd, rfl⟩ := exists_digitChar_of_mem (by decide) h
    exact printable_digitChar d hd

theorem printable_of_mem_escapeUnit (h : c ∈ escapeUnit n) : 32 ≤ c.toNat ∧ c.toNat < 127 := by
  rw [escapeUnit, List.mem_cons, List.mem_cons] at h
  rcases h with rfl | rfl | h
  · decide
  · decide
  · exact printable_of_mem_hexPadded h

/-! ### Points -/

/-- What stands for a point in quotes. -/
inductive WrittenAs : Point → List Char → Prop where
  | short {c e : Char} (h : escaped? e = some c) : WrittenAs (.ofChar c) ['\\', e]
  | plain {c : Char} (h : 32 ≤ c.toNat ∧ c.toNat < 127) (hquote : c ≠ '"') (hslash : c ≠ '\\') :
    WrittenAs (.ofChar c) [c]
  | unit (p : Point) (h : p.code < 0x10000) : WrittenAs p (escapeUnit p.code)
  | pair (p : Point) (h : 0x10000 ≤ p.code) : WrittenAs p
      (escapeUnit (0xd800 + (p.code - 0x10000) / 0x400) ++ escapeUnit (0xdc00 + (p.code - 0x10000) % 0x400))

theorem WrittenAs.of_is {e : Char} (h : p.is c = true) (hescape : escaped? e = some c) :
    WrittenAs p ['\\', e] :=
  Point.is_iff.1 h ▸ .short hescape

theorem WrittenAs.of_bounds (h : 32 ≤ p.code ∧ p.code < 127) (hquote : ¬ p.is '"' = true)
    (hslash : ¬ p.is '\\' = true) : WrittenAs p [Char.ofNat p.code] := by
  have hcode : (Char.ofNat p.code).toNat = p.code := toNat_ofNat (by omega)
  have hp : p = .ofChar (Char.ofNat p.code) := Point.ext hcode.symm
  rw [hp, Point.is_iff] at hquote hslash
  have hplain : WrittenAs (.ofChar (Char.ofNat p.code)) [Char.ofNat p.code] := by
    refine .plain (by rwa [hcode]) ?_ ?_
    · exact fun he => hquote (by rw [he])
    · exact fun he => hslash (by rw [he])
  rwa [← hp] at hplain

/-- Every point is written in one of the forms, by its size and by whether it is visible. -/
theorem writtenAs_escapePoint (p : Point) : WrittenAs p (escapePoint p) := by
  unfold escapePoint
  split_ifs with hquote hslash hbreak hreturn htab hback hfeed hplain hunit
  · exact .of_is hquote rfl
  · exact .of_is hslash rfl
  · exact .of_is hbreak rfl
  · exact .of_is hreturn rfl
  · exact .of_is htab rfl
  · exact .of_is hback rfl
  · exact .of_is hfeed rfl
  · exact .of_bounds (by simpa using hplain) hquote hslash
  · exact .unit p hunit
  · exact .pair p (by omega)

theorem escaped?_bounds {e : Char} (h : escaped? e = some c) :
    (32 ≤ e.toNat ∧ e.toNat < 127) ∧ e ≠ 'u' := by
  unfold escaped? at h
  split at h <;> cases h <;> decide

/-- Whatever the form, its characters are printable ASCII. -/
theorem WrittenAs.printable {d : Char} (h : WrittenAs p written) (hd : d ∈ written) :
    32 ≤ d.toNat ∧ d.toNat < 127 := by
  cases h with
  | short hescape =>
    rw [List.mem_cons, List.mem_singleton] at hd
    rcases hd with rfl | rfl
    · decide
    · exact (escaped?_bounds hescape).1
  | plain hplain =>
    rw [List.mem_singleton.1 hd]
    exact hplain
  | unit p hunit => exact printable_of_mem_escapeUnit hd
  | pair p hpair => exact (List.mem_append.1 hd).elim printable_of_mem_escapeUnit printable_of_mem_escapeUnit

theorem isPrintable_quote (s : Points) : IsPrintable (quote s) := by
  intro d hd
  simp only [quote, String.toList_ofList, List.cons_append, List.mem_cons, List.mem_append,
    List.mem_flatMap, List.not_mem_nil, or_false] at hd
  rcases hd with rfl | ⟨p, _, hd⟩ | rfl
  · decide
  · exact (writtenAs_escapePoint p).printable hd
  · decide

/-- A unit that begins no pair is a point of its own. -/
theorem join_unit (h : ¬ isHighCode n = true) (pieces : List Piece) :
    join (.unit n :: pieces) = .ofCode n :: join pieces := by
  match pieces with
  | [] => rfl
  | .char d :: pieces => rfl
  | .unit m :: pieces => simp [join, h]

/-- A unit that ends no pair leaves the one in front of it alone. -/
theorem join_units (h : ¬ isLowCode m = true) (pieces : List Piece) :
    join (.unit n :: .unit m :: pieces) = .ofCode n :: join (.unit m :: pieces) := by
  simp [join, h]

theorem joinHalves_cons (h : ¬ isHighCode p.code = true) (ps : Points) :
    joinHalves (p :: ps) = p :: joinHalves ps := by
  cases ps with
  | nil => rfl
  | cons q rest => rw [joinHalves, if_neg fun hpair => h hpair.1]

theorem joinHalves_of_not_pair (h : ¬ IsPair p q) (rest : Points) :
    joinHalves (p :: q :: rest) = p :: joinHalves (q :: rest) := by
  rw [joinHalves, if_neg h]

/-- Pieces give their points back, with pairs of halves made into one. -/
theorem Spells.join_eq (h : Spells ps pieces) : join pieces = joinHalves ps := by
  induction h with
  | nil => rfl
  | char c hrest ih => rw [join, ih, joinHalves_cons (not_isHighCode_toNat c)]
  | @pair n m ps pieces hhigh hlow hrest ih =>
    have hbounds := pairCode_bounds hhigh hlow
    have hcode := Point.code_ofCode hbounds.2
    rw [joinHalves_cons (by rw [hcode]; exact not_isHighCode_of_le hbounds.1), ← ih, join,
      if_pos (by simp [hhigh, hlow])]
  | @unit ps pieces p hrest ih =>
    by_cases hhigh : isHighCode p.code = true
    · -- The second half of a pair can only be a unit of its own, and it begins no other pair.
      cases hrest with
      | nil => simp [join, joinHalves]
      | char d hrest =>
        rw [joinHalves_of_not_pair fun hpair => not_isLowCode_toNat d hpair.2, ← ih]
        simp [join]
      | @pair n m ps pieces hhigh' hlow hrest =>
        have hbounds := pairCode_bounds hhigh' hlow
        have hcode := Point.code_ofCode hbounds.2
        have hnot : ¬ isLowCode n = true := fun hlow => isHighCode_of_isLowCode hlow hhigh'
        have hpair : ¬ IsPair p (.ofCode (pairCode n m)) := by
          rw [IsPair, hcode]
          exact fun hpair => not_isLowCode_of_le hbounds.1 hpair.2
        rw [joinHalves_of_not_pair hpair, ← ih, join_units hnot, Point.ofCode_code]
      | @unit ps pieces q hrest =>
        by_cases hlow : isLowCode q.code = true
        · have hnot := isHighCode_of_isLowCode hlow
          rw [join_unit hnot, joinHalves_cons hnot, List.cons.injEq] at ih
          rw [join, if_pos (by simp [hhigh, hlow]), joinHalves, if_pos ⟨hhigh, hlow⟩, ih.2]
        · rw [joinHalves_of_not_pair fun hpair => hlow hpair.2, ← ih, join_units hlow, Point.ofCode_code]
    · rw [join_unit hhigh, ih, joinHalves_cons hhigh, Point.ofCode_code]

/-- An escape of four digits is read as its unit, halves included. -/
theorem pieces?_unit (h : n < 0x10000) (rest : List Char) :
    pieces? (escapeUnit n ++ rest) = (pieces? rest).map fun (pieces, after) => (.unit n :: pieces, after) := by
  have hlength := length_hexPadded h
  have hunit := unit?_hexPadded 4 n
  rw [escapeUnit]
  match hexPadded 4 n, hlength, hunit with
  | [a, b, c, d], _, hunit =>
    simp only [List.cons_append, List.nil_append, pieces?, hunit]
    cases pieces? rest <;> rfl

theorem pieces?_short {e : Char} (h : escaped? e = some c) (hread : pieces? rest = some (pieces, after)) :
    pieces? ('\\' :: e :: rest) = some (.char c :: pieces, after) := by
  have hu := (escaped?_bounds h).2
  rw [pieces?]
  · simp [h, hread]
  · simp [hu]

theorem pieces?_plain (h : 32 ≤ c.toNat) (hquote : c ≠ '"') (hslash : c ≠ '\\')
    (hread : pieces? rest = some (pieces, after)) : pieces? (c :: rest) = some (.char c :: pieces, after) := by
  have hcontrol : ¬ c.toNat < 32 := by omega
  rw [pieces?]
  · simp [hslash, hcontrol, hread]
  all_goals simp [hquote, hslash]

/-- What stands for a point is read as pieces for it. -/
theorem WrittenAs.pieces? (h : WrittenAs p written) (hrest : Spells ps pieces)
    (hread : Json.pieces? rest = some (pieces, after)) :
    ∃ more, Spells (p :: ps) more ∧ Json.pieces? (written ++ rest) = some (more, after) := by
  cases h with
  | short hescape => exact ⟨_, .char _ hrest, pieces?_short hescape hread⟩
  | plain hplain hquote hslash => exact ⟨_, .char _ hrest, pieces?_plain hplain.1 hquote hslash hread⟩
  | unit p hunit => exact ⟨_, .unit p hrest, by rw [pieces?_unit hunit, hread]; rfl⟩
  | pair p hpair =>
    obtain ⟨hhigh, hlow, hcode⟩ := units_of_le hpair p.lt
    have hspells := Spells.pair hhigh hlow hrest
    rw [hcode, Point.ofCode_code] at hspells
    refine ⟨_, hspells, ?_⟩
    rw [isHighCode_iff] at hhigh
    rw [isLowCode_iff] at hlow
    rw [List.append_assoc, pieces?_unit (by omega), pieces?_unit (by omega), hread]
    rfl

/-- A quoted text is read up to its own closing quote, since an inner one has an escape. -/
theorem pieces?_escaped (ps : Points) (rest : List Char) :
    ∃ pieces, Spells ps pieces ∧ pieces? (ps.flatMap escapePoint ++ '"' :: rest) = some (pieces, rest) := by
  induction ps with
  | nil => exact ⟨[], .nil, rfl⟩
  | cons p ps ih =>
    obtain ⟨pieces, hspells, hread⟩ := ih
    obtain ⟨more, hspells, hread⟩ := (writtenAs_escapePoint p).pieces? hspells hread
    exact ⟨more, hspells, by rw [List.flatMap_cons, List.append_assoc, hread]⟩

/-- A quoted text is read with its halves joined. -/
theorem text?_quote (s : Points) (rest : List Char) :
    ∃ more, (quote s).toList ++ rest = '"' :: more ∧ text? more = some (joinHalves s, rest) := by
  obtain ⟨pieces, hspells, hread⟩ := pieces?_escaped s rest
  refine ⟨s.flatMap escapePoint ++ '"' :: rest, by simp [quote], ?_⟩
  simp only [text?, hread, Option.map_some, hspells.join_eq]

end Json
end FeatureCert
