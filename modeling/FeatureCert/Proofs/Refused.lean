import FeatureCert.Proofs.Outcomes
import FeatureCert.Proofs.Zeros

/-!
Headers that have no selection. A header is read exactly where none of its definitions is replaced by a
decimal text that is no literal: one with a zero in front of a number, or with too many digits. A reserved
name protects no line, and a hexadecimal text is always a literal.
-/
namespace FeatureCert.Selection

open FeatureCert.Text FeatureCert.Numeral

/-- The replacement texts that look like a number and are none: a minus or none, decimal digits of any script
that are no literal, and then suffix letters. -/
inductive IsRefused : List Char → Prop where
  | decimal {sign body suffix : List Char} {digits : List Nat} (hsign : sign = [] ∨ sign = ['-'])
      (hbody : body.map digitValue? = digits.map some) (hdigits : Refused digits)
      (hsuffix : ∀ c ∈ suffix, isSuffix c = true) : IsRefused (sign ++ (body ++ suffix))

variable {cs digits rest : List Char} {lead text : String}

/-- The digits of a text that is refused, which are no literal. -/
theorem IsRefused.splits (h : IsRefused cs) : ∃ digits, Splits cs digits ∧ literal? digits = none := by
  obtain @⟨sign, body, suffix, values, hsign, hbody, hvalues, hsuffix⟩ := h
  have hdigit : ∀ c ∈ body, ∃ d, digitValue? c = some d := by
    intro c hc
    have hmem := List.mem_map_of_mem (f := digitValue?) hc
    rw [hbody] at hmem
    obtain ⟨d, _, hd⟩ := List.mem_map.1 hmem
    exact ⟨d, hd.symm⟩
  have hvalue : ∀ c ∈ body, digitValue? c = some ((digitValue? c).getD 0) :=
    fun c hc => eq_some_getD (Option.isSome_iff_exists.2 (hdigit c hc))
  have hsame : body.map (fun c => (digitValue? c).getD 0) = values := by
    have hget := congrArg (List.map fun d : Option Nat => d.getD 0) hbody
    simpa [Function.comp_def] using hget
  have hne : body ≠ [] := by
    rintro rfl
    cases hsame
    exact absurd hvalues (by decide)
  refine ⟨_, .decimal hsign hne (fun c hc => Option.isSome_iff_exists.2 (hdigit c hc)) hsuffix, ?_⟩
  rw [literal?_decimal hsign hne hvalue, hsame, if_pos hvalues]

theorem isRefused_of_splits (h : Splits cs digits) (hnone : literal? digits = none) : IsRefused cs := by
  cases h with
  | @decimal _ body _ hsign hne hbody hsuffix =>
    have hvalue := fun c hc => eq_some_getD (hbody c hc)
    have hvalues : body.map digitValue? = (body.map fun c => (digitValue? c).getD 0).map some := by
      rw [List.map_map]
      exact List.map_congr_left hvalue
    refine .decimal hsign hvalues (Decidable.of_not_not fun hgood => ?_) hsuffix
    rw [literal?_decimal hsign hne hvalue, if_neg hgood] at hnone
    cases hnone
  | hexadecimal hmark hne hbody hsuffix =>
    rw [literal?_hexadecimal hmark hne fun c hc => eq_some_getD (hbody c hc)] at hnone
    cases hnone

/-- A text is refused where it begins as a number that is no literal. -/
theorem isRefused_iff : IsRefused cs ↔ ∃ digits, numberPart? cs = some digits ∧ literal? digits = none := by
  constructor
  · intro h
    obtain ⟨digits, hsplits, hnone⟩ := h.splits
    exact ⟨digits, numberPart?_of_splits hsplits, hnone⟩
  · rintro ⟨digits, hdigits, hnone⟩
    exact isRefused_of_splits (splits_of_numberPart? hdigits) hnone

/-- A replacement text has a value exactly if it is not refused. -/
theorem exists_replacementValue_iff :
    (∃ v, replacementValue rest = .ok v) ↔ ¬ IsRefused (trim (dropComments rest)) := by
  rw [isRefused_iff, replacementValue]
  cases numberPart? (trim (dropComments rest)) with
  | none => simp
  | some digits => cases hliteral : literal? digits <;> simp [hliteral]

/-- A header is read exactly if no definition in it has a replacement text that is refused. -/
theorem exists_fromHeader_iff (lead text : String) :
    (∃ pairs, fromHeader lead text = .ok pairs) ↔
      ∀ t ∈ toggles text, ∀ rest, t.replacement = some rest → ¬ IsRefused (trim (dropComments rest)) := by
  have hpure {results : List (Option (String × Value))} :
      ∃ pairs, (pure (collect (results.filterMap id)) : Except BadLiteral _) = .ok pairs := ⟨_, rfl⟩
  rw [fromHeader, exists_ok_bind]
  simp only [hpure, and_true, exists_mapM_ok_iff]
  refine forall₂_congr fun t _ => ?_
  obtain ⟨name, replacement⟩ := t
  rw [Toggle.pair?, exists_ok_bind]
  cases replacement with
  | none => exact iff_of_true ⟨_, rfl, _, rfl⟩ nofun
  | some rest =>
    simp only [Option.some.injEq, forall_eq', ← exists_replacementValue_iff]
    exact exists_congr fun v => and_iff_left ⟨_, rfl⟩

/-- Here a number that C reads as an octal one has the whole header refused. -/
theorem no_pairs_of_octal :
    fromHeader defaultLead "#define MBEDCRYPTO_MODE 010" = .error ⟨"010"⟩ ∧
      ¬ ∃ pairs, fromHeader defaultLead "#define MBEDCRYPTO_MODE 010" = .ok pairs := by
  have htoggles : toggles "#define MBEDCRYPTO_MODE 010" =
      [⟨"MBEDCRYPTO_MODE", some " 010".toList⟩] := by
    decide +kernel
  have hread : fromHeader defaultLead "#define MBEDCRYPTO_MODE 010" = .error ⟨"010"⟩ := by
    rw [fromHeader, htoggles]
    rfl
  refine ⟨hread, ?_⟩
  rintro ⟨pairs, hpairs⟩
  rw [hread] at hpairs
  cases hpairs

end FeatureCert.Selection
