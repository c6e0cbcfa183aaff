import FeatureCert.Proofs.Merged
import FeatureCert.Proofs.Tabulated
import FeatureCert.Proofs.Zeros
import Mathlib.Data.List.Nodup

/-!
What a header decides. The last line that toggles a name gives the one value that the header has for it. A
definition leaves a flag or hook on, or has its number reported, unless the number is zero: that turns the
flag off, and nothing tells.
-/
namespace FeatureCert

open FeatureCert.Numeral FeatureCert.Selection

namespace Selection

variable {lead text name : String} {pairs : List (String × Value)} {t : Toggle} {v : Value}

/-- The name that a toggle is about, without the common lead; reserved names are none. -/
def Toggle.subject? (lead : String) (t : Toggle) : Option String :=
  if isReserved t.name.toList then none
  else some (String.ofList (dropLead lead.toList t.name.toList))

/-- The last toggle of a header's text under a name. -/
def IsLastToggle (lead text name : String) (t : Toggle) : Prop :=
  ∃ before after, toggles text = before ++ t :: after ∧ t.subject? lead = some name ∧
    ∀ u ∈ after, u.subject? lead ≠ some name

theorem Toggle.pair?_ok {p : Option (String × Value)} (h : t.pair? lead = .ok p) :
    ∃ v, t.value = .ok v ∧ p = (t.subject? lead).map (·, v) := by
  obtain ⟨v, hv, h⟩ := bind_eq_ok_iff.1 h
  refine ⟨v, hv, ?_⟩
  cases h
  unfold Toggle.subject?
  split <;> rfl

/-- The last toggle of a name gives the value that a header pairs with it. -/
theorem mem_fromHeader (h : fromHeader lead text = .ok pairs) (hlast : IsLastToggle lead text name t) :
    ∃ v, t.value = .ok v ∧ (name, v) ∈ pairs := by
  obtain ⟨before, after, htoggles, hsubject, hafter⟩ := hlast
  obtain ⟨results, hresults, h⟩ := bind_eq_ok_iff.1 h
  cases h
  rw [htoggles] at hresults
  obtain ⟨first, p, last, hp, hrest, rfl⟩ := mapM_append_cons_ok hresults
  obtain ⟨v, hv, rfl⟩ := Toggle.pair?_ok hp
  have hmiddle : (first ++ (t.subject? lead).map (·, v) :: last).filterMap id =
      first.filterMap id ++ (name, v) :: last.filterMap id := by simp [hsubject]
  rw [hmiddle]
  -- no pair of a later toggle carries the name
  refine ⟨v, hv, mem_of_lookup_eq_some (lookup_collect_of_last _ ?_)⟩
  intro q hq hname
  obtain ⟨r, hr, rfl⟩ := List.mem_filterMap.1 hq
  obtain ⟨u, hu, hpair⟩ := exists_of_mem_mapM_ok hrest hr
  obtain ⟨w, _, he⟩ := Toggle.pair?_ok hpair
  obtain ⟨own, hown, hq'⟩ := Option.map_eq_some_iff.1 he.symm
  apply hafter u hu
  rw [hown, ← hname, ← hq']

theorem nodup_names_fromHeader (h : fromHeader lead text = .ok pairs) : (pairs.map (·.1)).Nodup := by
  obtain ⟨results, _, h⟩ := bind_eq_ok_iff.1 h
  cases h
  exact nodup_names_collect _

/-- A name that pairs mention once has that pair as its last entry. -/
theorem isLast_ofPair (hnodup : (pairs.map (·.1)).Nodup) (h : (name, v) ∈ pairs) :
    IsLast (pairs.map Entry.ofPair) name ⟨.text name, v⟩ :=
  isLast_map_ofPair_iff.2 ⟨v, (isLastPair_iff_of_nodup hnodup).2 h, rfl⟩

end Selection

/-- Whether a capability is on, or a value for it is reported as one that does not fit. -/
def OnOrReported (s : Snapshot) (problems : List Violation) (name : String) : Prop :=
  s.isEnabled name = true ∨ ∃ value expected, ⟨name, .invalidValue value expected⟩ ∈ problems

namespace Catalog

variable {catalog : Catalog} {pairs : List (String × Value)} {c : Capability} {s : Snapshot}
  {problems : List Violation} {v : Value}

/-- Where a name stands in one pair only, an invalid value is reported exactly if that pair's does not fit. -/
theorem invalidValue_normalize_iff
    (h : catalog.normalize (pairs.map Entry.ofPair) = .ok (s, problems))
    (hc : c ∈ catalog.capabilities) (hnodup : (pairs.map (·.1)).Nodup) (hv : (c.name, v) ∈ pairs) :
    (∃ value expected, ⟨c.name, .invalidValue value expected⟩ ∈ problems) ↔ ¬ c.Fits v := by
  rw [(complaints_normalize h).invalidValue_iff hc]
  constructor
  · rintro ⟨e, he, hname, hfit⟩
    obtain ⟨p, hp, rfl⟩ := List.mem_map.1 he
    have hsame : p = (c.name, v) :=
      List.inj_on_of_nodup_map hnodup hp hv (Value.text.inj hname)
    rwa [hsame] at hfit
  · intro hfit
    exact ⟨⟨.text c.name, v⟩, List.mem_map.2 ⟨_, hv, rfl⟩, rfl, hfit⟩

/-- On and the numbers turn a flag or hook on or are reported, all but zero. -/
theorem onOrReported_iff (h : catalog.normalize (pairs.map Entry.ofPair) = .ok (s, problems))
    (hc : c ∈ catalog.capabilities) (hk : c.kind ≠ .parameter) (hnodup : (pairs.map (·.1)).Nodup)
    (hmem : (c.name, v) ∈ pairs) (hv : v = .bool true ∨ ∃ n, v = .int n) :
    OnOrReported s problems c.name ↔ v ≠ .int 0 := by
  have hlast := Selection.isLast_ofPair hnodup hmem
  have hstate {state : State} (htakes : c.Takes v state) : s.isEnabled c.name = state.enabled := by
    rw [Snapshot.isEnabled, get?_normalize_of_takes h hc hlast htakes, Option.any_some]
  rw [OnOrReported, invalidValue_normalize_iff h hc hnodup hmem]
  rcases hv with rfl | ⟨n, rfl⟩
  · exact iff_of_true (.inl (hstate (.switch hk true))) (by simp)
  · by_cases h₀ : n = 0
    · subst h₀
      have hoff : c.Takes (.int 0) ⟨false, none, true⟩ := .bit hk false
      rw [hstate hoff]
      simpa using ⟨_, hoff⟩
    · by_cases h₁ : n = 1
      · subst h₁
        exact iff_of_true (.inl (hstate (.bit hk true))) (by simp)
      · exact iff_of_true (.inr (Capability.not_fits_int hk h₀ h₁)) (by simpa using h₀)

end Catalog

/-- A flag or hook that a header's last line for it defines comes to be on or reported exactly where it is
not defined as zero, and where each number that the header gives can be quoted if it does not fit. -/
theorem Tables.onOrReported_of_defined {tables : Tables} {lead text : String}
    {pairs : List (String × Value)} (hread : Selection.fromHeader lead text = .ok pairs)
    {c : Capability} (hc : c ∈ tables.catalog.capabilities) (hk : c.kind ≠ .parameter)
    {t : Selection.Toggle} (hlast : Selection.IsLastToggle lead text c.name t) {rest : List Char}
    (hactive : t.replacement = some rest) :
    (∃ s problems, (tables.normalize (pairs.map Entry.ofPair)).result = .ok (s, problems) ∧
        OnOrReported s problems c.name) ↔
      ¬ Selection.IsZero (Text.trim (Selection.dropComments rest)) ∧
        ∀ p ∈ pairs, tables.catalog.Legible (.ofPair p) := by
  obtain ⟨v, hv, hmem⟩ := Selection.mem_fromHeader hread hlast
  have hvalue : Selection.replacementValue rest = .ok v := by
    simpa [Selection.Toggle.value, hactive] using hv
  have hshape : v = .bool true ∨ ∃ n, v = .int n := by
    rcases Selection.replacementValue_cases hvalue with ⟨hon, _⟩ | ⟨_, n, hn, _⟩
    · exact .inl hon
    · exact .inr ⟨n, hn⟩
  have hdecided {s : Snapshot} {problems : List Violation}
      (hn : tables.catalog.normalize (pairs.map Entry.ofPair) = .ok (s, problems)) :=
    Catalog.onOrReported_iff hn hc hk (Selection.nodup_names_fromHeader hread) hmem hshape
  rw [← Selection.replacementValue_eq_zero_iff hvalue, ← List.forall_mem_map (f := Entry.ofPair),
    ← Catalog.normalize_ok_iff]
  constructor
  · rintro ⟨s, problems, hrun, hdone⟩
    have hn := catalog_normalize_of_result hrun
    exact ⟨(hdecided hn).1 hdone, _, hn⟩
  · rintro ⟨hzero, ⟨s, problems⟩, hn⟩
    exact ⟨s, problems, result_normalize_of_catalog hn, (hdecided hn).2 hzero⟩

/-- Here a line behind a comment mark is followed by one that defines the same flag with a number. -/
theorem onOrReported_of_one :
    Selection.fromHeader Selection.defaultLead "//#define MBEDCRYPTO_AES\n#define MBEDCRYPTO_AES 1UL" =
        .ok [("AES", .int 1)] ∧
      ∃ s problems, (sampleTables.normalize ([("AES", .int 1)].map Entry.ofPair)).result =
          .ok (s, problems) ∧ OnOrReported s problems "AES" := by
  have htoggles : Selection.toggles "//#define MBEDCRYPTO_AES\n#define MBEDCRYPTO_AES 1UL" =
      [⟨"MBEDCRYPTO_AES", none⟩, ⟨"MBEDCRYPTO_AES", some " 1UL".toList⟩] := by
    decide +kernel
  have hread : Selection.fromHeader Selection.defaultLead
      "//#define MBEDCRYPTO_AES\n#define MBEDCRYPTO_AES 1UL" = .ok [("AES", .int 1)] := by
    rw [Selection.fromHeader, htoggles]
    rfl
  have hvalue : Selection.replacementValue " 1UL".toList = .ok (.int 1) := rfl
  have hlegible : ∀ p ∈ [("AES", Value.int 1)], sampleTables.catalog.Legible (.ofPair p) := by
    rw [List.forall_mem_singleton]
    exact Catalog.judge_ok_iff.1 ⟨_, rfl⟩
  refine ⟨hread, (@Tables.onOrReported_of_defined sampleTables _ _ _ hread { name := "AES" }
    List.mem_cons_self (by decide) ⟨"MBEDCRYPTO_AES", some " 1UL".toList⟩
    ⟨[⟨"MBEDCRYPTO_AES", none⟩], [], htoggles, rfl, by simp⟩ _ rfl).2 ⟨?_, hlegible⟩⟩
  rw [← Selection.replacementValue_eq_zero_iff hvalue]
  simp

/-- A definition of zero turns its flag off without a word. -/
theorem off_of_zero :
    let pairs : List (String × Value) := [("AES", .int 0)]
    let s : Snapshot := ⟨[("AES", ⟨false, none, true⟩), ("DES", ⟨false, none, false⟩),
      ("RNG", ⟨true, none, false⟩), ("ROUNDS", ⟨false, some 4, false⟩)]⟩
    Selection.fromHeader Selection.defaultLead "#define MBEDCRYPTO_AES 0" = .ok pairs ∧
      Selection.IsLastToggle Selection.defaultLead "#define MBEDCRYPTO_AES 0" "AES"
        ⟨"MBEDCRYPTO_AES", some " 0".toList⟩ ∧
      (sampleTables.normalize (pairs.map Entry.ofPair)).result = .ok (s, []) ∧
        ¬ OnOrReported s [] "AES" := by
  have htoggles : Selection.toggles "#define MBEDCRYPTO_AES 0" =
      [⟨"MBEDCRYPTO_AES", some " 0".toList⟩] := by
    decide +kernel
  refine ⟨?_, ⟨[], [], htoggles, rfl, by simp⟩, rfl, ?_⟩
  · rw [Selection.fromHeader, htoggles]
    rfl
  · simp [OnOrReported, Snapshot.isEnabled, Snapshot.get?]

end FeatureCert
