import FeatureCert.Proofs.Lookup

/-!
Values that fit a capability. The relation says of each kind of capability which values it takes and the
state that each stands for; judging an entry comes to one of three ends, told by the relation.
-/
namespace FeatureCert

open FeatureCert.Numeral

namespace Capability

/-- The values that fit a capability, each with the state that it stands for. -/
inductive Takes (c : Capability) : Value → State → Prop where
  /-- A parameter defined without a number has its default. -/
  | bare (hk : c.kind = .parameter) : Takes c .null ⟨true, some c.default.toInt, true⟩
  /-- A parameter whose override is taken back. -/
  | removed (hk : c.kind = .parameter) : Takes c (.bool false) ⟨false, some c.default.toInt, true⟩
  | number (hk : c.kind = .parameter) (n : Int) : Takes c (.int n) ⟨true, some n, true⟩
  /-- A parameter's earlier state, with the default where it has no number. -/
  | valued (hk : c.kind = .parameter) (s : State) :
      Takes c (.state s) { s with value := some (s.value.getD c.default.toInt) }
  | defined (hk : c.kind ≠ .parameter) : Takes c .null ⟨true, none, true⟩
  | switch (hk : c.kind ≠ .parameter) (b : Bool) : Takes c (.bool b) ⟨b, none, true⟩
  /-- One and zero stand for on and off. -/
  | bit (hk : c.kind ≠ .parameter) (b : Bool) : Takes c (.int (if b then 1 else 0)) ⟨b, none, true⟩
  /-- An earlier state, without a number. -/
  | valueless (hk : c.kind ≠ .parameter) (s : State) : Takes c (.state s) { s with value := none }

def Fits (c : Capability) (v : Value) : Prop := ∃ state, c.Takes v state

variable {c : Capability} {v : Value} {state : State}

/-- Every value that fits is accepted with the state that it stands for. -/
theorem accept_of_takes (h : c.Takes v state) : c.accept v = some state := by
  cases h with
  | bare hk => simp [accept, hk]
  | removed hk => simp [accept, hk]
  | number hk n => simp [accept, hk]
  | valued hk s => cases hv : s.value <;> simp [accept, hk, hv]
  | defined hk => cases hc : c.kind <;> simp_all [accept]
  | switch hk b => cases hc : c.kind <;> simp_all [accept]
  | bit hk b => cases hc : c.kind <;> cases b <;> simp_all [accept]
  | valueless hk s => cases hc : c.kind <;> simp_all [accept]

theorem Takes.of_accept {s : State} (ht : c.Takes v s) (h : c.accept v = some state) :
    c.Takes v state := by
  have hs := accept_of_takes ht
  rw [h, Option.some.injEq] at hs
  exact hs ▸ ht

/-- Nothing is accepted but values that fit, kind by kind. -/
theorem takes_of_accept (h : c.accept v = some state) : c.Takes v state := by
  by_cases hk : c.kind = .parameter
  · cases v with
    | null => exact .of_accept (.bare hk) h
    | bool b =>
      cases b with
      | false => exact .of_accept (.removed hk) h
      | true => simp [accept, hk] at h
    | int n => exact .of_accept (.number hk n) h
    | state s => exact .of_accept (.valued hk s) h
    | _ => simp [accept, hk] at h
  · cases v with
    | null => exact .of_accept (.defined hk) h
    | bool b => exact .of_accept (.switch hk b) h
    | int n =>
      by_cases h₁ : n = 1
      · subst h₁
        exact .of_accept (.bit hk true) h
      · by_cases h₀ : n = 0
        · subst h₀
          exact .of_accept (.bit hk false) h
        · cases hc : c.kind <;> simp_all [accept]
    | state s => exact .of_accept (.valueless hk s) h
    | _ => cases hc : c.kind <;> simp_all [accept]

theorem accept_eq_some_iff : c.accept v = some state ↔ c.Takes v state :=
  ⟨takes_of_accept, accept_of_takes⟩

theorem accept_eq_none_iff : c.accept v = none ↔ ¬ c.Fits v := by
  rw [Option.eq_none_iff_forall_ne_some]
  simp only [Fits, ← accept_eq_some_iff, not_exists, ne_eq]

/-- Of the numbers only one and zero fit a flag or hook. -/
theorem not_fits_int (hk : c.kind ≠ .parameter) {n : Int} (h₀ : n ≠ 0) (h₁ : n ≠ 1) :
    ¬ c.Fits (.int n) := by
  rintro ⟨state, h⟩
  cases h with
  | number hp => exact hk hp
  | bit _ b => cases b <;> simp_all

/-- A parameter always comes to a number, and a flag or hook never does. -/
theorem Takes.value (h : c.Takes v state) :
    (c.kind = .parameter → ∃ n, state.value = some n) ∧
      (c.kind ≠ .parameter → state.value = none) := by
  cases h with
  | bare hk => exact ⟨fun _ => ⟨_, rfl⟩, fun hn => absurd hk hn⟩
  | removed hk => exact ⟨fun _ => ⟨_, rfl⟩, fun hn => absurd hk hn⟩
  | number hk n => exact ⟨fun _ => ⟨n, rfl⟩, fun hn => absurd hk hn⟩
  | valued hk s => exact ⟨fun _ => ⟨_, rfl⟩, fun hn => absurd hk hn⟩
  | defined hk => exact ⟨fun hp => absurd hp hk, fun _ => rfl⟩
  | switch hk b => exact ⟨fun hp => absurd hp hk, fun _ => rfl⟩
  | bit hk b => exact ⟨fun hp => absurd hp hk, fun _ => rfl⟩
  | valueless hk s => exact ⟨fun hp => absurd hp hk, fun _ => rfl⟩

/-- Every value but an earlier state is marked as set by the selection. -/
theorem Takes.explicit (h : c.Takes v state) (hv : ∀ s, v ≠ .state s) : state.explicit = true := by
  cases h with
  | valued hk s => exact absurd rfl (hv s)
  | valueless hk s => exact absurd rfl (hv s)
  | _ => rfl

theorem defaultState_value (c : Capability) :
    (c.kind = .parameter → ∃ n, c.defaultState.value = some n) ∧
      (c.kind ≠ .parameter → c.defaultState.value = none) := by
  cases hk : c.kind <;> simp [defaultState, hk]

theorem defaultState_explicit (c : Capability) : c.defaultState.explicit = false := by
  cases hk : c.kind <;> simp [defaultState, hk]

end Capability

/-- The three ends that the judging of an entry can come to. -/
inductive Judged (catalog : Catalog) (e : Entry) : Judgement → Prop where
  | unknown (hname : ∀ c ∈ catalog.capabilities, e.name ≠ .text c.name)
      (htext : e.name.display = .ok text) : Judged catalog e (.unknown text)
  | unfit (hc : c ∈ catalog.capabilities) (hname : e.name = .text c.name)
      (hfit : ¬ c.Fits e.assigned) (htext : e.assigned.inspect = .ok text) :
      Judged catalog e (.unfit c.name text c.expected)
  | settled (hc : c ∈ catalog.capabilities) (hname : e.name = .text c.name)
      (htakes : c.Takes e.assigned state) : Judged catalog e (.settled c.name state)

namespace Catalog

variable {catalog : Catalog} {e : Entry} {c : Capability} {j : Judgement}

theorem judge_of_none (h : catalog.named? e.name = none) :
    catalog.judge e = e.name.display.map .unknown := by
  simp only [judge, h]
  cases e.name.display <;> rfl

theorem judge_of_unfit (h : catalog.named? e.name = some c) (hfit : ¬ c.Fits e.assigned) :
    catalog.judge e = e.assigned.inspect.map (.unfit c.name · c.expected) := by
  simp only [judge, h, Capability.accept_eq_none_iff.2 hfit]
  cases e.assigned.inspect <;> rfl

theorem judge_of_takes {state : State} (h : catalog.named? e.name = some c)
    (htakes : c.Takes e.assigned state) : catalog.judge e = .ok (.settled c.name state) := by
  simp only [judge, h, Capability.accept_eq_some_iff.2 htakes]

/-- An entry is unknown, unfit or settled, and the three exclude each other. -/
theorem judged_of_judge (h : catalog.judge e = .ok j) : Judged catalog e j := by
  cases hn : catalog.named? e.name with
  | none =>
    rw [judge_of_none hn] at h
    cases ht : e.name.display with
    | error _ => simp [ht, Except.map] at h
    | ok text =>
      simp only [ht, Except.map, Except.ok.injEq] at h
      exact h ▸ .unknown (named?_eq_none_iff.1 hn) ht
  | some c =>
    obtain ⟨hc, hname⟩ := named?_eq_some_iff.1 hn
    by_cases hfit : c.Fits e.assigned
    · obtain ⟨state, htakes⟩ := hfit
      rw [judge_of_takes hn htakes, Except.ok.injEq] at h
      exact h ▸ .settled hc hname htakes
    · rw [judge_of_unfit hn hfit] at h
      cases ht : e.assigned.inspect with
      | error _ => simp [ht, Except.map] at h
      | ok text =>
        simp only [ht, Except.map, Except.ok.injEq] at h
        exact h ▸ .unfit hc hname hfit ht

end Catalog
end FeatureCert
