import FeatureCert.Proofs.Certified
import FeatureCert.Proofs.Legible

/-!
Snapshots by capability. A normal form is a table of the catalog's capabilities with a state for each. A
selection that assigns a fitting value to every capability just once has the table of the states that the
values stand for as its normal form, in whatever order it lists them, and no problem of its own.
-/
namespace FeatureCert

theorem nodup_map_text {names : List String} (h : names.Nodup) : (names.map Value.text).Nodup :=
  List.Pairwise.map _ (fun _ _ hne he => hne (Value.text.inj he)) h

/-- Where names differ, every entry is the last one of its name. -/
theorem isLast_of_nodup {selection : List Entry} {name : String} {e : Entry}
    (h : (selection.map (·.name)).Nodup) (he : e ∈ selection) (hname : e.name = .text name) :
    IsLast selection name e := by
  obtain ⟨before, after, rfl⟩ := List.append_of_mem he
  refine ⟨before, after, rfl, hname, ?_⟩
  intro x hx hxname
  rw [List.map_append, List.map_cons, List.nodup_append, List.nodup_cons] at h
  exact h.2.1.1 (List.mem_map.2 ⟨x, hx, hxname.trans hname.symm⟩)

namespace Catalog

variable {catalog : Catalog} {c : Capability} {s : Snapshot} {selection : List Entry}
  {problems : List Violation} {state : Capability → State} {assigned : Capability → Value}

/-- The snapshot of a state for each capability. -/
def tabulate (catalog : Catalog) (state : Capability → State) : Snapshot :=
  ⟨catalog.capabilities.map fun c => (c.name, state c)⟩

/-- The selection of a value for each capability, in catalog order. -/
def assign (catalog : Catalog) (assigned : Capability → Value) : List Entry :=
  catalog.capabilities.map fun c => ⟨.text c.name, assigned c⟩

theorem get?_tabulate (catalog : Catalog) (state : Capability → State) (name : String) :
    (catalog.tabulate state).get? name = (catalog.lookup? name).map state := by
  simp [tabulate, Snapshot.get?, lookup?_eq_named?, Capability.named?, List.find?_map, Function.comp_def]

theorem get?_tabulate_self (hc : c ∈ catalog.capabilities) :
    (catalog.tabulate state).get? c.name = some (state c) := by
  rw [get?_tabulate, lookup?_self hc, Option.map_some]

theorem isEnabled_tabulate_self (hc : c ∈ catalog.capabilities) :
    (catalog.tabulate state).isEnabled c.name = (state c).enabled := by
  rw [Snapshot.isEnabled, get?_tabulate_self hc, Option.any_some]

theorem valueOf?_tabulate_self (hc : c ∈ catalog.capabilities) :
    (catalog.tabulate state).valueOf? c.name = (state c).value := by
  rw [Snapshot.valueOf?, get?_tabulate_self hc, Option.bind_some]

/-- Whether a name is on depends on that part of its state alone. -/
theorem isEnabled_tabulate_congr {state' : Capability → State}
    (h : ∀ c ∈ catalog.capabilities, (state' c).enabled = (state c).enabled) (name : String) :
    (catalog.tabulate state').isEnabled name = (catalog.tabulate state).isEnabled name := by
  rw [Snapshot.isEnabled, Snapshot.isEnabled, get?_tabulate, get?_tabulate]
  cases hlook : catalog.lookup? name with
  | none => rfl
  | some c => simpa using h c (lookup?_eq_some_iff.1 hlook).1

theorem enabledNames_tabulate (catalog : Catalog) (state : Capability → State) :
    (catalog.tabulate state).enabledNames =
      (catalog.capabilities.filter fun c => (state c).enabled).map (·.name) := by
  simp [tabulate, Snapshot.enabledNames, List.filter_map, Function.comp_def]

theorem defines_tabulate (catalog : Catalog) (state : Capability → State) (lead : String) :
    (catalog.tabulate state).defines lead =
      (catalog.capabilities.filter fun c => (state c).enabled).mapM fun c =>
        Snapshot.define lead c.name (state c) := by
  simp [tabulate, Snapshot.defines, List.filter_map, Function.comp_def]

theorem tabulate_congr {state' : Capability → State}
    (h : ∀ c ∈ catalog.capabilities, state c = state' c) :
    catalog.tabulate state = catalog.tabulate state' := by
  rw [tabulate, tabulate]
  congr 1
  apply List.map_congr_left
  intro c hc
  rw [h c hc]

/-- An entry that fits has nothing to be quoted. -/
theorem legible_of_fits {e : Entry}
    (h : ∃ c ∈ catalog.capabilities, e.name = .text c.name ∧ c.Fits e.assigned) :
    catalog.Legible e := by
  obtain ⟨c, hc, hname, state, htakes⟩ := h
  exact judge_ok_iff.1 ⟨_, judge_of_takes (named?_eq_some_iff.2 ⟨hc, hname⟩) htakes⟩

/-- Every normal form is a table, of numbers for the parameters and of none for the rest. -/
theorem exists_tabulate_of_normalize (h : catalog.normalize selection = .ok (s, problems)) :
    ∃ state : Capability → State, s = catalog.tabulate state ∧
      ∀ c ∈ catalog.capabilities, (c.kind = .parameter → ∃ n, (state c).value = some n) ∧
        (c.kind ≠ .parameter → (state c).value = none) := by
  obtain ⟨i, _, hs, _⟩ := normalize_ok h
  have htable : s = catalog.tabulate fun c => (i.state? c.name).getD c.defaultState := hs
  refine ⟨_, htable, ?_⟩
  intro c hc
  obtain ⟨state, hget, hvalue⟩ := value_normalize h hc
  rw [htable, get?_tabulate_self hc, Option.some.injEq] at hget
  rw [hget]
  exact hvalue

theorem nodup_names_assign (catalog : Catalog) (assigned : Capability → Value) :
    ((catalog.assign assigned).map (·.name)).Nodup := by
  have hnames : (catalog.assign assigned).map (·.name) = catalog.identifiers.map .text := by
    simp [assign, identifiers]
  rw [hnames]
  exact nodup_map_text catalog.identifiers_nodup

/-- Any order of one fitting value for each capability comes to the states that the values stand for. -/
theorem normalize_of_perm (hperm : selection.Perm (catalog.assign assigned))
    (htakes : ∀ c ∈ catalog.capabilities, c.Takes (assigned c) (state c)) :
    catalog.normalize selection = .ok (catalog.tabulate state, []) := by
  have hmem : ∀ e ∈ selection, ∃ c ∈ catalog.capabilities, e = ⟨.text c.name, assigned c⟩ := by
    intro e he
    obtain ⟨c, hc, rfl⟩ := List.mem_map.1 (hperm.mem_iff.1 he)
    exact ⟨c, hc, rfl⟩
  have hfits : ∀ e ∈ selection, ∃ c ∈ catalog.capabilities,
      e.name = .text c.name ∧ c.Fits e.assigned := by
    intro e he
    obtain ⟨c, hc, rfl⟩ := hmem e he
    exact ⟨c, hc, rfl, state c, htakes c hc⟩
  obtain ⟨⟨s, problems⟩, h⟩ := normalize_ok_iff.2 fun e he => legible_of_fits (hfits e he)
  have hproblems : problems = [] := (complaints_normalize h).eq_nil_iff.2 hfits
  obtain ⟨state', hs, _⟩ := exists_tabulate_of_normalize h
  rw [h, hproblems, hs]
  congr 2
  apply tabulate_congr
  intro c hc
  have hlast : IsLast selection c.name ⟨.text c.name, assigned c⟩ := by
    apply isLast_of_nodup _ (hperm.mem_iff.2 (List.mem_map.2 ⟨c, hc, rfl⟩)) rfl
    exact (hperm.map _).nodup_iff.2 (nodup_names_assign catalog assigned)
  have hget := get?_normalize_of_takes h hc hlast (htakes c hc)
  rw [hs, get?_tabulate_self hc, Option.some.injEq] at hget
  exact hget

end Catalog
end FeatureCert
