import FeatureCert.Proofs.Fitting
import FeatureCert.Proofs.Outcomes
import FeatureCert.Tables

/-!
The intake of a selection. What it leaves under a name is decided by the last entry that carries the name,
whatever stood there before: an entry that fits overwrites, and one that does not erases. Its problems are
one for each entry that names nothing or does not fit, in the order of the entries.
-/
namespace FeatureCert

open FeatureCert.Numeral

theorem Selection.lookup_put (entries : List (String × α)) (own name : String) (item : α) :
    (put entries own item).lookup name = if name = own then some item else entries.lookup name := by
  induction entries with
  | nil => rw [put_nil, lookup_cons_pair]
  | cons entry rest ih =>
    cases entry with
    | mk first old =>
      by_cases hf : first = own
      · subst hf
        by_cases h : name = first <;> simp [put, lookup_cons_pair, h]
      · by_cases h : name = first
        · subst h
          simp [put, hf]
        · simp [put, lookup_cons_pair, hf, h, ih]

theorem lookup_filter_ne (entries : List (String × α)) (own name : String) :
    (entries.filter (·.1 != own)).lookup name =
      if name = own then none else entries.lookup name := by
  induction entries with
  | nil => simp
  | cons entry rest ih =>
    cases entry with
    | mk first old =>
      by_cases hf : first = own
      · subst hf
        rw [List.filter_cons_of_neg (by simp), ih, lookup_cons_pair]
        by_cases h : name = first <;> simp [h]
      · rw [List.filter_cons_of_pos (by simpa using hf), lookup_cons_pair, lookup_cons_pair, ih]
        by_cases h : name = first
        · subst h
          simp [hf]
        · simp [h]

/-- The last entry of a selection under a name. -/
def IsLast (selection : List Entry) (name : String) (e : Entry) : Prop :=
  ∃ before after, selection = before ++ e :: after ∧ e.name = .text name ∧
    ∀ x ∈ after, x.name ≠ .text name

theorem IsLast.mem {selection : List Entry} {name : String} {e : Entry}
    (h : IsLast selection name e) : e ∈ selection := by
  obtain ⟨before, after, rfl, _⟩ := h
  simp

/-- A name that a selection mentions at all has a last entry. -/
theorem exists_isLast {selection : List Entry} {name : String}
    (h : ∃ e ∈ selection, e.name = .text name) : ∃ e, IsLast selection name e := by
  induction selection with
  | nil => simp at h
  | cons first rest ih =>
    by_cases hrest : ∃ e ∈ rest, e.name = .text name
    · obtain ⟨e, before, after, he, hname, hafter⟩ := ih hrest
      exact ⟨e, first :: before, after, by rw [he]; rfl, hname, hafter⟩
    · obtain ⟨e, he, hname⟩ := h
      rcases List.mem_cons.1 he with rfl | he
      · exact ⟨e, [], rest, rfl, hname, fun x hx hn => hrest ⟨x, hx, hn⟩⟩
      · exact absurd ⟨e, he, hname⟩ hrest

/-- Violations of a selection's own entries: one for each entry that names no capability or does not fit
the one that it names, in order. -/
inductive Complaints (catalog : Catalog) : List Entry → List Violation → Prop where
  | nil : Complaints catalog [] []
  | fit {e : Entry} {c : Capability} (hc : c ∈ catalog.capabilities)
      (hname : e.name = .text c.name) (hfit : c.Fits e.assigned)
      (rest : Complaints catalog es vs) : Complaints catalog (e :: es) vs
  | unknown {e : Entry} {text : String} (hname : ∀ c ∈ catalog.capabilities, e.name ≠ .text c.name)
      (htext : e.name.display = .ok text) (rest : Complaints catalog es vs) :
      Complaints catalog (e :: es) (⟨text, .unknownCapability⟩ :: vs)
  | unfit {e : Entry} {c : Capability} {text : String} (hc : c ∈ catalog.capabilities)
      (hname : e.name = .text c.name) (hfit : ¬ c.Fits e.assigned)
      (htext : e.assigned.inspect = .ok text) (rest : Complaints catalog es vs) :
      Complaints catalog (e :: es) (⟨c.name, .invalidValue text c.expected⟩ :: vs)

namespace Intake

variable (i : Intake) (name : String)

@[simp] theorem state?_add_unknown (subject : String) :
    (i.add (.unknown subject)).state? name = i.state? name := rfl

@[simp] theorem state?_add_unfit (own value expected : String) :
    (i.add (.unfit own value expected)).state? name =
      if name = own then none else i.state? name :=
  lookup_filter_ne i.settled own name

@[simp] theorem state?_add_settled (own : String) (state : State) :
    (i.add (.settled own state)).state? name =
      if name = own then some state else i.state? name :=
  Selection.lookup_put i.settled own name state

end Intake

namespace Catalog

variable {catalog : Catalog} {selection : List Entry} {c : Capability} {e : Entry} {i j : Intake}

/-- A run over a selection is a step for its first entry and a run over the rest. -/
theorem takeIn_cons_ok {rest : List Entry} (h : catalog.takeIn i (e :: rest) = .ok j) :
    ∃ judgement, Judged catalog e judgement ∧ catalog.takeIn (i.add judgement) rest = .ok j := by
  obtain ⟨judgement, hj, hrun⟩ := bind_eq_ok_iff.1 h
  exact ⟨judgement, judged_of_judge hj, hrun⟩

/-- Entries are taken in one after the other, the later ones from where the earlier ones left. -/
theorem takeIn_append_ok {before after : List Entry}
    (h : catalog.takeIn i (before ++ after) = .ok j) :
    ∃ k, catalog.takeIn i before = .ok k ∧ catalog.takeIn k after = .ok j := by
  induction before generalizing i with
  | nil => exact ⟨i, rfl, h⟩
  | cons e rest ih =>
    obtain ⟨judgement, hj, h⟩ := bind_eq_ok_iff.1 h
    obtain ⟨k, hk, hrun⟩ := ih h
    exact ⟨k, bind_eq_ok_iff.2 ⟨judgement, hj, hk⟩, hrun⟩

/-- An entry decides its own name, whatever was settled before. -/
theorem state?_add_of_name (hc : c ∈ catalog.capabilities) (hname : e.name = .text c.name)
    {judgement : Judgement} (h : Judged catalog e judgement) :
    (i.add judgement).state? c.name = c.accept e.assigned := by
  cases h with
  | unknown hnone _ => exact absurd hname (hnone c hc)
  | unfit hd hdname hfit _ =>
    cases eq_of_text_eq hc hd hname hdname
    simp [Capability.accept_eq_none_iff.2 hfit]
  | settled hd hdname htakes =>
    cases eq_of_text_eq hc hd hname hdname
    simp [Capability.accept_eq_some_iff.2 htakes]

/-- An entry leaves every other name alone. -/
theorem state?_add_of_ne {name : String} (hname : e.name ≠ .text name) {judgement : Judgement}
    (h : Judged catalog e judgement) : (i.add judgement).state? name = i.state? name := by
  cases h with
  | unknown _ _ => rfl
  | @unfit d text hd hdname _ _ =>
    have hne : name ≠ d.name := fun he => hname (by rw [hdname, he])
    simp [hne]
  | @settled d state hd hdname _ =>
    have hne : name ≠ d.name := fun he => hname (by rw [hdname, he])
    simp [hne]

/-- Entries of other names leave a state alone. -/
theorem state?_takeIn_of_forall_ne {name : String} (h : catalog.takeIn i selection = .ok j)
    (hname : ∀ e ∈ selection, e.name ≠ .text name) : j.state? name = i.state? name := by
  induction selection generalizing i with
  | nil =>
    cases h
    rfl
  | cons e rest ih =>
    obtain ⟨judgement, hjudged, hrun⟩ := takeIn_cons_ok h
    rw [ih hrun (fun x hx => hname x (List.mem_cons_of_mem _ hx)),
      state?_add_of_ne (hname e List.mem_cons_self) hjudged]

/-- The last entry under a name decides what a run leaves there. -/
theorem state?_takeIn_of_isLast (h : catalog.takeIn i selection = .ok j)
    (hc : c ∈ catalog.capabilities) (hlast : IsLast selection c.name e) :
    j.state? c.name = c.accept e.assigned := by
  obtain ⟨before, after, rfl, hname, hafter⟩ := hlast
  obtain ⟨k, _, hrun⟩ := takeIn_append_ok h
  obtain ⟨judgement, hjudged, hrest⟩ := takeIn_cons_ok hrun
  rw [state?_takeIn_of_forall_ne hrest hafter, state?_add_of_name hc hname hjudged]

/-- Problems are told in the order of entries, and an entry that fits adds none. -/
theorem problems_takeIn (h : catalog.takeIn i selection = .ok j) :
    ∃ vs, j.problems = i.problems ++ vs ∧ Complaints catalog selection vs := by
  induction selection generalizing i with
  | nil =>
    cases h
    exact ⟨[], by simp, .nil⟩
  | cons e rest ih =>
    obtain ⟨judgement, hjudged, hrun⟩ := takeIn_cons_ok h
    obtain ⟨vs, hvs, hrest⟩ := ih hrun
    cases hjudged with
    | unknown hname htext =>
      exact ⟨_ :: vs, by simp [hvs, Intake.add], .unknown hname htext hrest⟩
    | unfit hc hname hfit htext =>
      exact ⟨_ :: vs, by simp [hvs, Intake.add], .unfit hc hname hfit htext hrest⟩
    | settled hc hname htakes =>
      exact ⟨vs, by simp [hvs, Intake.add], .fit hc hname ⟨_, htakes⟩ hrest⟩

end Catalog

/-- No complaint arises exactly where every entry names a capability that it fits. -/
theorem Complaints.eq_nil_iff {catalog : Catalog} {selection : List Entry} {vs : List Violation}
    (h : Complaints catalog selection vs) :
    vs = [] ↔
      ∀ e ∈ selection, ∃ c ∈ catalog.capabilities, e.name = .text c.name ∧ c.Fits e.assigned := by
  induction h with
  | nil => simp
  | fit hc hname hfit _ ih =>
    rw [ih, List.forall_mem_cons]
    exact ⟨fun hrest => ⟨⟨_, hc, hname, hfit⟩, hrest⟩, fun hall => hall.2⟩
  | unknown hname _ _ _ =>
    simp only [reduceCtorEq, false_iff]
    intro hall
    obtain ⟨c, hc, he, _⟩ := hall _ List.mem_cons_self
    exact hname c hc he
  | unfit hc hname hfit _ _ _ =>
    simp only [reduceCtorEq, false_iff]
    intro hall
    obtain ⟨d, hd, hdname, hdfit⟩ := hall _ List.mem_cons_self
    cases Catalog.eq_of_text_eq hc hd hname hdname
    exact hfit hdfit

/-- A capability has an invalid value among the complaints exactly where an entry under its name does not
fit. -/
theorem Complaints.invalidValue_iff {catalog : Catalog} {selection : List Entry} {vs : List Violation}
    (h : Complaints catalog selection vs) {c : Capability} (hc : c ∈ catalog.capabilities) :
    (∃ value expected, ⟨c.name, .invalidValue value expected⟩ ∈ vs) ↔
      ∃ e ∈ selection, e.name = .text c.name ∧ ¬ c.Fits e.assigned := by
  induction h with
  | nil => simp
  | @fit es vs e d hd hname hfit _ ih =>
    simp only [ih, List.mem_cons, exists_eq_or_imp]
    rw [or_iff_right]
    rintro ⟨hcname, hcfit⟩
    cases Catalog.eq_of_text_eq hc hd hcname hname
    exact hcfit hfit
  | @unknown es vs e text hname _ _ ih =>
    simp only [List.mem_cons, exists_eq_or_imp]
    rw [or_iff_right fun hown => hname c hc hown.1, ← ih]
    simp
  | @unfit es vs e d text hd hname hfit _ _ ih =>
    by_cases hdc : d = c
    · subst hdc
      exact iff_of_true ⟨text, d.expected, List.mem_cons_self⟩ ⟨e, List.mem_cons_self, hname, hfit⟩
    · have hne : c.name ≠ d.name := fun he => hdc (Catalog.eq_of_name_eq hd hc he.symm)
      simp only [List.mem_cons, exists_eq_or_imp]
      rw [or_iff_right fun hown => hdc (Catalog.eq_of_text_eq hd hc hname hown.1), ← ih]
      simp [hne]

end FeatureCert
