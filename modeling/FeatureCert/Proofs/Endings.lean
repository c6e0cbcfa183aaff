import FeatureCert.Command.CatalogFile
import FeatureCert.Proofs.Outcomes

/-!
How runs end. A part of a run that prints nothing comes to one result from every console, and what it yields
can be told apart from how it fails: never with the exit code of success.
-/
namespace FeatureCert.Command

open FeatureCert.Log FeatureCert.Text

namespace Run

variable {α β : Type} {x : Run α} {f : α → Run β} {r : Except Ending α} {s : Except Ending β}
  {P Q : α → Prop} {a : α} {e : Ending}

def outcome (x : Run α) (c : Console) : Except Ending α × Console := x.run c

/-- The second run goes on from the console that the first one leaves. -/
theorem outcome_bind (x : Run α) (f : α → Run β) (c : Console) :
    (x >>= f).outcome c =
      match x.outcome c with
      | (.ok a, c') => (f a).outcome c'
      | (.error e, c') => (.error e, c') := by
  change (match x.outcome c with | (a, c') => (ExceptT.bindCont f a).run c') = _
  cases x.outcome c with
  | mk result c' => cases result <;> rfl

/-- From every console the run comes to `r`, and prints nothing on the way. -/
def Comes (x : Run α) (r : Except Ending α) : Prop :=
  ∀ c, (x.outcome c).1 = r ∧ (x.outcome c).2.out = c.out

theorem comes_pure (a : α) : Comes (pure a) (.ok a) := fun _ => ⟨rfl, rfl⟩

theorem comes_throw (e : Ending) : Comes (α := α) (throw e) (.error e) := fun _ => ⟨rfl, rfl⟩

theorem comes_note (text : String) : Comes (note text) (.ok ()) := fun _ => ⟨rfl, rfl⟩

theorem Comes.outcome_eq (h : Comes x r) (c : Console) :
    ∃ c', x.outcome c = (r, c') ∧ c'.out = c.out :=
  ⟨(x.outcome c).2, Prod.ext (h c).1 rfl, (h c).2⟩

theorem Comes.bind_ok (hx : Comes x (.ok a)) (hf : Comes (f a) s) : Comes (x >>= f) s := by
  intro c
  obtain ⟨c', hc, hout⟩ := hx.outcome_eq c
  rw [outcome_bind, hc]
  exact ⟨(hf c').1, (hf c').2.trans hout⟩

theorem Comes.bind_error (hx : Comes x (.error e)) : Comes (x >>= f) (.error e) := by
  intro c
  obtain ⟨c', hc, hout⟩ := hx.outcome_eq c
  rw [outcome_bind, hc]
  exact ⟨rfl, hout⟩

theorem comes_exit (code : Nat) : Comes (α := α) (exit code) (.error (.exit code)) :=
  comes_throw _

theorem comes_reject (message : String) (code : Nat) :
    Comes (α := α) (reject message code) (.error (.exit code)) :=
  (comes_note _).bind_ok (comes_exit code)

theorem comes_misuse (usage : Usage) (fault : UsageFault) :
    Comes (α := α) (misuse usage fault) (.error (.exit 2)) :=
  (comes_note _).bind_ok (comes_exit 2)

theorem comes_demand (y : Except Failure α) : Comes (demand y) (y.mapError .fault) := by
  cases y with
  | ok a => exact comes_pure a
  | error failure => exact comes_throw _

/-- The log goes where errors go. -/
theorem comes_logged (y : Traced Failure α) : Comes (logged y) (.ok y.result) :=
  fun _ => ⟨rfl, rfl⟩

theorem comes_forM {g : α → Run Unit} (h : ∀ a, Comes (g a) (.ok ())) (items : List α) :
    Comes (items.forM g) (.ok ()) := by
  induction items with
  | nil => exact comes_pure ()
  | cons a rest ih => exact (h a).bind_ok ih

theorem comes_expect (y : Traced Failure α) : Comes (expect y) (y.result.mapError .fault) :=
  (comes_logged y).bind_ok (comes_demand _)

/-- The run prints nothing, returns what has `P`, and ends without success where nothing has it. -/
def Yields (x : Run α) (P : α → Prop) : Prop :=
  ∃ r, Comes x r ∧ (∀ a, r = .ok a ↔ P a) ∧ r ≠ .error (.exit 0)

theorem Yields.congr (h : Yields x P) (hiff : ∀ a, P a ↔ Q a) : Yields x Q := by
  obtain ⟨r, hx, hr, hcode⟩ := h
  exact ⟨r, hx, fun a => (hr a).trans (hiff a), hcode⟩

theorem yields_pure (a : α) : Yields (pure a) (a = ·) :=
  ⟨_, comes_pure a, by simp, by simp⟩

theorem Comes.yields_error (h : Comes x (.error e)) (he : e ≠ .exit 0) :
    Yields x fun _ => False :=
  ⟨_, h, fun _ => iff_of_false (by simp) id, fun heq => he (Except.error.inj heq)⟩

/-- One part after the other yields what the second does of what the first does. -/
theorem Yields.bind {R : α → β → Prop} (hx : Yields x P) (hf : ∀ a, P a → Yields (f a) (R a)) :
    Yields (x >>= f) fun b => ∃ a, P a ∧ R a b := by
  obtain ⟨r, hcomes, hr, hcode⟩ := hx
  cases r with
  | error e =>
    refine ⟨.error e, hcomes.bind_error, fun b => iff_of_false (by simp) ?_, ?_⟩
    · rintro ⟨a, ha, _⟩
      cases (hr a).2 ha
    · intro he
      cases he
      exact hcode rfl
  | ok a =>
    obtain ⟨s, hs, hiff, hcode'⟩ := hf a ((hr a).1 rfl)
    refine ⟨s, hcomes.bind_ok hs, fun b => (hiff b).trans ?_, hcode'⟩
    constructor
    · exact fun hb => ⟨a, (hr a).1 rfl, hb⟩
    · rintro ⟨a', ha', hb⟩
      cases (hr a').2 ha'
      exact hb

theorem Yields.map {g : α → β} (hx : Yields x P) :
    Yields (do return g (← x)) fun b => ∃ a, P a ∧ g a = b :=
  hx.bind fun a _ => yields_pure (g a)

/-- A logged computation yields what is made of its results, if no failure of it is mended. -/
theorem Yields.logged_bind {y : Traced Failure α} {g : Except Failure α → Run β} {R : α → β → Prop}
    (hok : ∀ a, Yields (g (.ok a)) (R a)) (herror : ∀ e, Yields (g (.error e)) fun _ => False) :
    Yields (logged y >>= g) fun b => ∃ a, y.result = .ok a ∧ R a b := by
  have hlogged : Yields (logged y) (y.result = ·) := ⟨_, comes_logged y, by simp, by simp⟩
  refine (hlogged.bind (R := fun r b => ∃ a, r = .ok a ∧ R a b) ?_).congr (by simp)
  intro r _
  cases r with
  | ok a => exact (hok a).congr (by simp)
  | error e => exact (herror e).congr (by simp)

theorem mapError_fault_ne_exit (y : Except Failure α) (code : Nat) :
    y.mapError Ending.fault ≠ .error (.exit code) := by
  cases y <;> simp [Except.mapError]

theorem yields_demand (y : Except Failure α) : Yields (demand y) (y = .ok ·) :=
  ⟨_, comes_demand y, fun _ => mapError_eq_ok_iff, mapError_fault_ne_exit y 0⟩

theorem yields_expect (y : Traced Failure α) : Yields (expect y) (y.result = .ok ·) :=
  ⟨_, comes_expect y, fun _ => mapError_eq_ok_iff, mapError_fault_ne_exit y.result 0⟩

end Run

/-- What a catalog file that is loaded, or one that is not, comes to. -/
theorem comes_loadTables (context : Context) (option : Option Path) :
    (loadTables context option).Comes
      (match (buildTables context.files (option <|> context.settings.catalogPath?)).result with
      | .ok tables => .ok tables
      | .error e =>
        match brokenCatalog? e with
        | some _ => .error (.exit catalogCode)
        | none => .error (.fault e)) := by
  apply (Run.comes_logged _).bind_ok
  cases (buildTables context.files (option <|> context.settings.catalogPath?)).result with
  | ok tables => exact Run.comes_pure tables
  | error e =>
    cases h : brokenCatalog? e with
    | some text => simpa only [h] using Run.comes_reject _ _
    | none => simpa only [h] using Run.comes_throw _

end FeatureCert.Command
