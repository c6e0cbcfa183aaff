import FeatureCert.Proofs.Sourced
import FeatureCert.Settings.Session
import Mathlib.Data.List.Induction

/-!
The settings in use over a session. Asked for without overrides, they are the very ones that the latest get
made, whatever was constructed and however the surroundings changed since; a reset or overrides have them
made anew from the surroundings of the moment, and an action that fails leaves the session as it was.
-/
namespace FeatureCert.Settings

variable {environment : Environment} {files : Files} {overrides : List (String × Value)} {made : Made}

namespace Holder

variable {h : Holder}

theorem make_eq (h : Holder) (environment : Environment) (files : Files)
    (overrides : List (String × Value)) :
    h.make environment files overrides = (ofFiles environment files overrides).map fun settings =>
      (⟨h.next, settings⟩, { h with next := h.next + 1 }) := by
  unfold make
  cases ofFiles environment files overrides <;> rfl

theorem get_of_current (hcurrent : h.current = some made) :
    h.get environment files [] = .ok (made, h) := by
  unfold get
  rw [hcurrent]
  rfl

/-- With overrides, or with nothing in use, settings are made and taken into use. -/
theorem get_of_building (hbuilding : overrides ≠ [] ∨ h.current = none) :
    h.get environment files overrides = (ofFiles environment files overrides).map fun settings =>
      (⟨h.next, settings⟩, ⟨h.next + 1, some ⟨h.next, settings⟩⟩) := by
  have hget : h.get environment files overrides =
      (h.make environment files overrides).map fun p => (p.1, { p.2 with current := some p.1 }) := by
    unfold get
    split
    · next hcurrent =>
      rw [hcurrent] at hbuilding
      simp at hbuilding
    · cases h.make environment files _ <;> rfl
  rw [hget, make_eq]
  cases ofFiles environment files overrides <;> rfl

end Holder

namespace Session

/-- An action with what it came to. -/
structure Step where
  action : Action
  result : Except Failure (Option Made)

def Step.Gives (step : Step) (made : Made) : Prop := step.result = .ok (some made)

theorem after_append (s : Session) (before later : List Action) :
    s.after (before ++ later) = (s.after before).after later :=
  List.foldl_append

theorem after_concat (s : Session) (actions : List Action) (action : Action) :
    s.after (actions ++ [action]) = ((s.after actions).perform action).session :=
  after_append s actions [action]

def trace (s : Session) : List Action → List Step
  | [] => []
  | action :: rest => ⟨action, (s.perform action).result⟩ :: (s.perform action).session.trace rest

/-- A get that builds: it gives settings that no earlier step gave. -/
structure Builds (earlier : List Step) (step : Step) (made : Made) : Prop where
  gets : ∃ overrides, step.action = .get overrides
  gives : step.Gives made
  new : ∀ past ∈ earlier, ∀ other, past.Gives other → other.serial ≠ made.serial

/-- The settings of the last get that built, with no reset since. -/
def IsLatest (steps : List Step) (made : Made) : Prop :=
  ∃ before step later, steps = before ++ step :: later ∧ Builds before step made ∧
    ∀ front next back, later = front ++ next :: back →
      next.action ≠ .reset ∧ ∀ other, ¬ Builds (before ++ step :: front) next other

variable {steps : List Step} {step : Step} {holder : Holder} {s start : Session} {action : Action}

theorem not_isLatest_nil (made : Made) : ¬ IsLatest [] made := by
  rintro ⟨before, step, later, h, _⟩
  simp at h

theorem IsLatest.gives (h : IsLatest steps made) : ∃ step ∈ steps, step.Gives made := by
  obtain ⟨before, step, later, rfl, hbuilds, _⟩ := h
  exact ⟨step, by simp, hbuilds.gives⟩

/-- One more step is the latest build itself, or leaves the latest one before it, unless it resets or
builds. -/
theorem isLatest_concat : IsLatest (steps ++ [step]) made ↔
    Builds steps step made ∨
      IsLatest steps made ∧ step.action ≠ .reset ∧ ∀ other, ¬ Builds steps step other := by
  constructor
  · rintro ⟨before, own, later, hsplit, hbuilds, hlater⟩
    obtain ⟨rfl, rfl, rfl⟩ | ⟨between, rfl, rfl⟩ := split_concat hsplit
    · exact .inl hbuilds
    · refine .inr ⟨⟨before, own, between, rfl, hbuilds, fun front next back hfront => ?_⟩,
        hlater between step [] rfl⟩
      exact hlater front next (back ++ [step]) (by simp [hfront])
  · rintro (hbuilds | ⟨⟨before, own, later, rfl, hbuilds, hlater⟩, hreset, hquiet⟩)
    · exact ⟨steps, step, [], rfl, hbuilds, by simp⟩
    · refine ⟨before, own, later ++ [step], by simp, hbuilds, fun front next back hsplit => ?_⟩
      obtain ⟨rfl, rfl, rfl⟩ | ⟨between, rfl, rfl⟩ := split_concat hsplit
      · exact ⟨hreset, hquiet⟩
      · exact hlater front next between rfl

/-- A holder that is as the steps so far tell. -/
structure Follows (holder : Holder) (steps : List Step) : Prop where
  current : ∀ made, holder.current = some made ↔ IsLatest steps made
  earlier : ∀ step ∈ steps, ∀ made, step.Gives made → made.serial < holder.next

namespace Follows

theorem nil : Follows {} [] where
  current made := iff_of_false nofun (not_isLatest_nil made)
  earlier _ h := by cases h

/-- Serials stay below the next one, so far as one more step keeps to it. -/
theorem earlier_concat {next : Nat} (h : Follows holder steps) (hnext : holder.next ≤ next)
    (hgives : ∀ made, step.Gives made → made.serial < next) :
    ∀ past ∈ steps ++ [step], ∀ made, past.Gives made → made.serial < next := by
  rw [List.forall_mem_append, List.forall_mem_singleton]
  exact ⟨fun past hpast made hgave => Nat.lt_of_lt_of_le (h.earlier past hpast made hgave) hnext, hgives⟩

/-- A step that is no reset and builds nothing leaves the settings in use. -/
theorem quiet {next : Nat} (h : Follows holder steps) (hreset : step.action ≠ .reset)
    (hbuilds : ∀ made, ¬ Builds steps step made) (hnext : holder.next ≤ next)
    (hgives : ∀ made, step.Gives made → made.serial < next) :
    Follows ⟨next, holder.current⟩ (steps ++ [step]) where
  current made := by
    rw [isLatest_concat, h.current]
    exact ⟨fun hlatest => .inr ⟨hlatest, hreset, hbuilds⟩,
      fun hor => (hor.resolve_left (hbuilds made)).1⟩
  earlier := h.earlier_concat hnext hgives

theorem failed {failure : Failure} (h : Follows holder steps) (hreset : action ≠ .reset) :
    Follows holder (steps ++ [⟨action, .error failure⟩]) :=
  h.quiet hreset (fun _ hbuilds => nomatch hbuilds.gives) (Nat.le_refl _) (fun _ => nofun)

/-- Settings in use are given again, which builds nothing. -/
theorem again (h : Follows holder steps) (hcurrent : holder.current = some made) :
    Follows holder (steps ++ [⟨.get [], .ok (some made)⟩]) := by
  obtain ⟨past, hpast, hgave⟩ := ((h.current made).1 hcurrent).gives
  refine h.quiet nofun ?_ (Nat.le_refl _) ?_
  · rintro other hbuilds
    cases hbuilds.gives
    exact hbuilds.new past hpast made hgave rfl
  · rintro other ⟨⟩
    exact h.earlier past hpast made hgave

/-- Settings that are made aside use up a serial and change nothing else. -/
theorem aside {settings : Settings} (h : Follows holder steps) :
    Follows { holder with next := holder.next + 1 }
      (steps ++ [⟨.make overrides, .ok (some ⟨holder.next, settings⟩)⟩]) := by
  refine h.quiet nofun ?_ (Nat.le_succ _) ?_
  · rintro other ⟨⟨_, ⟨⟩⟩, _, _⟩
  · rintro other ⟨⟩
    exact Nat.lt_succ_self _

/-- The next serial is one that no settings have, so that a get which makes some builds. -/
theorem built {settings : Settings} (h : Follows holder steps) :
    Follows ⟨holder.next + 1, some ⟨holder.next, settings⟩⟩
      (steps ++ [⟨.get overrides, .ok (some ⟨holder.next, settings⟩)⟩]) where
  current other := by
    have hbuilds : Builds steps ⟨.get overrides, .ok (some ⟨holder.next, settings⟩)⟩
        ⟨holder.next, settings⟩ :=
      ⟨⟨overrides, rfl⟩, rfl, fun past hpast old hold => Nat.ne_of_lt (h.earlier past hpast old hold)⟩
    rw [isLatest_concat, Option.some.injEq]
    constructor
    · rintro rfl
      exact .inl hbuilds
    · rintro (hother | ⟨_, _, hnone⟩)
      · cases hother.gives
        rfl
      · exact absurd hbuilds (hnone _)
  earlier := by
    refine h.earlier_concat (Nat.le_succ _) ?_
    rintro other ⟨⟩
    exact Nat.lt_succ_self _

theorem reset (h : Follows holder steps) :
    Follows holder.reset (steps ++ [⟨.reset, .ok none⟩]) where
  current other := by
    rw [isLatest_concat]
    refine iff_of_false nofun ?_
    rintro (hbuilds | ⟨_, hne, _⟩)
    · cases hbuilds.gives
    · exact hne rfl
  earlier := h.earlier_concat (Nat.le_refl _) (fun _ => nofun)

end Follows

/-- What an action does to the holder is what its step tells. -/
theorem follows_perform (h : Follows s.holder steps) (action : Action) :
    Follows (s.perform action).session.holder (steps ++ [⟨action, (s.perform action).result⟩]) := by
  cases action with
  | get overrides =>
    by_cases hbuilding : overrides ≠ [] ∨ s.holder.current = none
    · rw [perform, Holder.get_of_building hbuilding]
      cases ofFiles s.environment s.files overrides with
      | ok settings => exact h.built
      | error failure => exact h.failed nofun
    · rw [not_or, Decidable.not_not, ← ne_eq, Option.ne_none_iff_exists'] at hbuilding
      obtain ⟨rfl, made, hcurrent⟩ := hbuilding
      rw [perform, Holder.get_of_current hcurrent]
      exact h.again hcurrent
  | make overrides =>
    rw [perform, Holder.make_eq]
    cases ofFiles s.environment s.files overrides with
    | ok settings => exact h.aside
    | error failure => exact h.failed nofun
  | reset => exact h.reset
  | move environment files =>
    exact h.quiet nofun (fun _ hbuilds => nomatch hbuilds.gives) (Nat.le_refl _) (fun _ => nofun)

/-- The holder is at any time as the run so far tells. -/
theorem follows_after (h : Follows s.holder steps) (actions : List Action) :
    Follows (s.after actions).holder (steps ++ s.trace actions) := by
  induction actions generalizing s steps with
  | nil => simpa [after, trace] using h
  | cons action rest ih =>
    have hrest := ih (follows_perform h action)
    rwa [List.append_assoc] at hrest

theorem perform_get_of_current (hcurrent : s.holder.current = some made) :
    s.perform (.get []) = ⟨.ok (some made), s⟩ := by
  rw [perform, Holder.get_of_current hcurrent]
  rfl

/-- An action makes settings anew: those that the sources of the moment tell, under a number that none had
before; where they tell none it fails. -/
structure MakesAnew (s : Session) (steps : List Step) (action : Action) (overrides : List (String × Value)) :
    Prop where
  made : ∀ settings, MadeFrom s.environment s.files overrides settings →
    ∃ serial, (s.perform action).result = .ok (some ⟨serial, settings⟩) ∧
      ∀ step ∈ steps, ∀ earlier, step.Gives earlier → earlier.serial ≠ serial
  failed : (∀ settings, ¬ MadeFrom s.environment s.files overrides settings) →
    ∃ failure, (s.perform action).result = .error failure

/-- The next serial is one that no step gave, and the settings are those of the sources. -/
theorem makesAnew_of_result (h : Follows s.holder steps)
    (hresult : (s.perform action).result =
      (ofFiles s.environment s.files overrides).map fun settings => some ⟨s.holder.next, settings⟩) :
    MakesAnew s steps action overrides where
  made settings hmade := by
    rw [ofFiles_eq_ok_iff.2 hmade] at hresult
    exact ⟨_, hresult, fun step hstep earlier hgave => Nat.ne_of_lt (h.earlier step hstep earlier hgave)⟩
  failed hnone := by
    cases hfiles : ofFiles s.environment s.files overrides with
    | ok settings => exact absurd (ofFiles_eq_ok_iff.1 hfiles) (hnone settings)
    | error failure =>
      rw [hfiles] at hresult
      exact ⟨failure, hresult⟩

theorem makesAnew_get (h : Follows s.holder steps) (hbuilding : overrides ≠ [] ∨ s.holder.current = none) :
    MakesAnew s steps (.get overrides) overrides := by
  refine makesAnew_of_result h ?_
  rw [perform, Holder.get_of_building hbuilding]
  cases ofFiles s.environment s.files overrides <;> rfl

theorem makesAnew_make (h : Follows s.holder steps) (overrides : List (String × Value)) :
    MakesAnew s steps (.make overrides) overrides := by
  refine makesAnew_of_result h ?_
  rw [perform, Holder.make_eq]
  cases ofFiles s.environment s.files overrides <;> rfl

/-- Serials are counted in the holder, which a failure leaves, so that not even one of them is used up. -/
theorem session_of_error {failure : Failure} (h : (s.perform action).result = .error failure) :
    (s.perform action).session = s := by
  have hconclude : ∀ x, (s.conclude x).result = .error failure → (s.conclude x).session = s := by
    rintro (fault | ⟨made, holder⟩) hx
    · rfl
    · cases hx
  cases action with
  | get overrides => exact hconclude _ h
  | make overrides => exact hconclude _ h
  | reset => cases h
  | move environment files => cases h

/-- Whether an action makes settings that are not taken into use, or changes the surroundings. -/
def Action.isApart : Action → Bool
  | .make _ => true
  | .move .. => true
  | _ => false

theorem current_perform_of_isApart (h : action.isApart = true) :
    (s.perform action).session.holder.current = s.holder.current := by
  cases action with
  | get overrides => cases h
  | make overrides =>
    rw [perform, Holder.make_eq]
    cases ofFiles s.environment s.files overrides <;> rfl
  | reset => cases h
  | move environment files => rfl

/-- A run of such actions never touches the settings in use, by induction over the run. -/
theorem current_after_of_isApart {actions : List Action} (h : ∀ action ∈ actions, action.isApart = true) :
    (s.after actions).holder.current = s.holder.current := by
  induction actions generalizing s with
  | nil => rfl
  | cons action rest ih =>
    rw [List.forall_mem_cons] at h
    exact (ih h.2).trans (current_perform_of_isApart h.1)

def Action.surroundings? : Action → Option (Environment × Files)
  | .move environment files => some (environment, files)
  | _ => none

/-- What new settings are made from at any time is what was last changed to. -/
theorem surroundings_after (s : Session) (actions : List Action) :
    ((s.after actions).environment, (s.after actions).files) =
      (actions.filterMap (·.surroundings?)).getLastD (s.environment, s.files) := by
  have hconclude : ∀ (t : Session) (x : Except Failure (Made × Holder)),
      (t.conclude x).session.environment = t.environment ∧ (t.conclude x).session.files = t.files := by
    rintro t (failure | ⟨made, holder⟩) <;> exact ⟨rfl, rfl⟩
  induction actions using List.reverseRecOn with
  | nil => rfl
  | append_singleton actions action ih =>
    rw [after_concat, List.filterMap_append]
    cases action with
    | get overrides | make overrides =>
      rw [perform, (hconclude _ _).1, (hconclude _ _).2, ih]
      simp [Action.surroundings?]
    | reset => simpa [perform, Action.surroundings?] using ih
    | move environment files => simp [perform, Action.surroundings?]

/-- What a session holds in use when some actions are past, and what one more action does. -/
structure Holds (start : Session) (past : List Action) : Prop where
  /-- A get without overrides gives the very settings that the latest one built, and changes nothing. -/
  kept : ∀ made, IsLatest (start.trace past) made →
    (start.after past).perform (.get []) = ⟨.ok (some made), start.after past⟩
  /-- So it does when settings were made aside and the surroundings changed in between. -/
  apart : ∀ made, IsLatest (start.trace past) made → ∀ between : List Action,
    (∀ action ∈ between, action.isApart = true) →
      ((start.after (past ++ between)).perform (.get [])).result = .ok (some made)
  /-- With overrides, or with nothing built since the last reset, it makes new ones. -/
  built : ∀ overrides, (overrides ≠ [] ∨ ∀ made, ¬ IsLatest (start.trace past) made) →
    MakesAnew (start.after past) (start.trace past) (.get overrides) overrides
  constructed : ∀ overrides, MakesAnew (start.after past) (start.trace past) (.make overrides) overrides
  reset : ∀ between : List Action, (∀ action ∈ between, action.isApart = true) → ∀ overrides,
    MakesAnew (start.after (past ++ .reset :: between)) (start.trace (past ++ .reset :: between))
      (.get overrides) overrides
  /-- Whatever fails leaves the settings in use, and all else, as they were. -/
  failed : ∀ action failure, ((start.after past).perform action).result = .error failure →
    ((start.after past).perform action).session = start.after past
  surroundings : ((start.after past).environment, (start.after past).files) =
    (past.filterMap (·.surroundings?)).getLastD (start.environment, start.files)

theorem follows_run (environment : Environment) (files : Files) (actions : List Action) :
    Follows (after { environment, files } actions).holder (trace { environment, files } actions) := by
  have hstart : Follows (Session.mk {} environment files).holder [] := .nil
  simpa using follows_after hstart actions

/-- Every run of actions from a program's start on goes by the latest build. -/
theorem holds_of_run (environment : Environment) (files : Files) (past : List Action) :
    Holds { environment, files } past := by
  have hfollows := follows_run environment files
  constructor
  case kept => exact fun made hlatest => perform_get_of_current (((hfollows past).current made).2 hlatest)
  case apart =>
    intro made hlatest between hapart
    have hcurrent := ((hfollows past).current made).2 hlatest
    rw [← current_after_of_isApart hapart, ← after_append] at hcurrent
    rw [perform_get_of_current hcurrent]
  case built =>
    intro overrides hbuilding
    refine makesAnew_get (hfollows past) (hbuilding.imp_right fun hnone => ?_)
    exact Option.eq_none_iff_forall_ne_some.2 fun made hmade =>
      hnone made (((hfollows past).current made).1 hmade)
  case constructed => exact makesAnew_make (hfollows past)
  case reset =>
    intro between hapart overrides
    refine makesAnew_get (hfollows _) (.inr ?_)
    rw [List.append_cons, after_append, current_after_of_isApart hapart, after_concat]
    rfl
  case failed => exact fun _ _ => session_of_error
  case surroundings => exact surroundings_after _ past

/-- A session with variables in its environment and in a file. -/
def dotted : Session where
  environment := { bindings := [("CRYPTOCONF_LOG_LEVEL", "info"), ("HOME", "/h"), ("NAME", "c")] }
  files := { base := ["w"], entries := [(["w", ".env"],
    .file (Text.octetsOf "CRYPTOCONF_LOG_LEVEL=error\nCRYPTOCONF_CATALOG_FILE=~/$NAME.yaml\n"))] }

/-- Settings are made, then the environment is another one, and an override does not fit. -/
def unfitting : List Action :=
  [.get [], .move { bindings := [("cryptoconf_Log_level", "debug")] } { base := ["w"] },
    .get [("log_level", .text "loud")]]

/-- What the steps gave, where they did not fail. -/
def given (steps : List Step) : List (Option (Option Made)) := steps.map (·.result.toOption)

/-- The first settings stay in use until an override is one that fits, and a reset brings those of the new
environment. -/
theorem holds_of_unfitting :
    let first : Made := ⟨0, { verbosity := .info, catalogFile := some "/h/c.yaml" }⟩
    let second : Settings := { verbosity := .debug, logStyle := .json }
    let rest : List Action := [.get [], .get [("LOG_FORMAT", .text "json")], .get [], .reset, .get []]
    given (dotted.trace (unfitting ++ rest)) = [some (some first), some none, none, some (some first),
      some (some ⟨1, second⟩), some (some ⟨1, second⟩), some none,
      some (some ⟨2, { verbosity := .debug }⟩)] ∧
    IsLatest (dotted.trace unfitting) first ∧
    (dotted.after unfitting).perform (.get []) = ⟨.ok (some first), dotted.after unfitting⟩ ∧
    MadeFrom (dotted.after unfitting).environment (dotted.after unfitting).files
      [("LOG_FORMAT", .text "json")] second ∧
    ∃ serial, ((dotted.after unfitting).perform (.get [("LOG_FORMAT", .text "json")])).result =
      .ok (some ⟨serial, second⟩) ∧ serial ≠ first.serial := by
  intro first second rest
  have hholds := holds_of_run dotted.environment dotted.files unfitting
  have hlatest : IsLatest (dotted.trace unfitting) first := by
    have hcurrent : (dotted.after unfitting).holder.current = some first := by decide +kernel
    exact ((follows_run _ _ unfitting).current first).1 hcurrent
  have hmade : MadeFrom (dotted.after unfitting).environment (dotted.after unfitting).files
      [("LOG_FORMAT", .text "json")] second := by
    rw [← ofFiles_eq_ok_iff, ← toOption_eq_some_iff]
    decide +kernel
  obtain ⟨serial, hresult, hnew⟩ := (hholds.built _ (.inl (List.cons_ne_nil _ _))).made second hmade
  obtain ⟨step, hstep, hgave⟩ := hlatest.gives
  refine ⟨by decide +kernel, hlatest, hholds.kept first hlatest, hmade, serial, hresult, ?_⟩
  exact (hnew step hstep first hgave).symm

end Session
end FeatureCert.Settings
