import FeatureCert.Log.Setup
import FeatureCert.Proofs.Outcomes
import Mathlib.Data.List.Induction
import Mathlib.Data.List.Nodup

/-!
The handlers of the log over a run. However often the log is configured, it has one handler that goes by the
name of the program's, made by the last configuring; whatever else is added in between stays, in order.
-/
namespace FeatureCert.Log

theorem eraseDups_concat [DecidableEq α] (items : List α) (a : α) :
    (items ++ [a]).eraseDups = if a ∈ items then items.eraseDups else items.eraseDups ++ [a] := by
  rw [List.eraseDups_append, List.cons_removeAll, List.nil_removeAll]
  by_cases h : a ∈ items
  · simp [h]
  · simp [h, List.eraseDups_cons]

theorem LineForm.ofFormat_eq (format : String) :
    LineForm.ofFormat format = if format = "json" then .json else .plain := by
  rw [ofFormat]
  by_cases h : format = "json" <;> simp [h]

namespace Setup

variable {acts before later : List Act} {act : Act} {h : Handler} {s t : Setup} {level format : String}

/-- The handlers that acts add, in order. -/
def attached (acts : List Act) : List Handler :=
  acts.filterMap fun act =>
    match act with
    | .configure .. => none
    | .attach h => some h

@[simp] theorem attached_nil : attached [] = [] := rfl

@[simp] theorem attached_configure (level format : String) (acts : List Act) :
    attached (.configure level format :: acts) = attached acts := rfl

@[simp] theorem attached_attach (h : Handler) (acts : List Act) :
    attached (.attach h :: acts) = h :: attached acts := rfl

@[simp] theorem attached_append (before later : List Act) :
    attached (before ++ later) = attached before ++ attached later :=
  List.filterMap_append

theorem mem_attached : h ∈ attached acts ↔ .attach h ∈ acts := by
  induction acts with
  | nil => simp
  | cons act rest ih => cases act <;> simp [ih]

/-- The walk over the old list reaches every handler, though the list shrinks under way: what is in front of
its place is what stays. -/
theorem foldl_detach {front rest : List Handler} (hs : s.handlers = front ++ rest)
    (hfront : ∀ h ∈ front, h.isNamedOwn = false) :
    rest.foldl (fun s h => if h.isNamedOwn then s.detach h else s) s =
      { s with handlers := front ++ rest.filter (!·.isNamedOwn) } := by
  induction rest generalizing s front with
  | nil => simp [← hs]
  | cons h rest ih =>
    rw [List.foldl_cons]
    cases hown : h.isNamedOwn with
    | false =>
      have hnext : ∀ k ∈ front ++ [h], k.isNamedOwn = false := by
        rw [List.forall_mem_append, List.forall_mem_singleton]
        exact ⟨hfront, hown⟩
      rw [if_neg Bool.false_ne_true, ih (by rw [hs, List.append_cons]) hnext,
        List.filter_cons_of_pos (by rw [hown]; rfl), ← List.append_cons]
    | true =>
      have hnew : h ∉ front := fun hmem => by simp [hfront h hmem] at hown
      have hdetach : (s.detach h).handlers = front ++ rest := by
        rw [detach, hs, List.erase_append_right _ hnew, List.erase_cons_head]
      rw [if_pos rfl, ih hdetach hfront, List.filter_cons_of_neg (by rw [hown]; decide)]
      rfl

theorem detachOwn_eq (s : Setup) :
    s.detachOwn = { s with handlers := s.handlers.filter (!·.isNamedOwn) } :=
  foldl_detach rfl (List.forall_mem_nil _)

/-- A configuring fails only by its level; else it takes away all own handlers and adds one at the end. -/
theorem configure_eq_ok_iff : s.configure level format = .ok t ↔
    LevelName.ofText level = .level t.level ∧
      t.handlers = s.handlers.filter (!·.isNamedOwn) ++ [.own (.ofFormat format)] := by
  have hnew : .own (.ofFormat format) ∉ s.handlers.filter (!·.isNamedOwn) := by
    simp [Handler.isNamedOwn, Handler.name?]
  unfold configure
  cases LevelName.ofText level with
  | text => simp
  | other => simp
  | level n =>
    simp only [detachOwn_eq, attach, if_neg hnew, Except.ok.injEq, LevelName.level.injEq]
    cases t
    simp [eq_comm]

theorem handlers_attach (s : Setup) (h : Handler) :
    (s.attach h).handlers = if h ∈ s.handlers then s.handlers else s.handlers ++ [h] := by
  unfold attach
  split <;> rfl

theorem lt_fresh {serial : Nat} {name : Option String} (h : .foreign serial name ∈ s.handlers) :
    serial < s.fresh := by
  have hbound : ∀ serials : List Nat, serial ∈ serials →
      serial < serials.foldr (fun n m => max (n + 1) m) 0 := by
    intro serials hmem
    induction serials with
    | nil => cases hmem
    | cons n rest ih =>
      rw [List.foldr_cons]
      rcases List.mem_cons.1 hmem with rfl | hrest
      · omega
      · have := ih hrest
        omega
  exact hbound _ (List.mem_filterMap.2 ⟨_, h, rfl⟩)

/-- A new handler is never taken for one that is there. -/
theorem handlers_addForeign (s : Setup) (name : Option String) :
    (s.addForeign name).handlers = s.handlers ++ [.foreign s.fresh name] := by
  rw [addForeign, handlers_attach, if_neg fun h => Nat.lt_irrefl _ (lt_fresh h)]

theorem level_attach (s : Setup) (h : Handler) : (s.attach h).level = s.level := by
  unfold attach
  split <;> rfl

theorem after_cons : s.after (act :: acts) = .ok t ↔
    ∃ u, s.perform act = .ok u ∧ u.after acts = .ok t := by
  rw [after, List.foldlM_cons, bind_eq_ok_iff]
  rfl

theorem after_append : s.after (before ++ later) = .ok t ↔
    ∃ u, s.after before = .ok u ∧ u.after later = .ok t := by
  rw [after, List.foldlM_append, bind_eq_ok_iff]
  rfl

/-- A run that goes on by one act goes on from where it stood. -/
theorem after_concat : s.after (acts ++ [act]) = .ok t ↔
    ∃ u, s.after acts = .ok u ∧ u.perform act = .ok t := by
  rw [after_append]
  refine exists_congr fun u => and_congr_right fun _ => after_cons.trans ?_
  constructor
  · rintro ⟨v, hv, hnil⟩
    cases hnil
    exact hv
  · exact fun h => ⟨t, h, rfl⟩

/-- What does not go by the program's name is there where it was added first, whatever was configured. -/
theorem others_after (hother : ∀ h ∈ attached acts, h.isNamedOwn = false)
    (h : after {} acts = .ok s) :
    s.handlers.filter (!·.isNamedOwn) = (attached acts).eraseDups := by
  induction acts using List.reverseRecOn generalizing s with
  | nil =>
    cases h
    rfl
  | append_singleton acts act ih =>
    obtain ⟨u, hu, hact⟩ := after_concat.1 h
    rw [attached_append, List.forall_mem_append] at hother
    have hkept := ih hother.1 hu
    cases act with
    | configure level format =>
      rw [(configure_eq_ok_iff.1 hact).2, List.filter_append, List.filter_filter]
      simpa [Handler.isNamedOwn, Handler.name?] using hkept
    | attach k =>
      cases hact
      have hk : k.isNamedOwn = false := hother.2 k List.mem_cons_self
      have hmem : k ∈ u.handlers ↔ k ∈ attached acts := by
        rw [← List.mem_eraseDups (l := attached acts), ← hkept, List.mem_filter, hk]
        simp
      rw [attached_append, attached_attach, attached_nil, eraseDups_concat, handlers_attach,
        ← hkept]
      by_cases hin : k ∈ u.handlers
      · rw [if_pos hin, if_pos (hmem.1 hin)]
      · rw [if_neg hin, if_neg (mt hmem.2 hin), List.filter_append,
          List.filter_cons_of_pos (by rw [hk]; rfl), List.filter_nil]

/-- No act makes a handler stand twice: an own one is new, and another is added only where it is missing. -/
theorem nodup_perform (hs : s.handlers.Nodup) (h : s.perform act = .ok t) : t.handlers.Nodup := by
  cases act with
  | configure level format =>
    rw [(configure_eq_ok_iff.1 h).2]
    refine (hs.filter _).append (List.nodup_singleton _) ?_
    simp [Handler.isNamedOwn, Handler.name?]
  | attach k =>
    cases h
    rw [handlers_attach]
    split
    · exact hs
    · next hnew => exact hs.append (List.nodup_singleton _) (by simpa using hnew)

/-- No handler ever stands twice in a log that began empty. -/
theorem nodup_after (h : after {} acts = .ok s) : s.handlers.Nodup := by
  induction acts using List.reverseRecOn generalizing s with
  | nil =>
    cases h
    exact List.nodup_nil
  | append_singleton acts act ih =>
    obtain ⟨u, hu, hact⟩ := after_concat.1 h
    exact nodup_perform (ih hu) hact

/-- Adding handlers leaves the level, and what was there in front. -/
theorem after_attaching (hlater : ∀ act ∈ later, ∃ h, act = .attach h) (h : s.after later = .ok t) :
    t.level = s.level ∧ ∃ rest, t.handlers = s.handlers ++ rest ∧ ∀ h ∈ rest, h ∈ attached later := by
  induction later using List.reverseRecOn generalizing t with
  | nil =>
    cases h
    exact ⟨rfl, [], by simp⟩
  | append_singleton later act ih =>
    obtain ⟨u, hu, hact⟩ := after_concat.1 h
    rw [List.forall_mem_append, List.forall_mem_singleton] at hlater
    obtain ⟨hlevel, rest, hrest, hmem⟩ := ih hlater.1 hu
    obtain ⟨k, rfl⟩ := hlater.2
    cases hact
    rw [level_attach, handlers_attach, hlevel, hrest, attached_append]
    refine ⟨rfl, ?_⟩
    have hleft : ∀ h ∈ rest, h ∈ attached later ++ attached [.attach k] :=
      fun h hh => List.mem_append_left _ (hmem h hh)
    split
    · exact ⟨rest, rfl, hleft⟩
    · refine ⟨rest ++ [k], List.append_assoc .., ?_⟩
      rw [List.forall_mem_append, List.forall_mem_singleton]
      exact ⟨hleft, by simp⟩

theorem exists_last_configure (h : .configure level format ∈ acts) :
    ∃ before level format later, acts = before ++ .configure level format :: later ∧
      ∀ act ∈ later, ∃ h, act = .attach h := by
  induction acts using List.reverseRecOn with
  | nil => cases h
  | append_singleton acts act ih =>
    cases act with
    | configure level format => exact ⟨acts, level, format, [], rfl, List.forall_mem_nil _⟩
    | attach k =>
      obtain ⟨before, level, format, later, rfl, hlater⟩ := ih (by simpa using h)
      refine ⟨before, level, format, later ++ [.attach k], by simp, ?_⟩
      rw [List.forall_mem_append, List.forall_mem_singleton]
      exact ⟨hlater, k, rfl⟩

/-- The one handler that goes by the program's name takes every record of the program's that is grave enough,
whatever other handlers there are. -/
theorem written_of_own {form : LineForm} {timestamp : String} {r : Record}
    (hform : s.handlers.filter (·.isNamedOwn) = [.own form]) (hown : isOwn r.logger = true)
    (hpositive : 0 < r.level) (hgrave : s.threshold r.logger ≤ r.level) :
    s.written timestamp r = line form timestamp r ++ "\n" := by
  have hhandlers : s.handlersOf r.logger = s.handlers := if_pos hown
  have hforms : s.formsOf r.logger = [form] := by
    have hnamed {form? : Handler → Option LineForm} (hnone : ∀ h, ¬ h.isNamedOwn = true → form? h = none) :
        s.handlers.filterMap form? = (s.handlers.filter (·.isNamedOwn)).filterMap form? := by
      rw [List.filterMap_filter]
      refine List.filterMap_congr fun h _ => ?_
      by_cases hown : h.isNamedOwn = true <;> simp [hown, hnone]
    rw [formsOf, hhandlers, hnamed, hform]
    · rfl
    · intro h hforeign
      cases h with
      | own form => exact absurd rfl hforeign
      | foreign serial name => rfl
  have hsome : (s.handlersOf r.logger).isEmpty = false := by
    rw [hhandlers, List.isEmpty_eq_false_iff]
    intro hnil
    rw [hnil] at hform
    cases hform
  have hhears : s.hears r.logger r.level = true := by
    simp [hears, hsome, hforms, hpositive, hgrave]
  simp [written, hhears, hsome, hforms]

/-- A setup whose last configuring came behind some acts and in front of others. -/
structure Arranged (before later : List Act) (level format : String) (s : Setup) : Prop where
  /-- One handler goes by the program's name. It writes JSON lines where the format asked for last is `json`,
  and plain lines where it is any other text. -/
  own : s.handlers.filter (·.isNamedOwn) = [.own (if format = "json" then .json else .plain)]
  /-- Each record of the program's from the level on makes one line, in that form. -/
  writes : ∀ timestamp r, isOwn r.logger = true → 0 < r.level → s.threshold r.logger ≤ r.level →
    s.written timestamp r = (if format = "json" then r.jsonLine timestamp none else r.plainLine) ++ "\n"
  /-- It stands behind all that were added before, and what stands behind it was added since. -/
  place : ∃ rest, s.handlers =
      (attached before).eraseDups ++ .own (if format = "json" then .json else .plain) :: rest ∧
    ∀ h ∈ rest, h ∈ attached later
  /-- All others are there, in the order in which they were added first. -/
  others : s.handlers.filter (!·.isNamedOwn) = (attached (before ++ later)).eraseDups
  once : s.handlers.Nodup
  level : LevelName.ofText level = .level s.level

/-- Every run that configures the log leaves it arranged by the last configuring, as long as what it adds
goes by other names than the program's handler. -/
theorem arranged_of_run (hother : ∀ h, .attach h ∈ acts → h.name? ≠ some Handler.ownName)
    (hconfigured : ∃ level format, .configure level format ∈ acts) (h : after {} acts = .ok s) :
    ∃ before level format later, acts = before ++ .configure level format :: later ∧
      (∀ act ∈ later, ∃ h, act = .attach h) ∧ Arranged before later level format s := by
  obtain ⟨_, _, hmem⟩ := hconfigured
  obtain ⟨before, level, format, later, rfl, hlater⟩ := exists_last_configure hmem
  refine ⟨before, level, format, later, rfl, hlater, ?_⟩
  have hnamed : ∀ h ∈ attached (before ++ .configure level format :: later), h.isNamedOwn = false :=
    fun h hh => beq_eq_false_iff_ne.2 (hother h (mem_attached.1 hh))
  have hothers := others_after hnamed h
  rw [attached_append, attached_configure] at hnamed hothers
  rw [List.forall_mem_append] at hnamed
  -- The run is cut at its last configuring, which lays the list out anew and has only additions behind it.
  obtain ⟨u, hu, hrest⟩ := after_append.1 h
  obtain ⟨v, hcall, hrest⟩ := after_cons.1 hrest
  obtain ⟨hlevel, hhandlers⟩ := configure_eq_ok_iff.1 hcall
  obtain ⟨hsame, rest, hs, hadded⟩ := after_attaching hlater hrest
  rw [hhandlers, others_after hnamed.1 hu, LineForm.ofFormat_eq, List.append_assoc] at hs
  have hown : s.handlers.filter (·.isNamedOwn) = [.own (if format = "json" then .json else .plain)] := by
    have hfront : (attached before).eraseDups.filter (·.isNamedOwn) = [] := by
      simpa [List.mem_eraseDups] using hnamed.1
    have hback : rest.filter (·.isNamedOwn) = [] := by
      simpa using fun k hk => hnamed.2 k (hadded k hk)
    rw [hs, List.filter_append, List.filter_append, hfront, hback]
    rfl
  constructor
  case own => exact hown
  case writes =>
    intro timestamp r hlogger hpositive hgrave
    rw [written_of_own hown hlogger hpositive hgrave, line.eq_def]
    by_cases hjson : format = "json" <;> simp [hjson]
  case place => exact ⟨rest, hs, hadded⟩
  case others => rwa [attached_append]
  case once => exact nodup_after h
  case level => rwa [hsame]

/-- Two handlers without a name and one with, around two configurings, one of them added twice. The log is left
with plain lines, and with JSON lines once it is configured a third time. -/
theorem arranged_of_reconfigured :
    let acts : List Act := [.attach (.foreign 0 none), .configure "info" "json",
      .attach (.foreign 1 (some "file")), .attach (.foreign 0 none), .configure "debug" "text",
      .attach (.foreign 2 none), .attach (.foreign 1 (some "file"))]
    let left : Setup := ⟨10, [.foreign 0 none, .foreign 1 (some "file"), .own .plain, .foreign 2 none]⟩
    let again : Setup := ⟨40, [.foreign 0 none, .foreign 1 (some "file"), .foreign 2 none, .own .json]⟩
    let ends (acts : List Act) (s : Setup) := ∃ before level format later,
      acts = before ++ .configure level format :: later ∧
        (∀ act ∈ later, ∃ h, act = .attach h) ∧ Arranged before later level format s
    after {} acts = .ok left ∧ ends acts left ∧
      after {} (acts ++ [.configure "error" "json"]) = .ok again ∧
      ends (acts ++ [.configure "error" "json"]) again ∧
      left.written "T" ⟨10, "cryptoconf.cli", "read"⟩ = "DEBUG cryptoconf.cli: read\n" := by
  refine ⟨rfl, ?_, rfl, ?_, by decide +kernel⟩
  · exact arranged_of_run (by simp [Handler.name?, Handler.ownName]) ⟨"info", "json", by simp⟩ rfl
  · exact arranged_of_run (by simp [Handler.name?, Handler.ownName]) ⟨"info", "json", by simp⟩ rfl

end Setup
end FeatureCert.Log
