import FeatureCert.Document.Library
import FeatureCert.Proofs.Outcomes
import FeatureCert.Proofs.Places
import FeatureCert.Proofs.Tables
import Mathlib.Data.List.DropRight
import Mathlib.Data.List.Induction

/-!
What a library keeps of the documents that it loads. A path gives the very document that its reader first
loaded from the same place after the reader's last clearing, whatever became of the file since; a path of no
such place gives what its file holds now. Nothing but a load that succeeds adds to a shelf, and no reader
touches the shelf of another.
-/
namespace FeatureCert

open FeatureCert.Log

theorem Files.base_makeParents (files : Files) (place : List String) :
    (files.makeParents place).base = files.base := by
  unfold makeParents
  induction (List.range place.length).map place.take generalizing files with
  | nil => rfl
  | cons above rest ih =>
    rw [List.foldl_cons, ih]
    split <;> rfl

namespace Document

namespace Shelf

variable {α : Type} {kind : Kind α} {files : Files} {shelf : Shelf α} {path : Path}

theorem result_load_of_fault {fault : PathFault}
    (h : Files.textFault? (Path.placeText (path.place files.base)) = some fault) :
    (load kind files shelf path).result = .error (.badPath fault) := by
  simp only [load, h]
  rfl

theorem result_load_of_kept {loaded : Loaded α}
    (h : Files.textFault? (Path.placeText (path.place files.base)) = none)
    (hkept : shelf.find? (Path.placeText (path.place files.base)) = some loaded) :
    (load kind files shelf path).result = .ok (loaded, shelf) := by
  simp only [load, h, hkept]
  rfl

/-- A place that the shelf has no document of is read from its file, once its text is a path. -/
theorem result_load_of_new (h : Files.textFault? (Path.placeText (path.place files.base)) = none)
    (hnew : shelf.find? (Path.placeText (path.place files.base)) = none) :
    (load kind files shelf path).result =
      (readFile kind files path).map (shelf.put (Path.placeText (path.place files.base))) := by
  simp only [load, h, hnew]
  cases readFile kind files path <;> rfl

/-- What a load comes to does not depend on the log, which it only writes. -/
theorem steady_load (kind : Kind α) (files : Files) (shelf : Shelf α) (path : Path) :
    (load kind files shelf path).Steady := by
  simp only [load]
  split
  · exact fun _ => rfl
  · split
    · exact (Traced.steady_write _ _ _).bind fun _ => Traced.steady_pure _
    · exact (Traced.steady_mapError _ _).bind fun _ =>
        (Traced.steady_write _ _ _).bind fun _ => Traced.steady_pure _

@[simp] theorem find?_empty (place : String) : ({} : Shelf α).find? place = none := rfl

@[simp] theorem find?_clear (shelf : Shelf α) (place : String) : shelf.clear.find? place = none := rfl

theorem find?_put (shelf : Shelf α) (place other : String) (document : α) :
    (shelf.put place document).2.find? other =
      if place = other then some ⟨shelf.next, document⟩ else shelf.find? other := by
  by_cases h : place = other <;> simp [put, find?, h]

end Shelf

/-- A path has a file whose text is a document. -/
structure Holds (kind : Kind α) (files : Files) (path : String) (document : α) : Prop where
  place : ∀ place, Path.Resolves files.base path place → Files.textFault? place = none
  text : ∃ octets text, files.seek (Path.ofText path).text = .ok (some (.file octets)) ∧
    Files.textOf (.file octets) = .ok text ∧ kind.parse (Path.ofText path).text text = .ok document

theorem Shelf.readFile_eq_ok_iff {kind : Kind α} {files : Files} {path : Path} {document : α} :
    Shelf.readFile kind files path = .ok document ↔
      ∃ octets text, files.seek path.text = .ok (some (.file octets)) ∧
        Files.textOf (.file octets) = .ok text ∧ kind.parse path.text text = .ok document := by
  unfold Shelf.readFile
  rcases files.seek path.text with fault | _ | _ | octets
  · simp
  · simp
  · exact iff_of_false nofun (by simp)
  · simp only [Except.ok.injEq, Option.some.injEq, FileEntry.file.injEq, exists_and_left,
      exists_eq_left']
    exact bind_eq_ok_iff.trans (exists_congr fun text => and_congr_left' mapError_eq_ok_iff)

theorem Shelf.readFile_of_text {kind : Kind α} {files : Files} {path : Path} {octets : List UInt8}
    {text : String} (hseek : files.seek path.text = .ok (some (.file octets)))
    (htext : Files.textOf (.file octets) = .ok text) :
    readFile kind files path = kind.parse path.text text := by
  rw [readFile, hseek]
  change (Files.textOf (.file octets)).mapError Failure.unreadable >>= _ = _
  rw [htext]
  rfl

theorem Holds.unique {kind : Kind α} {files : Files} {path : String} {document other : α}
    (h : Holds kind files path document) (hother : Holds kind files path other) : document = other := by
  have hread := Shelf.readFile_eq_ok_iff.2 h.text
  rw [Shelf.readFile_eq_ok_iff.2 hother.text, Except.ok.injEq] at hread
  exact hread.symm

/-- From an empty shelf a path gives what its file holds now. -/
theorem Holds.iff_load {kind : Kind α} {files : Files} {path : String} {document : α} :
    Holds kind files path document ↔ ∃ loaded shelf,
      (Shelf.load kind files {} (.ofText path)).result = .ok (loaded, shelf) ∧ loaded.document = document := by
  cases hplace : Files.textFault? (Path.placeText ((Path.ofText path).place files.base)) with
  | some fault =>
    rw [Shelf.result_load_of_fault hplace]
    refine iff_of_false (fun h => ?_) (by simp)
    exact absurd ((h.place _ (Path.resolves_iff.2 rfl)).symm.trans hplace) nofun
  | none =>
    rw [Shelf.result_load_of_new hplace (Shelf.find?_empty _)]
    constructor
    · intro h
      rw [Shelf.readFile_eq_ok_iff.2 h.text]
      exact ⟨_, _, rfl, rfl⟩
    · rintro ⟨loaded, shelf, hload, rfl⟩
      cases hread : Shelf.readFile kind files (.ofText path) with
      | error e => rw [hread] at hload; cases hload
      | ok document =>
        rw [hread] at hload
        cases hload
        exact ⟨fun _ h => Path.resolves_iff.1 h ▸ hplace, Shelf.readFile_eq_ok_iff.1 hread⟩

/-- What an action means to a shelf. -/
inductive Event (α : Type) where
  | cleared
  | loaded (place : String) (loaded : Loaded α)

namespace Event

def isCleared : Event α → Bool
  | .cleared => true
  | .loaded .. => false

/-- The document that was loaded from a place. -/
def from? (place : String) : Event α → Option (Loaded α)
  | .cleared => none
  | .loaded own found => if own = place then some found else none

end Event

/-- The document of the first load from a place after the last clearing. -/
def first? (place : String) (events : List (Event α)) : Option (Loaded α) :=
  (events.rtakeWhile fun e => !e.isCleared).findSome? (·.from? place)

section First

variable {place other : String} {events : List (Event α)} {loaded : Loaded α}

@[simp] theorem first?_nil : first? place ([] : List (Event α)) = none := rfl

theorem first?_cleared : first? place (events ++ [.cleared]) = none := by
  rw [first?, List.rtakeWhile_concat_neg _ _ _ (by simp [Event.isCleared])]
  rfl

theorem first?_loaded : first? place (events ++ [.loaded other loaded]) =
    (first? place events).or (if other = place then some loaded else none) := by
  rw [first?, List.rtakeWhile_concat_pos _ _ _ (by simp [Event.isCleared]), List.findSome?_append,
    first?]
  congr 1
  by_cases h : other = place <;> simp [Event.from?, h]

theorem mem_of_first? (h : first? place events = some loaded) : .loaded place loaded ∈ events := by
  obtain ⟨event, hmem, hfrom⟩ := List.exists_of_findSome?_eq_some h
  have hevent : event = .loaded place loaded := by
    cases event with
    | cleared => cases hfrom
    | loaded own found => simp_all [Event.from?]
  exact hevent ▸ (List.rtakeWhile_suffix _ _).mem hmem

end First

/-- A shelf that is as what happened to it tells. -/
structure Follows (shelf : Shelf α) (events : List (Event α)) : Prop where
  find? : ∀ place, shelf.find? place = first? place events
  plain : ∀ place loaded, .loaded place loaded ∈ events → Files.textFault? place = none
  earlier : ∀ place loaded, .loaded place loaded ∈ events → loaded.serial < shelf.next

namespace Follows

variable {shelf : Shelf α} {events : List (Event α)} {place : String}

theorem nil : Follows ({} : Shelf α) [] where
  find? _ := rfl
  plain _ _ h := by cases h
  earlier _ _ h := by cases h

theorem clear (h : Follows shelf events) : Follows shelf.clear (events ++ [.cleared]) where
  find? place := by rw [first?_cleared, Shelf.find?_clear]
  plain place loaded hmem := h.plain place loaded (by simpa using hmem)
  earlier place loaded hmem := h.earlier place loaded (by simpa using hmem)

/-- Loading from a place that the shelf has a document of changes nothing. -/
theorem again {loaded : Loaded α} (h : Follows shelf events) (hkept : shelf.find? place = some loaded) :
    Follows shelf (events ++ [.loaded place loaded]) := by
  have hmem := mem_of_first? ((h.find? place).symm.trans hkept)
  have hback : ∀ {own found}, .loaded own found ∈ events ++ [.loaded place loaded] →
      .loaded own found ∈ events := by
    intro own found hin
    rw [List.mem_append, List.mem_singleton] at hin
    rcases hin with hin | hin
    · exact hin
    · exact hin ▸ hmem
  refine ⟨fun other => ?_, fun _ _ hin => h.plain _ _ (hback hin),
    fun _ _ hin => h.earlier _ _ (hback hin)⟩
  rw [first?_loaded, ← h.find?]
  by_cases hother : place = other
  · subst hother
    rw [hkept, Option.some_or]
  · rw [if_neg hother, Option.or_none]

/-- The first document of a place stands under a serial that no load had before. -/
theorem put {document : α} (h : Follows shelf events) (hplace : Files.textFault? place = none)
    (hnew : shelf.find? place = none) :
    Follows (shelf.put place document).2 (events ++ [.loaded place ⟨shelf.next, document⟩]) where
  find? other := by
    rw [Shelf.find?_put, first?_loaded, ← h.find?]
    by_cases hother : place = other
    · subst hother
      rw [hnew, if_pos rfl, Option.none_or]
    · rw [if_neg hother, if_neg hother, Option.or_none]
  plain own found hin := by
    rw [List.mem_append, List.mem_singleton] at hin
    rcases hin with hin | hin
    · exact h.plain own found hin
    · cases hin
      exact hplace
  earlier own found hin := by
    rw [List.mem_append, List.mem_singleton] at hin
    rcases hin with hin | hin
    · exact Nat.lt_succ_of_lt (h.earlier own found hin)
    · cases hin
      exact Nat.lt_succ_self _

end Follows

namespace Library

variable {library start : Library} {reader other : Reader} {path place : String} {action : Action}

def resolved (library : Library) (path : String) : String :=
  Path.placeText ((Path.ofText path).place library.files.base)

def Action.loads? (reader : Reader) : Action → Option String
  | .load own path => if own = reader then some path else none
  | .build path => if reader = .catalogs then some path else none
  | _ => none

def Action.clears (reader : Reader) : Action → Bool
  | .clear own => own == reader
  | _ => false

/-- What an action means to the shelf of a reader: a load that succeeds, or a clearing. -/
def event? (library : Library) (reader : Reader) (action : Action) : Option (Event reader.Content) :=
  match action.loads? reader with
  | some path => (library.load reader path).result.toOption.map (.loaded (library.resolved path))
  | none => if action.clears reader then some .cleared else none

/-- What a run of actions meant to the shelf of a reader, in order. -/
def history (library : Library) (reader : Reader) : List Action → List (Event reader.Content)
  | [] => []
  | action :: rest =>
    (library.event? reader action).toList ++ (library.perform action).library.history reader rest

/-- A load leaves the shelf that it comes to, or the library as it is. -/
theorem load_eq (library : Library) (reader : Reader) (path : String) :
    let result := ((library.shelf reader).load reader.kind library.files (.ofText path)).result
    (library.load reader path).result = result.map Prod.fst ∧
      (library.load reader path).library =
        (result.toOption.map fun p => library.withShelf reader p.2).getD library := by
  unfold load Traced.result
  rcases ((library.shelf reader).load reader.kind library.files (.ofText path)).outcome with
    ⟨e | ⟨loaded, shelf⟩, records⟩ <;> exact ⟨rfl, rfl⟩

/-- A load gives what the shelf has, or what the file holds, which it puts on the shelf, or it fails. -/
theorem load_cases (library : Library) (reader : Reader) (path : String) :
    let outcome := library.load reader path
    let place := library.resolved path
    let shelf := library.shelf reader
    (∃ loaded, outcome.result = .ok loaded ∧ outcome.library = library ∧
      Files.textFault? place = none ∧ shelf.find? place = some loaded) ∨
    (∃ document, outcome.result = .ok ⟨shelf.next, document⟩ ∧
      outcome.library = library.withShelf reader (shelf.put place document).2 ∧
      shelf.find? place = none ∧ Holds reader.kind library.files path document) ∨
    ∃ e, outcome.result = .error e ∧ outcome.library = library ∧
      (Files.textFault? place = none → shelf.find? place = none) ∧
      ∀ document, ¬ Holds reader.kind library.files path document := by
  intro outcome place shelf
  obtain ⟨hresult, hlibrary⟩ := load_eq library reader path
  cases hplace : Files.textFault? place with
  | some fault =>
    rw [Shelf.result_load_of_fault hplace] at hresult hlibrary
    refine .inr (.inr ⟨_, hresult, hlibrary, nofun, fun document h => ?_⟩)
    exact absurd ((h.place _ (Path.resolves_iff.2 rfl)).symm.trans hplace) nofun
  | none =>
    cases hkept : shelf.find? place with
    | some loaded =>
      rw [Shelf.result_load_of_kept hplace hkept] at hresult hlibrary
      exact .inl ⟨loaded, hresult, hlibrary.trans (withShelf_shelf library reader), rfl, rfl⟩
    | none =>
      rw [Shelf.result_load_of_new hplace hkept] at hresult hlibrary
      cases hread : Shelf.readFile reader.kind library.files (.ofText path) with
      | ok document =>
        rw [hread] at hresult hlibrary
        refine .inr (.inl ⟨document, hresult, hlibrary, rfl, fun _ h => ?_, Shelf.readFile_eq_ok_iff.1 hread⟩)
        rw [← Path.resolves_iff.1 h]
        exact hplace
      | error e =>
        rw [hread] at hresult hlibrary
        refine .inr (.inr ⟨e, hresult, hlibrary, fun _ => rfl, fun document h => ?_⟩)
        rw [Shelf.readFile_eq_ok_iff.2 h.text] at hread
        cases hread

theorem shelf_load_of_ne (path : String) (h : other ≠ reader) :
    (library.load reader path).library.shelf other = library.shelf other := by
  rcases load_cases library reader path with
    ⟨_, _, hleft, _⟩ | ⟨_, _, hleft, _⟩ | ⟨_, _, hleft, _⟩ <;> rw [hleft]
  exact shelf_withShelf_of_ne _ h _

theorem files_load (library : Library) (reader : Reader) (path : String) :
    (library.load reader path).library.files = library.files := by
  rcases load_cases library reader path with
    ⟨_, _, hleft, _⟩ | ⟨_, _, hleft, _⟩ | ⟨_, _, hleft, _⟩ <;> rw [hleft]
  exact files_withShelf _ _ _

@[simp] theorem library_andThen (x : Outcome α) (f : α → Traced Failure β) :
    (x.andThen f).library = x.library := by
  unfold Outcome.andThen
  split <;> rfl

/-- The one effect that an action has on the shelf of a reader. -/
theorem shelf_perform (library : Library) (action : Action) (reader : Reader) :
    (library.perform action).library.shelf reader =
      match action.loads? reader with
      | some path => (library.load reader path).library.shelf reader
      | none => if action.clears reader then (library.shelf reader).clear else library.shelf reader := by
  cases action with
  | write path octets => cases reader <;> rfl
  | delete path => cases reader <;> rfl
  | parse own text => rfl
  | clear own =>
    by_cases h : own = reader
    · subst h
      simp [perform, Action.loads?, Action.clears]
    · simp [perform, Action.loads?, Action.clears, h, shelf_withShelf_of_ne library (Ne.symm h)]
  | load own path =>
    by_cases h : own = reader
    · subst h
      simp [perform, Action.loads?]
    · simp [perform, Action.loads?, Action.clears, h, shelf_load_of_ne path (Ne.symm h)]
  | build path =>
    by_cases h : reader = .catalogs
    · subst h
      simp [perform, Action.loads?]
    · simp [perform, Action.loads?, Action.clears, h, shelf_load_of_ne path h]

/-- What an action does to the shelf of a reader is what it means to it. -/
theorem follows_perform {events : List (Event reader.Content)}
    (h : Follows (library.shelf reader) events) (action : Action) :
    Follows ((library.perform action).library.shelf reader)
      (events ++ (library.event? reader action).toList) := by
  rw [shelf_perform, event?]
  cases action.loads? reader with
  | none =>
    cases action.clears reader with
    | true => exact h.clear
    | false => simpa using h
  | some path =>
    dsimp only
    rcases load_cases library reader path with ⟨loaded, hresult, hleft, _, hkept⟩ |
      ⟨document, hresult, hleft, hnew, hholds⟩ | ⟨e, hresult, hleft, _⟩ <;> rw [hresult, hleft]
    · exact h.again hkept
    · rw [shelf_withShelf]
      exact h.put (hholds.place _ (Path.resolves_iff.2 rfl)) hnew
    · simpa [Except.toOption] using h

/-- The shelf of a reader is at any time as the run so far tells. -/
theorem follows_after {events : List (Event reader.Content)}
    (h : Follows (library.shelf reader) events) (actions : List Action) :
    Follows ((library.after actions).shelf reader) (events ++ library.history reader actions) := by
  induction actions generalizing library events with
  | nil => simpa [after, history] using h
  | cons action rest ih =>
    have hrest := ih (follows_perform h action)
    rwa [List.append_assoc] at hrest

section Followed

variable {events : List (Event reader.Content)} {loaded : Loaded reader.Content}

/-- A place of the past gives its first document, as no place has one whose text is no path. -/
theorem result_load_of_first? (h : Follows (library.shelf reader) events)
    (hfirst : first? (library.resolved path) events = some loaded) :
    (library.load reader path).result = .ok loaded := by
  have hplain := h.plain _ _ (mem_of_first? hfirst)
  rw [← h.find?] at hfirst
  rcases load_cases library reader path with ⟨found, hresult, _, _, hkept⟩ | ⟨_, _, _, hnew, _⟩ |
    ⟨_, _, _, hkept, _⟩
  · rw [hfirst, Option.some.injEq] at hkept
    rw [hresult, hkept]
  · exact absurd (hfirst.symm.trans hnew) nofun
  · exact absurd (hfirst.symm.trans (hkept hplain)) nofun

/-- A place without a past gives what the file of the path holds, under a new serial. -/
theorem result_load_eq_ok_iff (h : Follows (library.shelf reader) events)
    (hfirst : first? (library.resolved path) events = none) :
    (library.load reader path).result = .ok loaded ↔
      loaded.serial = (library.shelf reader).next ∧
        Holds reader.kind library.files path loaded.document := by
  rw [← h.find?] at hfirst
  rcases load_cases library reader path with ⟨_, _, _, _, hkept⟩ | ⟨document, hresult, _, _, hholds⟩ |
    ⟨_, hresult, _, _, hnothing⟩
  · exact absurd (hfirst.symm.trans hkept) nofun
  · rw [hresult]
    constructor
    · rintro ⟨⟩
      exact ⟨rfl, hholds⟩
    · rintro ⟨hserial, hloaded⟩
      cases loaded
      cases hserial
      cases hholds.unique hloaded
      rfl
  · rw [hresult]
    exact iff_of_false nofun fun hloaded => hnothing _ hloaded.2

end Followed

/-- No action moves the working directory. -/
theorem base_perform (library : Library) (action : Action) :
    (library.perform action).library.files.base = library.files.base := by
  cases action with
  | write path octets => exact Files.base_makeParents _ _
  | delete path => rfl
  | clear reader => simp [perform]
  | load reader path => simp [perform, files_load]
  | parse reader text => rfl
  | build path => simp [perform, files_load]

/-- Paths resolve to the same places all through a run, as the working directory stays. -/
theorem resolved_after (library : Library) (actions : List Action) (path : String) :
    (library.after actions).resolved path = library.resolved path := by
  have hbase : (library.after actions).files.base = library.files.base := by
    induction actions generalizing library with
    | nil => rfl
    | cons action rest ih => exact (ih _).trans (base_perform library action)
  rw [resolved, resolved, hbase]

theorem result_perform_load (library : Library) (reader : Reader) (path : String) :
    (library.perform (.load reader path)).result =
      (library.load reader path).result.map (.loaded reader) := by
  rw [perform, Outcome.andThen]
  cases (library.load reader path).result <;> rfl

theorem result_perform_load_eq_ok_iff {loaded : Loaded reader.Content} :
    (library.perform (.load reader path)).result = .ok (.loaded reader loaded) ↔
      (library.load reader path).result = .ok loaded := by
  rw [result_perform_load]
  cases (library.load reader path).result <;> simp [Except.map]

def Action.reader? : Action → Option Reader
  | .write .. => none
  | .delete _ => none
  | .clear reader => some reader
  | .load reader _ => some reader
  | .parse reader _ => some reader
  | .build _ => some .catalogs

/-! ### Runs of actions -/

/-- An action behind a run is a load with a reader, it succeeds, and its path resolves to a place. -/
def LoadsFrom (start : Library) (reader : Reader) (place : String) (before : List Action) (action : Action)
    (loaded : Loaded reader.Content) : Prop :=
  ∃ path, action.loads? reader = some path ∧ Path.Resolves start.files.base path place ∧
    ((start.after before).load reader path).result = .ok loaded

/-- The document of the first load from a place in a run, since the reader's last clearing. -/
def IsFirst (start : Library) (reader : Reader) (place : String) (past : List Action)
    (loaded : Loaded reader.Content) : Prop :=
  ∃ before action later, past = before ++ action :: later ∧
    start.LoadsFrom reader place before action loaded ∧ (∀ act ∈ later, act.clears reader = false) ∧
    ∀ earlier other between found, before = earlier ++ other :: between →
      start.LoadsFrom reader place earlier other found → ∃ act ∈ between, act.clears reader = true

theorem after_concat (library : Library) (actions : List Action) (action : Action) :
    library.after (actions ++ [action]) = ((library.after actions).perform action).library :=
  List.foldl_append

/-- What one more action means is told from where the run stood. -/
theorem history_concat (library : Library) (reader : Reader) (actions : List Action) (action : Action) :
    library.history reader (actions ++ [action]) =
      library.history reader actions ++ ((library.after actions).event? reader action).toList := by
  induction actions generalizing library with
  | nil => simp [history, after]
  | cons first rest ih =>
    rw [List.cons_append, history, ih, history, List.append_assoc]
    rfl

/-- A load that succeeds is an event of its place. -/
theorem loadsFrom_iff {loaded : Loaded reader.Content} {before : List Action} :
    start.LoadsFrom reader place before action loaded ↔
      (start.after before).event? reader action = some (.loaded place loaded) := by
  rw [event?, LoadsFrom]
  cases action.loads? reader with
  | none => cases action.clears reader <;> simp
  | some path =>
    have hplace : Path.Resolves start.files.base path place ↔ (start.after before).resolved path = place := by
      rw [resolved_after]
      exact Path.resolves_iff
    cases hresult : ((start.after before).load reader path).result <;>
      simp [hplace, hresult, Except.toOption]

theorem clears_iff (library : Library) :
    action.clears reader = true ↔ library.event? reader action = some .cleared := by
  rw [event?]
  cases hloads : action.loads? reader with
  | none => simp
  | some path =>
    have hclears : action.clears reader = false := by
      cases action <;> simp_all [Action.loads?, Action.clears]
    cases (library.load reader path).result <;> simp [hclears, Except.toOption]

section First

variable {past : List Action} {loaded : Loaded reader.Content}

/-- Every load from a place in a run has a clearing behind it. -/
def AllCleared (start : Library) (reader : Reader) (place : String) (past : List Action) : Prop :=
  ∀ before action later found, past = before ++ action :: later →
    start.LoadsFrom reader place before action found → ∃ act ∈ later, act.clears reader = true

/-- One more action keeps everything cleared if it loads nothing from the place, or if it clears all
itself. -/
theorem allCleared_concat : start.AllCleared reader place (past ++ [action]) ↔
    (∀ found, ¬ start.LoadsFrom reader place past action found) ∧
      (action.clears reader = true ∨ start.AllCleared reader place past) := by
  constructor
  · intro h
    refine ⟨fun found hloads => ?_, ?_⟩
    · obtain ⟨act, hact, _⟩ := h past action [] found rfl hloads
      cases hact
    · by_cases hclears : action.clears reader = true
      · exact .inl hclears
      · refine .inr fun before other later found hsplit hloads => ?_
        obtain ⟨act, hact, hcleared⟩ := h before other (later ++ [action]) found (by simp [hsplit]) hloads
        rw [List.mem_append, List.mem_singleton] at hact
        rcases hact with hact | rfl
        · exact ⟨act, hact, hcleared⟩
        · exact absurd hcleared hclears
  · rintro ⟨hnone, hcleared⟩ before other later found hsplit hloads
    obtain ⟨rfl, rfl, rfl⟩ | ⟨between, rfl, hpast⟩ := split_concat hsplit
    · exact absurd hloads (hnone found)
    · rcases hcleared with hcleared | hcleared
      · exact ⟨action, by simp, hcleared⟩
      · obtain ⟨act, hact, h⟩ := hcleared before other between found hpast hloads
        exact ⟨act, List.mem_append_left _ hact, h⟩

/-- One more action is the first load itself, or the first load is one before it that is not cleared. -/
theorem isFirst_concat : start.IsFirst reader place (past ++ [action]) loaded ↔
    start.LoadsFrom reader place past action loaded ∧ start.AllCleared reader place past ∨
      action.clears reader = false ∧ start.IsFirst reader place past loaded := by
  constructor
  · rintro ⟨before, other, later, hsplit, hloads, hlater, hearlier⟩
    obtain ⟨rfl, rfl, rfl⟩ | ⟨between, rfl, hpast⟩ := split_concat hsplit
    · exact .inl ⟨hloads, hearlier⟩
    · rw [List.forall_mem_append, List.forall_mem_singleton] at hlater
      exact .inr ⟨hlater.2, before, other, between, hpast, hloads, hlater.1, hearlier⟩
  · rintro (⟨hloads, hcleared⟩ | ⟨hclears, before, other, later, rfl, hloads, hlater, hearlier⟩)
    · exact ⟨past, action, [], rfl, hloads, List.forall_mem_nil _, hcleared⟩
    · refine ⟨before, other, later ++ [action], by simp, hloads, ?_, hearlier⟩
      rw [List.forall_mem_append, List.forall_mem_singleton]
      exact ⟨hlater, hclears⟩

/-- A place has no first load exactly where each of its loads was cleared. -/
theorem allCleared_iff :
    start.AllCleared reader place past ↔ first? place (start.history reader past) = none := by
  induction past using List.reverseRecOn with
  | nil => simp [AllCleared, history]
  | append_singleton past action ih =>
    rw [allCleared_concat, history_concat, ih, clears_iff (start.after past)]
    simp only [loadsFrom_iff]
    cases (start.after past).event? reader action with
    | none => simp
    | some event =>
      cases event with
      | cleared => simp [first?_cleared]
      | loaded other found => simp [first?_loaded, and_comm]

/-- The shelf's own account of a run agrees with the run on what was loaded first. -/
theorem isFirst_iff :
    start.IsFirst reader place past loaded ↔ first? place (start.history reader past) = some loaded := by
  induction past using List.reverseRecOn with
  | nil => simp [IsFirst, history]
  | append_singleton past action ih =>
    rw [isFirst_concat, history_concat, ih, ← Bool.not_eq_true, clears_iff (start.after past), loadsFrom_iff,
      allCleared_iff]
    cases (start.after past).event? reader action with
    | none => simp
    | some event =>
      cases event with
      | cleared => simp [first?_cleared]
      | loaded other found =>
        have hlast : (if other = place then some found else none) = some loaded ↔
            other = place ∧ found = loaded := by simp
        rw [Option.toList_some, first?_loaded, Option.or_eq_some_iff, hlast]
        simp only [Option.some.injEq, Event.loaded.injEq, reduceCtorEq, not_false_eq_true, true_and]
        rw [or_comm, and_comm (a := _ ∧ _)]

end First

/-- What a library keeps of the documents that a run of actions loaded, and what one more action does. -/
structure Keeps (start : Library) (past : List Action) : Prop where
  /-- Every path resolves to one place, and other spellings of it resolve to the same. -/
  placed : ∀ path, ∃! place, Path.Resolves start.files.base path place
  /-- A path gives the very document of the first load from its place since the last clearing. -/
  kept : ∀ reader path place loaded, Path.Resolves start.files.base path place →
    start.IsFirst reader place past loaded →
      ((start.after past).perform (.load reader path)).result = .ok (.loaded reader loaded)
  /-- Without such a load it gives what its file holds now, and fails if it holds no document. -/
  read : ∀ reader path place, Path.Resolves start.files.base path place →
    (∀ loaded, ¬ start.IsFirst reader place past loaded) →
      ∀ document, (∃ serial, ((start.after past).perform (.load reader path)).result =
        .ok (.loaded reader ⟨serial, document⟩)) ↔
          Holds reader.kind (start.after past).files path document
  /-- What is read from a file is another document than any that was loaded before. -/
  unseen : ∀ reader path place loaded, Path.Resolves start.files.base path place →
    (∀ first, ¬ start.IsFirst reader place past first) →
      ((start.after past).perform (.load reader path)).result = .ok (.loaded reader loaded) →
        ∀ before action later other earlier, past = before ++ action :: later →
          start.LoadsFrom reader other before action earlier → earlier.serial ≠ loaded.serial
  failed : ∀ reader path e, ((start.after past).perform (.load reader path)).result = .error e →
    ((start.after past).perform (.load reader path)).library = start.after past
  parsed : ∀ reader text, ((start.after past).perform (.parse reader text)).library = start.after past
  /-- Building tables leaves what the load leaves, whatever becomes of the tables. -/
  built : ∀ path, ((start.after past).perform (.build path)).library =
    ((start.after past).perform (.load .catalogs path)).library
  apart : ∀ action reader, action.reader? ≠ some reader →
    ((start.after past).perform action).library.shelf reader = (start.after past).shelf reader

/-- An action works with one reader's shelf at most. -/
theorem shelf_perform_of_ne (library : Library) (h : action.reader? ≠ some reader) :
    (library.perform action).library.shelf reader = library.shelf reader := by
  have hne {own : Reader} (hown : some own ≠ some reader) : own ≠ reader := fun he => hown (he ▸ rfl)
  rw [shelf_perform]
  cases action with
  | write | delete | parse => rfl
  | clear own => simp [Action.loads?, Action.clears, hne h]
  | load own path => simp [Action.loads?, Action.clears, hne h]
  | build path => simp [Action.loads?, Action.clears, (hne h).symm]

/-- A load in the midst of a run is part of what the run meant to the shelf. -/
theorem mem_history {loaded : Loaded reader.Content} {before later : List Action}
    (h : start.LoadsFrom reader place before action loaded) :
    .loaded place loaded ∈ start.history reader (before ++ action :: later) := by
  rw [loadsFrom_iff] at h
  induction later using List.reverseRecOn with
  | nil =>
    rw [history_concat, h]
    exact List.mem_append_right _ List.mem_cons_self
  | append_singleton later last ih =>
    rw [← List.cons_append, ← List.append_assoc, history_concat]
    exact List.mem_append_left _ ih

/-- Every run of actions from empty shelves on keeps what it loaded. -/
theorem keeps_of_run (files : Files) (past : List Action) : Keeps { files } past := by
  have hfollows (reader : Reader) : Follows ((after { files } past).shelf reader)
      (history { files } reader past) := by
    have hstart : Follows (shelf { files } reader) [] := by
      cases reader <;> exact .nil
    simpa using follows_after hstart past
  have hplace {path place : String} (h : Path.Resolves files.base path place) :
      (after { files } past).resolved path = place := by
    rw [resolved_after]
    exact Path.resolves_iff.1 h
  have hnone {reader : Reader} {place : String} (h : ∀ loaded, ¬ IsFirst { files } reader place past loaded) :
      first? place (history { files } reader past) = none :=
    Option.eq_none_iff_forall_ne_some.2 fun loaded hfirst => h loaded (isFirst_iff.2 hfirst)
  constructor
  case placed => exact fun path => ⟨_, Path.resolves_iff.2 rfl, fun _ h => (Path.resolves_iff.1 h).symm⟩
  case kept =>
    intro reader path place loaded hresolves hfirst
    rw [isFirst_iff, ← hplace hresolves] at hfirst
    rw [result_perform_load, result_load_of_first? (hfollows reader) hfirst]
    rfl
  case read =>
    intro reader path place hresolves hnew document
    have hfirst := hnone hnew
    rw [← hplace hresolves] at hfirst
    simp only [result_perform_load_eq_ok_iff, result_load_eq_ok_iff (hfollows reader) hfirst,
      exists_eq_left]
  case unseen =>
    intro reader path place loaded hresolves hnew hload before action later other earlier hpast hearlier
    have hfirst := hnone hnew
    rw [← hplace hresolves] at hfirst
    rw [result_perform_load_eq_ok_iff, result_load_eq_ok_iff (hfollows reader) hfirst] at hload
    have hmem : .loaded other earlier ∈ history { files } reader past := hpast ▸ mem_history hearlier
    rw [hload.1]
    exact Nat.ne_of_lt ((hfollows reader).earlier other earlier hmem)
  case failed =>
    intro reader path e hload
    rcases load_cases (after { files } past) reader path with ⟨_, hresult, _⟩ | ⟨_, hresult, _⟩ |
      ⟨_, _, hleft, _⟩
    · rw [result_perform_load, hresult] at hload
      cases hload
    · rw [result_perform_load, hresult] at hload
      cases hload
    · simp [perform, hleft]
  case parsed => exact fun _ _ => rfl
  case built => exact fun path => by simp [perform]
  case apart => exact fun _ _ => shelf_perform_of_ne _

/-- Serial and names of the selection document that a path gives after a run. -/
def given? (start : Library) (past : List Action) (path : String) : Option (Nat × List String) :=
  ((start.after past).load .selections path).result.toOption.map fun loaded =>
    (loaded.serial, loaded.document.pairs.map (·.1))

theorem given?_eq_some_iff {past : List Action} {serial : Nat} {names : List String} :
    start.given? past path = some (serial, names) ↔
      ∃ loaded, ((start.after past).load .selections path).result = .ok loaded ∧
        loaded.serial = serial ∧ loaded.document.pairs.map (·.1) = names := by
  rw [given?]
  cases ((start.after past).load .selections path).result <;> simp [Except.toOption]

/-- Two files are written and the first of them is loaded, then written over. -/
def overwritten : List Action :=
  [.write "a.yaml" (Text.octetsOf "\x7b? selections : \x7b? A : true\x7d\x7d"),
    .write "b.yaml" (Text.octetsOf "\x7b? selections : \x7b? B : true\x7d\x7d"),
    .load .selections "a.yaml",
    .write "a.yaml" (Text.octetsOf "\x7b? selections : \x7b? C : true\x7d\x7d")]

/-- Another spelling of the path of the first file gives the document that was loaded, and the path of the other
file gives the document of that one. -/
theorem keeps_of_overwritten :
    let start : Library := { files := { base := ["srv"] } }
    ∃ first second, start.IsFirst .selections "/srv/a.yaml" overwritten first ∧
      ((start.after overwritten).perform (.load .selections "/srv/./sub/../a.yaml")).result =
        .ok (.loaded .selections first) ∧
      ((start.after overwritten).perform (.load .selections "b.yaml")).result =
        .ok (.loaded .selections second) ∧
      first.document.pairs.map (·.1) = ["A"] ∧ second.document.pairs.map (·.1) = ["B"] ∧
      first.serial ≠ second.serial := by
  intro start
  have hloaded : start.given? (overwritten.take 2) "a.yaml" = some (0, ["A"]) := by decide +kernel
  have hother : start.given? overwritten "b.yaml" = some (1, ["B"]) := by decide +kernel
  obtain ⟨first, hfirst, hserial, hnames⟩ := given?_eq_some_iff.1 hloaded
  obtain ⟨second, hsecond, hserial', hnames'⟩ := given?_eq_some_iff.1 hother
  have hisFirst : start.IsFirst .selections "/srv/a.yaml" overwritten first := by
    refine ⟨overwritten.take 2, .load .selections "a.yaml", overwritten.drop 3, rfl,
      ⟨"a.yaml", rfl, Path.resolves_iff.2 (by decide +kernel), hfirst⟩,
      by simp [overwritten, Action.clears], ?_⟩
    rintro earlier other between found hsplit ⟨path, hpath, _⟩
    have hmem : other ∈ overwritten.take 2 := hsplit ▸ List.mem_append_right _ List.mem_cons_self
    simp only [overwritten, List.take_succ_cons, List.take_zero, List.mem_cons, List.not_mem_nil,
      or_false] at hmem
    rcases hmem with rfl | rfl <;> cases hpath
  refine ⟨first, second, hisFirst, ?_, result_perform_load_eq_ok_iff.2 hsecond, hnames, hnames', ?_⟩
  · exact (keeps_of_run start.files overwritten).kept .selections _ _ first
      (Path.resolves_iff.2 (by decide +kernel)) hisFirst
  · rw [hserial, hserial']
    decide

end Library
end Document
end FeatureCert
