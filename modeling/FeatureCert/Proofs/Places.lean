import FeatureCert.Path
import Mathlib.Data.List.Basic
import Mathlib.Data.String.Basic

/-!
Places of paths. A path is walked name by name, from the root or from the working directory: an empty name and a
single dot stay, a double dot goes one level up, and any other name goes down. The path resolves to the place
where this walk ends, however it is spelled.
-/
namespace FeatureCert.Path

/-- A walk over names from one place to another. -/
inductive Walk : List String → List String → List String → Prop where
  | done : Walk here [] here
  | stay (h : name = "" ∨ name = ".") (hrest : Walk here rest there) : Walk here (name :: rest) there
  | up (hrest : Walk here.dropLast rest there) : Walk here (".." :: rest) there
  | down (h : name ≠ "" ∧ name ≠ "." ∧ name ≠ "..") (hrest : Walk (here ++ [name]) rest there) :
    Walk here (name :: rest) there

/-- The text of a path resolves to that of the place where the walk over the names between its slashes ends. -/
def Resolves (base : List String) (text resolved : String) : Prop :=
  ∃ names place, text = "/".intercalate names ∧ (∀ name ∈ names, '/' ∉ name.toList) ∧
    Walk (if text.toList.head? = some '/' then [] else base) names place ∧
    resolved = "/" ++ "/".intercalate place

variable {base here there names : List String} {text resolved name : String} {piece cs : List Char}

/-! ### Names between slashes -/

/-- Splitting at slashes is the library's splitting. -/
theorem pieces_eq_splitOn (cs : List Char) : pieces cs = cs.splitOn '/' := by
  induction cs with
  | nil => rfl
  | cons c rest ih =>
    obtain ⟨piece, more, hpieces⟩ := List.exists_cons_of_ne_nil (List.splitOn_ne_nil '/' rest)
    rw [List.splitOn_cons_eq_if_modifyHead, pieces, ih, hpieces]
    rfl

theorem plain_of_mem_splitOn (h : piece ∈ cs.splitOn '/') : '/' ∉ piece := by
  induction cs generalizing piece with
  | nil =>
    rw [List.splitOn_nil, List.mem_singleton] at h
    rw [h]
    exact List.not_mem_nil
  | cons c rest ih =>
    obtain ⟨first, more, hpieces⟩ := List.exists_cons_of_ne_nil (List.splitOn_ne_nil '/' rest)
    have hplain : ∀ piece ∈ first :: more, '/' ∉ piece := fun _ hmem => ih (hpieces ▸ hmem)
    rw [List.forall_mem_cons] at hplain
    rw [List.splitOn_cons_eq_if_modifyHead, hpieces] at h
    split at h
    · rw [List.mem_cons, List.mem_cons] at h
      rcases h with rfl | rfl | h
      · exact List.not_mem_nil
      · exact hplain.1
      · exact hplain.2 _ h
    · next hc =>
      rw [List.modifyHead_cons, List.mem_cons] at h
      rcases h with rfl | h
      · rw [List.mem_cons, not_or]
        exact ⟨fun he => hc (beq_iff_eq.2 he.symm), hplain.1⟩
      · exact hplain.2 _ h

theorem plain_of_mem_split (h : name ∈ split text) : '/' ∉ name.toList := by
  obtain ⟨piece, hpiece, rfl⟩ := List.mem_map.1 h
  rw [pieces_eq_splitOn] at hpiece
  rw [String.toList_ofList]
  exact plain_of_mem_splitOn hpiece

/-- Names without slashes are what stands between the slashes of their text. -/
theorem split_intercalate (hnames : names ≠ []) (h : ∀ name ∈ names, '/' ∉ name.toList) :
    split ("/".intercalate names) = names := by
  have hslash : "/".toList = ['/'] := rfl
  have hplain : ∀ piece ∈ names.map String.toList, '/' ∉ piece := by simpa using h
  rw [split, pieces_eq_splitOn, String.toList_intercalate, hslash,
    List.splitOn_intercalate '/' hplain (by simpa using hnames)]
  simp [Function.comp_def]

theorem intercalate_split (text : String) : "/".intercalate (split text) = text := by
  have hslash : "/".toList = ['/'] := rfl
  have hpieces : (split text).map String.toList = text.toList.splitOn '/' := by
    simp [split, pieces_eq_splitOn, Function.comp_def]
  rw [← String.toList_inj, String.toList_intercalate, hpieces, hslash, List.intercalate_splitOn]

/-! ### Walks -/

/-- Where the names of a path lead from a place, as those that stay are left out first. -/
def reached (here names : List String) : List String :=
  (names.filter fun name => name != "" && name != ".").foldl
    (fun here name => if name == ".." then here.dropLast else here ++ [name]) here

theorem reached_stay (h : name = "" ∨ name = ".") : reached here (name :: names) = reached here names := by
  rcases h with rfl | rfl <;> rfl

theorem reached_up : reached here (".." :: names) = reached here.dropLast names := rfl

theorem reached_down (h : name ≠ "" ∧ name ≠ "." ∧ name ≠ "..") :
    reached here (name :: names) = reached (here ++ [name]) names := by
  simp [reached, h]

theorem Walk.eq (h : Walk here names there) : reached here names = there := by
  induction h with
  | done => rfl
  | stay h _ ih => rw [reached_stay h, ih]
  | up _ ih => rw [reached_up, ih]
  | down h _ ih => rw [reached_down h, ih]

/-- From every place a walk over any names leads somewhere, since a double dot at the root stays there. -/
theorem walk_reached (here names : List String) : Walk here names (reached here names) := by
  induction names generalizing here with
  | nil => exact .done
  | cons name rest ih =>
    by_cases hstay : name = "" ∨ name = "."
    · rw [reached_stay hstay]
      exact .stay hstay (ih here)
    · rw [not_or] at hstay
      by_cases hup : name = ".."
      · subst hup
        exact .up (ih _)
      · have hdown : name ≠ "" ∧ name ≠ "." ∧ name ≠ ".." := ⟨hstay.1, hstay.2, hup⟩
        rw [reached_down hdown]
        exact .down hdown (ih _)

/-- How many slashes stand in front decides nothing but where the walk begins. -/
theorem place_ofText (base : List String) (text : String) : (ofText text).place base =
    reached (if text.toList.head? = some '/' then [] else base) (split text) := by
  have hroot : (ofText text).root.isEmpty = true ↔ ¬ text.toList.head? = some '/' := by
    rw [List.head?_eq_some_iff, not_exists]
    unfold ofText
    split <;> simp_all
  rw [place, reached]
  congr 1
  by_cases h : text.toList.head? = some '/' <;> simp [h, hroot]

/-- The key under which the document of a path stands is the text that the path resolves to. -/
theorem resolves_iff : Resolves base text resolved ↔ placeText ((ofText text).place base) = resolved := by
  rw [place_ofText]
  constructor
  · rintro ⟨names, there, rfl, hplain, hwalk, rfl⟩
    rw [placeText]
    congr 2
    by_cases hnames : names = []
    · subst hnames
      cases hwalk
      rfl
    · rw [split_intercalate hnames hplain, hwalk.eq]
  · rintro rfl
    exact ⟨split text, _, (intercalate_split text).symm, fun _ => plain_of_mem_split, walk_reached _ _, rfl⟩

end FeatureCert.Path
