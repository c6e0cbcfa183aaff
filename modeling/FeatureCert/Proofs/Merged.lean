import FeatureCert.Proofs.Intake
import Mathlib.Data.List.Induction
import Mathlib.Data.List.Nodup

/-!
Merging of pairs. A merged list has every name once, at the place of its first mention and with the last
value that was paired with it; what is missing from it was overridden by a later pair.
-/
namespace FeatureCert.Selection

variable {α : Type} {entries pairs : List (String × α)} {name : String} {item : α}

/-- A new name goes to the end, and an old one stays where it is. -/
theorem names_put (entries : List (String × α)) (name : String) (item : α) :
    (put entries name item).map (·.1) =
      if name ∈ entries.map (·.1) then entries.map (·.1) else entries.map (·.1) ++ [name] := by
  induction entries with
  | nil => simp
  | cons e rest ih =>
    by_cases he : e.1 = name
    · simp [put, he]
    · have hne : name ≠ e.1 := Ne.symm he
      by_cases hmem : name ∈ rest.map (·.1)
      · simp [put, he, ih, hmem]
      · simp [put, he, hne, ih, hmem]

theorem nodup_names_put (h : (entries.map (·.1)).Nodup) :
    ((put entries name item).map (·.1)).Nodup := by
  rw [names_put]
  split
  · exact h
  · next hnew => exact nodup_concat h hnew

theorem nodup_names_foldl (h : (entries.map (·.1)).Nodup) :
    ((pairs.foldl (fun entries p => put entries p.1 p.2) entries).map (·.1)).Nodup := by
  induction pairs generalizing entries with
  | nil => exact h
  | cons p rest ih => exact ih (nodup_names_put h)

theorem nodup_names_collect (pairs : List (String × α)) :
    ((collect pairs).map (·.1)).Nodup :=
  nodup_names_foldl (by simp)

/-- Pairs of other names leave an item alone. -/
theorem lookup_foldl_of_forall_ne (h : ∀ p ∈ pairs, p.1 ≠ name) :
    (pairs.foldl (fun entries p => put entries p.1 p.2) entries).lookup name =
      entries.lookup name := by
  induction pairs generalizing entries with
  | nil => rfl
  | cons p rest ih =>
    rw [List.foldl_cons, ih fun q hq => h q (List.mem_cons_of_mem _ hq), lookup_put,
      if_neg (Ne.symm (h p List.mem_cons_self))]

/-- The last pair of a name decides what a merged list has for it. -/
theorem lookup_collect_of_last (before : List (String × α)) {after : List (String × α)}
    (h : ∀ p ∈ after, p.1 ≠ name) :
    (collect (before ++ (name, item) :: after)).lookup name = some item := by
  rw [collect, List.foldl_append, List.foldl_cons, lookup_foldl_of_forall_ne h, lookup_put,
    if_pos rfl]

theorem mem_of_lookup_eq_some (h : entries.lookup name = some item) : (name, item) ∈ entries := by
  obtain ⟨before, after, rfl, _⟩ := List.lookup_eq_some_iff.1 h
  exact List.mem_append_right _ List.mem_cons_self

theorem eq_of_mem_of_nodup_names (h : (entries.map (·.1)).Nodup) {other : α}
    (hitem : (name, item) ∈ entries) (hother : (name, other) ∈ entries) : item = other :=
  congrArg Prod.snd (List.inj_on_of_nodup_map h hitem hother rfl)

def IsLastPair (pairs : List (String × α)) (name : String) (item : α) : Prop :=
  ∃ before after, pairs = before ++ (name, item) :: after ∧ ∀ p ∈ after, p.1 ≠ name

theorem IsLastPair.mem (h : IsLastPair pairs name item) : (name, item) ∈ pairs := by
  obtain ⟨before, after, rfl, _⟩ := h
  simp

theorem exists_isLastPair (h : name ∈ pairs.map (·.1)) : ∃ item, IsLastPair pairs name item := by
  induction pairs using List.reverseRecOn with
  | nil => simp at h
  | append_singleton pairs p ih =>
    by_cases hp : p.1 = name
    · exact ⟨p.2, pairs, [], by rw [← hp], by simp⟩
    · have hrest : name ∈ pairs.map (·.1) := by simpa [Ne.symm hp] using h
      obtain ⟨item, before, after, rfl, hafter⟩ := ih hrest
      refine ⟨item, before, after ++ [p], by simp, ?_⟩
      rw [List.forall_mem_append, List.forall_mem_singleton]
      exact ⟨hafter, hp⟩

theorem isLastPair_iff_of_nodup (h : (pairs.map (·.1)).Nodup) :
    IsLastPair pairs name item ↔ (name, item) ∈ pairs := by
  refine ⟨IsLastPair.mem, fun hmem => ?_⟩
  obtain ⟨other, hother⟩ := exists_isLastPair (List.mem_map_of_mem (f := (·.1)) hmem)
  rwa [eq_of_mem_of_nodup_names h hmem hother.mem]

/-- The last entry of a name is that of its last pair. -/
theorem isLast_map_ofPair_iff {pairs : List (String × Value)} {e : Entry} :
    IsLast (pairs.map Entry.ofPair) name e ↔
      ∃ value, IsLastPair pairs name value ∧ e = .ofPair (name, value) := by
  constructor
  · rintro ⟨before, after, hsplit, hname, hafter⟩
    obtain ⟨first, rest, rfl, rfl, hrest⟩ := List.map_eq_append_iff.1 hsplit
    obtain ⟨p, last, rfl, rfl, rfl⟩ := List.map_eq_cons_iff.1 hrest
    cases Value.text.inj hname
    refine ⟨p.2, ⟨first, last, rfl, fun q hq he => ?_⟩, rfl⟩
    exact hafter _ (List.mem_map_of_mem hq) (congrArg Value.text he)
  · rintro ⟨value, ⟨before, after, rfl, hafter⟩, rfl⟩
    refine ⟨before.map .ofPair, after.map .ofPair, by simp, rfl, ?_⟩
    rintro _ hx he
    obtain ⟨q, hq, rfl⟩ := List.mem_map.1 hx
    exact hafter q hq (Value.text.inj he)

theorem collect_concat (pairs : List (String × α)) (p : String × α) :
    collect (pairs ++ [p]) = put (collect pairs) p.1 p.2 := by
  rw [collect, List.foldl_append]
  rfl

/-- Merging loses no name and adds none. -/
theorem mem_names_collect : name ∈ (collect pairs).map (·.1) ↔ name ∈ pairs.map (·.1) := by
  induction pairs using List.reverseRecOn with
  | nil => rfl
  | append_singleton pairs p ih =>
    rw [collect_concat, names_put, List.map_append, List.mem_append]
    split
    · next hold =>
      rw [ih, iff_self_or, List.map_singleton, List.mem_singleton]
      rintro rfl
      exact ih.1 hold
    · rw [List.mem_append, ih, List.map_singleton]

/-- A merged list pairs a name with what its last pair has. -/
theorem mem_collect_iff : (name, item) ∈ collect pairs ↔ IsLastPair pairs name item := by
  have hmem {item : α} (h : IsLastPair pairs name item) : (name, item) ∈ collect pairs := by
    obtain ⟨before, after, rfl, hafter⟩ := h
    exact mem_of_lookup_eq_some (lookup_collect_of_last before hafter)
  refine ⟨fun h => ?_, hmem⟩
  obtain ⟨other, hother⟩ :=
    exists_isLastPair (mem_names_collect.1 (List.mem_map_of_mem (f := (·.1)) h))
  rwa [eq_of_mem_of_nodup_names (nodup_names_collect pairs) h (hmem hother)]

theorem IsLastPair.eq {other : α} (h : IsLastPair pairs name item)
    (hother : IsLastPair pairs name other) : item = other :=
  eq_of_mem_of_nodup_names (nodup_names_collect pairs) (mem_collect_iff.2 h)
    (mem_collect_iff.2 hother)

/-- The names of a merged list are in the order of their first mention. -/
theorem pairwise_names_collect (pairs : List (String × α)) :
    ((collect pairs).map (·.1)).Pairwise fun a b =>
      (pairs.map (·.1)).idxOf a < (pairs.map (·.1)).idxOf b := by
  induction pairs using List.reverseRecOn with
  | nil => exact .nil
  | append_singleton pairs p ih =>
    have hold : ((collect pairs).map (·.1)).Pairwise fun a b =>
        ((pairs ++ [p]).map (·.1)).idxOf a < ((pairs ++ [p]).map (·.1)).idxOf b := by
      apply ih.imp_of_mem
      intro a b ha hb hlt
      rwa [List.map_append, List.idxOf_append_of_mem (mem_names_collect.1 ha),
        List.idxOf_append_of_mem (mem_names_collect.1 hb)]
    rw [collect_concat, names_put]
    split
    · exact hold
    · next hnew =>
      refine List.pairwise_append.2 ⟨hold, List.pairwise_singleton _ _, ?_⟩
      intro a ha b hb
      cases List.mem_singleton.1 hb
      have hmem := mem_names_collect.1 ha
      have hnot : p.1 ∉ pairs.map (·.1) := fun h => hnew (mem_names_collect.2 h)
      rw [List.map_append, List.idxOf_append_of_mem hmem, List.idxOf_append_of_notMem hnot]
      exact Nat.lt_of_lt_of_le (List.idxOf_lt_length_of_mem hmem) (Nat.le_add_right _ _)

/-- A pair that a later one of its name overrides. -/
def Overridden (pairs : List (String × α)) (p : String × α) : Prop :=
  ∃ before after, pairs = before ++ p :: after ∧ ∃ q ∈ after, q.1 = p.1

theorem Overridden.mem {p : String × α} (h : Overridden pairs p) : p ∈ pairs := by
  obtain ⟨before, after, rfl, _⟩ := h
  simp

theorem Overridden.concat {p : String × α} (h : Overridden pairs p) (q : String × α) :
    Overridden (pairs ++ [q]) p := by
  obtain ⟨before, after, rfl, r, hr, hname⟩ := h
  exact ⟨before, after ++ [q], by simp, r, List.mem_append_left _ hr, hname⟩

/-- Setting a name that is there replaces the one pair that has it. -/
theorem exists_perm_put (h : name ∈ entries.map (·.1)) (item : α) :
    ∃ old rest, (name, old) ∈ entries ∧ entries.Perm ((name, old) :: rest) ∧
      (put entries name item).Perm ((name, item) :: rest) := by
  induction entries with
  | nil => simp at h
  | cons e more ih =>
    by_cases he : e.1 = name
    · subst he
      exact ⟨e.2, more, List.mem_cons_self, .refl _, by simp [put]⟩
    · have hmore : name ∈ more.map (·.1) := by simpa [Ne.symm he] using h
      obtain ⟨old, rest, hmem, hperm, hput⟩ := ih hmore
      refine ⟨old, e :: rest, List.mem_cons_of_mem _ hmem, ?_, ?_⟩
      · exact (hperm.cons e).trans (.swap _ _ _)
      · have hne : (e.1 == name) = false := by simpa using he
        rw [put, hne]
        exact (hput.cons e).trans (.swap _ _ _)

/-- Merging drops pairs that are overridden, and no others. -/
theorem exists_perm_collect (pairs : List (String × α)) :
    ∃ dropped, pairs.Perm (collect pairs ++ dropped) ∧ ∀ p ∈ dropped, Overridden pairs p := by
  induction pairs using List.reverseRecOn with
  | nil => exact ⟨[], .nil, by simp⟩
  | append_singleton pairs p ih =>
    obtain ⟨dropped, hperm, hdropped⟩ := ih
    rw [collect_concat]
    -- A name that is there already loses its old pair, which the new one overrides.
    by_cases hold : p.1 ∈ (collect pairs).map (·.1)
    · obtain ⟨old, rest, hmem, hcollect, hput⟩ := exists_perm_put hold p.2
      refine ⟨(p.1, old) :: dropped, ?_, ?_⟩
      · have hall : pairs.Perm (rest ++ (p.1, old) :: dropped) :=
          (hperm.trans (hcollect.append_right dropped)).trans List.perm_middle.symm
        have hnew : (p :: rest ++ (p.1, old) :: dropped).Perm
            (put (collect pairs) p.1 p.2 ++ (p.1, old) :: dropped) := (hput.append_right _).symm
        exact ((List.perm_append_singleton p pairs).trans (hall.cons p)).trans hnew
      · have hover : Overridden (pairs ++ [p]) (p.1, old) := by
          obtain ⟨before, after, rfl⟩ := List.append_of_mem (mem_collect_iff.1 hmem).mem
          exact ⟨before, after ++ [p], by simp, p, by simp, rfl⟩
        exact List.forall_mem_cons.2 ⟨hover, fun q hq => (hdropped q hq).concat p⟩
    · refine ⟨dropped, ?_, fun q hq => (hdropped q hq).concat p⟩
      rw [put_of_notMem hold, List.append_assoc, List.singleton_append]
      exact ((List.perm_append_singleton p pairs).trans (hperm.cons p)).trans List.perm_middle.symm

end FeatureCert.Selection
