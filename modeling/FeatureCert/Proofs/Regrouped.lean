import FeatureCert.Proofs.Merged

/-!
Sources that are merged in groups. A merged list is determined by what it keeps: every name once, in the
order of first mention, with its last item. Merging some of the sources beforehand changes neither the first
mention nor the last item of a name, so it does not matter how sources are grouped.
-/
namespace FeatureCert.Selection

variable {α : Type} {entries pairs block : List (String × α)} {name other : String} {item old : α}

/-- What merging makes of sources. -/
structure MergeOf (sources : List (List (String × α))) (merged : List (String × α)) : Prop where
  once : (merged.map (·.1)).Nodup
  mentioned : ∀ name, name ∈ merged.map (·.1) ↔ ∃ source ∈ sources, name ∈ source.map (·.1)
  last : ∀ name item, (name, item) ∈ merged ↔ IsLastPair sources.flatten name item
  order : (merged.map (·.1)).Pairwise fun a b =>
    (sources.flatten.map (·.1)).idxOf a < (sources.flatten.map (·.1)).idxOf b

theorem mergeOf_merge (sources : List (List (String × α))) : MergeOf sources (merge sources) where
  once := nodup_names_collect _
  mentioned name := by
    rw [merge, mem_names_collect, List.map_flatten, List.mem_flatten]
    constructor
    · rintro ⟨_, hnames, hname⟩
      obtain ⟨source, hsource, rfl⟩ := List.mem_map.1 hnames
      exact ⟨source, hsource, hname⟩
    · rintro ⟨source, hsource, hname⟩
      exact ⟨_, List.mem_map_of_mem hsource, hname⟩
  last _ _ := mem_collect_iff
  order := pairwise_names_collect _

/-- Lists with the same pairs, none of which repeats a name, are equal if both are in the order of a
list of names. -/
theorem eq_of_mem_iff_of_pairwise {names : List String} {first second : List (String × α)}
    (hfirst : (first.map (·.1)).Pairwise fun a b => names.idxOf a < names.idxOf b)
    (hsecond : (second.map (·.1)).Pairwise fun a b => names.idxOf a < names.idxOf b)
    (h : ∀ p, p ∈ first ↔ p ∈ second) : first = second := by
  rw [List.pairwise_map] at hfirst hsecond
  have hdistinct {pairs : List (String × α)}
      (hpairs : pairs.Pairwise fun p q => names.idxOf p.1 < names.idxOf q.1) : pairs.Nodup := by
    refine List.Pairwise.imp (fun hlt he => ?_) hpairs
    rw [he] at hlt
    exact Nat.lt_irrefl _ hlt
  have hperm : first.Perm second :=
    (List.perm_ext_iff_of_nodup (hdistinct hfirst) (hdistinct hsecond)).2 h
  refine hperm.eq_of_pairwise ?_ hfirst hsecond
  intro p q _ _ hpq hqp
  exact absurd hpq (Nat.lt_asymm hqp)

/-- Merging is the one thing that does what is asked of it. -/
theorem merge_eq_iff {sources : List (List (String × α))} {merged : List (String × α)} :
    merge sources = merged ↔ MergeOf sources merged := by
  constructor
  · rintro rfl
    exact mergeOf_merge sources
  · intro h
    have hmerge := mergeOf_merge sources
    refine eq_of_mem_iff_of_pairwise hmerge.order h.order fun p => ?_
    rw [hmerge.last, h.last]

theorem put_put_self (entries : List (String × α)) (name : String) (old item : α) :
    put (put entries name old) name item = put entries name item := by
  induction entries with
  | nil => simp [put]
  | cons e rest ih =>
    by_cases he : e.1 = name
    · simp [put, he]
    · simp [put, he, ih]

/-- A name that is there can be set before or after another one. -/
theorem put_comm_of_mem (h : name ∈ entries.map (·.1)) (hne : other ≠ name) :
    put (put entries other old) name item = put (put entries name item) other old := by
  induction entries with
  | nil => simp at h
  | cons e rest ih =>
    by_cases he : e.1 = name
    · have hother : e.1 ≠ other := fun heq => hne (heq.symm.trans he)
      simp [put, he, hne.symm]
    · have hrest : name ∈ rest.map (·.1) := by simpa [Ne.symm he] using h
      by_cases heq : e.1 = other
      · simp [put, heq, hne]
      · simp [put, he, heq, ih hrest]

/-- Setting an old name and going on with other names can change places. -/
theorem put_foldl_of_mem (h : name ∈ entries.map (·.1)) (hnew : ∀ p ∈ pairs, p.1 ≠ name) :
    put (pairs.foldl (fun entries p => put entries p.1 p.2) entries) name item =
      pairs.foldl (fun entries p => put entries p.1 p.2) (put entries name item) := by
  induction pairs generalizing entries with
  | nil => rfl
  | cons p rest ih =>
    rw [List.forall_mem_cons] at hnew
    have hmem : name ∈ (put entries p.1 p.2).map (·.1) := by
      rw [names_put]
      split
      · exact h
      · exact List.mem_append_left _ h
    rw [List.foldl_cons, List.foldl_cons, ih hmem hnew.2, put_comm_of_mem h hnew.1]

/-- Setting a name in a list before it is taken in is setting it afterwards. -/
theorem foldl_put (h : (block.map (·.1)).Nodup) :
    (put block name item).foldl (fun entries p => put entries p.1 p.2) entries =
      put (block.foldl (fun entries p => put entries p.1 p.2) entries) name item := by
  induction block generalizing entries with
  | nil => rfl
  | cons p rest ih =>
    rw [List.map_cons, List.nodup_cons] at h
    by_cases hp : p.1 = name
    · subst hp
      have hnew : ∀ q ∈ rest, q.1 ≠ p.1 := by
        intro q hq hname
        exact h.1 (hname ▸ List.mem_map_of_mem hq)
      have hmem : p.1 ∈ (put entries p.1 p.2).map (·.1) := by
        rw [names_put]
        split
        · assumption
        · simp
      rw [List.foldl_cons, put_foldl_of_mem hmem hnew, put_put_self]
      simp [put]
    · have hput : put (p :: rest) name item = p :: put rest name item := by simp [put, hp]
      rw [hput, List.foldl_cons, List.foldl_cons, ih h.2]

/-- A merged list is taken in like the pairs that it was merged from. -/
theorem foldl_collect (block entries : List (String × α)) :
    (collect block).foldl (fun entries p => put entries p.1 p.2) entries =
      block.foldl (fun entries p => put entries p.1 p.2) entries := by
  induction block using List.reverseRecOn with
  | nil => rfl
  | append_singleton block p ih =>
    rw [collect_concat, foldl_put (nodup_names_collect block), ih, List.foldl_append]
    rfl

theorem collect_append (before after : List (String × α)) :
    collect (before ++ after) =
      after.foldl (fun entries p => put entries p.1 p.2) (collect before) := by
  rw [collect, List.foldl_append, ← collect]

theorem collect_append_collect (before block after : List (String × α)) :
    collect (before ++ collect block ++ after) = collect (before ++ block ++ after) := by
  rw [collect_append, collect_append, foldl_collect, collect_append, collect_append]

/-- Setting a name to what it has changes nothing. -/
theorem put_of_mem (h : (entries.map (·.1)).Nodup) (hmem : (name, item) ∈ entries) :
    put entries name item = entries := by
  induction entries with
  | nil => simp at hmem
  | cons e rest ih =>
    rw [List.map_cons, List.nodup_cons] at h
    rcases List.mem_cons.1 hmem with rfl | hrest
    · simp [put]
    · have hne : e.1 ≠ name := fun he => h.1 (he ▸ List.mem_map_of_mem (f := (·.1)) hrest)
      simp [put, hne, ih h.2 hrest]

/-- Pairs that are there already change nothing. -/
theorem foldl_put_of_forall_mem (h : (entries.map (·.1)).Nodup) (hmem : ∀ p ∈ pairs, p ∈ entries) :
    pairs.foldl (fun entries p => put entries p.1 p.2) entries = entries := by
  induction pairs with
  | nil => rfl
  | cons p rest ih =>
    rw [List.forall_mem_cons] at hmem
    rw [List.foldl_cons, put_of_mem h hmem.1, ih hmem.2]

theorem collect_append_self (pairs : List (String × α)) :
    collect (pairs ++ collect pairs) = collect pairs := by
  rw [collect_append]
  exact foldl_put_of_forall_mem (nodup_names_collect pairs) fun _ => id

theorem merge_regroup (before block after : List (List (String × α))) :
    merge (before ++ merge block :: after) = merge (before ++ block ++ after) := by
  have h := collect_append_collect before.flatten block.flatten after.flatten
  simpa [merge] using h

/-- Merged sources have every name that one of them mentions once, in the order of first mention and with its
last item, and nothing else does. Sources may be merged in groups, again, or with empty ones between them. -/
theorem merge_laws :
    (∀ (sources : List (List (String × α))) (merged : List (String × α)),
      merge sources = merged ↔ MergeOf sources merged) ∧
    (∀ before block after : List (List (String × α)),
      merge (before ++ merge block :: after) = merge (before ++ block ++ after)) ∧
    (∀ a b c : List (String × α), merge [merge [a, b], c] = merge [a, b, c] ∧
      merge [a, merge [b, c]] = merge [a, b, c]) ∧
    (∀ sources : List (List (String × α)), merge [merge sources] = merge sources ∧
      merge (sources ++ [merge sources]) = merge sources) ∧
    ∀ before after : List (List (String × α)),
      merge (before ++ [] :: after) = merge (before ++ after) := by
  refine ⟨fun _ _ => merge_eq_iff, merge_regroup, fun a b c => ⟨?_, ?_⟩, fun sources => ⟨?_, ?_⟩, ?_⟩
  · exact merge_regroup [] [a, b] [c]
  · exact merge_regroup [a] [b, c] []
  · have h := merge_regroup [] sources []
    rwa [List.nil_append, List.nil_append, List.append_nil] at h
  · have h := collect_append_self sources.flatten
    simpa [merge] using h
  · intro before after
    simp [merge]

end FeatureCert.Selection
