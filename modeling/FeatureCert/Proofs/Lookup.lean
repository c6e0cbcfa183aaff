import FeatureCert.Validation.Normal

/-!
Lookups by name. In a table without repeated names a name finds exactly the entry that carries it, and pairs
without repeated names are collected as they are; a catalog therefore answers for each of its own names, also
for those of owners, and a snapshot of it for each of its states.
-/
namespace FeatureCert

/-- Where keys differ, a search by key and membership tell the same. -/
theorem find?_key_eq_some_iff {key : α → String} {items : List α} {a : α} {name : String}
    (h : (items.map key).Nodup) :
    items.find? (key · == name) = some a ↔ a ∈ items ∧ key a = name := by
  induction items with
  | nil => simp
  | cons b rest ih =>
    rw [List.map_cons, List.nodup_cons] at h
    by_cases hb : key b = name
    · have hrest : ∀ x ∈ rest, key x ≠ name := by
        intro x hx he
        exact h.1 (List.mem_map.2 ⟨x, hx, by rw [he, hb]⟩)
      rw [List.find?_cons_of_pos (by simpa using hb)]
      constructor
      · intro he
        cases he
        exact ⟨List.mem_cons_self, hb⟩
      · rintro ⟨ha, he⟩
        rcases List.mem_cons.1 ha with rfl | ha
        · rfl
        · exact absurd he (hrest a ha)
    · rw [List.find?_cons_of_neg (by simpa using hb), ih h.2]
      constructor
      · rintro ⟨ha, he⟩
        exact ⟨List.mem_cons_of_mem _ ha, he⟩
      · rintro ⟨ha, he⟩
        rcases List.mem_cons.1 ha with rfl | ha
        · exact absurd he hb
        · exact ⟨ha, he⟩

theorem lookup_cons_pair (own name : String) (item : α) (rest : List (String × α)) :
    List.lookup name ((own, item) :: rest) =
      if name = own then some item else List.lookup name rest := by
  rw [List.lookup_cons]
  by_cases h : name = own
  · simp [h]
  · have hne : (name == own) = false := by simpa using h
    simp [h, hne]

theorem lookup_eq_some_iff_mem {pairs : List (String × α)} {name : String} {item : α}
    (h : (pairs.map (·.1)).Nodup) : pairs.lookup name = some item ↔ (name, item) ∈ pairs := by
  induction pairs with
  | nil => simp
  | cons p rest ih =>
    obtain ⟨own, first⟩ := p
    rw [List.map_cons, List.nodup_cons] at h
    rw [lookup_cons_pair, List.mem_cons]
    by_cases hname : name = own
    · subst hname
      have hnone : (name, item) ∉ rest := fun hmem => h.1 (List.mem_map.2 ⟨_, hmem, rfl⟩)
      simp [hnone, eq_comm]
    · simp [hname, ih h.2]

namespace Selection

variable {entries pairs : List (String × α)} {name : String} {item : α}

theorem put_of_notMem (h : name ∉ entries.map (·.1)) :
    put entries name item = entries ++ [(name, item)] := by
  induction entries with
  | nil => rfl
  | cons e rest ih =>
    obtain ⟨hne, hrest⟩ : name ≠ e.1 ∧ name ∉ rest.map (·.1) := by simpa using h
    have hbeq : (e.1 == name) = false := by simpa using Ne.symm hne
    rw [put, hbeq, ih hrest]
    rfl

/-- Pairs with new and different names are put one behind the other. -/
theorem foldl_put_of_nodup (h : ((entries ++ pairs).map (·.1)).Nodup) :
    pairs.foldl (fun entries p => put entries p.1 p.2) entries = entries ++ pairs := by
  induction pairs generalizing entries with
  | nil => simp
  | cons p rest ih =>
    have hnew : p.1 ∉ entries.map (·.1) := by
      rw [List.map_append, List.nodup_append] at h
      exact fun hmem => h.2.2 p.1 hmem p.1 List.mem_cons_self rfl
    rw [List.append_cons] at h ⊢
    rw [List.foldl_cons, put_of_notMem hnew]
    exact ih h

/-- Pairs that repeat no name are collected as they are. -/
theorem collect_of_nodup (h : (pairs.map (·.1)).Nodup) : collect pairs = pairs :=
  foldl_put_of_nodup h

end Selection

theorem nodup_concat {names : List String} {name : String} (h : names.Nodup)
    (hnew : name ∉ names) : (names ++ [name]).Nodup := by
  rw [List.nodup_append]
  refine ⟨h, by simp, ?_⟩
  intro a ha b hb he
  rw [List.mem_singleton] at hb
  rw [he, hb] at ha
  exact hnew ha

namespace Capability

/-- What the building of a catalog checks of one capability among all of them. -/
structure Sound (capabilities : List Capability) (c : Capability) : Prop where
  number : c.kind = .parameter → ∃ n, c.default = .number n
  switch : c.kind ≠ .parameter → ∃ on, c.default = .switch on
  owner : ∀ name, c.owner = some name →
    name ≠ c.name ∧ ∃ owner ∈ capabilities, owner.name = name ∧ owner.kind = .flag
  owned : c.kind ≠ .flag → ∃ name, c.owner = some name

variable {capabilities : List Capability} {c : Capability}

theorem defaultFault?_eq_none_iff :
    c.defaultFault? = none ↔
      (c.kind = .parameter → ∃ n, c.default = .number n) ∧
        (c.kind ≠ .parameter → ∃ on, c.default = .switch on) := by
  unfold defaultFault?
  cases c.kind <;> cases c.default <;> simp

/-- An owner is another capability of the list, and a flag; only a flag may do without one. -/
theorem ownerFault?_eq_none_iff (h : (capabilities.map (·.name)).Nodup) :
    c.ownerFault? capabilities = none ↔
      (∀ name, c.owner = some name →
        name ≠ c.name ∧ ∃ owner ∈ capabilities, owner.name = name ∧ owner.kind = .flag) ∧
      (c.kind ≠ .flag → ∃ name, c.owner = some name) := by
  cases howner : c.owner with
  | none => by_cases hk : c.kind = .flag <;> simp [ownerFault?, howner, hk]
  | some name =>
    cases hfind : named? capabilities name with
    | none =>
      have hmissing : ∀ d ∈ capabilities, d.name ≠ name := by simpa [named?] using hfind
      simp only [ownerFault?, howner, hfind, reduceCtorEq, false_iff]
      rintro ⟨hall, _⟩
      obtain ⟨_, d, hd, hname, _⟩ := hall name rfl
      exact hmissing d hd hname
    | some d =>
      obtain ⟨hd, rfl⟩ := (find?_key_eq_some_iff h).1 hfind
      have hkind : (∃ other ∈ capabilities, other.name = d.name ∧ other.kind = .flag) ↔
          d.kind = .flag := by
        constructor
        · rintro ⟨other, hother, hname, hk⟩
          have hsame : named? capabilities d.name = some other :=
            (find?_key_eq_some_iff h).2 ⟨hother, hname⟩
          rw [hfind, Option.some.injEq] at hsame
          rwa [← hsame] at hk
        · intro hk
          exact ⟨d, hd, rfl, hk⟩
      by_cases hself : d.name = c.name
      · have hbeq : (d.name == c.name) = true := beq_iff_eq.2 hself
        simp only [ownerFault?, howner, hfind, hbeq, if_true, reduceCtorEq, false_iff]
        rintro ⟨hall, _⟩
        exact (hall d.name rfl).1 hself
      · by_cases hk : d.kind = .flag <;> simp [ownerFault?, howner, hfind, hself, hk, hkind]

/-- A capability without a fault is exactly a sound one. -/
theorem fault?_eq_none_iff (h : (capabilities.map (·.name)).Nodup) :
    c.fault? capabilities = none ↔ c.Sound capabilities := by
  rw [fault?, Option.orElse_eq_orElse, Option.orElse_eq_or, Option.or_eq_none_iff,
    defaultFault?_eq_none_iff, ownerFault?_eq_none_iff h]
  constructor
  · rintro ⟨⟨hnumber, hswitch⟩, howner, howned⟩
    exact ⟨hnumber, hswitch, howner, howned⟩
  · intro hsound
    exact ⟨⟨hsound.number, hsound.switch⟩, hsound.owner, hsound.owned⟩

end Capability

namespace Catalog

variable {catalog : Catalog} {c d : Capability} {name : String} {v : Value}

theorem mem_identifiers : name ∈ catalog.identifiers ↔ ∃ c ∈ catalog.capabilities, c.name = name :=
  List.mem_map

/-- No name is declared twice, so that the table of names holds every capability. -/
theorem byName_eq_map (catalog : Catalog) :
    catalog.byName = catalog.capabilities.map fun c => (c.name, c) := by
  have hnames : ((catalog.capabilities.map fun c => (c.name, c)).map (·.1)).Nodup := by
    rw [List.map_map]
    exact catalog.distinct
  rw [catalog.byName_eq, nameTable, Selection.collect_of_nodup hnames]

theorem positions_eq_zipIdx (catalog : Catalog) : catalog.positions = catalog.identifiers.zipIdx := by
  have hnames : (catalog.identifiers.zipIdx.map (·.1)).Nodup := by
    rw [List.zipIdx_map_fst]
    exact catalog.distinct
  rw [catalog.positions_eq, positionTable]
  exact Selection.collect_of_nodup hnames

theorem lookup?_eq_some_iff :
    catalog.lookup? name = some c ↔ c ∈ catalog.capabilities ∧ c.name = name := by
  have hnames : (catalog.byName.map (·.1)).Nodup := by
    rw [byName_eq_map, List.map_map]
    exact catalog.distinct
  rw [lookup?, lookup_eq_some_iff_mem hnames, byName_eq_map, List.mem_map]
  constructor
  · rintro ⟨d, hd, he⟩
    cases he
    exact ⟨hd, rfl⟩
  · rintro ⟨hc, rfl⟩
    exact ⟨c, hc, rfl⟩

/-- A name stands where its position is. -/
theorem indexOf?_eq_some_iff {i : Nat} :
    catalog.indexOf? name = some i ↔ catalog.identifiers[i]? = some name := by
  have hnames : (catalog.positions.map (·.1)).Nodup := by
    rw [positions_eq_zipIdx, List.zipIdx_map_fst]
    exact catalog.distinct
  rw [indexOf?, lookup_eq_some_iff_mem hnames, positions_eq_zipIdx, List.mem_zipIdx_iff_getElem?]

/-- The table of names finds what a search through the list finds. -/
theorem lookup?_eq_named? (catalog : Catalog) (name : String) :
    catalog.lookup? name = Capability.named? catalog.capabilities name := by
  apply Option.ext
  intro c
  rw [lookup?_eq_some_iff, Capability.named?, find?_key_eq_some_iff catalog.distinct]

theorem lookup?_self (h : c ∈ catalog.capabilities) : catalog.lookup? c.name = some c :=
  lookup?_eq_some_iff.2 ⟨h, rfl⟩

theorem eq_of_name_eq (hc : c ∈ catalog.capabilities) (hd : d ∈ catalog.capabilities)
    (h : c.name = d.name) : c = d := by
  have hlook := lookup?_self hc
  rw [h, lookup?_self hd, Option.some.injEq] at hlook
  exact hlook.symm

/-- A value names at most one capability. -/
theorem eq_of_text_eq (hc : c ∈ catalog.capabilities) (hd : d ∈ catalog.capabilities)
    (h : v = .text c.name) (h' : v = .text d.name) : c = d :=
  eq_of_name_eq hc hd (Value.text.inj (h.symm.trans h'))

theorem contains_eq_true_iff : catalog.contains name = true ↔ name ∈ catalog.identifiers := by
  rw [mem_identifiers, contains, Option.isSome_iff_exists]
  simp only [lookup?_eq_some_iff]

/-- A value names a capability only as the text of its name. -/
theorem named?_eq_some_iff :
    catalog.named? v = some c ↔ c ∈ catalog.capabilities ∧ v = .text c.name := by
  cases v with
  | text name =>
    simp only [named?, lookup?_eq_some_iff, Value.text.injEq]
    exact ⟨fun h => ⟨h.1, h.2.symm⟩, fun h => ⟨h.1, h.2.symm⟩⟩
  | _ => simp [named?]

theorem named?_eq_none_iff :
    catalog.named? v = none ↔ ∀ c ∈ catalog.capabilities, v ≠ .text c.name := by
  rw [Option.eq_none_iff_forall_ne_some]
  constructor
  · intro h c hc he
    exact h c (named?_eq_some_iff.2 ⟨hc, he⟩)
  · intro h c he
    have hc := named?_eq_some_iff.1 he
    exact h c hc.1 hc.2

theorem identifiers_nodup (catalog : Catalog) : catalog.identifiers.Nodup := catalog.distinct

theorem sound_capability (hc : c ∈ catalog.capabilities) : c.Sound catalog.capabilities :=
  (Capability.fault?_eq_none_iff catalog.distinct).1 (catalog.sound c hc)

/-- Every parameter and hook belongs to a flag of the same catalog. -/
theorem exists_owner (hc : c ∈ catalog.capabilities) (hk : c.kind ≠ .flag) :
    ∃ owner ∈ catalog.capabilities, c.owner = some owner.name ∧ owner.kind = .flag := by
  obtain ⟨name, hname⟩ := (sound_capability hc).owned hk
  obtain ⟨_, owner, howner, hown, hflag⟩ := (sound_capability hc).owner name hname
  exact ⟨owner, howner, by rw [hname, hown], hflag⟩

end Catalog

theorem Snapshot.get?_eq_some_iff {s : Snapshot} {name : String} {state : State}
    (h : s.names.Nodup) : s.get? name = some state ↔ (name, state) ∈ s.states := by
  unfold Snapshot.get?
  rw [Option.map_eq_some_iff]
  constructor
  · rintro ⟨p, hp, rfl⟩
    have hm := (find?_key_eq_some_iff h).1 hp
    rw [← hm.2]
    exact hm.1
  · intro hm
    exact ⟨(name, state), (find?_key_eq_some_iff h).2 ⟨hm, rfl⟩, rfl⟩

end FeatureCert
