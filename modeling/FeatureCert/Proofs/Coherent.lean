import FeatureCert.Proofs.Order

/-!
Coherence of a catalog. Positions, capabilities by name and names by owner all tell of the one list that the
catalog was built from, wherever in it an owner stands; whatever has an owner is filed once, under a flag.
-/
namespace FeatureCert.Catalog

variable {id : String} {capabilities : List Capability} {catalog : Catalog} {c : Capability} {i : Nat}
  {name : String}

theorem getElem?_identifiers (catalog : Catalog) (i : Nat) :
    catalog.identifiers[i]? = (catalog.capabilities[i]?).map (·.name) :=
  List.getElem?_map

theorem exists_indexOf?_iff : (∃ i, catalog.indexOf? name = some i) ↔ catalog.contains name = true := by
  simp only [indexOf?_eq_some_iff, contains_eq_true_iff, List.mem_iff_getElem?]

theorem exists_lookup?_iff : (∃ c, catalog.lookup? name = some c) ↔ catalog.contains name = true := by
  rw [contains, Option.isSome_iff_exists]

theorem lookup?_of_indexOf? (h : catalog.indexOf? name = some i) :
    ∃ c, catalog.lookup? name = some c ∧ catalog.capabilities[i]? = some c ∧ c.name = name := by
  rw [indexOf?_eq_some_iff, getElem?_identifiers, Option.map_eq_some_iff] at h
  obtain ⟨c, hc, hname⟩ := h
  exact ⟨c, lookup?_eq_some_iff.2 ⟨List.mem_of_getElem? hc, hname⟩, hc, hname⟩

/-- Filed names are a part of all names, and so none is filed twice. -/
theorem nodup_ownedBy (catalog : Catalog) (name : String) : (catalog.ownedBy name).Nodup := by
  rw [ownedBy_eq_filter]
  exact catalog.distinct.sublist (List.filter_sublist.map _)

/-- What a flag owns is told by the owners that the capabilities declare. -/
theorem name_mem_ownedBy (hc : c ∈ catalog.capabilities) :
    c.name ∈ catalog.ownedBy name ↔ c.owner = some name := by
  rw [mem_ownedBy]
  refine ⟨?_, fun h => ⟨c, hc, h, rfl⟩⟩
  rintro ⟨d, hd, howner, hname⟩
  cases eq_of_name_eq hd hc hname
  exact howner

theorem count_ownedBy (hc : c ∈ catalog.capabilities) (name : String) :
    (catalog.ownedBy name).count c.name = if c.owner = some name then 1 else 0 := by
  rw [(catalog.nodup_ownedBy name).count]
  exact if_congr (name_mem_ownedBy hc) rfl rfl

/-- Owners are flags, so that nothing is filed under any other name. -/
theorem ownedBy_eq_nil (h : ∀ c ∈ catalog.capabilities, c.name = name → c.kind ≠ .flag) :
    catalog.ownedBy name = [] := by
  rw [List.eq_nil_iff_forall_not_mem]
  intro own hown
  obtain ⟨c, hc, howner, _⟩ := mem_ownedBy.1 hown
  obtain ⟨_, d, hd, hname, hflag⟩ := (sound_capability hc).owner name howner
  exact h d hd hname hflag

/-- What a catalog answers, as one list of capabilities has it. -/
structure Coherent (capabilities : List Capability) (catalog : Catalog) : Prop where
  identifiers : catalog.identifiers = capabilities.map (·.name)
  distinct : catalog.identifiers.Nodup
  position : ∀ i (h : i < catalog.identifiers.length), catalog.indexOf? catalog.identifiers[i] = some i
  contains_iff_lookup : ∀ name, catalog.contains name = true ↔ ∃ c, catalog.lookup? name = some c
  contains_iff_position : ∀ name, catalog.contains name = true ↔ ∃ i, catalog.indexOf? name = some i
  found : ∀ name c i, catalog.lookup? name = some c → catalog.indexOf? name = some i →
    c.name = name ∧ capabilities[i]? = some c
  owned : ∀ name, catalog.ownedBy name = (capabilities.filter (·.owner = some name)).map (·.name)
  owned_once : ∀ c ∈ capabilities, ∀ name,
    (catalog.ownedBy name).count c.name = if c.owner = some name then 1 else 0
  owned_flag : ∀ name, (∀ c ∈ capabilities, c.name = name → c.kind ≠ .flag) → catalog.ownedBy name = []

/-- Every list that is accepted has a coherent catalog. -/
theorem coherent_of_build (h : Catalog.build id capabilities = .ok catalog) :
    Coherent capabilities catalog := by
  obtain ⟨_, rfl⟩ := Catalog.build_ok h
  constructor
  case identifiers => rfl
  case distinct => exact catalog.identifiers_nodup
  case position => exact fun _ hi => catalog.indexOf?_getElem hi
  case contains_iff_lookup => exact fun _ => exists_lookup?_iff.symm
  case contains_iff_position => exact fun _ => exists_indexOf?_iff.symm
  case found =>
    intro name c i hlookup hposition
    obtain ⟨d, hfound, hd, hname⟩ := lookup?_of_indexOf? hposition
    rw [hlookup, Option.some.injEq] at hfound
    subst hfound
    exact ⟨hname, hd⟩
  case owned => exact catalog.ownedBy_eq_filter
  case owned_once => exact fun _ hc => count_ownedBy hc
  case owned_flag => exact fun _ => ownedBy_eq_nil

/-- A parameter and a sub-flag in front of their owners. -/
def nestedCapabilities : List Capability := [
  { name := "ROUNDS", kind := .parameter, default := .number 4, owner := some "AES" },
  { name := "CTR", owner := some "AES" },
  { name := "AES", owner := some "CIPHER" },
  { name := "CIPHER" },
  { name := "AES_ALT", kind := .hook, owner := some "AES" }]

/-- What a flag owns is told in order, both from in front of it and from behind. -/
theorem coherent_of_nested :
    ∃ catalog, Catalog.build "nested" nestedCapabilities = .ok catalog ∧
      Coherent nestedCapabilities catalog ∧ catalog.ownedBy "AES" = ["ROUNDS", "CTR", "AES_ALT"] ∧
      catalog.ownedBy "CIPHER" = ["AES"] ∧ catalog.ownedBy "CTR" = [] ∧ catalog.indexOf? "AES" = some 2 :=
  ⟨_, rfl, coherent_of_build rfl, rfl, rfl, rfl, rfl⟩

end FeatureCert.Catalog
