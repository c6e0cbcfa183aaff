import FeatureCert.Catalog.Defect
import FeatureCert.Catalog.Index

/-!
Building of tables. A catalog is built from a list of capabilities, a rule set from the rules declared
over a catalog; the first defect in declaration order refuses the whole. Of the exclusions of one pair
only the first is kept.
-/
namespace FeatureCert

/-- First name that a list repeats, with the positions of its first two uses. -/
def firstRepeat? (names : List String) : Option (String × Nat × Nat) :=
  go [] 0 names
where
  go (seen : List (String × Nat)) (position : Nat) : List String → Option (String × Nat × Nat)
    | [] => none
    | name :: rest =>
      match seen.find? (·.1 == name) with
      | some (_, first) => some (name, first, position)
      | none => go (seen ++ [(name, position)]) (position + 1) rest

/-- A search that finds no repeat has seen names that differ among themselves and from those before them. -/
theorem firstRepeat?_go_eq_none {names : List String} {seen : List (String × Nat)} {position : Nat}
    (h : firstRepeat?.go seen position names = none) :
    names.Nodup ∧ ∀ name ∈ names, ∀ s ∈ seen, s.1 ≠ name := by
  induction names generalizing seen position with
  | nil => simp
  | cons name rest ih =>
    unfold firstRepeat?.go at h
    split at h
    · simp at h
    · next hfind =>
      obtain ⟨hnodup, hseen⟩ := ih h
      have hnew : ∀ s ∈ seen, s.1 ≠ name := by simpa using hfind
      refine ⟨List.nodup_cons.2 ⟨fun hmem => ?_, hnodup⟩, fun other hother s hs => ?_⟩
      · exact hseen name hmem (name, position) (by simp) rfl
      · rcases List.mem_cons.1 hother with rfl | hrest
        · exact hnew s hs
        · exact hseen other hrest s (by simp [hs])

theorem nodup_of_firstRepeat?_eq_none {names : List String} (h : firstRepeat? names = none) :
    names.Nodup :=
  (firstRepeat?_go_eq_none h).1

def firstFault? (capabilities : List Capability) : Option (Capability × CapabilityFault) :=
  capabilities.findSome? fun c => (c.fault? capabilities).map (c, ·)

theorem fault?_eq_none_of_firstFault? {capabilities : List Capability}
    (h : firstFault? capabilities = none) : ∀ c ∈ capabilities, c.fault? capabilities = none := by
  intro c hc
  simpa using List.findSome?_eq_none_iff.1 h c hc

def Catalog.build (id : String) (capabilities : List Capability) : Except CatalogDefect Catalog :=
  match hrepeat : firstRepeat? (capabilities.map (·.name)) with
  | some (name, first, second) => .error (.duplicateName name first second)
  | none =>
    match hfault : firstFault? capabilities with
    | some (c, fault) => .error (.capability c fault)
    | none =>
      .ok {
        id
        capabilities
        distinct := nodup_of_firstRepeat?_eq_none hrepeat
        sound := fault?_eq_none_of_firstFault? hfault
        byName := nameTable capabilities
        byName_eq := rfl
        positions := positionTable capabilities
        positions_eq := rfl
        byOwner := ownerIndex capabilities
        byOwner_eq := rfl }

namespace Rule

def rangeFault? (c : Capability) (minimum maximum : Int) : Option RuleFault :=
  if c.kind != .parameter then some (.subjectNotParameter c.kind)
  else if maximum < minimum then some (.emptyRange minimum maximum)
  else if minimum ≤ c.default.toInt ∧ c.default.toInt ≤ maximum then none
  else some (.defaultOutside c.default minimum maximum)

def fault? (catalog : Catalog) (r : Rule) : Option RuleFault :=
  match r.identifiers.find? (!catalog.contains ·) with
  | some name => some (.unknownName name)
  | none =>
    if r.objects.contains r.subject then some .refersToItself
    else
      match r.constraint, catalog.lookup? r.subject with
      | .range minimum maximum, some c => rangeFault? c minimum maximum
      | _, _ => none

end Rule

/-- Rules of a list that do not repeat an exclusion, neither of `kept` nor of an earlier rule. -/
def dropRepeats (kept : List Rule) : List Rule → List Rule
  | [] => []
  | r :: rest =>
    if kept.any r.repeatsExclusion then dropRepeats kept rest
    else r :: dropRepeats (kept ++ [r]) rest

theorem mem_of_mem_dropRepeats {kept rules : List Rule} {r : Rule}
    (h : r ∈ dropRepeats kept rules) : r ∈ rules := by
  induction rules generalizing kept with
  | nil => simp [dropRepeats] at h
  | cons s rest ih =>
    unfold dropRepeats at h
    split at h
    · exact List.mem_cons_of_mem _ (ih h)
    · rcases List.mem_cons.1 h with rfl | h
      · simp
      · exact List.mem_cons_of_mem _ (ih h)

def subjectIndex (rules : List Rule) : Index Rule := .ofItems (fun r => [r.subject]) rules

def mentionIndex (rules : List Rule) : Index Rule :=
  .ofItems (fun r => distinctNames r.identifiers) rules

/-- Rules over a catalog, without repeated exclusions, and filed by their names. -/
structure RuleSet (catalog : Catalog) where
  rules : List Rule
  sound : ∀ r ∈ rules, r.fault? catalog = none
  bySubject : Index Rule
  bySubject_eq : bySubject = subjectIndex rules
  byMention : Index Rule
  byMention_eq : byMention = mentionIndex rules

def firstRuleFault? (catalog : Catalog) (declared : List Rule) : Option (Nat × Rule × RuleFault) :=
  declared.zipIdx.findSome? fun (r, position) => (r.fault? catalog).map (position, r, ·)

/-- Where no rule is found at fault, each one is sound by itself. -/
theorem fault?_eq_none_of_firstRuleFault? {catalog : Catalog} {declared : List Rule}
    (h : firstRuleFault? catalog declared = none) : ∀ r ∈ declared, r.fault? catalog = none := by
  intro r hr
  obtain ⟨i, hi, rfl⟩ := List.getElem_of_mem hr
  have hmem : (declared[i], i) ∈ declared.zipIdx := by
    simp [List.mem_zipIdx_iff_getElem?, hi]
  simpa using List.findSome?_eq_none_iff.1 h _ hmem

def RuleSet.build (catalog : Catalog) (declared : List Rule) :
    Except CatalogDefect (RuleSet catalog) :=
  match hfault : firstRuleFault? catalog declared with
  | some (position, r, fault) => .error (.rule position r fault)
  | none =>
    let kept := dropRepeats [] declared
    .ok {
      rules := kept
      sound := fun r hr =>
        fault?_eq_none_of_firstRuleFault? hfault r (mem_of_mem_dropRepeats hr)
      bySubject := subjectIndex kept
      bySubject_eq := rfl
      byMention := mentionIndex kept
      byMention_eq := rfl }

end FeatureCert
