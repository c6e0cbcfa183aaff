import FeatureCert.Catalog.Queries
import FeatureCert.Proofs.Lookup

/-!
Items filed under names come back as they went in: what stands under a name is the sublist of the items
that have it, in their order. Capabilities are filed by their owners, and a rule set twice, by subjects and
by mentions.
-/
namespace FeatureCert

/-- The walk keeps what was seen and adds every name, whatever it starts with. -/
theorem mem_distinctNames_foldl {names seen : List String} {name : String} :
    name ∈ names.foldl (fun seen n => if seen.contains n then seen else seen ++ [n]) seen ↔
      name ∈ seen ∨ name ∈ names := by
  induction names generalizing seen with
  | nil => simp
  | cons n rest ih =>
    rw [List.foldl_cons, ih]
    by_cases hn : n ∈ seen
    · simp only [List.contains_iff_mem, hn, if_true, List.mem_cons]
      constructor
      · rintro (h | h)
        · exact .inl h
        · exact .inr (.inr h)
      · rintro (h | rfl | h)
        · exact .inl h
        · exact .inl hn
        · exact .inr h
    · simp [hn, or_assoc]

@[simp] theorem mem_distinctNames {names : List String} {name : String} :
    name ∈ distinctNames names ↔ name ∈ names := by
  rw [distinctNames, mem_distinctNames_foldl]
  simp

/-- The walk adds only names that are new, and so keeps them different. -/
theorem nodup_distinctNames_foldl {names seen : List String} (h : seen.Nodup) :
    (names.foldl (fun seen n => if seen.contains n then seen else seen ++ [n]) seen).Nodup := by
  induction names generalizing seen with
  | nil => exact h
  | cons n rest ih =>
    rw [List.foldl_cons]
    by_cases hn : n ∈ seen
    · simpa [hn] using ih h
    · simpa [hn] using ih (nodup_concat h hn)

theorem nodup_distinctNames (names : List String) : (distinctNames names).Nodup :=
  nodup_distinctNames_foldl .nil

namespace Index

variable {index : Index α} {item : α} {name : String}

@[simp] theorem under_nil : under ([] : Index α) name = [] := rfl

theorem under_cons (own : String) (items : List α) :
    under ((own, items) :: index) name = if name = own then items else index.under name := by
  rw [under, lookup_cons_pair]
  by_cases h : name = own <;> simp [h, under]

/-- Filing touches one name only, and puts the item last there. -/
theorem under_file (own : String) :
    (index.file own item).under name =
      if name = own then index.under name ++ [item] else index.under name := by
  induction index with
  | nil => rw [file, under_cons, under_nil, List.nil_append]
  | cons entry rest ih =>
    cases entry with
    | mk first items =>
      by_cases hf : first = own
      · subst hf
        by_cases h : name = first <;> simp [file, under_cons, h]
      · by_cases h : name = first
        · subst h
          simp [file, under_cons, hf]
        · simp [file, under_cons, hf, h, ih]

/-- Filing an item changes what stands under its own names, once each, and nothing else. -/
theorem under_fileAll {names : List String} (h : names.Nodup) :
    (index.fileAll item names).under name =
      if name ∈ names then index.under name ++ [item] else index.under name := by
  induction names generalizing index with
  | nil => simp [fileAll]
  | cons own rest ih =>
    rw [List.nodup_cons] at h
    have hstep : index.fileAll item (own :: rest) = (index.file own item).fileAll item rest := rfl
    rw [hstep, ih h.2, under_file]
    by_cases ho : name = own
    · subst ho
      simp [h.1]
    · simp [ho]

/-- Under a name stand the items that have it, in the order of filing. -/
theorem under_foldl {names : α → List String} {items : List α}
    (h : ∀ item ∈ items, (names item).Nodup) :
    (items.foldl (fun index item => index.fileAll item (names item)) index).under name =
      index.under name ++ items.filter (fun item => (names item).contains name) := by
  induction items generalizing index with
  | nil => simp
  | cons item rest ih =>
    rw [List.foldl_cons, ih (fun i hi => h i (List.mem_cons_of_mem _ hi)),
      under_fileAll (h item List.mem_cons_self)]
    by_cases hn : name ∈ names item <;> simp [hn, List.append_assoc]

/-- The items under a name are those that have it. -/
theorem under_ofItems {names : α → List String} {items : List α}
    (h : ∀ item ∈ items, (names item).Nodup) :
    (ofItems names items).under name =
      items.filter (fun item => (names item).contains name) := by
  rw [ofItems, under_foldl h, under_nil, List.nil_append]

end Index

namespace Catalog

variable {catalog : Catalog} {name : String}

theorem ownedBy_eq_filter (catalog : Catalog) (name : String) :
    catalog.ownedBy name = (catalog.capabilities.filter (·.owner = some name)).map (·.name) := by
  have howner (c : Capability) : c.owner.toList.Nodup := by
    cases c.owner <;> simp
  rw [ownedBy, catalog.byOwner_eq, ownerIndex, Index.under_ofItems fun c _ => howner c]
  congr 1
  apply List.filter_congr
  intro c _
  rw [Bool.eq_iff_iff, List.contains_iff_mem, Option.mem_toList, decide_eq_true_eq]

theorem mem_ownedBy {own : String} :
    own ∈ catalog.ownedBy name ↔ ∃ c ∈ catalog.capabilities, c.owner = some name ∧ c.name = own := by
  simp only [ownedBy_eq_filter, List.mem_map, List.mem_filter, decide_eq_true_eq, and_assoc]

end Catalog

namespace RuleSet

variable {catalog : Catalog} (rules : RuleSet catalog) (name : String)

/-- The index of subjects tells what a walk over all rules would. -/
theorem withSubject_eq_filter :
    rules.withSubject name = rules.rules.filter (fun r => r.subject == name) := by
  rw [withSubject, rules.bySubject_eq, subjectIndex, Index.under_ofItems (by simp)]
  apply List.filter_congr
  intro r _
  rw [Bool.eq_iff_iff, List.contains_iff_mem, List.mem_singleton, beq_iff_eq]
  exact eq_comm

/-- The index of mentions tells what a walk over all rules would. -/
theorem mentioning_eq_filter :
    rules.mentioning name = rules.rules.filter (fun r => r.identifiers.contains name) := by
  rw [mentioning, rules.byMention_eq, mentionIndex,
    Index.under_ofItems (fun r _ => nodup_distinctNames r.identifiers)]
  apply List.filter_congr
  intro r _
  rw [Bool.eq_iff_iff, List.contains_iff_mem, List.contains_iff_mem, mem_distinctNames]

variable {rules name}

theorem mem_mentioning {r : Rule} :
    r ∈ rules.mentioning name ↔ r ∈ rules.rules ∧ name ∈ r.identifiers := by
  rw [mentioning_eq_filter, List.mem_filter, List.contains_iff_mem]

/-- What depends on a name are the subjects of the dependencies that have it among their objects. -/
theorem mem_dependentsOf {subject : String} :
    subject ∈ rules.dependentsOf name ↔
      ∃ r ∈ rules.rules, r.constraint.isDependency = true ∧ name ∈ r.objects ∧ r.subject = subject := by
  simp only [dependentsOf, mem_distinctNames, List.mem_map, List.mem_filter, Bool.and_eq_true,
    List.contains_iff_mem, mem_mentioning]
  constructor
  · rintro ⟨r, ⟨⟨hr, _⟩, hdependency, hobject⟩, hsubject⟩
    exact ⟨r, hr, hdependency, hobject, hsubject⟩
  · rintro ⟨r, hr, hdependency, hobject, hsubject⟩
    exact ⟨r, ⟨⟨hr, List.mem_cons_of_mem _ hobject⟩, hdependency, hobject⟩, hsubject⟩

end RuleSet
end FeatureCert
