import Mathlib.Data.List.Forall2

/-!
Computations that may fail, one after the other and along a list: what is known of the parts when the whole
comes to a result.
-/
namespace FeatureCert

variable {x : Except ε α} {f g : α → Except ε β} {items : List α} {results : List β}

theorem bind_eq_ok_iff {b : β} : (x >>= f) = .ok b ↔ ∃ a, x = .ok a ∧ f a = .ok b := by
  cases x with
  | error e => simp [bind, Except.bind]
  | ok a => simp [bind, Except.bind]

theorem exists_ok_bind :
    (∃ b, (x >>= f) = .ok b) ↔ ∃ a, x = .ok a ∧ ∃ b, f a = .ok b := by
  simp only [bind_eq_ok_iff]
  rw [exists_comm]
  simp only [exists_and_left]

/-- A stage that always comes to something decides nothing. -/
theorem exists_ok_bind_of_total (h : ∀ a, ∃ b, f a = .ok b) :
    (∃ b, (x >>= f) = .ok b) ↔ ∃ a, x = .ok a := by
  simp only [exists_ok_bind, h, and_true]

theorem forall_error_bind {P : ε → Prop} :
    (∀ e, (x >>= f) = .error e → P e) ↔
      (∀ e, x = .error e → P e) ∧ ∀ a, x = .ok a → ∀ e, f a = .error e → P e := by
  cases x with
  | error e => simp [bind, Except.bind]
  | ok a => simp [bind, Except.bind]

theorem exists_ok_map {h : α → β} : (∃ b, h <$> x = .ok b) ↔ ∃ a, x = .ok a := by
  cases x with
  | error e => simp [Functor.map, Except.map]
  | ok a => simp [Functor.map, Except.map]

theorem toOption_map {h : α → β} : (x.map h).toOption = x.toOption.map h := by
  cases x <;> rfl

theorem toOption_eq_some_iff {a : α} : x.toOption = some a ↔ x = .ok a := by
  cases x <;> simp [Except.toOption]

theorem mapError_eq_ok_iff {h : ε → δ} {a : α} : x.mapError h = .ok a ↔ x = .ok a := by
  cases x <;> simp [Except.mapError]

/-- A walk comes to a list exactly where every item comes to the one at its place. -/
theorem mapM_eq_ok_iff :
    items.mapM f = .ok results ↔ List.Forall₂ (fun a b => f a = .ok b) items results := by
  induction items generalizing results with
  | nil => cases results <;> simp [pure, Except.pure]
  | cons a rest ih =>
    simp only [List.mapM_cons, bind_eq_ok_iff, ih, List.forall₂_cons_left_iff]
    constructor
    · rintro ⟨b, hb, bs, hbs, h⟩
      cases h
      exact ⟨b, bs, hb, hbs, rfl⟩
    · rintro ⟨b, bs, hb, hbs, rfl⟩
      exact ⟨b, hb, bs, hbs, rfl⟩

theorem exists_mapM_ok_iff : (∃ bs, items.mapM f = .ok bs) ↔ ∀ a ∈ items, ∃ b, f a = .ok b := by
  induction items with
  | nil => simp [pure, Except.pure]
  | cons a rest ih =>
    rw [List.mapM_cons, exists_ok_bind, List.forall_mem_cons, ← ih, ← exists_and_right]
    simp only [exists_ok_bind, pure, Except.pure, Except.ok.injEq, exists_eq', and_true]

theorem mapM_congr_of_mem (h : ∀ a ∈ items, f a = g a) : items.mapM f = items.mapM g := by
  induction items with
  | nil => rfl
  | cons a rest ih =>
    rw [List.mapM_cons, List.mapM_cons, h a List.mem_cons_self,
      ih fun b hb => h b (List.mem_cons_of_mem _ hb)]

/-- Relations need to agree on the items of the list only. -/
theorem forall₂_congr_of_mem {R S : α → β → Prop} {items : List α} {results : List β}
    (h : ∀ a ∈ items, ∀ b, R a b ↔ S a b) : List.Forall₂ R items results ↔ List.Forall₂ S items results := by
  induction items generalizing results with
  | nil => simp
  | cons a rest ih =>
    rw [List.forall_mem_cons] at h
    simp only [List.forall₂_cons_left_iff, h.1, ih h.2]

theorem exists_of_mem_forall₂ {R : α → β → Prop} (h : List.Forall₂ R items results) {b : β}
    (hb : b ∈ results) : ∃ a ∈ items, R a b := by
  induction h with
  | nil => cases hb
  | cons hab _ ih =>
    rcases List.mem_cons.1 hb with rfl | hb
    · exact ⟨_, List.mem_cons_self, hab⟩
    · obtain ⟨a, ha, hfa⟩ := ih hb
      exact ⟨a, List.mem_cons_of_mem _ ha, hfa⟩

/-- Lists that match item by item match in front of and behind each item. -/
theorem exists_split_of_forall₂ {R : α → β → Prop} {before after : List β} {b : β}
    (h : List.Forall₂ R items (before ++ b :: after)) :
    ∃ front a back, items = front ++ a :: back ∧ R a b ∧ List.Forall₂ R back after := by
  induction before generalizing items with
  | nil =>
    obtain ⟨a, back, hab, hback, rfl⟩ := List.forall₂_cons_right_iff.1 h
    exact ⟨[], a, back, rfl, hab, hback⟩
  | cons _ _ ih =>
    obtain ⟨first, rest, _, hrest, rfl⟩ := List.forall₂_cons_right_iff.1 h
    obtain ⟨front, a, back, rfl, hab, hback⟩ := ih hrest
    exact ⟨first :: front, a, back, rfl, hab, hback⟩

theorem exists_of_mem_mapM_ok (h : items.mapM f = .ok results) {b : β} (hb : b ∈ results) :
    ∃ a ∈ items, f a = .ok b :=
  exists_of_mem_forall₂ (mapM_eq_ok_iff.1 h) hb

/-- A walk that comes to a list has come to something at each item, with what precedes and what follows. -/
theorem mapM_append_cons_ok {before after : List α} {a : α}
    (h : (before ++ a :: after).mapM f = .ok results) :
    ∃ first b last, f a = .ok b ∧ after.mapM f = .ok last ∧ results = first ++ b :: last := by
  rw [List.mapM_append, bind_eq_ok_iff] at h
  obtain ⟨first, _, h⟩ := h
  simp only [List.mapM_cons, bind_eq_ok_iff] at h
  obtain ⟨_, ⟨b, hb, last, hlast, hrest⟩, hall⟩ := h
  cases hrest
  cases hall
  exact ⟨first, b, last, hb, hlast, rfl⟩

/-- A walk fails as the first item that fails does. -/
theorem mapM_eq_error_iff {e : ε} : items.mapM f = .error e ↔
    ∃ before a after, items = before ++ a :: after ∧ (∀ b ∈ before, ∃ r, f b = .ok r) ∧ f a = .error e := by
  induction items with
  | nil => simp [pure, Except.pure]
  | cons a rest ih =>
    rw [List.mapM_cons]
    cases ha : f a with
    | error own =>
      simp only [bind, Except.bind, Except.error.injEq]
      constructor
      · rintro rfl
        exact ⟨[], a, rest, rfl, List.forall_mem_nil _, ha⟩
      · rintro ⟨before, b, after, hsplit, hbefore, hb⟩
        cases before with
        | nil =>
          cases hsplit
          exact Except.error.inj (ha.symm.trans hb)
        | cons c more =>
          cases hsplit
          obtain ⟨r, hr⟩ := hbefore a List.mem_cons_self
          rw [ha] at hr
          cases hr
    | ok r =>
      have hrest : (do let bs ← rest.mapM f; pure (r :: bs)) = Except.error e ↔ rest.mapM f = .error e := by
        cases rest.mapM f <;> simp [bind, Except.bind, pure, Except.pure]
      change (do let bs ← rest.mapM f; pure (r :: bs)) = Except.error e ↔ _
      rw [hrest, ih]
      constructor
      · rintro ⟨before, b, after, rfl, hbefore, hb⟩
        exact ⟨a :: before, b, after, rfl, List.forall_mem_cons.2 ⟨⟨r, ha⟩, hbefore⟩, hb⟩
      · rintro ⟨before, b, after, hsplit, hbefore, hb⟩
        cases before with
        | nil =>
          cases hsplit
          rw [ha] at hb
          cases hb
        | cons c more =>
          cases hsplit
          exact ⟨more, b, after, rfl, (List.forall_mem_cons.1 hbefore).2, hb⟩

/-- An item of a list with one more at its end is the last one, or it stands in the list. -/
theorem split_concat {before after : List α} {last a : α} (h : items ++ [last] = before ++ a :: after) :
    (before = items ∧ a = last ∧ after = []) ∨ ∃ between, after = between ++ [last] ∧
      items = before ++ a :: between := by
  rcases List.eq_nil_or_concat after with rfl | ⟨between, b, rfl⟩
  · obtain ⟨rfl, hlast⟩ := List.append_inj' h rfl
    cases hlast
    exact .inl ⟨rfl, rfl, rfl⟩
  · rw [List.concat_eq_append, ← List.cons_append, ← List.append_assoc] at h
    obtain ⟨rfl, hlast⟩ := List.append_inj' h rfl
    cases hlast
    exact .inr ⟨between, List.concat_eq_append .., rfl⟩

end FeatureCert
