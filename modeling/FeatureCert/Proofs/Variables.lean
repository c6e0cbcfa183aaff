import FeatureCert.Proofs.Merged
import FeatureCert.Proofs.Outcomes
import FeatureCert.Selection.Text

/-!
Selections out of environment variables. The variables that a lead picks out are read in the order of their
keys, so that what comes of them, the pairs or the first fault, does not depend on the order in which the
environment lists them; of variables that give the same name, the one with the greatest key counts.
-/
namespace FeatureCert.Selection

open FeatureCert.Text

variable {lead name : String} {env other : List (String × String)} {b c : String × String}
  {pairs : List (String × Value)} {v : Value} {fault : TextFault}

/-- A key that is the lead and at least one more character. -/
def Extends (lead key : String) : Prop := ∃ rest, rest ≠ [] ∧ key.toList = lead.toList ++ rest

/-- A variable is read as a pair, the name behind the lead and the value. -/
def ReadAs (lead : String) (b : String × String) (p : String × Value) : Prop :=
  parseName (b.1.toList.drop lead.length) b.1 = .ok p.1 ∧ parseValue b.2 = .ok p.2

/-- A variable is refused for its name, or else for its value. -/
def RefusedAs (lead : String) (b : String × String) (fault : TextFault) : Prop :=
  parseName (b.1.toList.drop lead.length) b.1 = .error fault ∨
    (∃ name, parseName (b.1.toList.drop lead.length) b.1 = .ok name) ∧ parseValue b.2 = .error fault

/-- What comes of an environment, told by the variables that are in it and not by their order. -/
structure Selects (lead : String) (env : List (String × String))
    (outcome : Except TextFault (List (String × Value))) : Prop where
  /-- There is one pair for each variable, in the order of keys. -/
  inOrder : ∀ pairs, outcome = .ok pairs ↔ ∃ picked : List (String × String),
    picked.Pairwise (fun b c => codes b.1 < codes c.1) ∧ (∀ b, b ∈ picked ↔ b ∈ env ∧ Extends lead b.1) ∧
      List.Forall₂ (ReadAs lead) picked pairs
  /-- The fault is that of the least key with one. -/
  firstFault : ∀ fault, outcome = .error fault ↔ ∃ b ∈ env, Extends lead b.1 ∧ RefusedAs lead b fault ∧
    ∀ c ∈ env, Extends lead c.1 → codes c.1 < codes b.1 → ∃ p, ReadAs lead c p
  /-- A name that several variables give is merged to the value of the greatest key. -/
  lastWins : ∀ pairs, outcome = .ok pairs → ∀ name v, (name, v) ∈ merge [pairs] ↔
    ∃ b ∈ env, Extends lead b.1 ∧ ReadAs lead b (name, v) ∧
      ∀ c ∈ env, Extends lead c.1 → codes b.1 < codes c.1 → ∀ w, ¬ ReadAs lead c (name, w)

def byKey (env : List (String × String)) : List (String × String) :=
  env.mergeSort fun a b => inOrder a.1 b.1

/-- The variables that a lead picks out, in the order of their keys. -/
def picked (lead : String) (env : List (String × String)) : List (String × String) :=
  (byKey env).filter fun b => startsWith lead.toList b.1.toList && lead.length < b.1.length

/-- Sorting by key puts keys in order, whichever way equal ones stand. -/
theorem pairwise_byKey (env : List (String × String)) :
    (byKey env).Pairwise fun a b => ¬ codes b.1 < codes a.1 := by
  have htrans (a b c : String × String) (hab : inOrder a.1 b.1 = true) (hbc : inOrder b.1 c.1 = true) :
      inOrder a.1 c.1 = true := by
    rw [inOrder_iff] at hab hbc ⊢
    exact List.le_trans hab hbc
  have htotal (a b : String × String) : (inOrder a.1 b.1 || inOrder b.1 a.1) = true := by
    rw [Bool.or_eq_true, inOrder_iff, inOrder_iff]
    exact List.le_total (codes a.1) (codes b.1)
  exact (List.pairwise_mergeSort htrans htotal env).imp inOrder_iff.1

/-- Bindings in the order of keys stay as they are. -/
theorem byKey_of_pairwise {env : List (String × String)} (h : env.Pairwise fun a b => inOrder a.1 b.1 = true) :
    byKey env = env :=
  List.mergeSort_of_pairwise h

/-- Environments with the same variables are in the same order of keys. -/
theorem byKey_eq_of_perm (hdistinct : (env.map (·.1)).Nodup) (hsame : env.Perm other) :
    byKey other = byKey env := by
  have hperm : (byKey other).Perm (byKey env) :=
    (List.mergeSort_perm other _).trans (hsame.symm.trans (List.mergeSort_perm env _).symm)
  refine hperm.eq_of_pairwise ?_ (pairwise_byKey other) (pairwise_byKey env)
  intro a b ha hb hab hba
  have hkeys : a.1 = b.1 := codes_inj.1 (List.le_antisymm hab hba)
  have hmem {x : String × String} (hx : x ∈ byKey env) : x ∈ env :=
    (List.mergeSort_perm env _).mem_iff.1 hx
  exact List.inj_on_of_nodup_map hdistinct (hmem (hperm.mem_iff.1 ha)) (hmem hb) hkeys

theorem extends_iff {key : String} :
    Extends lead key ↔ (startsWith lead.toList key.toList && decide (lead.length < key.length)) = true := by
  rw [Bool.and_eq_true, decide_eq_true_eq, startsWith, List.isPrefixOf_iff_prefix]
  constructor
  · rintro ⟨rest, hrest, hkey⟩
    refine ⟨⟨rest, hkey.symm⟩, ?_⟩
    have hlength := congrArg List.length hkey
    have hpos := List.length_pos_of_ne_nil hrest
    simp only [List.length_append, String.length_toList] at hlength
    omega
  · rintro ⟨⟨rest, hkey⟩, hlt⟩
    refine ⟨rest, ?_, hkey.symm⟩
    rintro rfl
    rw [List.append_nil, String.toList_inj] at hkey
    rw [hkey] at hlt
    exact Nat.lt_irrefl _ hlt

theorem mem_picked : b ∈ picked lead env ↔ b ∈ env ∧ Extends lead b.1 := by
  rw [picked, List.mem_filter, byKey, List.mem_mergeSort, extends_iff]

theorem pairwise_picked (lead : String) (hdistinct : (env.map (·.1)).Nodup) :
    (picked lead env).Pairwise fun b c => codes b.1 < codes c.1 := by
  have hkeys : ((byKey env).map (·.1)).Nodup :=
    ((List.mergeSort_perm env _).map _).nodup_iff.2 hdistinct
  rw [List.Nodup, List.pairwise_map] at hkeys
  refine List.Pairwise.filter _ ((pairwise_byKey env).imp₂ (fun b c hle hne => ?_) hkeys)
  exact List.not_le.1 fun hge => hne (codes_inj.1 (List.le_antisymm hle hge))

def readVariable (lead : String) (b : String × String) : Except TextFault (String × Value) := do
  let name ← parseName (b.1.toList.drop lead.length) b.1
  return (name, ← parseValue b.2)

theorem fromEnvironment_eq (lead : String) (env : List (String × String)) :
    fromEnvironment lead env = (picked lead env).mapM (readVariable lead) :=
  rfl

theorem readVariable_eq_ok_iff {p : String × Value} : readVariable lead b = .ok p ↔ ReadAs lead b p := by
  rw [readVariable, ReadAs]
  cases parseName (b.1.toList.drop lead.length) b.1 <;> cases parseValue b.2 <;>
    simp [bind, Except.bind, pure, Except.pure, Prod.ext_iff]

theorem readVariable_eq_error_iff : readVariable lead b = .error fault ↔ RefusedAs lead b fault := by
  rw [readVariable, RefusedAs]
  cases parseName (b.1.toList.drop lead.length) b.1 <;> cases parseValue b.2 <;>
    simp [bind, Except.bind, pure, Except.pure]

theorem ReadAs.unique {p q : String × Value} (hp : ReadAs lead b p) (hq : ReadAs lead b q) : p = q :=
  Except.ok.inj ((readVariable_eq_ok_iff.2 hp).symm.trans (readVariable_eq_ok_iff.2 hq))

theorem fromEnvironment_eq_ok_iff :
    fromEnvironment lead env = .ok pairs ↔ List.Forall₂ (ReadAs lead) (picked lead env) pairs := by
  rw [fromEnvironment_eq, mapM_eq_ok_iff]
  exact forall₂_congr_of_mem fun _ _ _ => readVariable_eq_ok_iff

/-- A list in the order of keys that has the variables of an environment is the one that is read. -/
theorem eq_picked {vars : List (String × String)} (hdistinct : (env.map (·.1)).Nodup)
    (horder : vars.Pairwise fun b c => codes b.1 < codes c.1)
    (hmem : ∀ b, b ∈ vars ↔ b ∈ env ∧ Extends lead b.1) : vars = picked lead env := by
  have hnodup {vars : List (String × String)} (h : vars.Pairwise fun b c => codes b.1 < codes c.1) :
      vars.Nodup := by
    refine List.Pairwise.imp (fun hlt he => ?_) h
    rw [he] at hlt
    exact List.lt_irrefl _ hlt
  have hpicked := pairwise_picked lead hdistinct
  have hperm : vars.Perm (picked lead env) := by
    rw [List.perm_ext_iff_of_nodup (hnodup horder) (hnodup hpicked)]
    exact fun b => (hmem b).trans mem_picked.symm
  exact hperm.eq_of_pairwise (fun b c _ _ hbc hcb => absurd hbc (List.lt_asymm hcb)) horder hpicked

/-- Where keys differ, the order of keys leaves one list of variables to read. -/
theorem inOrder_fromEnvironment (hdistinct : (env.map (·.1)).Nodup) :
    fromEnvironment lead env = .ok pairs ↔ ∃ vars : List (String × String),
      vars.Pairwise (fun b c => codes b.1 < codes c.1) ∧ (∀ b, b ∈ vars ↔ b ∈ env ∧ Extends lead b.1) ∧
        List.Forall₂ (ReadAs lead) vars pairs := by
  rw [fromEnvironment_eq_ok_iff]
  constructor
  · exact fun h => ⟨_, pairwise_picked lead hdistinct, fun b => mem_picked, h⟩
  · rintro ⟨vars, horder, hmem, h⟩
    rwa [eq_picked hdistinct horder hmem] at h

/-- In the order of keys, the variables in front of one are those with smaller keys, and those behind it
have greater ones. -/
theorem mem_around {before after : List (String × String)} (hdistinct : (env.map (·.1)).Nodup)
    (hsplit : picked lead env = before ++ b :: after) (hc : c ∈ env) (hkey : Extends lead c.1) :
    (c ∈ before ↔ codes c.1 < codes b.1) ∧ (c ∈ after ↔ codes b.1 < codes c.1) := by
  have horder := pairwise_picked lead hdistinct
  rw [hsplit, List.pairwise_append, List.pairwise_cons] at horder
  obtain ⟨_, ⟨hafter, _⟩, hbefore⟩ := horder
  have hfront (h : c ∈ before) : codes c.1 < codes b.1 := hbefore c h b List.mem_cons_self
  have hmem : c ∈ before ++ b :: after := hsplit ▸ mem_picked.2 ⟨hc, hkey⟩
  rw [List.mem_append, List.mem_cons] at hmem
  refine ⟨⟨hfront, fun hlt => ?_⟩, ⟨hafter c, fun hlt => ?_⟩⟩
  · rcases hmem with h | rfl | h
    · exact h
    · exact absurd hlt (List.lt_irrefl _)
    · exact absurd hlt (List.lt_asymm (hafter c h))
  · rcases hmem with h | rfl | h
    · exact absurd hlt (List.lt_asymm (hfront h))
    · exact absurd hlt (List.lt_irrefl _)
    · exact h

/-- The fault that is told is that of the least key that is refused. -/
theorem firstFault_fromEnvironment (hdistinct : (env.map (·.1)).Nodup) :
    fromEnvironment lead env = .error fault ↔ ∃ b ∈ env, Extends lead b.1 ∧ RefusedAs lead b fault ∧
      ∀ c ∈ env, Extends lead c.1 → codes c.1 < codes b.1 → ∃ p, ReadAs lead c p := by
  rw [fromEnvironment_eq, mapM_eq_error_iff]
  simp only [readVariable_eq_ok_iff, readVariable_eq_error_iff]
  constructor
  · rintro ⟨before, b, after, hsplit, hbefore, hb⟩
    obtain ⟨hmem, hkey⟩ := mem_picked.1 (hsplit ▸ List.mem_append_right before List.mem_cons_self)
    exact ⟨b, hmem, hkey, hb, fun c hc hextends hlt =>
      hbefore c ((mem_around hdistinct hsplit hc hextends).1.2 hlt)⟩
  · rintro ⟨b, hmem, hkey, hb, hsmaller⟩
    obtain ⟨before, after, hsplit⟩ := List.append_of_mem (mem_picked.2 ⟨hmem, hkey⟩)
    refine ⟨before, b, after, hsplit, fun c hc => ?_, hb⟩
    obtain ⟨hcmem, hckey⟩ := mem_picked.1 (hsplit ▸ List.mem_append_left _ hc)
    exact hsmaller c hcmem hckey ((mem_around hdistinct hsplit hcmem hckey).1.1 hc)

/-- The last pair of a name comes from the greatest key that gives it. -/
theorem isLastPair_fromEnvironment (hdistinct : (env.map (·.1)).Nodup)
    (h : fromEnvironment lead env = .ok pairs) :
    IsLastPair pairs name v ↔ ∃ b ∈ env, Extends lead b.1 ∧ ReadAs lead b (name, v) ∧
      ∀ c ∈ env, Extends lead c.1 → codes b.1 < codes c.1 → ∀ w, ¬ ReadAs lead c (name, w) := by
  have hread := fromEnvironment_eq_ok_iff.1 h
  constructor
  · rintro ⟨before, after, rfl, hafter⟩
    obtain ⟨front, b, back, hsplit, hb, hback⟩ := exists_split_of_forall₂ hread
    obtain ⟨hmem, hkey⟩ := mem_picked.1 (hsplit ▸ List.mem_append_right front List.mem_cons_self)
    refine ⟨b, hmem, hkey, hb, fun c hc hextends hlt w hw => ?_⟩
    obtain ⟨q, hq, hq'⟩ :=
      exists_of_mem_forall₂ hback.flip ((mem_around hdistinct hsplit hc hextends).2.2 hlt)
    exact hafter q hq (congrArg Prod.fst (ReadAs.unique hq' hw))
  · rintro ⟨b, hmem, hkey, hb, hgreater⟩
    obtain ⟨front, back, hsplit⟩ := List.append_of_mem (mem_picked.2 ⟨hmem, hkey⟩)
    obtain ⟨before, p, after, rfl, hp, hafter⟩ := exists_split_of_forall₂ (hsplit ▸ hread).flip
    obtain rfl := hb.unique hp
    refine ⟨before, after, rfl, fun q hq hname => ?_⟩
    obtain ⟨c, hc, hread⟩ := exists_of_mem_forall₂ hafter.flip hq
    obtain ⟨hcmem, hckey⟩ := mem_picked.1 (hsplit ▸ List.mem_append_right front (.tail _ hc))
    exact hgreater c hcmem hckey ((mem_around hdistinct hsplit hcmem hckey).2.1 hc) q.2 (hname ▸ hread)

theorem selects_fromEnvironment (hdistinct : (env.map (·.1)).Nodup) :
    Selects lead env (fromEnvironment lead env) where
  inOrder _ := inOrder_fromEnvironment hdistinct
  firstFault _ := firstFault_fromEnvironment hdistinct
  lastWins pairs h name v := by
    rw [merge, List.flatten_singleton, mem_collect_iff]
    exact isLastPair_fromEnvironment hdistinct h

/-- Environments with the same variables select the same, or are refused for the same variable. -/
theorem fromEnvironment_orderless (lead : String) (hdistinct : (env.map (·.1)).Nodup)
    (hsame : env.Perm other) : fromEnvironment lead other = fromEnvironment lead env ∧
      Selects lead env (fromEnvironment lead env) := by
  refine ⟨?_, selects_fromEnvironment hdistinct⟩
  rw [fromEnvironment_eq, fromEnvironment_eq, picked, picked, byKey_eq_of_perm hdistinct hsame]

/-- Two of these variables give the same name, and one that is not picked out would be refused. -/
theorem fromEnvironment_orderless_of_reversed :
    let env := [("SET_", "?"), ("SET_A", "off"), ("SET_A ", "1")]
    let other := [("SET_A ", "1"), ("SET_A", "off"), ("SET_", "?")]
    (env.map (·.1)).Nodup ∧ env.Perm other ∧ fromEnvironment "SET_" other = fromEnvironment "SET_" env ∧
      Selects "SET_" env (fromEnvironment "SET_" env) ∧
      fromEnvironment "SET_" env = .ok [("A", .bool false), ("A", .int 1)] := by
  intro env other
  have hdistinct : (env.map (·.1)).Nodup := by decide
  have hsame : env.Perm other := (List.reverse_perm env).symm
  have hsorted : byKey env = env := byKey_of_pairwise (by decide)
  have houtcome : fromEnvironment "SET_" env = .ok [("A", .bool false), ("A", .int 1)] := by
    rw [fromEnvironment_eq, picked, hsorted]
    rfl
  obtain ⟨horder, hselects⟩ := fromEnvironment_orderless "SET_" hdistinct hsame
  exact ⟨hdistinct, hsame, horder, hselects, houtcome⟩

end FeatureCert.Selection
