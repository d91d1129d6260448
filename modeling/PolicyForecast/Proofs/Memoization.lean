import PolicyForecast.Proofs.Unfolding

/-!
# Resolution with kept sets

Sets that are kept are *sound* when each is kept under its id as its unfolding. From sound sets a
resolution has the outcome that it would have if nothing was kept, and it leaves sound sets behind
also when it stops (`Follows`). What makes this work is that a set with an unfolding leads to none
of the sets on the way down to it, so the way down has no influence on it.

Main statement: after any resolutions, a resolution stops with a cycle exactly if a cycle can be
reached from the set, and comes to the unfolding of the set otherwise (`set_exact`).
-/

namespace PolicyForecast.Rules

variable {rules : Rules} {α β : Type}

/-- Each set is kept under its id and is unfolded. -/
def Sound (rules : Rules) (sets : SetCache) : Prop :=
  ∀ id set, sets.get? id = some set → rules.Unfolds id set

lemma sound_empty : rules.Sound ∅ := by
  intro id set h
  simp at h

lemma Sound.insert {sets : SetCache} {id : String} {set : RequirementSet} (h : rules.Sound sets)
    (hset : rules.Unfolds id set) : rules.Sound (sets.insert id set) := by
  intro id' set' hget
  rw [OrderedMap.get?_insert] at hget
  split at hget
  next heq =>
    obtain rfl := eq_of_beq heq
    obtain rfl := Option.some.inj hget
    exact hset
  next => exact h id' set' hget

/-- From sound sets a resolution has a certain outcome, and it leaves sound sets. -/
def Follows (rules : Rules) (x : Resolving α) (outcome : Except Fault α) : Prop :=
  ∀ sets, rules.Sound sets →
    (x.run.run sets).1 = outcome ∧ rules.Sound (x.run.run sets).2

lemma follows_pure (a : α) : rules.Follows (pure a) (.ok a) :=
  fun _ h => ⟨rfl, h⟩

lemma Follows.bind_ok {x : Resolving α} {f : α → Resolving β} {a : α} {outcome : Except Fault β}
    (hx : rules.Follows x (.ok a)) (hf : rules.Follows (f a) outcome) :
    rules.Follows (x >>= f) outcome := by
  intro sets hsets
  obtain ⟨hresult, hleft⟩ := hx sets hsets
  rw [ExceptT.run_bind, StateT.run_bind]
  rcases hrun : x.run.run sets with ⟨result, left⟩
  rw [hrun] at hresult hleft
  obtain rfl : result = .ok a := hresult
  exact hf left hleft

lemma Follows.bind_error {x : Resolving α} {fault : Fault} (hx : rules.Follows x (.error fault))
    (f : α → Resolving β) : rules.Follows (x >>= f) (.error fault) := by
  intro sets hsets
  obtain ⟨hresult, hleft⟩ := hx sets hsets
  rw [ExceptT.run_bind, StateT.run_bind]
  rcases hrun : x.run.run sets with ⟨result, left⟩
  rw [hrun] at hresult hleft
  obtain rfl : result = .error fault := hresult
  exact ⟨rfl, hleft⟩

lemma Follows.bind {x : Resolving α} {f : α → Resolving β} {outcome : Except Fault α}
    {g : α → Except Fault β} (hx : rules.Follows x outcome)
    (hf : ∀ a, outcome = .ok a → rules.Follows (f a) (g a)) :
    rules.Follows (x >>= f) (outcome >>= g) := by
  cases outcome with
  | error fault => exact hx.bind_error f
  | ok a => exact hx.bind_ok (hf a rfl)

/-- `mapM` of steps that follow outcomes follows `mapM` of the outcomes. -/
lemma follows_mapM {f : α → Resolving β} {g : α → Except Fault β} {as : List α}
    (h : ∀ a ∈ as, rules.Follows (f a) (g a)) : rules.Follows (as.mapM f) (as.mapM g) := by
  induction as with
  | nil => exact follows_pure []
  | cons a rest ih =>
    rw [List.forall_mem_cons] at h
    rw [List.mapM_cons, List.mapM_cons]
    exact h.1.bind fun b _ => (ih h.2).bind fun bs _ => follows_pure (b :: bs)

/-- `resolveRequirement` follows the outcome of what the requirement `StandsFor`. -/
lemma follows_resolveRequirement {nested : String → Resolving RequirementSet}
    {outcome : String → Except Fault RequirementSet} {requirement : Option String}
    (h : ∀ id, rules.StandsFor requirement id → rules.Follows (nested id) (outcome id)) :
    rules.Follows (rules.resolveRequirement nested requirement)
      (rules.resolveRequirement outcome requirement) := by
  cases hid : rules.setOfRequirement? requirement with
  | none =>
    rw [resolveRequirement_of_none hid, resolveRequirement_of_none hid]
    exact follows_pure _
  | some id =>
    rw [resolveRequirement_of_some hid, resolveRequirement_of_some hid]
    exact (h id (setOfRequirement?_eq_some.1 hid)).bind fun set _ => follows_pure _

lemma run_get_bind (f : SetCache → Resolving α) (sets : SetCache) :
    (get >>= f : Resolving α).run.run sets = (f sets).run.run sets := rfl

/-- A set that is kept under an id may be taken for the outcome if that is `Unfolds`. -/
lemma follows_kept {id : String} {x : Resolving RequirementSet}
    {outcome : Except Fault RequirementSet}
    (hkept : ∀ set, rules.Unfolds id set → outcome = .ok set) (hx : rules.Follows x outcome) :
    rules.Follows (do
      match (← get).get? id with
      | some set => return set
      | none => x) outcome := by
  intro sets hsets
  rw [run_get_bind]
  cases hget : sets.get? id with
  | none => exact hx sets hsets
  | some set => exact ⟨(hkept set (hsets id set hget)).symm, hsets⟩

lemma follows_keep {id : String} {set : RequirementSet} (h : rules.Unfolds id set) :
    rules.Follows (do modify (·.insert id set); return set) (.ok set) :=
  fun _ hsets => ⟨rfl, hsets.insert h⟩

lemma resolveSet_of_mem {fuel : Nat} {above : List String} {id : String} (h : id ∈ above) :
    rules.resolveSet (fuel + 1) above id = throw (.requirementSetCycle (above ++ [id])) := by
  rw [resolveSet, if_pos (List.contains_iff_mem.2 h)]
  rfl

lemma resolveSet_of_not_mem {fuel : Nat} {above : List String} {id : String} (h : id ∉ above) :
    rules.resolveSet (fuel + 1) above id = (do
      match (← get).get? id with
      | some set => return set
      | none =>
        let requirements ← (rules.requirementIdsOfSet id).mapM
          (rules.resolveRequirement (rules.resolveSet fuel (above ++ [id])))
        let set : RequirementSet := { id := some id, type := rules.typeOfSet id, requirements }
        modify (·.insert id set)
        return set) := by
  unfold resolveSet
  exact if_neg fun hc => h (List.contains_iff_mem.1 hc)

/-- On a `WayDown`, `resolveSet` follows `unfoldSet`. -/
lemma follows_resolveSet {fuel : Nat} {above : List String} {id : String}
    (h : rules.WayDown fuel above id) :
    rules.Follows (rules.resolveSet fuel above id) (rules.unfoldSet fuel above id) := by
  -- induction on the bound, with the kept sets left open: those that a requirement leaves are the
  -- ones that the next requirement begins with
  induction fuel generalizing above id with
  | zero => exact absurd h.fuel_pos (Nat.lt_irrefl 0)
  | succ fuel ih =>
    by_cases hmem : id ∈ above
    · rw [resolveSet_of_mem hmem, unfoldSet_of_mem hmem]
      exact fun _ hsets => ⟨rfl, hsets⟩
    · have hcases := unfoldSet_cases h
      rw [resolveSet_of_not_mem hmem]
      -- a kept set has an unfolding, so that the search comes to the same on this way down
      refine follows_kept (fun set hset => unfoldSet_of_unfolds h hset) ?_
      rw [unfoldSet_of_not_mem hmem] at hcases ⊢
      have hbelow : rules.Follows
          ((rules.requirementIdsOfSet id).mapM
            (rules.resolveRequirement (rules.resolveSet fuel (above ++ [id]))))
          ((rules.requirementIdsOfSet id).mapM
            (rules.resolveRequirement (rules.unfoldSet fuel (above ++ [id])))) :=
        follows_mapM fun requirement hrequirement =>
          follows_resolveRequirement fun below hset =>
            ih (h.step hmem ⟨requirement, hrequirement, hset⟩)
      refine hbelow.bind fun requirements hrequirements => ?_
      -- the requirements are all there, so what is kept is an unfolding
      rw [hrequirements] at hcases
      rcases hcases with ⟨set, hset, hunfolds⟩ | ⟨chain, hchain, -⟩
      · obtain rfl := Except.ok.inj hset
        exact follows_keep hunfolds
      · cases hchain

/-! ## Sequences of resolutions -/

/-- The outcome of a resolution when nothing is kept. -/
def unfold (rules : Rules) (id : Option String) : Except Fault RequirementSet :=
  match id.filter (· ≠ "") with
  | none => .ok {}
  | some id => rules.unfoldSet (rules.requirementLinks.length + 1) [] id

/-- `set` follows `unfold`, whatever is kept. -/
lemma follows_set (rules : Rules) (id : Option String) :
    rules.Follows (rules.set id) (rules.unfold id) := by
  unfold set Rules.unfold
  cases id.filter (· ≠ "") with
  | none => exact follows_pure _
  | some id => exact follows_resolveSet (.start rules id)

/-- `unfold` fails with a `requirementSetCycle` only. -/
lemma unfold_cases (id : Option String) :
    (∃ set, rules.unfold id = .ok set) ∨
      ∃ chain, rules.unfold id = .error (.requirementSetCycle chain) := by
  unfold Rules.unfold
  cases id.filter (· ≠ "") with
  | none => exact .inl ⟨_, rfl⟩
  | some id =>
    rcases unfoldSet_cases (.start rules id) with ⟨set, hset, -⟩ | ⟨chain, hchain, -⟩
    · exact .inl ⟨set, hset⟩
    · exact .inr ⟨chain, hchain⟩

/-- `resolveRecord` follows a modifier with the id, or a `requirementSetCycle`. -/
lemma follows_resolveRecord (rules : Rules) (id : String) (record : ModifierRecord) :
    (∃ m, m.id = id ∧ rules.Follows (rules.resolveRecord id record) (.ok m)) ∨
      ∃ chain,
        rules.Follows (rules.resolveRecord id record) (.error (.requirementSetCycle chain)) := by
  have hsubject := follows_set rules record.subjectSet
  have howner := follows_set rules record.ownerSet
  unfold resolveRecord
  rcases unfold_cases record.subjectSet with ⟨subjectSet, hset⟩ | ⟨chain, hchain⟩
  · rw [hset] at hsubject
    rcases unfold_cases record.ownerSet with ⟨ownerSet, hset⟩ | ⟨chain, hchain⟩
    · rw [hset] at howner
      exact .inl ⟨_, rfl, hsubject.bind_ok (howner.bind_ok (follows_pure _))⟩
    · rw [hchain] at howner
      exact .inr ⟨chain, hsubject.bind_ok (howner.bind_error _)⟩
  · rw [hchain] at hsubject
    exact .inr ⟨chain, hsubject.bind_error _⟩

/-- The ids of all modifiers. -/
def modifierIds (rules : Rules) : List String :=
  rules.modifiers.filterMap ModifierRecord.id

lemma mem_modifierIds {id : String} {record : ModifierRecord}
    (h : rules.modifier? (some id) = some record) : id ∈ rules.modifierIds := by
  have hkey := List.find?_some h
  simp only [keyMatches, Option.isSome_some, Bool.true_and, beq_iff_eq] at hkey
  exact List.mem_filterMap.2 ⟨record, List.mem_of_find?_eq_some h, hkey⟩

/-- `resolveModifier?` follows nothing, a modifier with the id, or a `requirementSetCycle`. -/
lemma follows_resolveModifier? (rules : Rules) (id : Option String) :
    (∃ found, (∀ m ∈ found, some m.id = id ∧ m.id ∈ rules.modifierIds) ∧
      rules.Follows (rules.resolveModifier? id) (.ok found)) ∨
    ∃ chain, rules.Follows (rules.resolveModifier? id) (.error (.requirementSetCycle chain)) := by
  unfold resolveModifier?
  split
  next id record hrecord =>
    rw [map_eq_pure_bind]
    rcases follows_resolveRecord rules id record with ⟨m, hid, hm⟩ | ⟨chain, hchain⟩
    · refine .inl ⟨some m, fun m' hm' => ?_, hm.bind_ok (follows_pure _)⟩
      obtain rfl : m = m' := Option.some.inj hm'
      exact ⟨congrArg some hid, hid ▸ mem_modifierIds hrecord⟩
    · exact .inr ⟨chain, hchain.bind_error _⟩
  next => exact .inl ⟨none, by simp, follows_pure _⟩

/-- The set `KNOT` has one requirement, which stands for `KNOT`. -/
def knot : Rules where
  requirementLinks := [⟨some "KNOT", some "AGAIN"⟩]
  requirements := [⟨some "AGAIN", some setIsMet, false⟩]
  requirementArguments :=
    [⟨some "AGAIN", { name := some "RequirementSetId", value := some "KNOT" }⟩]

end PolicyForecast.Rules
