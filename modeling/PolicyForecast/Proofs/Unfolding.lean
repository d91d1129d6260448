import Mathlib.Data.List.Nodup
import Mathlib.Data.List.Perm.Subperm
import PolicyForecast.Proofs.SetGraph

/-!
# Resolution without a cache

The search for cycles alone: `unfoldSet` resolves a set as `resolveSet` does, but keeps nothing on
the way. Main statement: below sets that lead to it, and with a bound that suffices for its way
down, a set is unfolded if it has an unfolding, and stops with a cycle if one can be reached from it
(`unfoldSet_cases`). In particular it never comes to its bound.
-/

namespace PolicyForecast.Rules

open Relation

variable {rules : Rules}

/-- The set of an id, below the sets on the way down to it, with nothing kept. -/
def unfoldSet (rules : Rules) :
    (fuel : Nat) → (above : List String) → String → Except Fault RequirementSet
  | 0, _, _ => throw .tooDeep
  | fuel + 1, above, id => do
    if above.contains id then throw (.requirementSetCycle (above ++ [id]))
    let nested := unfoldSet rules fuel (above ++ [id])
    let requirements ← (rules.requirementIdsOfSet id).mapM (rules.resolveRequirement nested)
    return { id := some id, type := rules.typeOfSet id, requirements }

/-- `unfoldSet` of a set below itself is a `requirementSetCycle`. -/
lemma unfoldSet_of_mem {fuel : Nat} {above : List String} {id : String} (h : id ∈ above) :
    rules.unfoldSet (fuel + 1) above id = .error (.requirementSetCycle (above ++ [id])) := by
  rw [unfoldSet, if_pos (List.contains_iff_mem.2 h)]
  rfl

lemma unfoldSet_of_not_mem {fuel : Nat} {above : List String} {id : String} (h : id ∉ above) :
    rules.unfoldSet (fuel + 1) above id
      = (rules.requirementIdsOfSet id).mapM
          (rules.resolveRequirement (rules.unfoldSet fuel (above ++ [id])))
        >>= fun requirements =>
          pure { id := some id, type := rules.typeOfSet id, requirements } := by
  rw [unfoldSet, if_neg (fun hc => h (List.contains_iff_mem.1 hc))]

/-! ## Ways down -/

/-- The sets that have links to requirements. -/
def linkedSets (rules : Rules) : List String :=
  rules.requirementLinks.filterMap RequirementLink.set

lemma mem_linkedSets {id : String} {requirement : Option String}
    (h : requirement ∈ rules.requirementIdsOfSet id) : id ∈ rules.linkedSets := by
  simp only [requirementIdsOfSet, List.mem_map, List.mem_filter, keyMatches] at h
  obtain ⟨link, ⟨hlink, hkey⟩, -⟩ := h
  exact List.mem_filterMap.2 ⟨link, hlink, by simpa using hkey⟩

/-- A way down to a set: no set is on it twice, all have links, each leads to the set by references,
and the bound that remains suffices for all other sets. -/
structure WayDown (rules : Rules) (fuel : Nat) (above : List String) (id : String) : Prop where
  nodup : above.Nodup
  linked : ∀ a ∈ above, a ∈ rules.linkedSets
  leads : ∀ a ∈ above, TransGen rules.Refers a id
  fuel_le : rules.requirementLinks.length + 1 ≤ fuel + above.length

lemma WayDown.start (rules : Rules) (id : String) :
    rules.WayDown (rules.requirementLinks.length + 1) [] id where
  nodup := List.nodup_nil
  linked := by simp
  leads := by simp
  fuel_le := by simp

lemma WayDown.fuel_pos {fuel : Nat} {above : List String} {id : String}
    (h : rules.WayDown fuel above id) : 0 < fuel := by
  have hlength : above.length ≤ rules.linkedSets.length :=
    (List.subperm_of_subset h.nodup h.linked).length_le
  have hlinks : rules.linkedSets.length ≤ rules.requirementLinks.length :=
    List.length_filterMap_le _ _
  have hfuel := h.fuel_le
  omega

/-- A `WayDown` goes on to what the set `Refers` to, with one less fuel. -/
lemma WayDown.step {fuel : Nat} {above : List String} {id below : String}
    (h : rules.WayDown (fuel + 1) above id) (hnew : id ∉ above) (hstep : rules.Refers id below) :
    rules.WayDown fuel (above ++ [id]) below where
  nodup := by
    rw [← List.concat_eq_append]
    exact List.Nodup.concat hnew h.nodup
  linked := by
    obtain ⟨requirement, hmem, -⟩ := hstep
    rw [List.forall_mem_append, List.forall_mem_singleton]
    exact ⟨h.linked, mem_linkedSets hmem⟩
  leads := by
    rw [List.forall_mem_append, List.forall_mem_singleton]
    exact ⟨fun a ha => (h.leads a ha).tail hstep, TransGen.single hstep⟩
  fuel_le := by
    have hfuel := h.fuel_le
    simp only [List.length_append, List.length_singleton]
    omega

/-! ## Outcomes -/

/-- A set is unfolded, or it is found that a cycle can be reached from it. -/
def Unfolded (rules : Rules) (id : String) (outcome : Except Fault RequirementSet) : Prop :=
  (∃ set, outcome = .ok set ∧ rules.Unfolds id set) ∨
    ∃ chain, outcome = .error (.requirementSetCycle chain) ∧ rules.ReachesCycle id

lemma resolveRequirement_of_none {m : Type → Type} [Monad m] {nested : String → m RequirementSet}
    {requirement : Option String} (h : rules.setOfRequirement? requirement = none) :
    rules.resolveRequirement nested requirement
      = pure (.leaf (rules.requirementHead requirement)) := by
  simp only [resolveRequirement, h]

lemma resolveRequirement_of_some {m : Type → Type} [Monad m] {nested : String → m RequirementSet}
    {requirement : Option String} {id : String}
    (h : rules.setOfRequirement? requirement = some id) :
    rules.resolveRequirement nested requirement
      = nested id >>= fun set => pure (.ofSet (rules.requirementHead requirement) id set) := by
  simp only [resolveRequirement, h]

/-- `resolveRequirement` gives a tree that `UnfoldsAll` can begin with, or the cycle of the set that
the requirement `StandsFor`. -/
lemma resolveRequirement_cases {nested : String → Except Fault RequirementSet}
    {requirement : Option String}
    (hnested : ∀ id, rules.StandsFor requirement id → rules.Unfolded id (nested id)) :
    (∃ tree, rules.resolveRequirement nested requirement = .ok tree ∧
      ∀ {requirements trees}, rules.UnfoldsAll requirements trees →
        rules.UnfoldsAll (requirement :: requirements) (tree :: trees)) ∨
    ∃ chain id, rules.resolveRequirement nested requirement = .error (.requirementSetCycle chain) ∧
      rules.StandsFor requirement id ∧ rules.ReachesCycle id := by
  cases hid : rules.setOfRequirement? requirement with
  | none =>
    rw [resolveRequirement_of_none hid]
    exact .inl ⟨_, rfl, fun hrest => .leaf (setOfRequirement?_eq_none.1 hid) hrest⟩
  | some id =>
    rw [resolveRequirement_of_some hid]
    rw [setOfRequirement?_eq_some] at hid
    rcases hnested id hid with ⟨set, hset, hunfolds⟩ | ⟨chain, hchain, hcycle⟩
    · refine .inl ⟨.ofSet (rules.requirementHead requirement) id set, by rw [hset]; rfl, ?_⟩
      intro requirements trees hrest
      rw [Requirement.ofSet, hunfolds.type_eq]
      exact .nested hid hunfolds.requirements hrest
    · exact .inr ⟨chain, id, by rw [hchain]; rfl, hid, hcycle⟩

/-- `mapM` of `resolveRequirement` gives `UnfoldsAll`, or the first cycle. -/
lemma mapM_resolveRequirement_cases {nested : String → Except Fault RequirementSet}
    {requirements : List (Option String)}
    (hnested : ∀ requirement ∈ requirements, ∀ id, rules.StandsFor requirement id →
      rules.Unfolded id (nested id)) :
    (∃ trees, requirements.mapM (rules.resolveRequirement nested) = .ok trees ∧
      rules.UnfoldsAll requirements trees) ∨
    ∃ chain, requirements.mapM (rules.resolveRequirement nested)
        = .error (.requirementSetCycle chain) ∧
      ∃ requirement ∈ requirements, ∃ id, rules.StandsFor requirement id ∧
        rules.ReachesCycle id := by
  induction requirements with
  | nil => exact .inl ⟨[], rfl, .nil⟩
  | cons requirement rest ih =>
    rw [List.forall_mem_cons] at hnested
    rw [List.mapM_cons]
    rcases resolveRequirement_cases hnested.1 with ⟨tree, htree, hunfolds⟩ | ⟨chain, id, hchain, h⟩
    · rw [htree]
      rcases ih hnested.2 with ⟨trees, htrees, hrest⟩ | ⟨chain, hchain, next, hmem, h⟩
      · exact .inl ⟨tree :: trees, by rw [htrees]; rfl, hunfolds hrest⟩
      · exact .inr ⟨chain, by rw [hchain]; rfl, next, List.mem_cons_of_mem _ hmem, h⟩
    · exact .inr ⟨chain, by rw [hchain]; rfl, requirement, List.mem_cons_self, id, h⟩

/-- On a `WayDown`, `unfoldSet` gives the unfolding or a cycle that can be reached; it does not run
out of fuel. -/
lemma unfoldSet_cases {fuel : Nat} {above : List String} {id : String}
    (h : rules.WayDown fuel above id) : rules.Unfolded id (rules.unfoldSet fuel above id) := by
  -- induction on the bound, which each step down uses up by one
  induction fuel generalizing above id with
  | zero => exact absurd h.fuel_pos (Nat.lt_irrefl 0)
  | succ fuel ih =>
    by_cases hmem : id ∈ above
    · -- the way down leads back to the set, which thereby lies on a cycle
      exact .inr ⟨above ++ [id], unfoldSet_of_mem hmem, id, .refl, h.leads id hmem⟩
    · have hbelow : ∀ requirement ∈ rules.requirementIdsOfSet id, ∀ below,
          rules.StandsFor requirement below →
            rules.Unfolded below (rules.unfoldSet fuel (above ++ [id]) below) :=
        fun requirement hrequirement below hset =>
          ih (h.step hmem ⟨requirement, hrequirement, hset⟩)
      rw [unfoldSet_of_not_mem hmem]
      rcases mapM_resolveRequirement_cases hbelow with
        ⟨trees, htrees, hunfolds⟩ | ⟨chain, hchain, requirement, hrequirement, below, hset, hcycle⟩
      · exact .inl ⟨_, by rw [htrees]; rfl, rfl, rfl, hunfolds⟩
      · have hrefers : rules.Refers id below := ⟨requirement, hrequirement, hset⟩
        exact .inr ⟨chain, by rw [hchain]; rfl, hcycle.of_refers hrefers⟩

/-- On a `WayDown`, `unfoldSet` gives the set that the id `Unfolds` to. -/
lemma unfoldSet_of_unfolds {fuel : Nat} {above : List String} {id : String} {set : RequirementSet}
    (h : rules.WayDown fuel above id) (hset : rules.Unfolds id set) :
    rules.unfoldSet fuel above id = .ok set := by
  rcases unfoldSet_cases h with ⟨set', hset', hunfolds⟩ | ⟨chain, -, hcycle⟩
  · rw [hset', hset.unique hunfolds]
  · exact absurd hcycle hset.not_reachesCycle

end PolicyForecast.Rules
