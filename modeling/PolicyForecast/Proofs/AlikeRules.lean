import PolicyForecast.Proofs.Faithful
import PolicyForecast.Proofs.Sequences

/-!
# The same modifiers in other rules

The resolution of a modifier reads the records of its id and of its type, its arguments, and the
sets that it names with everything below them. Rules that have the same of all these resolve it to
the same modifier (`Rules.resolved_congr`). For a set this is said of all sets that it leads to:
`AlikeSets` relates rules that agree on some sets of which none refers to any other set. They may
have different numbers of links, so that the search for cycles has different bounds; a bound that
suffices may be raised (`unfoldSet_add`).
-/

namespace PolicyForecast.Rules

variable {rules rules' : Rules}

/-! ## Requirement sets -/

/-- `resolveRequirement` is the same for the same `requirementHead` and `nested`s that agree on what
the requirement `StandsFor`. -/
lemma resolveRequirement_congr {nested nested' : String → Except Fault RequirementSet}
    {requirement : Option String}
    (hhead : rules.requirementHead requirement = rules'.requirementHead requirement)
    (hnested : ∀ id, rules.StandsFor requirement id → nested id = nested' id) :
    rules.resolveRequirement nested requirement
      = rules'.resolveRequirement nested' requirement := by
  have hset : rules.setOfRequirement? requirement = rules'.setOfRequirement? requirement := by
    unfold setOfRequirement?
    rw [hhead]
  cases hid : rules.setOfRequirement? requirement with
  | none =>
    rw [resolveRequirement_of_none hid, resolveRequirement_of_none (hset ▸ hid), hhead]
  | some id =>
    rw [resolveRequirement_of_some hid, resolveRequirement_of_some (hset ▸ hid), hhead,
      hnested id (setOfRequirement?_eq_some.1 hid)]

/-- On a `WayDown`, `unfoldSet` does not depend on how much fuel is left. -/
lemma unfoldSet_add {fuel : Nat} {above : List String} {id : String}
    (h : rules.WayDown fuel above id) (extra : Nat) :
    rules.unfoldSet (fuel + extra) above id = rules.unfoldSet fuel above id := by
  -- induction on the bound, as far as the way down goes
  induction fuel generalizing above id with
  | zero => exact absurd h.fuel_pos (Nat.lt_irrefl 0)
  | succ fuel ih =>
    rw [Nat.add_right_comm fuel 1 extra]
    by_cases hmem : id ∈ above
    · rw [unfoldSet_of_mem hmem, unfoldSet_of_mem hmem]
    · have hbelow : ∀ requirement ∈ rules.requirementIdsOfSet id,
          rules.resolveRequirement (rules.unfoldSet (fuel + extra) (above ++ [id])) requirement
            = rules.resolveRequirement (rules.unfoldSet fuel (above ++ [id])) requirement := by
        intro requirement hrequirement
        refine resolveRequirement_congr rfl fun below hset => ?_
        exact ih (h.step hmem ⟨requirement, hrequirement, hset⟩)
      rw [unfoldSet_of_not_mem hmem, unfoldSet_of_not_mem hmem, mapM_congr hbelow]

/-- Rules that have the same of some sets: their types, their requirements and the rows of these.
The sets refer to no others. -/
structure AlikeSets (rules rules' : Rules) (shared : String → Prop) : Prop where
  type : ∀ id, shared id → rules.typeOfSet id = rules'.typeOfSet id
  requirements : ∀ id, shared id → rules.requirementIdsOfSet id = rules'.requirementIdsOfSet id
  heads : ∀ id, shared id → ∀ requirement ∈ rules.requirementIdsOfSet id,
    rules.requirementHead requirement = rules'.requirementHead requirement
  below : ∀ id, shared id → ∀ below, rules.Refers id below → shared below
  links_le : rules.requirementLinks.length ≤ rules'.requirementLinks.length

namespace AlikeSets

variable {shared : String → Prop}

lemma unfoldSet (h : AlikeSets rules rules' shared) {id : String} (hid : shared id) (fuel : Nat)
    (above : List String) : rules.unfoldSet fuel above id = rules'.unfoldSet fuel above id := by
  induction fuel generalizing above id with
  | zero => rfl
  | succ fuel ih =>
    by_cases hmem : id ∈ above
    · rw [unfoldSet_of_mem hmem, unfoldSet_of_mem hmem]
    · have hbelow : ∀ requirement ∈ rules.requirementIdsOfSet id,
          rules.resolveRequirement (rules.unfoldSet fuel (above ++ [id])) requirement
            = rules'.resolveRequirement (rules'.unfoldSet fuel (above ++ [id])) requirement := by
        intro requirement hrequirement
        refine resolveRequirement_congr (h.heads id hid requirement hrequirement)
          fun below hset => ?_
        exact ih (h.below id hid below ⟨requirement, hrequirement, hset⟩) _
      rw [unfoldSet_of_not_mem hmem, unfoldSet_of_not_mem hmem, mapM_congr hbelow,
        h.requirements id hid, h.type id hid]

/-- `unfold` is the same on shared sets. -/
lemma unfold (h : AlikeSets rules rules' shared) {id : Option String}
    (hid : ∀ set, id = some set → set ≠ "" → shared set) : rules.unfold id = rules'.unfold id := by
  unfold Rules.unfold
  cases hset : id.filter (· ≠ "") with
  | none => rfl
  | some set =>
    obtain ⟨rfl, hne⟩ := Option.filter_eq_some_iff.1 hset
    have hshared : shared set := hid set rfl (by simpa using hne)
    -- the bound of the rules suffices, so that it may be raised to that of the others
    have hlinks : rules.requirementLinks.length + 1
        + (rules'.requirementLinks.length - rules.requirementLinks.length)
          = rules'.requirementLinks.length + 1 := by
      have := h.links_le
      omega
    show rules.unfoldSet (rules.requirementLinks.length + 1) [] set
      = rules'.unfoldSet (rules'.requirementLinks.length + 1) [] set
    rw [← h.unfoldSet hshared, ← hlinks, unfoldSet_add (.start rules set)]

end AlikeSets

/-! ## Modifiers -/

/-- The modifier of a record, with its sets unfolded. -/
def unfoldRecord (rules : Rules) (id : String) (r : ModifierRecord) : Except Fault Modifier := do
  let subjectSet ← rules.unfold r.subjectSet
  let ownerSet ← rules.unfold r.ownerSet
  return {
    id
    type := r.type
    effect := (rules.modifierType? r.type).bind ModifierTypeRecord.effect
    collection := (rules.modifierType? r.type).bind ModifierTypeRecord.collection
    arguments := rules.argumentsOfModifier id
    subjectSet
    ownerSet
    permanent := r.permanent
    runOnce := r.runOnce
    newOnly := r.newOnly }

lemma follows_unfoldRecord (rules : Rules) (id : String) (r : ModifierRecord) :
    rules.Follows (rules.resolveRecord id r) (rules.unfoldRecord id r) := by
  unfold resolveRecord unfoldRecord
  exact (follows_set rules r.subjectSet).bind fun subjectSet _ =>
    (follows_set rules r.ownerSet).bind fun ownerSet _ => follows_pure _

lemma modifier?_none : rules.modifier? none = none :=
  List.find?_eq_none.2 fun _ _ => nofun

lemma resolved_of_no_record {id : Option String} (h : rules.modifier? id = none) :
    rules.resolved id = .ok none := by
  unfold resolved RuleCache.resolve resolveModifier?
  rw [h]
  cases id <;> rfl

lemma resolved_of_record {id : String} {r : ModifierRecord}
    (h : rules.modifier? (some id) = some r) :
    rules.resolved (some id) = some <$> rules.unfoldRecord id r := by
  have hfollows : rules.Follows (rules.resolveModifier? (some id))
      (some <$> rules.unfoldRecord id r) := by
    unfold resolveModifier?
    rw [h]
    simp only [map_eq_pure_bind]
    exact (follows_unfoldRecord rules id r).bind fun m _ => follows_pure _
  exact (hfollows ∅ sound_empty).1

/-- A `resolved` modifier is `unfoldRecord` of the record with its id. -/
lemma exists_record_of_resolved {id : Option String} {m : Modifier}
    (h : rules.resolved id = .ok (some m)) :
    ∃ r, id = some m.id ∧ rules.modifier? (some m.id) = some r ∧
      rules.unfoldRecord m.id r = .ok m := by
  have hid : some m.id = id := by
    rcases rules.resolved_cases id with ⟨found, hfound, hknown⟩ | ⟨chain, hchain⟩
    · obtain rfl : some m = found := Except.ok.inj (h.symm.trans hfound)
      exact (hknown m rfl).1
    · rw [h] at hchain
      cases hchain
  subst hid
  cases hrecord : rules.modifier? (some m.id) with
  | none =>
    rw [resolved_of_no_record hrecord] at h
    cases h
  | some r =>
    rw [resolved_of_record hrecord] at h
    refine ⟨r, rfl, rfl, ?_⟩
    cases hunfold : rules.unfoldRecord m.id r with
    | error fault =>
      rw [hunfold] at h
      cases h
    | ok m' =>
      rw [hunfold] at h
      rw [Option.some.inj (Except.ok.inj h)]

/-- Rules have a modifier: it is the one that its id is resolved to. -/
def Has (rules : Rules) (m : Modifier) : Prop :=
  rules.resolved (some m.id) = .ok (some m)

lemma has_of_resolved {id : Option String} {m : Modifier} (h : rules.resolved id = .ok (some m)) :
    rules.Has m := by
  obtain ⟨r, rfl, -⟩ := exists_record_of_resolved h
  exact h

lemma Has.mem_modifierIds {m : Modifier} (h : rules.Has m) : m.id ∈ rules.modifierIds := by
  obtain ⟨r, -, hrecord, -⟩ := exists_record_of_resolved h
  exact Rules.mem_modifierIds hrecord

/-- The rules `Has` what `resolvedAll` finds. -/
lemma has_of_mem_resolvedAll {ids : List (Option String)} {m : Modifier}
    (h : m ∈ (rules.resolvedAll ids).1) : rules.Has m := by
  induction ids with
  | nil => cases h
  | cons id rest ih =>
    unfold resolvedAll at h
    cases hfound : rules.resolved id with
    | error fault =>
      rw [hfound] at h
      cases h
    | ok found =>
      rw [hfound] at h
      rcases List.mem_append.1 h with hm | hm
      · obtain rfl : found = some m := Option.mem_toList.1 hm
        exact has_of_resolved hfound
      · exact ih hm

/-- Id, effect, arguments and `newOnly` of the modifier that `unfoldRecord` makes. -/
lemma unfoldRecord_ok {id : String} {r : ModifierRecord} {m : Modifier}
    (h : rules.unfoldRecord id r = .ok m) :
    m.id = id ∧ m.effect = (rules.modifierType? r.type).bind ModifierTypeRecord.effect ∧
      m.arguments = rules.argumentsOfModifier id ∧ m.newOnly = r.newOnly := by
  unfold unfoldRecord at h
  cases hsubject : rules.unfold r.subjectSet with
  | error fault =>
    rw [hsubject] at h
    cases h
  | ok subjectSet =>
    cases howner : rules.unfold r.ownerSet with
    | error fault =>
      rw [hsubject, howner] at h
      cases h
    | ok ownerSet =>
      rw [hsubject, howner] at h
      cases h
      exact ⟨rfl, rfl, rfl, rfl⟩

lemma Has.arguments_eq {m : Modifier} (h : rules.Has m) :
    m.arguments = rules.argumentsOfModifier m.id := by
  obtain ⟨r, -, -, hunfold⟩ := exists_record_of_resolved h
  exact (unfoldRecord_ok hunfold).2.2.1

/-- `resolved` reads the record of the id, its type, its arguments and its two sets. -/
lemma resolved_congr {id : Option String} (hrecord : rules.modifier? id = rules'.modifier? id)
    (hparts : ∀ name r, id = some name → rules.modifier? id = some r →
      rules.modifierType? r.type = rules'.modifierType? r.type ∧
      rules.argumentsOfModifier name = rules'.argumentsOfModifier name ∧
      rules.unfold r.subjectSet = rules'.unfold r.subjectSet ∧
      rules.unfold r.ownerSet = rules'.unfold r.ownerSet) :
    rules.resolved id = rules'.resolved id := by
  cases hr : rules.modifier? id with
  | none => rw [resolved_of_no_record hr, resolved_of_no_record (hrecord ▸ hr)]
  | some r =>
    cases id with
    | none =>
      rw [modifier?_none] at hr
      cases hr
    | some name =>
      obtain ⟨htype, harguments, hsubject, howner⟩ := hparts name r rfl hr
      rw [resolved_of_record hr, resolved_of_record (hrecord ▸ hr)]
      unfold unfoldRecord
      rw [htype, harguments, hsubject, howner]

end PolicyForecast.Rules
