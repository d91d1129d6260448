import PolicyForecast.Proofs.RuleChecks

/-!
# Malformed rules that a game hides

A rule that is malformed is reported in every game in which its effect gets to the question that
fails. Some games keep an effect from asking (`YieldEffect.Hides`): no unit is concerned, or no
payment for a constructible, or a count is too large for a double. In such a game the effect tells
of no malformed rule and contributes nothing but zeros (`Recorded.Quiet`).

Main statement: `YieldEffect.malformed_unless_hidden`.
-/

namespace PolicyForecast

open Evaluation

/-- A game keeps an effect from asking all that it asks of a modifier. -/
inductive YieldEffect.Hides (answers : Answers) (s : Scene) (m : Modifier) :
    Subject → YieldEffect → Prop
  /-- The modifier does not concern the unit. -/
  | otherUnit {u : GameUnit} (hother : ¬ m.ConcernsUnit answers u) :
      Hides answers s m (.unit u) .unitMaintenance
  /-- The modifier concerns none of the units, of which there may be none at all. -/
  | otherUnits {p : Player} (hother : ∀ u ∈ p.units, ¬ m.ConcernsUnit answers u) :
      Hides answers s m (.player p) .playerUnitMaintenance
  /-- The maintenance of some unit has no double, so that the units cannot be grouped. -/
  | unpricedUnit {p : Player} {u : GameUnit} (hunit : u ∈ p.units)
      (hunpriced : ¬ UnitGroup.Priced u) : Hides answers s m (.player p) .playerUnitMaintenance
  /-- No payment of the city is concerned; that the modifier gives an amount or a percentage is
  asked all the same. -/
  | cityPayments {c : City}
      (hgiven : (m.arguments.has "Amount" || m.arguments.has "Percent") = true)
      (hnone : ¬ m.FindsPayment answers s [c]) : Hides answers s m (.city c) .cityMaintenance
  /-- The same of a player. -/
  | playerPayments {p : Player}
      (hgiven : (m.arguments.has "Amount" || m.arguments.has "Percent") = true)
      (hnone : ¬ m.FindsPayment answers s p.cities) :
      Hides answers s m (.player p) .playerMaintenance
  /-- The count in the city is too large. -/
  | cityCount {c : City} {count : CityCount}
      (hlarge : m.Overflows ((count.of s m c).given answers).result) :
      Hides answers s m (.city c) (.cityYieldPer count)
  /-- The count for the player is too large. -/
  | playerCount {p : Player} {count : PlayerCount}
      (hlarge : m.Overflows ((count.of s m p).given answers).result) :
      Hides answers s m (.player p) (.playerYieldPer count)

variable {answers : Answers} {s : Scene} {m : Modifier}

/-! ## Effects that are kept from asking -/

/-- A record that tells of no malformed rule, but of an end or of a number without a double, and of
nothing but zeros. -/
structure Recorded.Quiet (record : Recorded EvaluationFault Unit) : Prop where
  ends : record.result = .ok () ∨ ∃ fault, record.result = .error (.number fault)
  zero : ∀ a ∈ record.additions, a.value = 0.0

namespace Recorded

lemma Quiet.ruleFree {record : Recorded EvaluationFault Unit} (h : record.Quiet) :
    RuleFree record.result := by
  rcases h.ends with hok | ⟨fault, hfault⟩
  · rw [hok]
    exact ruleFree_ok ()
  · rw [hfault]
    exact nofun

lemma quiet_pure : (pure () : Recorded EvaluationFault Unit).Quiet := ⟨.inl rfl, nofun⟩

lemma quiet_number (fault : NumberFault) :
    (⟨[], .error (.number fault)⟩ : Recorded EvaluationFault Unit).Quiet :=
  ⟨.inr ⟨fault, rfl⟩, nofun⟩

end Recorded

namespace Modifier

lemma quiet_count {x : Evaluation Quantity} (hx : x.Silent)
    (h : m.Overflows (x.given answers).result) :
    ((x >>= m.addAmountTimes).given answers).Quiet := by
  generalize hresult : (x.given answers).result = result at h
  cases h with
  | divided =>
    rw [hx.given_bind_of_error hresult]
    exact Recorded.quiet_number _
  | multiplied hlarge hamount =>
    rw [hx.given_bind_of_ok hresult, addAmountTimes, hamount, hlarge]
    exact Recorded.quiet_number _

lemma quiet_saveOnUnits_of_unpriced {p : Player} {u : GameUnit} (hunit : u ∈ p.units)
    (hunpriced : ¬ UnitGroup.Priced u) : ((m.saveOnUnits p).given answers).Quiet := by
  have hfault := UnitGroup.ofUnits_of_unpriced answers ⟨u, hunit, hunpriced⟩
  rw [saveOnUnits, (UnitGroup.confined_ofUnits _).silent.given_bind_of_error hfault]
  exact Recorded.quiet_number .tooLarge

/-- `saveOnUnits` is `Quiet` if no unit is concerned. -/
lemma quiet_saveOnUnits {p : Player} (hother : ∀ u ∈ p.units, ¬ m.ConcernsUnit answers u) :
    ((m.saveOnUnits p).given answers).Quiet := by
  by_cases hpriced : ∀ u ∈ p.units, UnitGroup.Priced u
  · obtain ⟨groups, hgroups, -, htargets⟩ := UnitGroup.ofUnits_of_priced answers hpriced
    have hnone : groups.filter (·.isTargetOf m) = [] := by
      refine List.filter_eq_nil_iff.2 fun g hg htarget => ?_
      obtain ⟨u, hu, hconcerned⟩ := (htargets m).1 ⟨g, hg, htarget⟩
      exact hother u hu hconcerned
    rw [saveOnUnits, (UnitGroup.confined_ofUnits _).silent.given_bind_of_ok hgroups, hnone]
    refine ⟨.inl rfl, fun a ha => ?_⟩
    obtain rfl := List.mem_singleton.1 ha
    rfl
  · push Not at hpriced
    obtain ⟨u, hunit, hunpriced⟩ := hpriced
    exact quiet_saveOnUnits_of_unpriced hunit hunpriced

lemma quiet_saveOnUnit {u : GameUnit} (hother : ¬ m.ConcernsUnit answers u) :
    ((m.saveOnUnit u).given answers).Quiet := by
  unfold ConcernsUnit at hother
  rw [given_saveOnUnit, if_neg hother]
  exact Recorded.quiet_pure

lemma quiet_saveOnConstructibles {cities : List City}
    (hgiven : (m.arguments.has "Amount" || m.arguments.has "Percent") = true)
    (hnone : ¬ m.FindsPayment answers s cities) :
    ((m.saveOnConstructibles s cities).given answers).Quiet := by
  have hnothing : ∀ type ∈ cities.flatMap s.game.map.cityConstructibles,
      (m.saveOnConstructible type).given answers = pure () := fun type htype =>
    given_saveOnConstructible_of_other fun hconcerned => hnone ⟨type, htype, hconcerned⟩
  rw [saveOnConstructibles, if_pos hgiven, given_forM_of_nothing hnothing]
  exact Recorded.quiet_pure

end Modifier

/-! ## All effects -/

namespace Subject

variable {subject : Subject}

lemma exists_city (h : subject.kind = .city) : ∃ c, subject = .city c := by
  cases subject with
  | city c => exact ⟨c, rfl⟩
  | plot | player | unit | empty => cases h

lemma exists_plot (h : subject.kind = .plot) : ∃ c p, subject = .plot c p := by
  cases subject with
  | plot c p => exact ⟨c, p, rfl⟩
  | city | player | unit | empty => cases h

lemma exists_player (h : subject.kind = .player) : ∃ p, subject = .player p := by
  cases subject with
  | player p => exact ⟨p, rfl⟩
  | city | plot | unit | empty => cases h

lemma exists_unit (h : subject.kind = .unit) : ∃ u, subject = .unit u := by
  cases subject with
  | unit u => exact ⟨u, rfl⟩
  | city | plot | player | empty => cases h

end Subject

namespace YieldEffect

variable {subject : Subject} {effect : YieldEffect}

/-- Unless the effect `Hides`, `run` has the rule fault of `check`, if there is one. -/
lemma followsCheck_run (hkind : subject.kind = effect.subjectKind)
    (h : ¬ effect.Hides answers s m subject) :
    FollowsCheck (effect.check m) ((effect.run s m subject).given answers).result := by
  cases effect with
  | cityYield =>
    obtain ⟨c, rfl⟩ := Subject.exists_city hkind
    exact Modifier.followsCheck_amountOr (Modifier.followsCheck_addCityPercent c)
  | cityYieldPer count =>
    obtain ⟨c, rfl⟩ := Subject.exists_city hkind
    exact Modifier.followsCheck_count (count.tallies_of c) fun hlarge => h (.cityCount hlarge)
  | cityAdjacency =>
    obtain ⟨c, rfl⟩ := Subject.exists_city hkind
    exact followsCheck_addAdjacency c
  | cityWarehouse =>
    obtain ⟨c, rfl⟩ := Subject.exists_city hkind
    exact followsCheck_addWarehouse c
  | cityMaintenance =>
    obtain ⟨c, rfl⟩ := Subject.exists_city hkind
    exact Modifier.followsCheck_saveOnConstructibles fun hgiven =>
      not_not.1 fun hnone => h (.cityPayments hgiven hnone)
  | playerYield =>
    obtain ⟨p, rfl⟩ := Subject.exists_player hkind
    exact Modifier.followsCheck_amountOr Modifier.followsCheck_addPercent
  | playerYieldPer count =>
    obtain ⟨p, rfl⟩ := Subject.exists_player hkind
    exact Modifier.followsCheck_count (count.tallies_of p) fun hlarge => h (.playerCount hlarge)
  | playerUnitMaintenance =>
    obtain ⟨p, rfl⟩ := Subject.exists_player hkind
    refine Modifier.followsCheck_saveOnUnits (fun u hunit => ?_) ?_
    · exact not_not.1 fun hunpriced => h (.unpricedUnit hunit hunpriced)
    · by_contra hnone
      push Not at hnone
      exact h (.otherUnits hnone)
  | playerMaintenance =>
    obtain ⟨p, rfl⟩ := Subject.exists_player hkind
    exact Modifier.followsCheck_saveOnConstructibles fun hgiven =>
      not_not.1 fun hnone => h (.playerPayments hgiven hnone)
  | plotYield =>
    obtain ⟨c, p, rfl⟩ := Subject.exists_plot hkind
    exact Modifier.followsCheck_addOwnAmount
  | unitMaintenance =>
    obtain ⟨u, rfl⟩ := Subject.exists_unit hkind
    exact Modifier.followsCheck_saveOnUnit (not_not.1 fun hother => h (.otherUnit hother))

/-- If the effect `Hides`, `run` is `Quiet`. -/
lemma quiet_run (h : effect.Hides answers s m subject) :
    ((effect.run s m subject).given answers).Quiet := by
  cases h with
  | otherUnit hother => exact Modifier.quiet_saveOnUnit hother
  | otherUnits hother => exact Modifier.quiet_saveOnUnits hother
  | unpricedUnit hunit hunpriced => exact Modifier.quiet_saveOnUnits_of_unpriced hunit hunpriced
  | cityPayments hgiven hnone => exact Modifier.quiet_saveOnConstructibles hgiven hnone
  | playerPayments hgiven hnone => exact Modifier.quiet_saveOnConstructibles hgiven hnone
  | @cityCount c count hlarge =>
    exact Modifier.quiet_count (count.confined_of s m c).silent hlarge
  | @playerCount p count hlarge =>
    exact Modifier.quiet_count (count.confined_of s m p).silent hlarge

/-- If `effect.run` ends in a rule fault on a subject of the kind of the effect, this is the fault
of `effect.check m`, and `effect.run` ends in it in every other game and on every subject of this
kind, unless it `Hides` there; then its record is `Quiet`. -/
theorem malformed_unless_hidden (rules : Rules) (m : Modifier) (effect : YieldEffect)
    (s s' : Scene) (subject subject' : Subject) (cache cache' : RuleCache) (fault : RuleFault)
    (hkind : subject.kind = effect.subjectKind) (hkind' : subject'.kind = effect.subjectKind)
    (hmalformed : ((effect.run s m subject).run rules cache).1.result = .error (.rule fault)) :
    let record := ((effect.run s' m subject').run rules cache').1
    effect.check m = .error fault ∧
      (record.result = .error (.rule fault) ↔
        ¬ effect.Hides (cache'.replies rules) s' m subject') ∧
      (effect.Hides (cache'.replies rules) s' m subject' → record.Quiet) := by
  intro record
  have hrecord : record = (effect.run s' m subject').given (cache'.replies rules) :=
    (effect.factual_run s' m subject').run_eq_given rules cache'
  rw [(effect.factual_run s m subject).run_eq_given] at hmalformed
  have hcheck : effect.check m = .error fault := by
    have hvisible : ¬ effect.Hides (cache.replies rules) s m subject := fun hhides =>
      (quiet_run hhides).ruleFree fault hmalformed
    have hfollows := followsCheck_run hkind hvisible
    rw [hmalformed] at hfollows
    generalize effect.check m = check at hfollows
    cases hfollows with
    | malformed => rfl
    | passed hfree => exact absurd rfl (hfree fault)
  refine ⟨hcheck, ⟨fun hresult hhides => ?_, fun hvisible => ?_⟩, fun hhides => ?_⟩
  · rw [hrecord] at hresult
    exact (quiet_run hhides).ruleFree fault hresult
  · have hfollows := followsCheck_run hkind' hvisible
    rw [hcheck] at hfollows
    rw [hrecord]
    generalize ((effect.run s' m subject').given (cache'.replies rules)).result = result at hfollows
    cases hfollows
    rfl
  · rw [hrecord]
    exact quiet_run hhides

/-- A saving on units with neither an amount nor a percentage. -/
def upkeep : Modifier where
  id := "UPKEEP"
  effect := some "EFFECT_PLAYER_ADJUST_UNIT_MAINTENANCE_EFFICIENCY"

/-- A unit with a maintenance of 2. -/
def guard : GameUnit where
  id := 1
  unitType := some "GUARD"
  owner := 0
  maintenance := .real 2.0

/-- The record of `upkeep` on a player with `units`. -/
def upkeepOf (units : List GameUnit) : Recorded EvaluationFault Unit :=
  let player : Player := { id := 0, units }
  ((playerUnitMaintenance.run ⟨.solitaire, player, {}⟩ upkeep (.player player)).run {}
    (.ofRules {})).1

/-- `upkeepOf [guard]` and `upkeepOf` of two guards end in `missingSavingBasis`; `upkeepOf []` is
`Quiet`. -/
theorem upkeep_malformed_for_guards :
    (upkeepOf [guard]).result = .error (.rule (.missingSavingBasis "UPKEEP")) ∧
      (upkeepOf [guard, guard]).result = .error (.rule (.missingSavingBasis "UPKEEP")) ∧
      (upkeepOf []).Quiet := by
  have hone : (upkeepOf [guard]).result = .error (.rule (.missingSavingBasis "UPKEEP")) := rfl
  have hother (units : List GameUnit) := malformed_unless_hidden {} upkeep playerUnitMaintenance
    _ ⟨.solitaire, { id := 0, units }, {}⟩ _ (.player { id := 0, units }) _ (.ofRules {}) _
    rfl rfl hone
  refine ⟨hone, (hother [guard, guard]).2.1.2 fun hhides => ?_,
    (hother []).2.2 (.otherUnits (by simp))⟩
  cases hhides with
  | otherUnits hnone => exact hnone guard (by simp) rfl
  | unpricedUnit hunit hunpriced =>
    obtain rfl : _ = guard := by simpa using hunit
    exact hunpriced ⟨_, rfl⟩

/-- `upkeepOf [guard]` ends in `missingSavingBasis`, but `upkeepOf []` ends well and adds 0
`YIELD_GOLD`. -/
theorem upkeep_unnoticed_without_units :
    (upkeepOf [guard]).result = .error (.rule (.missingSavingBasis "UPKEEP")) ∧
      (upkeepOf []).result = .ok () ∧
      (upkeepOf []).additions = [⟨.noMultiplier, some "YIELD_GOLD", 0.0⟩] :=
  ⟨rfl, rfl, rfl⟩

end YieldEffect

end PolicyForecast
