import Mathlib.Algebra.BigOperators.Group.List.Basic
import Mathlib.Data.List.Induction
import PolicyForecast.Proofs.SavingArithmetic

/-!
# Savings on units, together and apart

A saving on all units of a player is reckoned type by type, from the number of units of a type and
from what they cost together; a saving on a single unit from that unit. The types lose no unit and
invent none (`UnitGroup.flatten_lots_perm`), and so the two come to the same in exact numbers, for
each rate and each yield type (`Arithmetic.exact_together`). In doubles the costs of a type are
added up first, and one unit whose maintenance is too large for a double is enough to keep the
player from saving anything.

Main statement: `Modifier.units_together_and_apart`.
-/

namespace PolicyForecast

/-! ## Units by type -/

lemma eraseDups_filter {α : Type} [BEq α] [LawfulBEq α] (p : α → Bool) (as : List α) :
    (as.filter p).eraseDups = as.eraseDups.filter p := by
  induction as using List.reverseRecOn with
  | nil => rfl
  | append_singleton as a ih =>
    cases hp : p a with
    | false =>
      have hlast : (as ++ [a]).filter p = as.filter p := by simp [hp]
      rw [hlast, ih, eraseDups_concat]
      split
      · rfl
      · simp [hp]
    | true =>
      have hlast : (as ++ [a]).filter p = as.filter p ++ [a] := by simp [hp]
      have hlisted : (as.eraseDups.filter p).contains a = as.eraseDups.contains a := by simp [hp]
      rw [hlast, eraseDups_concat, eraseDups_concat, ih, hlisted]
      split
      · rfl
      · simp [hp]

namespace UnitGroup

/-- Units by type, the types in the order in which they first appear. -/
def lots (units : List GameUnit) : List (List GameUnit) :=
  (units.map GameUnit.unitType).eraseDups.map (ofType units)

/-- The first of the `lots` are all units of the type of the first unit. -/
lemma lots_cons (u : GameUnit) (rest : List GameUnit) :
    lots (u :: rest) = (u :: ofType rest u.unitType)
      :: lots (rest.filter fun other => !(other.unitType == u.unitType)) := by
  unfold lots
  rw [List.map_cons, List.eraseDups_cons, List.filter_map, List.map_cons]
  refine congrArg₂ List.cons (by simp [ofType]) (List.map_congr_left fun type htype => ?_)
  obtain ⟨other, hother, rfl⟩ := List.mem_map.1 (List.mem_eraseDups.1 htype)
  have hne : ¬ other.unitType = u.unitType := by simpa using (List.mem_filter.1 hother).2
  unfold ofType
  rw [List.filter_cons_of_neg (by simpa using Ne.symm hne), List.filter_filter]
  refine List.filter_congr fun v _ => ?_
  by_cases hv : v.unitType = other.unitType <;> simp [hv, hne]

/-- The `lots` of units are a permutation of them. -/
theorem flatten_lots_perm : (units : List GameUnit) → (lots units).flatten.Perm units
  | [] => .nil
  | u :: rest => by
    rw [lots_cons, List.flatten_cons, List.cons_append]
    have hothers := flatten_lots_perm (rest.filter fun other => !(other.unitType == u.unitType))
    exact .cons u ((hothers.append_left _).trans (List.filter_append_perm _ rest))
termination_by units => units.length
decreasing_by exact Nat.lt_succ_of_le (List.length_filter_le _ _)

/-- The `lots` of the units of certain types are their `ofType`. -/
lemma lots_filter (p : Option String → Bool) (units : List GameUnit) :
    lots (units.filter fun u => p u.unitType)
      = ((units.map GameUnit.unitType).eraseDups.filter p).map (ofType units) := by
  have htypes : (units.filter fun u => p u.unitType).map GameUnit.unitType
      = (units.map GameUnit.unitType).filter p := List.filter_map.symm
  unfold lots
  rw [htypes, eraseDups_filter]
  refine List.map_congr_left fun type htype => ?_
  unfold ofType
  rw [List.filter_filter]
  refine List.filter_congr fun u _ => ?_
  by_cases hu : u.unitType = type
  · simp [hu, (List.mem_filter.1 htype).2]
  · simp [hu]

lemma standsFor_of_mem {answers : Answers} {units : List GameUnit}
    {types : List (Option String)} {groups : List UnitGroup}
    (h : List.Forall₂ (StandsFor answers units) types groups) :
    ∀ g ∈ groups, g.StandsFor answers units g.unitType := by
  induction h with
  | nil => exact nofun
  | cons hg _ ih =>
    obtain rfl := hg.unitType
    exact List.forall_mem_cons.2 ⟨hg, ih⟩

end UnitGroup

/-! ## Together and apart -/

namespace Arithmetic

open UnitGroup

section

variable {N : Type} (A : Arithmetic N)

/-- What some units cost. -/
def cost (units : List GameUnit) : N :=
  A.sum (units.map fun u => A.quantity u.maintenance)

/-- What a rate saves on units that are reckoned type by type. -/
def together (rate : SavingRate) (units : List GameUnit) : N :=
  A.sum ((lots units).map fun lot => A.saved lot.length (A.cost lot) rate)

/-- What a rate saves on each unit. -/
def apart (rate : SavingRate) (units : List GameUnit) : List N :=
  units.map fun u => A.saved 1 (A.quantity u.maintenance) rate

/-- What values add to a yield type when each is contributed under the same text. -/
def addedTo (text : Option String) (type : String) (values : List N) : N :=
  A.sum (values.flatMap fun value => .replicate ((yieldTypes text).count type) value)

end

/-- In `exact` numbers, `together` is the sum of `apart`. -/
theorem exact_together (rate : SavingRate) (units : List GameUnit) :
    exact.together rate units = (exact.apart rate units).sum := by
  have hlot (lot : List GameUnit) :
      exact.saved lot.length (exact.cost lot) rate = (exact.apart rate lot).sum := by
    have hsum := exact_saved_sum (lot.map fun u => exact.quantity u.maintenance) rate
    rw [List.length_map, List.map_map] at hsum
    rw [cost, exact_sum]
    exact hsum
  calc exact.together rate units
      = ((lots units).map fun lot => (exact.apart rate lot).sum).sum := by
        rw [together, exact_sum, funext hlot]
    _ = (exact.apart rate (lots units).flatten).sum := by
        rw [apart, List.map_flatten, List.sum_flatten, List.map_map]
        rfl
    _ = (exact.apart rate units).sum := ((flatten_lots_perm units).map _).sum_eq

lemma exact_addedTo (text : Option String) (type : String) (values : List ℚ) :
    exact.addedTo text type values = (yieldTypes text).count type * values.sum := by
  rw [addedTo, exact_sum]
  induction values with
  | nil => exact (mul_zero _).symm
  | cons value rest ih =>
    rw [List.flatMap_cons, List.sum_append, ih, List.sum_replicate, nsmul_eq_mul, List.sum_cons,
      mul_add]

lemma doubles_cost (units : List GameUnit) : doubles.cost units = totalCost units := by
  rw [cost, sum, totalCost]
  exact (doubles_foldl 0.0 _).trans List.foldlM_map

end Arithmetic

/-! ## What the effects contribute -/

namespace Modifier

open UnitGroup Arithmetic

variable {m : Modifier} {answers : Answers} {rate : SavingRate} {p : Player} {u : GameUnit}

/-- The record of a saving on units, which may be too large for a double. -/
def unitSaving (m : Modifier) (value : Except NumberFault Float) : Recorded EvaluationFault Unit :=
  contributed .noMultiplier (some m.unitYieldTypes) value

/-- `saveOnUnit` with a rate is `unitSaving` of `saved 1`, or nothing if the unit is not
`isTargetOf`. -/
lemma given_saveOnUnit_of_rate (h : SavingRate.ofArguments? m.arguments = some rate) :
    (m.saveOnUnit u).given answers =
      if ((UnitGroup.single u).given answers).2.isTargetOf m
      then m.unitSaving (doubles.saved 1 (doubles.quantity u.maintenance) rate) else pure () := by
  have hsaving : m.groupSaving ((UnitGroup.single u).given answers).2
      = (doubles.saved 1 (doubles.quantity u.maintenance) rate).mapError .number := by
    have hquantity : doubles.quantity u.maintenance = u.maintenance.toFloat? := rfl
    rw [hquantity, doubles_saved]
    exact saving_of_rate h 1 u.maintenance
  rw [given_saveOnUnit, hsaving]
  split
  · exact given_contribute _ _ _
  · rfl

/-- A modifier concerns the units of a type. -/
def concernsType (m : Modifier) (answers : Answers) (type : Option String) : Bool :=
  ((UnitGroup.none type).given answers).2.isTargetOf m

/-- `groupSaving` of a group is `saved` of the units that it `StandsFor`. -/
lemma savings_of_standsFor (h : SavingRate.ofArguments? m.arguments = some rate)
    {units : List GameUnit} {types : List (Option String)} {groups : List UnitGroup}
    (hgroups : List.Forall₂ (StandsFor answers units) types groups) :
    (groups.filter (·.isTargetOf m)).map m.groupSaving
      = (((types.filter (m.concernsType answers)).map (ofType units)).map fun lot =>
          doubles.saved lot.length (doubles.cost lot) rate).map (·.mapError .number) := by
  induction hgroups with
  | nil => rfl
  | @cons type g types groups hg _ ih =>
    have hconcerns : g.isTargetOf m = m.concernsType answers type := hg.isTargetOf_eq m
    have hsaving : m.groupSaving g = (doubles.saved (ofType units type).length
        (doubles.cost (ofType units type)) rate).mapError .number := by
      obtain ⟨cost, hcost, hmaintenance⟩ := hg.maintenance
      rw [doubles_cost, hcost, groupSaving, saving_of_rate h, hg.count, hmaintenance]
      exact congrArg _ (doubles_saved _ (.real cost) rate).symm
    rw [List.filter_cons, List.filter_cons, hconcerns]
    split
    · rw [List.map_cons, List.map_cons, List.map_cons, List.map_cons, hsaving, ih]
    · exact ih

/-- `saveOnUnits` with a rate is `unitSaving` of `together`, if all units are `Priced`. -/
lemma given_saveOnUnits_of_priced (h : SavingRate.ofArguments? m.arguments = some rate)
    (hpriced : ∀ u ∈ p.units, Priced u) :
    (m.saveOnUnits p).given answers = m.unitSaving (doubles.together rate
      (p.units.filter fun u => ((UnitGroup.single u).given answers).2.isTargetOf m)) := by
  obtain ⟨groups, hresult, hgroups, -⟩ := ofUnits_of_priced answers hpriced
  have hlots : ((p.units.map GameUnit.unitType).eraseDups.filter (m.concernsType answers)).map
      (ofType p.units) = lots (p.units.filter fun u => m.concernsType answers u.unitType) :=
    (lots_filter _ _).symm
  have hsavings := savings_of_standsFor h hgroups
  rw [hlots] at hsavings
  rw [saveOnUnits, (confined_ofUnits _).silent.given_bind_of_ok hresult]
  exact given_contribute_sum hsavings _ _

/-- `ofUnits` gives groups iff every unit is `Priced`: one for each type, in order of first
appearance, that `StandsFor` the units of the type and has the domain, the tags and the `isTargetOf`
of each of them; otherwise it ends in `tooLarge`. `playerUnitMaintenance` contributes what
`together` is for the units concerned, or ends in `tooLarge` with it, and `unitMaintenance` what
each of them saves. In `exact` numbers `together` adds to each type the sum of what `apart` adds. -/
theorem units_together_and_apart (rules : Rules) (cache : RuleCache) (s : Scene) (p : Player) :
    let alone := fun u => ((UnitGroup.single u).run rules cache).1.2
    let grouped := ((UnitGroup.ofUnits p.units).run rules cache).1
    ((∀ u ∈ p.units, Priced u) → ∃ groups, grouped = ⟨[], .ok groups⟩ ∧
      List.Forall₂ (StandsFor (cache.replies rules) p.units)
        (p.units.map GameUnit.unitType).eraseDups groups ∧
      ∀ g ∈ groups, ∀ u ∈ p.units, u.unitType = g.unitType →
        g.domain = (alone u).domain ∧ g.tags = (alone u).tags ∧
          ∀ m, g.isTargetOf m = (alone u).isTargetOf m) ∧
    ((∃ u ∈ p.units, ¬ Priced u) → grouped = ⟨[], .error (.number .tooLarge)⟩) ∧
    ∀ m rate, SavingRate.ofArguments? m.arguments = some rate →
      let concerned := p.units.filter fun u => (alone u).isTargetOf m
      let onPlayer := ((YieldEffect.playerUnitMaintenance.run s m (.player p)).run rules cache).1
      let onUnit := fun u => ((YieldEffect.unitMaintenance.run s m (.unit u)).run rules cache).1
      ((∀ u ∈ p.units, Priced u) → onPlayer = m.unitSaving (doubles.together rate concerned)) ∧
      ((∃ u ∈ p.units, ¬ Priced u) → onPlayer = ⟨[], .error (.number .tooLarge)⟩) ∧
      (∀ u, onUnit u = if (alone u).isTargetOf m
        then m.unitSaving (doubles.saved 1 (doubles.quantity u.maintenance) rate)
        else ⟨[], .ok ()⟩) ∧
      ∀ type, exact.addedTo (some m.unitYieldTypes) type [exact.together rate concerned]
        = exact.addedTo (some m.unitYieldTypes) type (exact.apart rate concerned) := by
  intro alone grouped
  have halone : alone = fun u => ((UnitGroup.single u).given (cache.replies rules)).2 := by
    funext u
    have hsingle : (UnitGroup.single u).Confined fun _ => True := confined_single u
    exact congrArg Prod.snd (hsingle.run_eq_given rules cache)
  have hfactual : (UnitGroup.ofUnits p.units).Factual := confined_ofUnits _
  have hgrouped : grouped = (UnitGroup.ofUnits p.units).given (cache.replies rules) :=
    hfactual.run_eq_given rules cache
  refine ⟨fun hpriced => ?_, fun hunpriced => ?_, fun m rate hrate => ⟨fun hpriced => ?_,
    fun hunpriced => ?_, fun u => ?_, fun type => ?_⟩⟩
  · obtain ⟨groups, hresult, hgroups, -⟩ := ofUnits_of_priced (cache.replies rules) hpriced
    refine ⟨groups, hgrouped.trans ((confined_ofUnits _).silent.given_eq hresult), hgroups, ?_⟩
    intro g hg u _ htype
    have hstands := standsFor_of_mem hgroups g hg
    rw [← htype] at hstands
    rw [halone]
    exact ⟨hstands.domain, hstands.tags, hstands.isTargetOf_eq⟩
  · exact hgrouped.trans ((confined_ofUnits _).silent.given_eq (ofUnits_of_unpriced _ hunpriced))
  · rw [(YieldEffect.factual_run _ _ _ _).run_eq_given, halone]
    exact given_saveOnUnits_of_priced hrate hpriced
  · rw [(YieldEffect.factual_run _ _ _ _).run_eq_given]
    exact (confined_ofUnits _).silent.given_bind_of_error (ofUnits_of_unpriced _ hunpriced) _
  · simp only [(YieldEffect.factual_run _ _ _ _).run_eq_given, halone]
    exact given_saveOnUnit_of_rate hrate
  · rw [exact_addedTo, exact_addedTo, exact_together, List.sum_singleton]

/-- Two scouts and a settler, whose maintenance is an integer. -/
def expedition : Player where
  id := 0
  units := [
    { id := 1, unitType := some "SCOUT", owner := 0, maintenance := .real 2.0 },
    { id := 2, unitType := some "SETTLER", owner := 0, maintenance := .whole 4 },
    { id := 3, unitType := some "SCOUT", owner := 0, maintenance := .real 3.0 }]

/-- Rules in which scouts have a tag. -/
def scoutRules : Rules where
  typeTags := [⟨some "SCOUT", some "RECON"⟩]

/-- A share of 25 for units with the tag of scouts. -/
def foraging : Modifier where
  id := "FORAGING"
  effect := some "EFFECT_PLAYER_ADJUST_UNIT_MAINTENANCE_EFFICIENCY"
  arguments := .ofRows [{ name := some "Percent", value := some "25" },
    { name := some "UnitTag", value := some "RECON" }]

/-- `foraging` concerns the scouts 1 and 3 of `expedition`, which has two groups, and a share of 25
is the same `together` and `apart`. -/
theorem foraging_of_expedition :
    let alone := fun u => ((UnitGroup.single u).run scoutRules (.ofRules scoutRules)).1.2
    let concerned := expedition.units.filter fun u => (alone u).isTargetOf foraging
    concerned.map GameUnit.id = [1, 3] ∧
    (∃ groups, ((UnitGroup.ofUnits expedition.units).run scoutRules (.ofRules scoutRules)).1
      = ⟨[], .ok groups⟩ ∧ groups.length = 2) ∧
    exact.addedTo (some foraging.unitYieldTypes) "YIELD_GOLD"
        [exact.together (.share 25.0) concerned]
      = exact.addedTo (some foraging.unitYieldTypes) "YIELD_GOLD"
        (exact.apart (.share 25.0) concerned) := by
  intro alone concerned
  obtain ⟨hpriced, -, hsavings⟩ := units_together_and_apart scoutRules (.ofRules scoutRules)
    ⟨.solitaire, expedition, {}⟩ expedition
  have hall : ∀ u ∈ expedition.units, Priced u := by
    intro u hu
    simp only [expedition, List.mem_cons, List.not_mem_nil, or_false] at hu
    rcases hu with rfl | rfl | rfl <;> exact ⟨_, rfl⟩
  obtain ⟨groups, hgroups, hstands, -⟩ := hpriced hall
  obtain ⟨-, -, -, hexact⟩ := hsavings foraging (.share 25.0) rfl
  exact ⟨by decide +kernel, ⟨groups, hgroups, hstands.length_eq.symm.trans (by decide +kernel)⟩,
    hexact "YIELD_GOLD"⟩

/-- An `Amount` of 2 for each unit. -/
def allowance : Modifier where
  id := "ALLOWANCE"
  arguments := .ofRows [{ name := some "Amount", value := some "2" }]

/-- A unit whose maintenance is an integer beyond the largest double. -/
def flagship : GameUnit where
  id := 1
  unitType := some "FLAGSHIP"
  owner := 0
  maintenance := .whole (Int.pow 10 400)

/-- The maintenance of `flagship` has no double: `ofUnits` and `playerUnitMaintenance` end in
`tooLarge`, while `unitMaintenance` contributes the amount of `allowance`. -/
theorem flagship_saved_on_only_apart :
    let fleet : Player := { id := 0, units := [flagship] }
    let scene : Scene := ⟨.solitaire, fleet, {}⟩
    ((UnitGroup.ofUnits fleet.units).run {} (.ofRules {})).1 = ⟨[], .error (.number .tooLarge)⟩ ∧
    ((YieldEffect.playerUnitMaintenance.run scene allowance (.player fleet)).run {} (.ofRules {})).1
      = ⟨[], .error (.number .tooLarge)⟩ ∧
    ((YieldEffect.unitMaintenance.run scene allowance (.unit flagship)).run {} (.ofRules {})).1
      = ⟨[.addition ⟨.noMultiplier, some "YIELD_GOLD", 2.0 * Float.ofInt 1⟩], .ok ()⟩ := by
  intro fleet scene
  have hlarge : flagship.maintenance.toFloat? = .error .tooLarge := by decide +kernel
  have hunpriced : ∃ u ∈ fleet.units, ¬ Priced u := by
    refine ⟨flagship, List.mem_singleton_self _, fun ⟨cost, hcost⟩ => ?_⟩
    rw [hlarge] at hcost
    cases hcost
  have hfactual : (UnitGroup.ofUnits fleet.units).Factual := confined_ofUnits _
  refine ⟨?_, ?_, ?_⟩
  · rw [hfactual.run_eq_given]
    exact (confined_ofUnits _).silent.given_eq (ofUnits_of_unpriced _ hunpriced)
  · rw [(YieldEffect.factual_run _ _ _ _).run_eq_given]
    exact (confined_ofUnits _).silent.given_bind_of_error (ofUnits_of_unpriced _ hunpriced) _
  · rfl

end Modifier

end PolicyForecast
