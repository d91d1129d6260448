import PolicyForecast.Proofs.Confinement

/-!
# Effects look before they contribute

An effect may stop at a malformed rule, but it looks at its arguments before it contributes
anything: an effect that stops there has done nothing by then (`YieldEffect.cautious_run`). Effects
that contribute in a loop read the same arguments in each round, and these are malformed in every
round or in none (`Modifier.saving_malformed_or_ruleFree`).
-/

namespace PolicyForecast

open Evaluation

lemma AdjacencyRule.neverMalformed_yield (m : HexMap) (r : AdjacencyRule) (p : Plot) :
    (r.yield m p).NeverMalformed := by
  have hqualifying : (r.qualifying m p).NeverMalformed :=
    (neverMalformed_ofExcept (m.ruleFree_neighbours _)).bind
      fun _ => neverMalformed_ofConsulting _
  refine hqualifying.bind fun plots => ?_
  dsimp only
  split
  · exact neverMalformed_ofNumber _
  · exact neverMalformed_pure _

/-! ## Effects -/

namespace Modifier

variable (m : Modifier)

lemma neverMalformed_contribute (channel : Channel) (types : Option String) (value : Float) :
    (contribute channel types value).NeverMalformed :=
  neverMalformed_note _

lemma cautious_addAmount (amount : Float) : (m.addAmount amount).Cautious :=
  (silent_ofRule _).bind_cautious fun _ => (neverMalformed_contribute _ _ _).cautious

lemma cautious_addOwnAmount : m.addOwnAmount.Cautious :=
  (silent_ofRule _).bind_cautious fun amount => m.cautious_addAmount amount

lemma cautious_addAmountTimes (count : Quantity) : (m.addAmountTimes count).Cautious :=
  (silent_ofRule _).bind_cautious fun _ =>
    (silent_ofNumber _).bind_cautious fun _ => m.cautious_addAmount _

lemma cautious_addPercent (percent : Float) : (m.addPercent percent).Cautious :=
  (silent_ofRule _).bind_cautious fun _ => (neverMalformed_contribute _ _ _).cautious

/-- `addCityPercent` reads its yield types before its first contribution; a fault in the city's
traces is no rule fault. -/
lemma cautious_addCityPercent (c : City) (percent : Float) :
    (m.addCityPercent c percent).Cautious :=
  (silent_ofRule _).bind_cautious fun _ =>
    (sequential_neverMalformed.forM fun _ _ =>
      (neverMalformed_ofNumber _).bind fun _ => neverMalformed_contribute _ _ _).cautious

/-- What the saving of a modifier asks of its arguments: an amount or else a percentage. -/
def checkSaving : Except RuleFault Unit := do
  match ← m.number? "Amount" with
  | some _ => return
  | none =>
    match ← m.number? "Percent" with
    | some _ => return
    | none => throw (.missingSavingBasis m.id)

/-- `saving` has the rule fault of `checkSaving`, for every count and cost, or none for any. -/
lemma saving_malformed_or_ruleFree :
    (∃ rule, m.checkSaving = .error rule ∧
        ∀ count cost, m.saving count cost = .error (.rule rule)) ∨
      m.checkSaving = .ok () ∧ ∀ count cost, RuleFree (m.saving count cost) := by
  unfold checkSaving
  cases hamount : m.number? "Amount" with
  | error rule =>
    refine .inl ⟨rule, rfl, fun count cost => ?_⟩
    rw [saving, hamount]
    rfl
  | ok amount =>
    cases amount with
    | some amount =>
      refine .inr ⟨rfl, fun count cost => ?_⟩
      rw [saving, hamount]
      show RuleFree ((Exact.ofInt? count).mapError EvaluationFault.number >>= _)
      refine RuleFree.bind ?_ fun _ => ruleFree_ok _
      cases Exact.ofInt? count with
      | error fault => exact nofun
      | ok _ => exact ruleFree_ok _
    | none =>
      cases hpercent : m.number? "Percent" with
      | error rule =>
        refine .inl ⟨rule, rfl, fun count cost => ?_⟩
        rw [saving, hamount, hpercent]
        rfl
      | ok percent =>
        cases percent with
        | some percent =>
          refine .inr ⟨rfl, fun count cost => ?_⟩
          rw [saving, hamount, hpercent]
          show RuleFree (cost.toFloat?.mapError EvaluationFault.number >>= _)
          refine RuleFree.bind ?_ fun _ => ruleFree_ok _
          cases cost.toFloat? with
          | error fault => exact nofun
          | ok _ => exact ruleFree_ok _
        | none =>
          refine .inl ⟨.missingSavingBasis m.id, rfl, fun count cost => ?_⟩
          rw [saving, hamount, hpercent]
          rfl

/-- `saveOnConstructible` has every `Sequential` property that `saveOnPayment` has. -/
lemma saveOnConstructible_of_payments {K : ∀ {α : Type}, Evaluation α → Prop}
    (hK : Sequential K) (hconsulting : ∀ {α : Type} {x : Consulting α}, x.Silent →
      K (ofConsulting x)) (hpayment : ∀ r, K (m.saveOnPayment r)) (type : Option String) :
    K (m.saveOnConstructible type) := by
  refine hK.bind (hconsulting (m.confined_concernsConstructible type).silent) fun concerned => ?_
  split
  · exact hK.bind (hconsulting (Consulting.silent_request _))
      fun payments => hK.forM fun r _ => hpayment r
  · exact hK.pure _

variable {m} in
lemma neverMalformed_saveOnConstructible (hfree : ∀ count cost, RuleFree (m.saving count cost))
    (type : Option String) : (m.saveOnConstructible type).NeverMalformed := by
  have hpayment (r : MaintenanceRecord) : (m.saveOnPayment r).NeverMalformed :=
    (neverMalformed_ofExcept (hfree _ _)).bind fun _ => neverMalformed_note _
  exact m.saveOnConstructible_of_payments sequential_neverMalformed
    (fun _ => neverMalformed_ofConsulting _) hpayment type

/-- `saveOnConstructibles` finds a malformed rule at the first payment. -/
lemma cautious_saveOnConstructibles (s : Scene) (cities : List City) :
    (m.saveOnConstructibles s cities).Cautious := by
  unfold saveOnConstructibles
  split
  · rcases m.saving_malformed_or_ruleFree with ⟨rule, -, hmalformed⟩ | ⟨-, hfree⟩
    · -- no payment comes to a contribution
      have hpayment (r : MaintenanceRecord) : (m.saveOnPayment r).Silent := by
        unfold saveOnPayment
        rw [hmalformed]
        rfl
      exact (sequential_silent.forM fun type _ => m.saveOnConstructible_of_payments
        sequential_silent silent_ofConsulting hpayment type).cautious
    · exact (sequential_neverMalformed.forM fun type _ =>
        neverMalformed_saveOnConstructible hfree type).cautious
  · exact (silent_ofExcept _).cautious

lemma cautious_saveOnUnits (p : Player) : (m.saveOnUnits p).Cautious :=
  (UnitGroup.confined_ofUnits _).silent.bind_cautious fun _ =>
    (silent_ofExcept _).bind_cautious fun _ => (neverMalformed_contribute _ _ _).cautious

lemma cautious_saveOnUnit (u : GameUnit) : (m.saveOnUnit u).Cautious := by
  refine (silent_ofConsulting (UnitGroup.confined_single u).silent).bind_cautious fun group => ?_
  split
  · exact (silent_ofExcept _).bind_cautious fun _ => (neverMalformed_contribute _ _ _).cautious
  · exact (sequential_silent.pure _).cautious

end Modifier

/-- `addAdjacency` is not malformed if `ConstructibleAdjacency` is there. -/
lemma neverMalformed_addAdjacency {m : Modifier} {id : String}
    (hid : m.text "ConstructibleAdjacency" = .ok id) (s : Scene) (c : City) :
    (addAdjacency s m c).NeverMalformed := by
  unfold addAdjacency
  rw [hid]
  refine (neverMalformed_ofConsulting _).bind fun found => ?_
  cases found with
  | none => exact neverMalformed_note _
  | some rule =>
    exact (neverMalformed_ofConsulting _).bind fun members =>
      (sequential_neverMalformed.mapM (rule.neverMalformed_yield s.game.map) _).bind
        fun _ => neverMalformed_note _

lemma cautious_addAdjacency (s : Scene) (m : Modifier) (c : City) :
    (addAdjacency s m c).Cautious := by
  cases hid : m.text "ConstructibleAdjacency" with
  | error fault =>
    unfold addAdjacency
    rw [hid]
    exact Silent.cautious rfl
  | ok id => exact (neverMalformed_addAdjacency hid s c).cautious

/-- `addWarehouse` is not malformed if `WarehouseYieldChange` is there. -/
lemma neverMalformed_addWarehouse {m : Modifier} {id : String}
    (hid : m.text "WarehouseYieldChange" = .ok id) (s : Scene) (c : City) :
    (addWarehouse s m c).NeverMalformed := by
  unfold addWarehouse
  rw [hid]
  refine (neverMalformed_ofConsulting _).bind fun found => ?_
  cases found with
  | none => exact neverMalformed_note _
  | some rule =>
    dsimp only
    split <;> exact neverMalformed_note _

lemma cautious_addWarehouse (s : Scene) (m : Modifier) (c : City) :
    (addWarehouse s m c).Cautious := by
  cases hid : m.text "WarehouseYieldChange" with
  | error fault =>
    unfold addWarehouse
    rw [hid]
    exact Silent.cautious rfl
  | ok id => exact (neverMalformed_addWarehouse hid s c).cautious

namespace YieldEffect

lemma cautious_amountOr (m : Modifier) {percentage : Float → Evaluation Unit}
    (h : ∀ percent, (percentage percent).Cautious) : (amountOr m percentage).Cautious := by
  refine (silent_ofRule _).bind_cautious fun percent => ?_
  cases percent with
  | none => exact m.cautious_addOwnAmount
  | some percent => exact h percent

/-- Every effect is `Cautious`: it ends in a rule fault only before its first event. -/
theorem cautious_run (s : Scene) (m : Modifier) (subject : Subject) (effect : YieldEffect) :
    (effect.run s m subject).Cautious := by
  cases effect with
  | cityYield =>
    exact (silent_ofRule _).bind_cautious fun c => cautious_amountOr m (m.cautious_addCityPercent c)
  | cityYieldPer count =>
    exact (silent_ofRule _).bind_cautious fun c =>
      (count.confined_of s m c).silent.bind_cautious fun n => m.cautious_addAmountTimes n
  | cityAdjacency => exact (silent_ofRule _).bind_cautious fun c => cautious_addAdjacency s m c
  | cityWarehouse => exact (silent_ofRule _).bind_cautious fun c => cautious_addWarehouse s m c
  | cityMaintenance =>
    exact (silent_ofRule _).bind_cautious fun c => m.cautious_saveOnConstructibles s [c]
  | playerYield =>
    exact (Silent.bind (silent_ofRule _) fun _ => sequential_silent.pure _).bind_cautious
      fun _ => cautious_amountOr m m.cautious_addPercent
  | playerYieldPer count =>
    exact (silent_ofRule _).bind_cautious fun p =>
      (count.confined_of s m p).silent.bind_cautious fun n => m.cautious_addAmountTimes n
  | playerUnitMaintenance =>
    exact (silent_ofRule _).bind_cautious fun p => m.cautious_saveOnUnits p
  | playerMaintenance =>
    exact (silent_ofRule _).bind_cautious fun p => m.cautious_saveOnConstructibles s p.cities
  | plotYield =>
    exact (Silent.bind (silent_ofRule _) fun _ => sequential_silent.pure _).bind_cautious
      fun _ => m.cautious_addOwnAmount
  | unitMaintenance => exact (silent_ofRule _).bind_cautious fun u => m.cautious_saveOnUnit u

end YieldEffect

end PolicyForecast
