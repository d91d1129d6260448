import PolicyForecast.Proofs.Evaluability
import PolicyForecast.Proofs.Independence
import PolicyForecast.Proofs.CautiousEffects
import PolicyForecast.Proofs.Replies
import PolicyForecast.Proofs.UnitGroups

/-!
# What an effect asks of its rule

Whether a rule is malformed is a matter of its modifier alone: an effect asks for certain arguments,
in a certain order (`YieldEffect.check`). Most effects ask whatever the game is like. What is asked
where units are reckoned with, or payments for constructibles, is asked only if there are such units
or payments (`Modifier.ConcernsUnit`, `Modifier.FindsPayment`), and what is asked after a count only
if the count has a double (`Modifier.Overflows`). Under these conditions each part of an effect is
malformed exactly if its check is, and then with the fault of the check (`FollowsCheck`).
-/

namespace PolicyForecast

open Evaluation

/-! ## The questions -/

namespace Modifier

/-- An argument with a text. -/
def checkText (m : Modifier) (name : String) : Except RuleFault Unit := do
  let _ ← m.text name
  return

/-- An amount and its yield types. -/
def checkAmount (m : Modifier) : Except RuleFault Unit := do
  let _ ← m.number "Amount"
  m.checkText "YieldType"

/-- A percentage and its yield types, or else an amount. -/
def checkAmountOr (m : Modifier) : Except RuleFault Unit := do
  match ← m.number? "Percent" with
  | some _ => m.checkText "YieldType"
  | none => m.checkAmount

/-- A positive divisor, if there is one. -/
def checkDivisor (m : Modifier) : Except RuleFault Unit := do
  match ← m.number? "Divisor" with
  | none => return
  | some divisor => if divisor ≤ 0.0 then throw (.nonPositiveDivisor m.id divisor)

/-- What payments are lowered by. That there is something is asked before any payment. -/
def checkPayments (m : Modifier) : Except RuleFault Unit :=
  if m.arguments.has "Amount" || m.arguments.has "Percent" then m.checkSaving
  else .error (.missingSaving m.id)

end Modifier

/-- What a count in a city asks of a modifier. -/
def CityCount.check (m : Modifier) : CityCount → Except RuleFault Unit
  | .attributePoints => m.checkText "AttributeType"
  | .population => m.checkDivisor
  | .constructibles => m.selectsConstructibles
  | .specialists | .resources | .greatWorks => .ok ()

/-- What a count for a player asks of a modifier. -/
def PlayerCount.check (m : Modifier) : PlayerCount → Except RuleFault Unit
  | .constructibles => m.selectsConstructibles
  | .activeTraditions | .settlements | .cityStates | .alliances | .resources | .commanderLevels =>
    .ok ()

namespace YieldEffect

/-- What an effect asks of its modifier, where nothing keeps it from asking. -/
def check (m : Modifier) : YieldEffect → Except RuleFault Unit
  | .cityYield | .playerYield => m.checkAmountOr
  | .cityYieldPer count => do
    count.check m
    m.checkAmount
  | .playerYieldPer count => do
    count.check m
    m.checkAmount
  | .plotYield => m.checkAmount
  | .cityAdjacency => m.checkText "ConstructibleAdjacency"
  | .cityWarehouse => m.checkText "WarehouseYieldChange"
  | .cityMaintenance | .playerMaintenance => m.checkPayments
  | .playerUnitMaintenance | .unitMaintenance => m.checkSaving

/-- The kind of subject that an effect expects. -/
def subjectKind : YieldEffect → SubjectKind
  | .cityYield | .cityYieldPer _ | .cityAdjacency | .cityWarehouse | .cityMaintenance => .city
  | .playerYield | .playerYieldPer _ | .playerUnitMaintenance | .playerMaintenance => .player
  | .plotYield => .plot
  | .unitMaintenance => .unit

end YieldEffect

/-! ## What has to be there -/

/-- The payments of a constructible type that answers tell of. -/
def Answers.payments (answers : Answers) (type : Option String) : List MaintenanceRecord :=
  answers (.maintenances type)

namespace Modifier

/-- A modifier concerns a unit. -/
def ConcernsUnit (m : Modifier) (answers : Answers) (u : GameUnit) : Prop :=
  ((UnitGroup.single u).given answers).2.isTargetOf m = true

/-- A modifier concerns a type of constructible and a payment for it. -/
def ConcernsPayment (m : Modifier) (answers : Answers) (type : Option String) : Prop :=
  ((m.concernsConstructible type).given answers).2 = true ∧
    ∃ r ∈ answers.payments type, m.concernsYield r.yieldType = true

/-- A modifier concerns a payment for some constructible of cities. -/
def FindsPayment (m : Modifier) (answers : Answers) (s : Scene) (cities : List City) : Prop :=
  ∃ type ∈ cities.flatMap s.game.map.cityConstructibles, m.ConcernsPayment answers type

/-- A count is too large for a double, and so can either not be divided or not be multiplied by an
amount. -/
inductive Overflows (m : Modifier) : Except EvaluationFault Quantity → Prop
  | divided {fault : NumberFault} : m.Overflows (.error (.number fault))
  | multiplied {count : Quantity} {fault : NumberFault} {amount : Float}
      (hlarge : count.toFloat? = .error fault) (hamount : m.number "Amount" = .ok amount) :
      m.Overflows (.ok count)

end Modifier

/-! ## Results of computations that ask -/

variable {α β : Type} {answers : Answers}

lemma Consulting.Ensures.given {P : List Event → α → Prop} {x : Consulting α} (h : x.Ensures P)
    (answers : Answers) : P (x.given answers).1 (x.given answers).2 := by
  induction x generalizing P with
  | done a => exact h
  | note e rest ih => exact ih h
  | ask q next ih => exact ih (answers q) (h (answers q))

/-- A result is malformed if a check is, with the fault of the check. -/
inductive FollowsCheck : Except RuleFault Unit → Except EvaluationFault α → Prop
  | malformed {fault : RuleFault} : FollowsCheck (.error fault) (.error (.rule fault))
  | passed {r : Except EvaluationFault α} (hfree : RuleFree r) : FollowsCheck (.ok ()) r

namespace Evaluation

/-- `ofRule r >>= f` follows `r >>= check` if `f` follows `check`. -/
lemma followsCheck_ofRule_bind {r : Except RuleFault α} {check : α → Except RuleFault Unit}
    {f : α → Evaluation β}
    (h : ∀ a, r = .ok a → FollowsCheck (check a) ((f a).given answers).result) :
    FollowsCheck (r >>= check) ((ofRule r >>= f).given answers).result := by
  cases r with
  | error fault => exact .malformed
  | ok a => exact h a rfl

lemma followsCheck_ofExcept_bind {check : Except RuleFault Unit} {r : Except EvaluationFault α}
    {f : α → Evaluation β} (h : FollowsCheck check r) (hf : ∀ a, (f a).NeverMalformed) :
    FollowsCheck check ((ofExcept r >>= f).given answers).result := by
  cases h with
  | malformed => exact .malformed
  | passed hfree =>
    exact .passed (Consulting.Always.given ((neverMalformed_ofExcept hfree).bind hf) answers)

lemma NeverMalformed.followsCheck {x : Evaluation α} (h : x.NeverMalformed) :
    FollowsCheck (.ok ()) (x.given answers).result :=
  .passed (Consulting.Always.given h answers)

lemma Silent.given_eq {x : Evaluation α} (hx : x.Silent) {result : Except EvaluationFault α}
    (h : (x.given answers).result = result) : x.given answers = ⟨[], result⟩ := by
  have hnothing : (x.given answers).events = [] := Consulting.Ensures.given hx answers
  rw [← hnothing, ← h]

lemma Silent.given_bind_of_ok {x : Evaluation α} (hx : x.Silent) {a : α}
    (h : (x.given answers).result = .ok a) (f : α → Evaluation β) :
    (x >>= f).given answers = (f a).given answers := by
  rw [given_bind, hx.given_eq h]
  rfl

lemma Silent.given_bind_of_error {x : Evaluation α} (hx : x.Silent) {fault : EvaluationFault}
    (h : (x.given answers).result = .error fault) (f : α → Evaluation β) :
    (x >>= f).given answers = ⟨[], .error fault⟩ := by
  rw [given_bind, hx.given_eq h]
  rfl

lemma given_forM (f : α → Evaluation Unit) (as : List α) :
    (as.forM f).given answers = as.forM fun a => (f a).given answers := by
  induction as with
  | nil => rfl
  | cons a rest ih =>
    show (f a >>= fun _ => rest.forM f).given answers
      = (f a).given answers >>= fun _ => rest.forM fun a => (f a).given answers
    rw [given_bind, ih]

lemma given_forM_of_nothing {f : α → Evaluation Unit} {as : List α}
    (h : ∀ a ∈ as, (f a).given answers = pure ()) : (as.forM f).given answers = pure () := by
  have hnothing : (as.flatMap fun a => ((f a).given answers).events) = [] :=
    List.flatMap_eq_nil_iff.2 fun a ha => by rw [h a ha]; rfl
  rw [given_forM, Recorded.forM_of_ok fun a ha => by rw [h a ha]; rfl, hnothing]
  rfl

/-- `forM` over steps that end well or in `fault` ends in `fault` if one step does. -/
lemma result_forM_of_stop {f : α → Evaluation Unit} {as : List α} {fault : EvaluationFault}
    (h : ∀ a ∈ as, ((f a).given answers).result = .error fault ∨
      ((f a).given answers).result = .ok ())
    (hstop : ∃ a ∈ as, ((f a).given answers).result = .error fault) :
    ((as.forM f).given answers).result = .error fault := by
  rw [given_forM]
  cases hresult : (as.forM fun a => (f a).given answers).result with
  | ok _ =>
    obtain ⟨a, ha, herror⟩ := hstop
    have hok := Recorded.ok_of_forM_ok hresult a ha
    rw [herror] at hok
    cases hok
  | error fault' =>
    obtain ⟨a, ha, herror'⟩ := Recorded.exists_of_forM_error hresult
    rcases h a ha with herror | hok
    · exact herror'.symm.trans herror
    · rw [hok] at herror'
      cases herror'

/-- `>>=` after a silent `ofConsulting` goes on with its value. -/
lemma given_ofConsulting_bind {x : Consulting α} (hx : x.Silent) (f : α → Evaluation β) :
    (ofConsulting x >>= f).given answers = (f (x.given answers).2).given answers :=
  (silent_ofConsulting hx).given_bind_of_ok (congrArg Recorded.result (given_ofConsulting x)) f

end Evaluation

/-! ## Questions that every game asks -/

variable {s : Scene} {m : Modifier}

namespace Modifier

lemma followsCheck_addAmount (amount : Float) :
    FollowsCheck (m.checkText "YieldType") ((m.addAmount amount).given answers).result :=
  followsCheck_ofRule_bind fun _ _ => (neverMalformed_note _).followsCheck

lemma followsCheck_addOwnAmount :
    FollowsCheck m.checkAmount (m.addOwnAmount.given answers).result :=
  followsCheck_ofRule_bind fun amount _ => followsCheck_addAmount amount

lemma followsCheck_addPercent (percent : Float) :
    FollowsCheck (m.checkText "YieldType")
      ((m.addPercent percent).given answers).result :=
  followsCheck_ofRule_bind fun _ _ => (neverMalformed_note _).followsCheck

lemma followsCheck_addCityPercent (c : City) (percent : Float) :
    FollowsCheck (m.checkText "YieldType")
      ((m.addCityPercent c percent).given answers).result :=
  followsCheck_ofRule_bind fun _ _ => (sequential_neverMalformed.forM fun _ _ =>
    (neverMalformed_ofNumber _).bind fun _ => neverMalformed_note _).followsCheck

lemma followsCheck_amountOr {percentage : Float → Evaluation Unit}
    (h : ∀ percent, FollowsCheck (m.checkText "YieldType")
      ((percentage percent).given answers).result) :
    FollowsCheck m.checkAmountOr ((YieldEffect.amountOr m percentage).given answers).result := by
  refine followsCheck_ofRule_bind fun percent _ => ?_
  cases percent with
  | none => exact followsCheck_addOwnAmount
  | some percent => exact h percent

end Modifier

lemma followsCheck_addAdjacency (c : City) :
    FollowsCheck (m.checkText "ConstructibleAdjacency")
      ((addAdjacency s m c).given answers).result := by
  cases hid : m.text "ConstructibleAdjacency" with
  | error fault =>
    unfold Modifier.checkText addAdjacency
    rw [hid]
    exact .malformed
  | ok id =>
    unfold Modifier.checkText
    rw [hid]
    exact (neverMalformed_addAdjacency hid s c).followsCheck

lemma followsCheck_addWarehouse (c : City) :
    FollowsCheck (m.checkText "WarehouseYieldChange")
      ((addWarehouse s m c).given answers).result := by
  cases hid : m.text "WarehouseYieldChange" with
  | error fault =>
    unfold Modifier.checkText addWarehouse
    rw [hid]
    exact .malformed
  | ok id =>
    unfold Modifier.checkText
    rw [hid]
    exact (neverMalformed_addWarehouse hid s c).followsCheck

/-! ## Counts -/

/-- What a count comes to: it is malformed as its check is, or else there is a number, or one that
is too large for a double. -/
inductive Tallies : Except RuleFault Unit → Except EvaluationFault Quantity → Prop
  | malformed {fault : RuleFault} : Tallies (.error fault) (.error (.rule fault))
  | tallied {count : Quantity} : Tallies (.ok ()) (.ok count)
  | tooLarge {fault : NumberFault} : Tallies (.ok ()) (.error (.number fault))

lemma Modifier.tallies_divided (count : Int) : Tallies m.checkDivisor (m.divided count) := by
  unfold checkDivisor divided
  cases m.number? "Divisor" with
  | error fault => exact .malformed
  | ok divisor =>
    cases divisor with
    | none => exact .tallied
    | some divisor =>
      show Tallies (if divisor ≤ 0.0 then throw _ else pure ())
        (if divisor ≤ 0.0 then throw _ else _)
      split
      · exact .malformed
      · cases Exact.ofInt? count with
        | error fault => exact .tooLarge
        | ok count => exact .tallied

/-- A count that asks one thing first. -/
lemma tallies_ofRule (r : Except RuleFault Unit) {f : Unit → Evaluation Quantity}
    (h : ∀ a, (f a).Ends answers) : Tallies r ((ofRule r >>= f).given answers).result := by
  cases r with
  | error fault => exact .malformed
  | ok a =>
    obtain ⟨count, hcount⟩ := h a
    show Tallies (.ok ()) ((f a).given answers).result
    rw [hcount]
    exact .tallied

lemma CityCount.tallies_of (c : City) (count : CityCount) :
    Tallies (count.check m) ((count.of s m c).given answers).result := by
  cases count with
  | attributePoints =>
    unfold CityCount.check CityCount.of Modifier.checkText
    cases m.text "AttributeType" with
    | error fault => exact .malformed
    | ok type => exact .tallied
  | population => exact m.tallies_divided (m.inhabitants c)
  | constructibles =>
    exact tallies_ofRule m.selectsConstructibles fun _ =>
      (ends_ofConsulting _).bind fun _ => ends_pure _
  | specialists | resources | greatWorks => exact .tallied

lemma PlayerCount.tallies_of (p : Player) (count : PlayerCount) :
    Tallies (count.check m) ((count.of s m p).given answers).result := by
  cases count with
  | constructibles =>
    have hsequential : Sequential fun {α : Type} (x : Evaluation α) => x.Ends answers :=
      ⟨ends_pure, Ends.bind⟩
    exact tallies_ofRule m.selectsConstructibles fun _ =>
      (hsequential.mapM (fun _ => ends_ofConsulting _) _).bind fun _ => ends_pure _
  | activeTraditions | settlements | cityStates | alliances | resources | commanderLevels =>
    exact .tallied

namespace Modifier

/-- `addAmountTimes` follows `checkAmount` if the count does not overflow. -/
lemma followsCheck_addAmountTimes {count : Quantity} (h : ¬ m.Overflows (.ok count)) :
    FollowsCheck m.checkAmount ((m.addAmountTimes count).given answers).result := by
  refine followsCheck_ofRule_bind fun amount hamount => ?_
  cases htimes : count.toFloat? with
  | error fault => exact absurd (.multiplied htimes hamount) h
  | ok times => exact followsCheck_addAmount (amount * times)

variable {x : Evaluation Quantity} {check : Except RuleFault Unit}

lemma followsCheck_count (hx : Tallies check (x.given answers).result)
    (h : ¬ m.Overflows (x.given answers).result) :
    FollowsCheck (check >>= fun _ => m.checkAmount)
      ((x >>= m.addAmountTimes).given answers).result := by
  rw [given_bind, Recorded.result_bind]
  generalize (x.given answers).result = result at hx h
  cases hx with
  | malformed => exact .malformed
  | tallied => exact followsCheck_addAmountTimes h
  | tooLarge => exact absurd .divided h

end Modifier

/-! ## Savings -/

namespace Modifier

lemma followsCheck_saving (count : Int) (cost : Quantity) :
    FollowsCheck m.checkSaving (m.saving count cost) := by
  rcases m.saving_malformed_or_ruleFree with ⟨rule, hrule, hall⟩ | ⟨hok, hfree⟩
  · rw [hrule, hall]
    exact .malformed
  · rw [hok]
    exact .passed (hfree count cost)

/-- `groupSaving` over at least one group follows `checkSaving`. -/
lemma followsCheck_groupSavings {groups : List UnitGroup} (hsome : groups ≠ []) :
    FollowsCheck m.checkSaving (groups.mapM m.groupSaving) := by
  rcases m.saving_malformed_or_ruleFree with ⟨rule, hrule, hall⟩ | ⟨hok, hfree⟩
  · obtain ⟨g, rest, rfl⟩ := List.exists_cons_of_ne_nil hsome
    rw [hrule, List.mapM_cons, groupSaving, hall]
    exact .malformed
  · have hgroup (g : UnitGroup) : RuleFree (m.groupSaving g) := hfree g.count g.maintenance
    rw [hok]
    exact .passed (ruleFree_mapM hgroup groups)

lemma followsCheck_saveOnUnits {p : Player} (hpriced : ∀ u ∈ p.units, UnitGroup.Priced u)
    (hconcerned : ∃ u ∈ p.units, m.ConcernsUnit answers u) :
    FollowsCheck m.checkSaving ((m.saveOnUnits p).given answers).result := by
  obtain ⟨groups, hgroups, -, htargets⟩ := UnitGroup.ofUnits_of_priced answers hpriced
  obtain ⟨g, hg, htarget⟩ := (htargets m).2 hconcerned
  have hsome : groups.filter (·.isTargetOf m) ≠ [] :=
    List.ne_nil_of_mem (List.mem_filter.2 ⟨hg, htarget⟩)
  rw [saveOnUnits, given_bind, Recorded.result_bind, hgroups]
  show FollowsCheck m.checkSaving
    ((ofExcept ((groups.filter (·.isTargetOf m)).mapM m.groupSaving) >>= fun savings =>
      contribute .noMultiplier (some m.unitYieldTypes) (savings.foldl (· + ·) 0.0)).given
        answers).result
  exact followsCheck_ofExcept_bind (followsCheck_groupSavings hsome)
    fun _ => neverMalformed_note _

lemma given_saveOnUnit (u : GameUnit) :
    (m.saveOnUnit u).given answers =
      (if ((UnitGroup.single u).given answers).2.isTargetOf m then
        ofExcept (m.groupSaving ((UnitGroup.single u).given answers).2) >>=
          contribute .noMultiplier (some m.unitYieldTypes)
      else pure () : Evaluation Unit).given answers :=
  given_ofConsulting_bind (UnitGroup.confined_single u).silent _

lemma followsCheck_saveOnUnit {u : GameUnit} (hconcerned : m.ConcernsUnit answers u) :
    FollowsCheck m.checkSaving ((m.saveOnUnit u).given answers).result := by
  unfold ConcernsUnit at hconcerned
  rw [given_saveOnUnit, if_pos hconcerned]
  exact followsCheck_ofExcept_bind (followsCheck_saving _ _) fun _ => neverMalformed_note _

lemma given_saveOnConstructible (type : Option String) :
    (m.saveOnConstructible type).given answers =
      (if ((m.concernsConstructible type).given answers).2 then
        ((answers.payments type).filter fun r => m.concernsYield r.yieldType).forM m.saveOnPayment
      else pure () : Evaluation Unit).given answers := by
  refine (given_ofConsulting_bind (m.confined_concernsConstructible type).silent _).trans ?_
  split
  · exact given_ofConsulting_bind (Consulting.silent_request _) _
  · rfl

lemma given_saveOnConstructible_of_other {type : Option String}
    (h : ¬ m.ConcernsPayment answers type) :
    (m.saveOnConstructible type).given answers = pure () := by
  rw [given_saveOnConstructible]
  split
  next hconcerned =>
    have hnone : ((answers.payments type).filter fun r => m.concernsYield r.yieldType) = [] :=
      List.filter_eq_nil_iff.2 fun r hr hyield => h ⟨hconcerned, r, hr, hyield⟩
    rw [hnone]
    rfl
  next => rfl

/-- If `saving` ends in a rule fault, `saveOnConstructible` does where a payment is concerned. -/
lemma result_saveOnConstructible {type : Option String} {rule : RuleFault}
    (hall : ∀ count cost, m.saving count cost = .error (.rule rule))
    (h : m.ConcernsPayment answers type) :
    ((m.saveOnConstructible type).given answers).result = .error (.rule rule) := by
  obtain ⟨hconcerned, r, hr, hyield⟩ := h
  have hpayment (r : MaintenanceRecord) :
      ((m.saveOnPayment r).given answers).result = .error (.rule rule) := by
    rw [saveOnPayment, hall]
    rfl
  rw [given_saveOnConstructible, if_pos hconcerned]
  exact result_forM_of_stop (fun r _ => .inl (hpayment r))
    ⟨r, List.mem_filter.2 ⟨hr, hyield⟩, hpayment r⟩

lemma followsCheck_saveOnConstructibles {cities : List City}
    (h : (m.arguments.has "Amount" || m.arguments.has "Percent") = true →
      m.FindsPayment answers s cities) :
    FollowsCheck m.checkPayments ((m.saveOnConstructibles s cities).given answers).result := by
  unfold checkPayments saveOnConstructibles
  split
  next hgiven =>
    rcases m.saving_malformed_or_ruleFree with ⟨rule, hrule, hall⟩ | ⟨hok, hfree⟩
    · obtain ⟨type, htype, hconcerned⟩ := h hgiven
      have hstop := result_saveOnConstructible hall hconcerned
      have hsteps (type : Option String) :
          ((m.saveOnConstructible type).given answers).result = .error (.rule rule) ∨
            ((m.saveOnConstructible type).given answers).result = .ok () := by
        by_cases hconcerned : m.ConcernsPayment answers type
        · exact .inl (result_saveOnConstructible hall hconcerned)
        · exact .inr (by rw [given_saveOnConstructible_of_other hconcerned]; rfl)
      rw [hrule, result_forM_of_stop (fun type _ => hsteps type) ⟨type, htype, hstop⟩]
      exact .malformed
    · rw [hok]
      exact (sequential_neverMalformed.forM fun type _ =>
        neverMalformed_saveOnConstructible hfree type).followsCheck
  next => exact .malformed

end Modifier

end PolicyForecast
