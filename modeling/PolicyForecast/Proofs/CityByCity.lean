import PolicyForecast.Proofs.InertModifiers
import PolicyForecast.Proofs.SavingRates

/-!
# Savings city by city

A saving on constructibles is contributed payment by payment, in the order of the cities, their
plots and what stands on these (`Modifier.paymentSavings`). A malformed modifier is found out at its
first payment or earlier, so that nothing is contributed by then; where the saving is on all cities
of a player together this stops it once, where it is on each city by itself it stops it again and
again. Either way the contributions are the same.

Main statement: `Scene.maintenance_city_by_city`.
-/

namespace PolicyForecast

variable {α β : Type} {rules : Rules} {cache : RuleCache} {answers : Answers}

/-! ## Applications that ask for no modifiers -/

namespace Application

/-- Whatever it is answered, a computation asks for no modifiers. -/
def Factual (x : Application α) : Prop :=
  ∀ stack, (x.outcome stack).Confined fun _ => True

lemma factual_pure (a : α) : (pure a : Application α).Factual := fun _ => trivial

lemma factual_ofEvaluation {x : Evaluation α} (h : x.Factual) : (ofEvaluation x).Factual := by
  intro stack
  rw [outcome_ofEvaluation]
  exact Consulting.Confined.bind h fun _ => Consulting.confined_pure _

lemma Factual.bind {x : Application α} {f : α → Application β} (hx : x.Factual)
    (hf : ∀ a, (f a).Factual) : (x >>= f).Factual := by
  intro stack
  rw [outcome_bind]
  refine (hx stack).bind fun ⟨result, left⟩ => ?_
  cases result with
  | error fault => exact Consulting.confined_pure _
  | ok a => exact hf a left

lemma factual_forM {f : α → Application Unit} (h : ∀ a, (f a).Factual) (as : List α) :
    (as.forM f).Factual := by
  induction as with
  | nil => exact factual_pure ()
  | cons a rest ih => exact (h a).bind fun _ => ih

/-- `ran` of a `Factual` computation is its `record` under the replies of the cache. -/
lemma Factual.ran_eq_record {x : Application α} (h : x.Factual) (rules : Rules)
    (stack : List String) (cache : RuleCache) :
    x.ran rules stack cache = x.record (cache.replies rules) stack := by
  have hrun := (h stack).run_eq_given rules cache
  unfold ran record Application.run Application.given
  rw [← hrun]

end Application

namespace Scene

open Application

variable {s : Scene} {m : Modifier} {subject : Subject} {stack : List String} {fuel : Nat}

lemma factual_guarded {x : Application Unit} (h : x.Factual) : (s.guarded m subject x).Factual := by
  intro stack
  unfold guarded
  rw [outcome_tryCatch]
  refine (h stack).bind fun ⟨result, left⟩ => ?_
  rcases result with fault | _
  · rcases fault with fault | _ | _ | _ | _
    · rcases fault with fault | _ | _ | _
      · -- the remark is noted, and nothing is asked for
        cases hstrict : s.settings.strictArguments with
        | true => exact ⟨trivial, trivial⟩
        | false => exact ⟨trivial, trivial⟩
      all_goals exact Consulting.confined_pure _
    all_goals exact Consulting.confined_pure _
  · exact Consulting.confined_pure _

/-- `apply` of a modifier with a yield effect. -/
lemma apply_yields_eq {effect : YieldEffect} (h : Effect.ofType? m.effect = some (.yields effect)) :
    s.apply (fuel + 1) m subject = if m.newOnly || subject.isEmpty then pure () else
      s.guarded m subject (ofEvaluation (effect.run s m subject)) := by
  unfold apply Scene.effect
  rw [h]
  rfl

lemma factual_apply {effect : YieldEffect} (h : Effect.ofType? m.effect = some (.yields effect))
    (subject : Subject) : (s.apply (fuel + 1) m subject).Factual := by
  rw [apply_yields_eq h]
  split
  · exact factual_pure ()
  · exact factual_guarded (factual_ofEvaluation (effect.factual_run s m subject))

lemma record_apply_yields {effect : YieldEffect}
    (h : Effect.ofType? m.effect = some (.yields effect)) :
    (s.apply (fuel + 1) m subject).record answers stack =
      if m.newOnly || subject.isEmpty then ⟨[], .ok ()⟩ else
        s.remarked m subject (((effect.run s m subject).given answers).mapError .evaluation) := by
  rw [apply_yields_eq h]
  split
  · rfl
  · rw [record_guarded (steady_ofEvaluation _), record_ofEvaluation]

end Scene

/-! ## Payments -/

namespace Recorded

lemma additions_forM {ε : Type} {f : α → Recorded ε Unit} {as : List α}
    (h : ∀ a ∈ as, (f a).result = .ok ()) :
    (as.forM f).result = .ok () ∧ (as.forM f).additions = as.flatMap fun a => (f a).additions := by
  rw [forM_of_ok h]
  exact ⟨rfl, List.filterMap_flatMap⟩

/-- `forM` over steps that do nothing or end in `fault` at once does one of the two. -/
lemma forM_of_idle {ε : Type} {f : α → Recorded ε Unit} {fault : ε} {as : List α}
    (h : ∀ a ∈ as, f a = ⟨[], .error fault⟩ ∨ f a = pure ()) :
    as.forM f = ⟨[], .error fault⟩ ∨ as.forM f = pure () := by
  induction as with
  | nil => exact .inr rfl
  | cons a rest ih =>
    rw [List.forall_mem_cons] at h
    have hcons : (a :: rest).forM f = f a >>= fun _ => rest.forM f := rfl
    rw [hcons]
    rcases h.1 with hstop | hidle
    · exact .inl (by rw [hstop, bind_of_error rfl])
    · rw [hidle, pure_bind]
      exact ih h.2

end Recorded

namespace Modifier

variable {m : Modifier} {s : Scene}

/-- The payments for a constructible type that a modifier concerns. -/
def concernedPayments (m : Modifier) (answers : Answers) (type : Option String) :
    List MaintenanceRecord :=
  if ((m.concernsConstructible type).given answers).2
  then (answers.payments type).filter fun r => m.concernsYield r.yieldType else []

/-- What is saved on the payments for some constructibles, payment by payment; nothing where the
arguments do not say how much. -/
def paymentSavings (m : Modifier) (answers : Answers) (types : List (Option String)) :
    List Addition :=
  (SavingRate.ofArguments? m.arguments).elim [] fun rate =>
    (types.flatMap (m.concernedPayments answers)).map fun r =>
      ⟨.noMultiplier, r.yieldType, rate.savedOnce (costOf r)⟩

/-- `paymentSavings` reads only the arguments. -/
lemma paymentSavings_congr {m' : Modifier} (h : m'.arguments = m.arguments) :
    m'.paymentSavings = m.paymentSavings := by
  have hpayments : m'.concernedPayments = m.concernedPayments := by
    unfold concernedPayments concernsConstructible concernsYield
    rw [h]
  unfold paymentSavings
  rw [hpayments, h]

/-- `paymentSavings` over a `flatMap` is taken lot by lot. -/
lemma paymentSavings_flatMap (lots : List α) (types : α → List (Option String)) :
    m.paymentSavings answers (lots.flatMap types)
      = lots.flatMap fun lot => m.paymentSavings answers (types lot) := by
  unfold paymentSavings
  cases SavingRate.ofArguments? m.arguments with
  | none => exact (List.flatMap_eq_nil_iff.2 fun _ _ => rfl).symm
  | some rate =>
    show ((lots.flatMap types).flatMap _).map _
      = lots.flatMap fun lot => ((types lot).flatMap _).map _
    rw [List.flatMap_assoc, List.map_flatMap]

/-- An effect on constructibles makes its contributions and ends, or it is malformed. -/
structure Saves (m : Modifier) (answers : Answers) (types : List (Option String))
    (x : Recorded EvaluationFault Unit) : Prop where
  additions : x.additions = m.paymentSavings answers types
  ends : x.result = .ok () ∨ ∃ fault, x.result = .error (.rule fault)

lemma given_saveOnConstructible_eq (type : Option String) :
    (m.saveOnConstructible type).given answers
      = (m.concernedPayments answers type).forM fun r => (m.saveOnPayment r).given answers := by
  rw [given_saveOnConstructible, ← Evaluation.given_forM]
  unfold concernedPayments
  split <;> rfl

/-- With a rate, `saveOnPayment` adds `savedOnce` for the cost. -/
lemma given_saveOnPayment {rate : SavingRate}
    (h : SavingRate.ofArguments? m.arguments = some rate) (r : MaintenanceRecord) :
    (m.saveOnPayment r).given answers
      = ⟨[.addition ⟨.noMultiplier, r.yieldType, rate.savedOnce (costOf r)⟩], .ok ()⟩ := by
  unfold saveOnPayment
  rw [saving_of_rate h, SavingRate.saved_one]
  rfl

lemma saves_of_rate {rate : SavingRate} (h : SavingRate.ofArguments? m.arguments = some rate)
    (types : List (Option String)) :
    m.Saves answers types ((types.forM m.saveOnConstructible).given answers) := by
  have hpayments (type : Option String) :
      ((m.saveOnConstructible type).given answers).result = .ok () ∧
        ((m.saveOnConstructible type).given answers).additions
          = (m.concernedPayments answers type).map fun r =>
            ⟨.noMultiplier, r.yieldType, rate.savedOnce (costOf r)⟩ := by
    rw [given_saveOnConstructible_eq]
    obtain ⟨hresult, hadditions⟩ := Recorded.additions_forM
      fun r (_ : r ∈ m.concernedPayments answers type) =>
        congrArg Recorded.result (given_saveOnPayment h r)
    refine ⟨hresult, hadditions.trans ?_⟩
    rw [List.map_eq_flatMap]
    exact List.flatMap_congr fun r _ => by rw [given_saveOnPayment h]; rfl
  rw [Evaluation.given_forM]
  obtain ⟨hresult, hadditions⟩ := Recorded.additions_forM
    fun type (_ : type ∈ types) => (hpayments type).1
  refine ⟨hadditions.trans ?_, .inl hresult⟩
  unfold paymentSavings
  rw [h]
  show _ = (types.flatMap _).map _
  rw [List.map_flatMap]
  exact List.flatMap_congr fun type _ => (hpayments type).2

/-- Without a rate, the first payment ends `saveOnConstructible` in a rule fault, without
additions. -/
lemma saves_of_malformed (h : SavingRate.ofArguments? m.arguments = none)
    (types : List (Option String)) :
    m.Saves answers types ((types.forM m.saveOnConstructible).given answers) := by
  obtain ⟨fault, hfault⟩ := saving_malformed h
  have hpayment (r : MaintenanceRecord) :
      (m.saveOnPayment r).given answers = ⟨[], .error (.rule fault)⟩ := by
    rw [saveOnPayment, hfault]
    rfl
  have hidle : (types.forM m.saveOnConstructible).given answers = ⟨[], .error (.rule fault)⟩ ∨
      (types.forM m.saveOnConstructible).given answers = pure () := by
    rw [Evaluation.given_forM]
    refine Recorded.forM_of_idle fun type _ => ?_
    rw [given_saveOnConstructible_eq]
    exact Recorded.forM_of_idle fun r _ => .inl (hpayment r)
  have hnothing : m.paymentSavings answers types = [] := by
    rw [paymentSavings, h]
    rfl
  rcases hidle with hstop | hdone
  · rw [hstop]
    exact ⟨hnothing.symm, .inr ⟨fault, rfl⟩⟩
  · rw [hdone]
    exact ⟨hnothing.symm, .inl rfl⟩

lemma ofArguments?_of_not_has
    (h : ¬ (m.arguments.has "Amount" || m.arguments.has "Percent") = true) :
    SavingRate.ofArguments? m.arguments = none := by
  unfold Arguments.has at h
  rw [Bool.or_eq_true, not_or, Bool.not_eq_true, Bool.not_eq_true, Option.isSome_eq_false_iff,
    Option.isSome_eq_false_iff, Option.isNone_iff_eq_none, Option.isNone_iff_eq_none] at h
  rw [SavingRate.ofArguments?, h.1, h.2]
  rfl

lemma saves_saveOnConstructibles (m : Modifier) (answers : Answers) (s : Scene)
    (cities : List City) :
    m.Saves answers (cities.flatMap s.game.map.cityConstructibles)
      ((m.saveOnConstructibles s cities).given answers) := by
  unfold saveOnConstructibles
  split
  next =>
    cases hrate : SavingRate.ofArguments? m.arguments with
    | none => exact saves_of_malformed hrate _
    | some rate => exact saves_of_rate hrate _
  next hneither =>
    refine ⟨?_, .inr ⟨.missingSaving m.id, rfl⟩⟩
    rw [paymentSavings, ofArguments?_of_not_has hneither]
    rfl

end Modifier

namespace Scene

variable {s : Scene} {m : Modifier}

/-- Where rules are not strict, `apply` of an effect that `Saves` ends well with `paymentSavings` as
its additions, or none if `newOnly`. -/
lemma record_apply_of_saves (hlenient : s.settings.strictArguments = false) {effect : YieldEffect}
    (heffect : Effect.ofType? m.effect = some (.yields effect)) (fuel : Nat) (stack : List String)
    {subject : Subject} (hsubject : subject.isEmpty = false) {types : List (Option String)}
    (h : m.Saves answers types ((effect.run s m subject).given answers)) :
    ((s.apply (fuel + 1) m subject).record answers stack).result = .ok () ∧
      ((s.apply (fuel + 1) m subject).record answers stack).additions
        = if m.newOnly then [] else m.paymentSavings answers types := by
  rw [record_apply_yields heffect, hsubject, Bool.or_false]
  by_cases hnew : m.newOnly = true
  · rw [if_pos hnew, if_pos hnew]
    exact ⟨rfl, rfl⟩
  · rw [if_neg hnew, if_neg hnew, Recorded.additions_remarked]
    refine ⟨?_, h.additions⟩
    generalize (effect.run s m subject).given answers = x at h
    rcases x with ⟨events, result⟩
    rcases h.ends with hok | ⟨fault, hfault⟩
    · obtain rfl : result = .ok () := hok
      rfl
    · obtain rfl : result = .error (.rule fault) := hfault
      show (if s.settings.strictArguments then _ else _) = _
      rw [hlenient]
      rfl

/-- Where rules are not strict, `apply` of the maintenance effect of a player, and `apply` of the
one of a city to each city in turn, with the same arguments, both end well, with the
`paymentSavings` over the constructibles of the cities as their additions. -/
theorem maintenance_city_by_city (rules : Rules) (cache : RuleCache) (s : Scene) (fuel : Nat)
    (stack : List String) (p : Player) (all each : Modifier)
    (hlenient : s.settings.strictArguments = false)
    (hall : all.effect = some "EFFECT_PLAYER_ADJUST_CONSTRUCTIBLE_MAINTENANCE_EFFICIENCY")
    (heach : each.effect = some "EFFECT_CITY_ADJUST_CONSTRUCTIBLE_MAINTENANCE_EFFICIENCY")
    (harguments : each.arguments = all.arguments) (hnew : each.newOnly = all.newOnly) :
    let together := (s.apply (fuel + 1) all (.player p)).ran rules stack cache
    let apart := (p.cities.forM fun c => s.apply (fuel + 1) each (.city c)).ran rules stack cache
    together.result = .ok () ∧ apart.result = .ok () ∧
      together.additions = (if all.newOnly then [] else
        all.paymentSavings (cache.replies rules)
          (p.cities.flatMap s.game.map.cityConstructibles)) ∧
      apart.additions = together.additions ∧
      ∀ delta : Delta, delta.addAll apart.additions = delta.addAll together.additions := by
  intro together apart
  have hplayer : Effect.ofType? all.effect = some (.yields .playerMaintenance) := by
    rw [hall]
    rfl
  have hcity : Effect.ofType? each.effect = some (.yields .cityMaintenance) := by
    rw [heach]
    rfl
  have htogether :
      together = (s.apply (fuel + 1) all (.player p)).record (cache.replies rules) stack :=
    (factual_apply hplayer _).ran_eq_record rules stack cache
  have hapart : apart = p.cities.forM fun c =>
      (s.apply (fuel + 1) each (.city c)).record (cache.replies rules) stack :=
    ((Application.factual_forM (fun c => factual_apply hcity (.city c)) _).ran_eq_record rules stack
      cache).trans (Application.record_forM (fun c => s.steady_apply (fuel + 1) each (.city c)) _)
  have hplayerSaves := all.saves_saveOnConstructibles (cache.replies rules) s p.cities
  have hcitySaves (c : City) := each.saves_saveOnConstructibles (cache.replies rules) s [c]
  have hnonempty : (Subject.player p).isEmpty = false ∧ ∀ c, (Subject.city c).isEmpty = false :=
    ⟨rfl, fun _ => rfl⟩
  obtain ⟨hend, hcontributed⟩ :=
    record_apply_of_saves hlenient hplayer fuel stack hnonempty.1 hplayerSaves
  have hcities (c : City) :=
    record_apply_of_saves hlenient hcity fuel stack (hnonempty.2 c) (hcitySaves c)
  obtain ⟨hends, hflat⟩ := Recorded.additions_forM fun c (_ : c ∈ p.cities) => (hcities c).1
  have hsame : apart.additions = together.additions := by
    rw [hapart, htogether, hcontributed, hflat]
    simp only [hcities, hnew, Modifier.paymentSavings_congr harguments, List.flatMap_singleton]
    by_cases honly : all.newOnly = true
    · simp only [if_pos honly]
      exact List.flatMap_eq_nil_iff.2 fun _ _ => rfl
    · simp only [if_neg honly]
      exact (Modifier.paymentSavings_flatMap _ _).symm
  rw [hsame, htogether, hapart]
  exact ⟨hend, hends, hcontributed, rfl, fun _ => rfl⟩

/-- Two cities, one with a shrine and one with two. -/
def hamlets : Scene where
  game := {
    localPlayerId := some 0
    map := {
      width := 2
      height := 1
      plots := .ofList [
        (0, { index := 0, x := 0, y := 0, constructibles := [some "SHRINE"] }),
        (1, { index := 1, x := 1, y := 0, constructibles := [some "SHRINE", some "SHRINE"] })] } }
  player := {
    id := 0
    cities := [
      { id := 1, name := none, owner := 0, purchasedPlots := [0] },
      { id := 2, name := none, owner := 0, purchasedPlots := [1] }] }
  settings := {}

/-- Rules in which a shrine costs gold. -/
def shrineRules : Rules where
  maintenances := [⟨some "SHRINE", some "YIELD_GOLD", some 2.0⟩]

/-- An effect with a `Percent` of 10. -/
def thrift (effect : String) : Modifier where
  id := "THRIFT"
  effect := some effect
  arguments := .ofRows [{ name := some "Percent", value := some "10" }]

/-- `thrift` adds `YIELD_GOLD` for each of the three shrines of `hamlets`, on the player and on the
cities. -/
theorem thrift_in_hamlets :
    let all := thrift "EFFECT_PLAYER_ADJUST_CONSTRUCTIBLE_MAINTENANCE_EFFICIENCY"
    let each := thrift "EFFECT_CITY_ADJUST_CONSTRUCTIBLE_MAINTENANCE_EFFICIENCY"
    let together := (hamlets.apply 1 all (.player hamlets.player)).ran shrineRules []
      (.ofRules shrineRules)
    let apart := (hamlets.player.cities.forM fun c => hamlets.apply 1 each (.city c)).ran
      shrineRules [] (.ofRules shrineRules)
    together.additions.map Addition.types = .replicate 3 (some "YIELD_GOLD") ∧
      apart.additions = together.additions := by
  intro all each together apart
  obtain ⟨-, -, hcontributed, hsame, -⟩ := maintenance_city_by_city shrineRules
    (.ofRules shrineRules) hamlets 0 [] hamlets.player all each rfl rfl rfl rfl rfl
  exact ⟨(congrArg _ hcontributed).trans (by decide +kernel), hsame⟩

end Scene

end PolicyForecast
