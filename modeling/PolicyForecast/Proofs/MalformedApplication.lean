import PolicyForecast.Proofs.CautiousEffects
import PolicyForecast.Proofs.Independence

/-!
# Malformed applications do nothing

Where rules are not strict, no malformed rule gets out of the application of a modifier, and so none
out of a modifier that is entered. An effect that attaches a modifier is therefore malformed only in
its own argument, which it reads first, and with `YieldEffect.cautious_run` every effect that stops
at a malformed rule has done nothing by then (`Scene.cautious_perform`).

Main statement: a malformed application contributes nothing and has one remark, its own
(`Scene.malformed_application_does_nothing`). It holds for every cache, whatever was kept in it.
-/

namespace PolicyForecast

variable {α β : Type}

/-! ## Applications and malformed rules -/

namespace Application

/-- A computation that never stops at a malformed rule. -/
def NeverMalformed (x : Application α) : Prop :=
  ∀ stack, (x.outcome stack).Always fun r => ∀ rule, r.1 ≠ .error (.evaluation (.rule rule))

/-- A computation that stops at a malformed rule only as long as it has noted nothing. -/
def Cautious (x : Application α) : Prop :=
  ∀ stack, (x.outcome stack).Ensures fun events r =>
    ∀ rule, r.1 = .error (.evaluation (.rule rule)) → events = []

/-- A computation that notes nothing, whether it stops or not. -/
def Silent (x : Application α) : Prop :=
  ∀ stack, (x.outcome stack).Silent

lemma neverMalformed_pure (a : α) : (pure a : Application α).NeverMalformed := fun _ => nofun

lemma neverMalformed_ofEvaluation {x : Evaluation α} (h : x.NeverMalformed) :
    (ofEvaluation x).NeverMalformed := by
  intro stack
  rw [outcome_ofEvaluation]
  refine Consulting.Always.bind h fun r hr => Consulting.always_pure fun rule hrule => ?_
  cases r with
  | error fault =>
    obtain rfl : fault = .rule rule := Fault.evaluation.inj (Except.error.inj hrule)
    exact hr rule rfl
  | ok a => cases hrule

lemma NeverMalformed.bind {x : Application α} {f : α → Application β} (hx : x.NeverMalformed)
    (hf : ∀ a, (f a).NeverMalformed) : (x >>= f).NeverMalformed := by
  intro stack
  rw [outcome_bind]
  refine (hx stack).bind fun ⟨result, left⟩ hr => ?_
  cases result with
  | error fault =>
    refine Consulting.always_pure fun rule hrule => hr rule ?_
    rw [Except.error.inj hrule]
  | ok a => exact hf a left

lemma neverMalformed_forM {f : α → Application Unit} (h : ∀ a, (f a).NeverMalformed)
    (as : List α) : (as.forM f).NeverMalformed := by
  induction as with
  | nil => exact neverMalformed_pure ()
  | cons a rest ih => exact (h a).bind fun _ => ih

lemma NeverMalformed.entering {body : Application α} (h : body.NeverMalformed) (id : String) :
    (entering id body).NeverMalformed := by
  intro stack
  by_cases hmem : id ∈ stack
  · rw [outcome_entering_of_mem hmem]
    exact Consulting.always_pure nofun
  · rw [outcome_entering_of_not_mem hmem]
    exact (h _).bind fun r hr => Consulting.always_pure hr

lemma NeverMalformed.cautious {x : Application α} (h : x.NeverMalformed) : x.Cautious :=
  fun stack => (h stack).ensures.mono fun _ _ hr rule hrule => absurd hrule (hr rule)

lemma cautious_ofEvaluation {x : Evaluation α} (h : x.Cautious) : (ofEvaluation x).Cautious := by
  intro stack
  rw [outcome_ofEvaluation]
  refine Consulting.Ensures.bind h fun events r hr => Consulting.ensures_pure fun rule hrule => ?_
  rw [List.append_nil]
  cases r with
  | error fault =>
    obtain rfl : fault = .rule rule := Fault.evaluation.inj (Except.error.inj hrule)
    exact hr fun hfree => hfree rule rfl
  | ok a => cases hrule

lemma silent_ofEvaluation {x : Evaluation α} (h : x.Silent) : (ofEvaluation x).Silent := by
  intro stack
  rw [outcome_ofEvaluation]
  exact Consulting.Silent.bind h fun _ => Consulting.silent_pure _

lemma silent_ofResult {x : Consulting (Except Fault α)} (h : x.Silent) : (ofResult x).Silent := by
  intro stack
  rw [outcome_ofResult]
  exact h.bind fun _ => Consulting.silent_pure _

lemma Silent.bind_cautious {x : Application α} {f : α → Application β} (hx : x.Silent)
    (hf : ∀ a, (f a).Cautious) : (x >>= f).Cautious := by
  intro stack
  rw [outcome_bind]
  refine Consulting.Ensures.bind (hx stack) ?_
  rintro events ⟨result, left⟩ rfl
  cases result with
  | error fault => exact Consulting.ensures_pure fun _ _ => rfl
  | ok a => exact hf a left

/-- The record of a run, from a stack and on a cache. -/
def ran (rules : Rules) (x : Application α) (stack : List String) (cache : RuleCache) :
    Recorded Fault α :=
  (x.run rules stack cache).1.1

/-- A `Cautious` computation that ends in a rule fault has no events. -/
lemma Cautious.ran {x : Application α} (h : x.Cautious) {rules : Rules} {stack : List String}
    {cache : RuleCache} {fault : RuleFault}
    (hfault : (x.ran rules stack cache).result = .error (.evaluation (.rule fault))) :
    x.ran rules stack cache = ⟨[], .error (.evaluation (.rule fault))⟩ := by
  have hevents : (x.ran rules stack cache).events = [] :=
    (h stack).run rules cache fault hfault
  calc x.ran rules stack cache
      = ⟨(x.ran rules stack cache).events, (x.ran rules stack cache).result⟩ := rfl
    _ = _ := by rw [hevents, hfault]

end Application

/-! ## The effects of modifiers -/

namespace Scene

open Application

variable {s : Scene} {apply : Modifier → Subject → Application Unit} {m : Modifier}
  {subject : Subject}

/-- Where rules are not strict, `guarded` ends in no rule fault. -/
lemma neverMalformed_guarded (hlenient : s.settings.strictArguments = false)
    (x : Application Unit) : (s.guarded m subject x).NeverMalformed := by
  intro stack
  unfold guarded
  rw [outcome_tryCatch]
  refine (x.outcome stack).always_true.bind fun ⟨result, left⟩ _ => ?_
  rcases result with fault | _
  · rcases fault with fault | _ | _ | _ | _
    · rcases fault with fault | _ | _ | _
      · -- the remark is noted, and nothing is thrown again
        simp only [hlenient]
        exact nofun
      all_goals exact nofun
    all_goals exact nofun
  · exact nofun

/-- Where rules are not strict, `apply` ends in no rule fault. -/
lemma neverMalformed_apply (hlenient : s.settings.strictArguments = false) (fuel : Nat)
    (m : Modifier) (subject : Subject) : (s.apply fuel m subject).NeverMalformed := by
  cases fuel with
  | zero => exact fun _ => nofun
  | succ fuel =>
    unfold apply
    split
    · exact neverMalformed_pure ()
    · unfold effect
      split
      · exact neverMalformed_ofEvaluation (Evaluation.neverMalformed_note _)
      · exact neverMalformed_ofEvaluation (Evaluation.neverMalformed_note _)
      · exact neverMalformed_guarded hlenient _

/-- `enter` ends in a rule fault only if `apply` does. -/
lemma neverMalformed_enter (h : ∀ m subject, (apply m subject).NeverMalformed) (m : Modifier)
    (parent : Option Subject) : (s.enter apply m parent).NeverMalformed :=
  ((neverMalformed_ofEvaluation (m.neverMalformed_subjects s parent)).bind
    fun subjects => neverMalformed_forM (h m) subjects).entering m.id

/-- `attach` is `Cautious` if `apply` ends in no rule fault. -/
lemma cautious_attach (h : ∀ m subject, (apply m subject).NeverMalformed) (m : Modifier)
    (subject : Subject) : (s.attach apply m subject).Cautious := by
  refine (silent_ofEvaluation (Evaluation.silent_ofRule _)).bind_cautious fun id => ?_
  refine (silent_ofResult (Consulting.silent_request _)).bind_cautious fun found => ?_
  cases found with
  | none => exact (neverMalformed_ofEvaluation (Evaluation.neverMalformed_note _)).cautious
  | some attached => exact (neverMalformed_enter h attached _).cautious

/-- `perform` is `Cautious`, for `attach` where rules are not strict. -/
lemma cautious_perform (fuel : Nat) (m : Modifier) (subject : Subject) {effect : Effect}
    (h : effect = .attach → s.settings.strictArguments = false) :
    (s.perform (s.apply fuel) m subject effect).Cautious := by
  cases effect with
  | yields effect => exact cautious_ofEvaluation (effect.cautious_run s m subject)
  | attach => exact cautious_attach (neverMalformed_apply (h rfl) fuel) m subject
  | inert => exact (neverMalformed_pure ()).cautious

/-! ## Malformed applications -/

/-- `guarded` adds a `ruleRemark` to a rule fault, which stays where rules are strict. -/
lemma ran_guarded {rules : Rules} {stack : List String} {cache : RuleCache} {fault : RuleFault}
    {events : List Event} {x : Application Unit}
    (h : x.ran rules stack cache = ⟨events, .error (.evaluation (.rule fault))⟩) :
    (s.guarded m subject x).ran rules stack cache
      = ⟨events ++ [ruleRemark m subject fault],
          if s.settings.strictArguments then .error (.evaluation (.rule fault)) else .ok ()⟩ := by
  unfold ran run at h ⊢
  unfold guarded
  rw [outcome_tryCatch, Consulting.run_bind]
  rcases hrun : (x.outcome stack).run rules cache with ⟨⟨events', result, left⟩, cache'⟩
  rw [hrun] at h
  obtain ⟨rfl, rfl⟩ : events' = events ∧ result = .error (.evaluation (.rule fault)) :=
    Recorded.mk.inj h
  cases hstrict : s.settings.strictArguments with
  | true => simp only [if_true]; rfl
  | false => rfl

end Scene

/-- The effect that is carried out when a modifier is applied to a subject: none where the modifier
only acts at the moment when it is new, or there is nothing to apply it to. -/
def Modifier.carriedOut? (m : Modifier) (subject : Subject) : Option Effect :=
  if m.newOnly || subject.isEmpty then none else Effect.ofType? m.effect

namespace Scene

open Application

variable {s : Scene} {m : Modifier} {subject : Subject}

/-- `apply` is `guarded` `perform` on the effect that is `carriedOut?`. -/
lemma apply_of_carriedOut {effect : Effect} (h : m.carriedOut? subject = some effect)
    (hyields : effect ≠ .inert) (fuel : Nat) :
    s.apply (fuel + 1) m subject
      = s.guarded m subject (s.perform (s.apply fuel) m subject effect) := by
  unfold Modifier.carriedOut? at h
  unfold apply Scene.effect
  split at h
  · cases h
  next hbusy =>
    rw [if_neg hbusy, h]
    cases effect with
    | inert => exact absurd rfl hyields
    | yields | attach => rfl

lemma apply_idle (h : (m.newOnly || subject.isEmpty) = true) (fuel : Nat) :
    s.apply (fuel + 1) m subject = pure () := by
  unfold apply
  rw [if_pos h]

/-- Let `perform` end in a rule fault. Where rules are not strict, `apply` ends well without
additions and remarks, except for the text of the fault if the effect is carried out. Where they are
strict, neither has additions, unless the effect is `attach`. -/
theorem malformed_application_does_nothing (rules : Rules) (s : Scene) (fuel : Nat) (m : Modifier)
    (subject : Subject) (effect : Effect) (stack : List String) (cache : RuleCache)
    (fault : RuleFault) (heffect : Effect.ofType? m.effect = some effect)
    (hmalformed : ((s.perform (s.apply fuel) m subject effect).ran rules stack cache).result
      = .error (.evaluation (.rule fault))) :
    (s.settings.strictArguments = false →
      ((s.apply (fuel + 1) m subject).ran rules stack cache).result = .ok () ∧
      (∀ delta : Delta,
        delta.addAll ((s.apply (fuel + 1) m subject).ran rules stack cache).additions = delta) ∧
      ((s.apply (fuel + 1) m subject).ran rules stack cache).errors
        = (if m.newOnly || subject.isEmpty then []
          else [s!"{Wording.name m.effect} on {subject.describe}: {fault.message}"]) ∧
      ((s.apply (fuel + 1) m subject).ran rules stack cache).missings = [] ∧
      ((s.apply (fuel + 1) m subject).ran rules stack cache).ignored = []) ∧
    (s.settings.strictArguments = true → effect ≠ .attach → ∀ delta : Delta,
      delta.addAll ((s.perform (s.apply fuel) m subject effect).ran rules stack cache).additions
        = delta ∧
      delta.addAll ((s.apply (fuel + 1) m subject).ran rules stack cache).additions = delta) := by
  have hyields : effect ≠ .inert := by
    rintro rfl
    cases hmalformed
  -- the effect alone has done nothing when it stops
  have hran (hlenient : effect = .attach → s.settings.strictArguments = false) :=
    (cautious_perform fuel m subject hlenient).ran hmalformed
  cases hidle : m.newOnly || subject.isEmpty with
  | true =>
    rw [apply_idle hidle]
    refine ⟨fun _ => ⟨rfl, fun _ => rfl, rfl, rfl, rfl⟩, fun _ hother delta => ?_⟩
    rw [hran fun h => absurd h hother]
    exact ⟨rfl, rfl⟩
  | false =>
    have hcarried : m.carriedOut? subject = some effect := by
      rw [Modifier.carriedOut?, hidle]
      exact heffect
    rw [apply_of_carriedOut hcarried hyields]
    refine ⟨fun hlenient => ?_, fun _ hother delta => ?_⟩
    · rw [ran_guarded (hran fun _ => hlenient), hlenient]
      exact ⟨rfl, fun _ => rfl, rfl, rfl, rfl⟩
    · have hran := hran fun h => absurd h hother
      rw [ran_guarded hran, hran]
      exact ⟨rfl, rfl⟩

/-- An amount for the player without a `YieldType`. -/
def givingAmount : Modifier where
  id := "GRANT"
  effect := some "EFFECT_PLAYER_ADJUST_YIELD"
  arguments := .ofRows [{ name := some "Amount", value := some "5" }]

/-- `perform` of `givingAmount`, which has no `YieldType`, ends in `missingArgument`, and `apply` in
one error with the text of this fault. -/
theorem amount_without_type_does_nothing :
    let s : Scene := ⟨.solitaire, { id := 0 }, {}⟩
    let player : Subject := .player { id := 0 }
    let given := s.perform (s.apply 0) givingAmount player (.yields .playerYield)
    Effect.ofType? givingAmount.effect = some (.yields .playerYield) ∧
      (given.ran {} [] (.ofRules {})).result
        = .error (.evaluation (.rule (.missingArgument "GRANT" "YieldType"))) ∧
      ((s.apply 1 givingAmount player).ran {} [] (.ofRules {})).result = .ok () ∧
      ((s.apply 1 givingAmount player).ran {} [] (.ofRules {})).errors
        = ["EFFECT_PLAYER_ADJUST_YIELD on Player(0): " ++
            "Modifier GRANT is missing a YieldType argument"] := by
  intro s player given
  have heffect : Effect.ofType? givingAmount.effect = some (.yields .playerYield) := rfl
  have hmalformed : (given.ran {} [] (.ofRules {})).result
      = .error (.evaluation (.rule (.missingArgument "GRANT" "YieldType"))) := rfl
  have hnothing := (malformed_application_does_nothing {} s 0 givingAmount player _ [] _ _ heffect
    hmalformed).1 rfl
  exact ⟨heffect, hmalformed, hnothing.1, hnothing.2.2.1⟩

end Scene

end PolicyForecast
