import PolicyForecast.Proofs.Faithful

/-!
# The same rules with other traditions

Which modifiers a tradition brings is only asked for when a preview of the tradition begins. Rules
that list the modifiers of traditions otherwise resolve modifiers as before and give the same
answers (`Rules.resolvedAll_listing`, `Rules.answer_listing`), so a preview of given modifiers has
the same record (`Engine.record_listing`).
-/

namespace PolicyForecast

namespace Rules

variable {rules : Rules} {links : List TraditionModifier}

/-- The rules with other lists of the modifiers of traditions. -/
def listing (rules : Rules) (links : List TraditionModifier) : Rules :=
  { rules with traditionModifiers := links }

lemma resolveSet_listing (fuel : Nat) :
    (rules.listing links).resolveSet fuel = rules.resolveSet fuel := by
  induction fuel with
  | zero => rfl
  | succ fuel ih =>
    funext above id
    unfold resolveSet
    rw [ih]
    rfl

lemma resolveModifier?_listing :
    (rules.listing links).resolveModifier? = rules.resolveModifier? := by
  have hset : (rules.listing links).set = rules.set := by
    funext id
    unfold set
    rw [resolveSet_listing]
    rfl
  have hrecord : (rules.listing links).resolveRecord = rules.resolveRecord := by
    funext id record
    unfold resolveRecord
    rw [hset]
    rfl
  funext id
  unfold resolveModifier?
  rw [hrecord]
  rfl

lemma resolved_listing : (rules.listing links).resolved = rules.resolved := by
  funext id
  unfold resolved RuleCache.resolve
  rw [resolveModifier?_listing]
  rfl

lemma resolvedAll_listing : (rules.listing links).resolvedAll = rules.resolvedAll := by
  funext ids
  induction ids with
  | nil => rfl
  | cons id rest ih => rw [resolvedAll, resolvedAll, resolved_listing, ih]

lemma answer_listing : (rules.listing links).answer = rules.answer := by
  funext q
  cases q with
  | modifier id => exact congrFun resolved_listing (some id)
  | _ => rfl

/-- One more link of `t` is one more id in `traditionModifierIds t`. -/
lemma traditionModifierIds_listing {before after : List TraditionModifier} (t : String)
    (id : Option String) (hlist : rules.traditionModifiers = before ++ after) :
    ∃ earlier later, rules.traditionModifierIds t = earlier ++ later ∧
      (rules.listing (before ++ ⟨some t, id⟩ :: after)).traditionModifierIds t
        = earlier ++ id :: later := by
  refine ⟨(rules.listing before).traditionModifierIds t,
    (rules.listing after).traditionModifierIds t, ?_, ?_⟩
  · simp [traditionModifierIds, listing, hlist]
  · simp [traditionModifierIds, listing, keyMatches]

end Rules

namespace Engine

/-- The engine with other lists of the modifiers of traditions. -/
def listing (e : Engine) (links : List TraditionModifier) : Engine :=
  { e with rules := e.rules.listing links }

lemma record_listing (e : Engine) (links : List TraditionModifier) :
    (e.listing links).record = e.record := by
  funext g ids
  have hscene : (e.listing links).scene g = e.scene g := rfl
  have hdepth : (e.listing links).rules.depth = e.rules.depth := rfl
  have hresolved : (e.listing links).rules.resolvedAll = e.rules.resolvedAll :=
    Rules.resolvedAll_listing
  have hanswer : (e.listing links).rules.answer = e.rules.answer := Rules.answer_listing
  unfold Engine.record
  rw [hscene, hdepth, hresolved, hanswer]

end Engine

end PolicyForecast
