import PolicyForecast.Proofs.RuleChecks

/-!
# What modifiers save by

A modifier saves an amount for each thing, or else a percentage of its cost (`SavingRate`). Which of
the two, or that it is malformed, is settled by its arguments alone, before anything is known of the
things (`Modifier.saving_of_rate`, `Modifier.saving_malformed`).
-/

namespace PolicyForecast

/-- What a saving is reckoned by. -/
inductive SavingRate where
  /-- An amount for each thing. -/
  | each (amount : Float)
  /-- A percentage of the cost. -/
  | share (percent : Float)

namespace SavingRate

/-- What arguments say of a saving: an amount if there is one, or else a percentage. There is no
rate where neither is given or the one that counts is no number. -/
def ofArguments? (args : Arguments) : Option SavingRate :=
  match args.filled? "Amount" with
  | some text => (Text.float? text).map .each
  | none => (args.filled? "Percent").bind fun text => (Text.float? text).map .share

/-- What a rate saves on a number of things with a common cost. -/
def saved (count : Int) (cost : Quantity) : SavingRate → Except NumberFault Float
  | .each amount => (amount * ·) <$> Exact.ofInt? count
  | .share percent => (Modifier.shareSaved · percent) <$> cost.toFloat?

/-- What a rate saves on a single payment. -/
def savedOnce (cost : Float) : SavingRate → Float
  | .each amount => amount * Float.ofInt 1
  | .share percent => Modifier.shareSaved cost percent

lemma saved_one (cost : Float) (rate : SavingRate) :
    rate.saved 1 (.real cost) = .ok (rate.savedOnce cost) := by
  have hone : Exact.ofInt? 1 = .ok (Float.ofInt 1) := by decide +kernel
  cases rate with
  | each amount =>
    unfold saved
    rw [hone]
    rfl
  | share percent => rfl

end SavingRate

namespace Modifier

variable {m : Modifier}

/-! ## Numbers that arguments spell -/

lemma number?_of_none {name : String} (h : m.arguments.filled? name = none) :
    m.number? name = .ok none := by
  rw [number?, h]

lemma number?_of_spelled {name text : String} {x : Float}
    (h : m.arguments.filled? name = some text) (hx : Text.float? text = some x) :
    m.number? name = .ok (some x) := by
  rw [number?, h]
  show some <$> m.numberOf name text = _
  rw [numberOf, hx]
  rfl

lemma number?_of_unspelled {name text : String} (h : m.arguments.filled? name = some text)
    (hx : Text.float? text = none) : m.number? name = .error (.notANumber m.id name text) := by
  rw [number?, h]
  show some <$> m.numberOf name text = _
  rw [numberOf, hx]
  rfl

/-! ## Savings -/

lemma saving_of_amount {amount : Float} (h : m.number? "Amount" = .ok (some amount)) (count : Int)
    (cost : Quantity) :
    m.saving count cost = ((SavingRate.each amount).saved count cost).mapError .number := by
  rw [saving, h, SavingRate.saved]
  cases Exact.ofInt? count <;> rfl

lemma saving_of_percent {percent : Float} (hamount : m.number? "Amount" = .ok none)
    (h : m.number? "Percent" = .ok (some percent)) (count : Int) (cost : Quantity) :
    m.saving count cost = ((SavingRate.share percent).saved count cost).mapError .number := by
  rw [saving, hamount, h, SavingRate.saved]
  cases cost.toFloat? <;> rfl

/-- `saving` of arguments with a rate is `rate.saved`. -/
lemma saving_of_rate {rate : SavingRate} (h : SavingRate.ofArguments? m.arguments = some rate)
    (count : Int) (cost : Quantity) :
    m.saving count cost = (rate.saved count cost).mapError .number := by
  unfold SavingRate.ofArguments? at h
  cases hamount : m.arguments.filled? "Amount" with
  | some text =>
    rw [hamount] at h
    obtain ⟨amount, hx, rfl⟩ := Option.map_eq_some_iff.1 h
    exact saving_of_amount (number?_of_spelled hamount hx) count cost
  | none =>
    rw [hamount] at h
    obtain ⟨text, hpercent, hshare⟩ := Option.bind_eq_some_iff.1 h
    obtain ⟨percent, hx, rfl⟩ := Option.map_eq_some_iff.1 hshare
    exact saving_of_percent (number?_of_none hamount) (number?_of_spelled hpercent hx) count cost

/-- `saving` of arguments without a rate is a rule fault, for every count and cost. -/
lemma saving_malformed (h : SavingRate.ofArguments? m.arguments = none) :
    ∃ fault, ∀ count cost, m.saving count cost = .error (.rule fault) := by
  unfold SavingRate.ofArguments? at h
  cases hamount : m.arguments.filled? "Amount" with
  | some text =>
    rw [hamount] at h
    refine ⟨.notANumber m.id "Amount" text, fun count cost => ?_⟩
    rw [saving, number?_of_unspelled hamount (Option.map_eq_none_iff.1 h)]
    rfl
  | none =>
    rw [hamount] at h
    cases hpercent : m.arguments.filled? "Percent" with
    | some text =>
      rw [hpercent] at h
      refine ⟨.notANumber m.id "Percent" text, fun count cost => ?_⟩
      rw [saving, number?_of_none hamount,
        number?_of_unspelled hpercent (Option.map_eq_none_iff.1 h)]
      rfl
    | none =>
      refine ⟨.missingSavingBasis m.id, fun count cost => ?_⟩
      rw [saving, number?_of_none hamount, number?_of_none hpercent]
      rfl

end Modifier

end PolicyForecast
