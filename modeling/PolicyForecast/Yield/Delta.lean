import PolicyForecast.OrderedMap
import PolicyForecast.Text.Items

/-!
# What modifiers add to a player's yields

Contributions go to three channels that are summed apart and meet only when the preview is
finished: flat amounts, percentages of the standing yield, and flat amounts that no percentage
touches. Within a channel every yield type has one running sum, and types are listed in the order
of their first contribution.
-/

namespace PolicyForecast

/-- The three sums that a contribution can go to. -/
inductive Channel where
  /-- Flat amounts that percentages multiply. -/
  | amount
  /-- Percentages of the standing yield. -/
  | percent
  /-- Flat amounts that nothing multiplies. -/
  | noMultiplier
deriving DecidableEq, Repr

/-- The sums of one channel by yield type. -/
abbrev Sums := OrderedMap String Float

/-- One contribution: a value for every yield type that a text names. -/
structure Addition where
  channel : Channel
  types : Option String
  value : Float

/-- Everything contributed so far. -/
structure Delta where
  amount : Sums := ∅
  percent : Sums := ∅
  noMultiplier : Sums := ∅

/-- The yield types that a text names, such as `YIELD_FOOD, YIELD_PRODUCTION`. -/
def yieldTypes (text : Option String) : List String :=
  Text.items (text.getD "")

/-- Adds a value to one yield type; a sum starts from zero. -/
def Sums.add (sums : Sums) (value : Float) (type : String) : Sums :=
  sums.insert type (sums.getD type 0.0 + value)

namespace Delta

/-- The sums of a channel. -/
def channel (d : Delta) : Channel → Sums
  | .amount => d.amount
  | .percent => d.percent
  | .noMultiplier => d.noMultiplier

/-- Changes the sums of one channel. -/
def onChannel (d : Delta) (f : Sums → Sums) : Channel → Delta
  | .amount => { d with amount := f d.amount }
  | .percent => { d with percent := f d.percent }
  | .noMultiplier => { d with noMultiplier := f d.noMultiplier }

/-- Adds one contribution, once for each time its text names a type. -/
def add (d : Delta) (a : Addition) : Delta :=
  d.onChannel (fun sums => (yieldTypes a.types).foldl (Sums.add · a.value) sums) a.channel

/-- The sums of a list of contributions. -/
def addAll (d : Delta) (additions : List Addition) : Delta :=
  additions.foldl add d

/-- Whether nothing was contributed. -/
def isEmpty (d : Delta) : Bool :=
  d.amount.isEmpty && d.percent.isEmpty && d.noMultiplier.isEmpty

@[simp] theorem addAll_cons (d : Delta) (a : Addition) (as : List Addition) :
    d.addAll (a :: as) = (d.add a).addAll as := rfl

theorem addAll_append (d : Delta) (as bs : List Addition) :
    d.addAll (as ++ bs) = (d.addAll as).addAll bs :=
  List.foldl_append

/-- A contribution leaves the other channels as they are. -/
theorem channel_add_of_ne (d : Delta) (a : Addition) {c : Channel} (h : c ≠ a.channel) :
    (d.add a).channel c = d.channel c := by
  obtain ⟨ch, types, value⟩ := a
  cases ch <;> cases c <;> first | rfl | exact absurd rfl h

end Delta

end PolicyForecast
