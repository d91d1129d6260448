import PolicyForecast.Proofs.Sequences
import PolicyForecast.Session

/-!
# Which traces give standing yields

Of a trace only two values count, the base value and the modifier value of its first step
(`Baseline.baseValue?`, `Baseline.modifierValue?`). If both are there and convert to doubles, they
are the standing yield, and otherwise the trace stands for no yield at all, whatever it is
(`Baseline.reading`). There is one exception: a whole number in these places that is too large for a
double is neither converted nor passed over, and keeps all standing yields of the player from being
read (`Baseline.Overflows`).

Main statement: `Session.standing_yields_exact`.
-/

namespace PolicyForecast

/-! ## Values in a trace -/

namespace Json

/-- The value at a path of fields. -/
def at? (value : Json) : List String → Option Json
  | [] => some value
  | name :: rest => (value.field? name).bind (·.at? rest)

/-- The double that a value converts to: a number, a truth value or a text that spells a number. -/
def double? : Json → Option Float
  | .int n => (Exact.ofInt? n).toOption
  | .float x => some x
  | .bool b => some (if b then 1.0 else 0.0)
  | .text s => Text.float? s
  | .null | .brokenText _ | .array _ | .object _ => none

/-- A whole number that is too large for a double. -/
def TooLarge (value : Json) : Prop :=
  ∃ n, value = .int n ∧ Exact.ofInt? n = .error .tooLarge

lemma TooLarge.double?_eq_none {value : Json} (h : value.TooLarge) : value.double? = none := by
  obtain ⟨n, rfl, hlarge⟩ := h
  rw [double?, hlarge]
  rfl

end Json

namespace Baseline

variable {trace : Json}

/-- The first step of a trace. -/
def firstStep (trace : Json) : Option Json :=
  (trace.at? ["base", "steps"]).bind fun steps => steps.items?.bind List.head?

/-- The base value of the first step. -/
def baseValue? (trace : Json) : Option Json :=
  (firstStep trace).bind (·.at? ["base", "value"])

/-- The modifier value of the first step. -/
def modifierValue? (trace : Json) : Option Json :=
  (firstStep trace).bind (·.at? ["modifier", "value"])

/-- What a trace says of a standing yield: both numbers of its first step, or nothing. -/
def reading (trace : Json) : Baseline :=
  match (baseValue? trace).bind Json.double?, (modifierValue? trace).bind Json.double? with
  | some amount, some percent => { amount, percent }
  | _, _ => {}

/-- The first of the two values that does not convert is a whole number that is too large. -/
inductive Overflows (trace : Json) : Prop
  | base {value : Json} (hvalue : baseValue? trace = some value) (hlarge : value.TooLarge)
  | modifier {amount : Float} {value : Json}
      (hamount : (baseValue? trace).bind Json.double? = some amount)
      (hvalue : modifierValue? trace = some value) (hlarge : value.TooLarge)

/-! ## The two values are all that is read -/

/-- The double of a value that may be missing. -/
def convert (value : Option Json) : Except TraceFault Float :=
  value.elim (.error .malformed) number?

lemma step_eq (trace : Json) :
    (part? "base" trace >>= fun base => part? "steps" base >>= first?)
      = (firstStep trace).elim (.error .malformed) .ok := by
  unfold firstStep part? Json.at? Json.at? Json.at?
  cases trace.field? "base" with
  | none => rfl
  | some base =>
    show ((base.field? "steps").elim _ _ >>= first?)
      = (((base.field? "steps").bind some).bind _).elim _ _
    cases base.field? "steps" with
    | none => rfl
    | some steps =>
      cases steps with
      | array items => cases items <;> rfl
      | _ => rfl

lemma convert_eq (name : String) (step : Json) :
    (part? name step >>= fun part => part? "value" part >>= number?)
      = convert (step.at? [name, "value"]) := by
  unfold convert part? Json.at? Json.at? Json.at?
  cases step.field? name with
  | none => rfl
  | some part =>
    show ((part.field? "value").elim _ _ >>= number?)
      = (((part.field? "value").bind some).elim _ _)
    cases part.field? "value" <;> rfl

/-- `firstStep?` is `convert` of `baseValue?` and then of `modifierValue?`. -/
lemma firstStep?_eq (trace : Json) : firstStep? trace = (do
    let amount ← convert (baseValue? trace)
    let percent ← convert (modifierValue? trace)
    return { amount, percent }) := by
  have hnested : firstStep? trace =
      (part? "base" trace >>= fun base => part? "steps" base >>= first?) >>= fun step =>
        (part? "base" step >>= fun part => part? "value" part >>= number?) >>= fun amount =>
          (part? "modifier" step >>= fun part => part? "value" part >>= number?) >>= fun percent =>
            .ok { amount, percent } := by
    simp only [bind_assoc]
    rfl
  rw [hnested, step_eq]
  unfold baseValue? modifierValue?
  cases firstStep trace with
  | none => rfl
  | some step =>
    show ((part? "base" step >>= fun part => part? "value" part >>= number?) >>= _) = _
    simp only [convert_eq]
    rfl

/-- `ofTrace` is `firstStep?` also where the trace is not substantial. -/
lemma ofTrace_eq (trace : Json) : ofTrace trace = match firstStep? trace with
    | .ok b => .ok b
    | .error .malformed => .ok {}
    | .error (.number fault) => .error fault := by
  unfold ofTrace
  cases hsubstantial : trace.isSubstantial with
  | true => rfl
  | false =>
    have hnothing : trace.field? "base" = none := by
      cases trace with
      | object fields =>
        cases fields with
        | nil => rfl
        | cons field rest => cases hsubstantial
      | _ => rfl
    have hmalformed : firstStep? trace = .error .malformed := by
      unfold firstStep? part?
      rw [hnothing]
      rfl
    rw [hmalformed]
    rfl

/-! ## What a trace comes to -/

/-- A value that is to be converted is a double, or it is too large, or it is missing or of another
kind. -/
inductive Conversion (value : Option Json) : Prop
  | double {x : Float} (hdouble : value.bind Json.double? = some x)
      (hconvert : convert value = .ok x)
  | tooLarge {large : Json} (hvalue : value = some large) (hlarge : large.TooLarge)
      (hconvert : convert value = .error (.number .tooLarge))
  | malformed (hdouble : value.bind Json.double? = none)
      (hsmall : ∀ other, value = some other → ¬ other.TooLarge)
      (hconvert : convert value = .error .malformed)

lemma conversion (value : Option Json) : Conversion value := by
  have hother {value : Json} (hdouble : value.double? = none) (hint : ∀ n, value ≠ .int n)
      (hnumber : number? value = .error .malformed) : Conversion (some value) := by
    refine .malformed hdouble ?_ hnumber
    rintro _ ⟨⟩ ⟨n, hn, -⟩
    exact hint n hn
  cases value with
  | none => exact .malformed rfl nofun rfl
  | some value =>
    cases value with
    | int n =>
      cases hn : Exact.ofInt? n with
      | ok x =>
        exact .double (by rw [Option.bind_some, Json.double?, hn]; rfl)
          (by rw [convert, Option.elim_some, number?, hn]; rfl)
      | error fault =>
        obtain rfl := Exact.eq_tooLarge_of_ofInt? hn
        exact .tooLarge rfl ⟨n, rfl, hn⟩ (by rw [convert, Option.elim_some, number?, hn]; rfl)
    | float x => exact .double rfl rfl
    | bool b => exact .double rfl rfl
    | text s =>
      cases hs : Text.float? s with
      | some x =>
        exact .double (by rw [Option.bind_some, Json.double?, hs])
          (by rw [convert, Option.elim_some, number?, hs]; rfl)
      | none => exact hother (by rw [Json.double?, hs]) nofun (by rw [number?, hs]; rfl)
    | null | brokenText | array | object => exact hother rfl nofun rfl

lemma convert_of_tooLarge {value : Json} (h : value.TooLarge) :
    convert (some value) = .error (.number .tooLarge) := by
  obtain ⟨n, rfl, hlarge⟩ := h
  rw [convert, Option.elim_some, number?, hlarge]
  rfl

lemma convert_of_double {value : Option Json} {x : Float} (h : value.bind Json.double? = some x) :
    convert value = .ok x := by
  cases conversion value with
  | double hdouble hconvert =>
    obtain rfl := Option.some.inj (hdouble.symm.trans h)
    exact hconvert
  | tooLarge hvalue hlarge =>
    rw [hvalue, Option.bind_some, hlarge.double?_eq_none] at h
    cases h
  | malformed hdouble =>
    rw [hdouble] at h
    cases h

/-- `ofTrace` of a trace that `Overflows`. -/
lemma ofTrace_of_overflows (h : Overflows trace) : ofTrace trace = .error .tooLarge := by
  rw [ofTrace_eq, firstStep?_eq]
  cases h with
  | base hvalue hlarge =>
    rw [hvalue, convert_of_tooLarge hlarge]
    rfl
  | modifier hamount hvalue hlarge =>
    rw [convert_of_double hamount, hvalue, convert_of_tooLarge hlarge]
    rfl

/-- `ofTrace` of any other trace is its `reading`. -/
lemma ofTrace_of_not_overflows (h : ¬ Overflows trace) : ofTrace trace = .ok (reading trace) := by
  rw [ofTrace_eq, firstStep?_eq, reading]
  cases conversion (baseValue? trace) with
  | tooLarge hvalue hlarge => exact absurd (.base hvalue hlarge) h
  | malformed hdouble _ hconvert =>
    rw [hconvert, hdouble]
    rfl
  | @double amount hamount hconvert =>
    rw [hconvert, hamount]
    cases conversion (modifierValue? trace) with
    | tooLarge hvalue hlarge => exact absurd (.modifier hamount hvalue hlarge) h
    | malformed hdouble _ hconvert =>
      rw [hconvert, hdouble]
      rfl
    | @double percent hpercent hconvert =>
      rw [hconvert, hpercent]
      rfl

lemma ofTrace_eq_error {fault : NumberFault} :
    ofTrace trace = .error fault ↔ Overflows trace ∧ fault = .tooLarge := by
  by_cases h : Overflows trace
  · rw [ofTrace_of_overflows h]
    exact ⟨fun heq => ⟨h, (Except.error.inj heq).symm⟩, fun heq => heq.2 ▸ rfl⟩
  · rw [ofTrace_of_not_overflows h]
    exact ⟨nofun, fun heq => absurd heq.1 h⟩

end Baseline

/-! ## The traces of a player -/

namespace Baselines

variable {traces : OrderedMap String Json}

/-- What the traces say of standing yields, each by itself. -/
def readings (traces : OrderedMap String Json) : Baselines :=
  ⟨traces.entries.map fun entry => (entry.1, Baseline.reading entry.2)⟩

/-- Some trace has a number that is too large. -/
def Overflow (traces : OrderedMap String Json) : Prop :=
  ∃ trace ∈ traces.values, Baseline.Overflows trace

lemma ofTraces_eq (traces : OrderedMap String Json) : ofTraces traces = do
    let entries ← traces.entries.mapM fun entry =>
      Baseline.ofTrace entry.2 >>= fun b => pure (entry.1, b)
    return ⟨entries⟩ := rfl

lemma ofTraces_of_not_overflow (h : ¬ Overflow traces) :
    ofTraces traces = .ok (readings traces) := by
  have hentry : ∀ entry ∈ traces.entries, (Baseline.ofTrace entry.2 >>= fun b => pure (entry.1, b))
      = .ok (entry.1, Baseline.reading entry.2) := by
    intro entry hentry
    have hread : ¬ Baseline.Overflows entry.2 := fun hoverflows =>
      h ⟨entry.2, List.mem_map_of_mem hentry, hoverflows⟩
    rw [Baseline.ofTrace_of_not_overflows hread]
    rfl
  rw [ofTraces_eq, (mapM_congr hentry).trans List.mapM_pure]
  rfl

lemma ofTraces_of_overflow (h : Overflow traces) : ofTraces traces = .error .tooLarge := by
  obtain ⟨trace, htrace, hoverflows⟩ := h
  obtain ⟨entry, hentry, rfl⟩ := List.mem_map.1 htrace
  have hstop (entry : String × Json) (fault : NumberFault) :
      (Baseline.ofTrace entry.2 >>= fun b => pure (entry.1, b)) = .error fault
        ↔ Baseline.Overflows entry.2 ∧ fault = .tooLarge := by
    rw [bind_pure_eq_error]
    exact Baseline.ofTrace_eq_error
  rw [ofTraces_eq, (mapM_eq_error hstop).2 ⟨⟨entry, hentry, hoverflows⟩, rfl⟩]
  rfl

lemma get?_readings (traces : OrderedMap String Json) (type : String) :
    (readings traces).get? type = (traces.get? type).map Baseline.reading :=
  lookup_map_value (fun _ => Baseline.reading) traces.entries

end Baselines

namespace Session

open Baseline Baselines

lemma updateBaselines_eq (session : Session) {g : Snapshot} {player : Player}
    (h : g.localPlayer = .ok player) :
    session.updateBaselines g =
      ((ofTraces player.yieldTraces).mapError fun fault => .evaluation (.number fault)).map
        fun baselines => { session with baselines } := by
  unfold updateBaselines
  rw [h]
  show (do let baselines ← (ofTraces player.yieldTraces).mapError _; _) = _
  cases ofTraces player.yieldTraces <;> rfl

/-- `ofTrace trace` is `reading trace`, which depends on `baseValue?` and `modifierValue?` only, or
`tooLarge` if the trace `Overflows`. `ofTraces` has a `reading` for each key, or is `tooLarge` if
`Overflow traces`; `updateBaselines` takes over the one or ends in the other. -/
theorem standing_yields_exact (trace : Json) (traces : OrderedMap String Json)
    (session : Session) :
    (¬ Overflows trace → ofTrace trace = .ok (reading trace)) ∧
    (Overflows trace → ofTrace trace = .error .tooLarge) ∧
    (∀ trace', baseValue? trace' = baseValue? trace → modifierValue? trace' = modifierValue? trace →
      ofTrace trace' = ofTrace trace) ∧
    (¬ Overflow traces → ofTraces traces = .ok (readings traces) ∧
      (readings traces).keys = traces.keys ∧
      ∀ type, (readings traces).get? type = (traces.get? type).map reading) ∧
    (Overflow traces → ofTraces traces = .error .tooLarge) ∧
    ∀ (g : Snapshot) (player : Player), g.localPlayer = .ok player →
      (¬ Overflow player.yieldTraces → session.updateBaselines g
        = .ok { session with baselines := readings player.yieldTraces }) ∧
      (Overflow player.yieldTraces → session.updateBaselines g
        = .error (.evaluation (.number .tooLarge))) := by
  refine ⟨ofTrace_of_not_overflows, ofTrace_of_overflows, ?_, ?_, ofTraces_of_overflow,
    fun g player hplayer => ⟨fun hfits => ?_, fun hlarge => ?_⟩⟩
  · intro trace' hbase hmodifier
    rw [ofTrace_eq, ofTrace_eq, firstStep?_eq, firstStep?_eq, hbase, hmodifier]
  · intro hfits
    refine ⟨ofTraces_of_not_overflow hfits, ?_, get?_readings traces⟩
    unfold readings OrderedMap.keys
    rw [List.map_map]
    rfl
  · rw [updateBaselines_eq session hplayer, ofTraces_of_not_overflow hfits]
    rfl
  · rw [updateBaselines_eq session hplayer, ofTraces_of_overflow hlarge]
    rfl

/-- A trace with one step of the values `base` and `modifier`. -/
def traced (base modifier : Json) : Json :=
  .object [(.text "base", .object [(.text "steps", .array
    [.object [(.text "base", .object [(.text "value", base)]),
      (.text "modifier", .object [(.text "value", modifier)])]])])]

/-- A game whose local player has some traces. -/
def explaining (traces : List (String × Json)) : Snapshot where
  localPlayerId := some 0
  players := .ofList [(0, { id := 0, yieldTraces := .ofList traces })]

/-- The modifier value `many` gives `YIELD_FOOD` no standing yield, and that of `YIELD_GOLD` is as
its trace has it. -/
theorem unreadable_food_leaves_gold :
    let food := traced (.float 3.0) (.text "many")
    let traces := [("YIELD_FOOD", food), ("YIELD_GOLD", traced (.text "12") (.bool true))]
    ofTrace food = .ok {} ∧
      ∃ next, (opened {} .empty).updateBaselines (explaining traces) = .ok next ∧
        next.baselines.entries = [("YIELD_FOOD", {}), ("YIELD_GOLD", ⟨12.0, 1.0⟩)] := by
  intro food traces
  have hfits {base modifier : Json} (h : Overflows (traced base modifier))
      (hbase : ∀ n, base ≠ .int n) (hmodifier : ∀ n, modifier ≠ .int n) : False := by
    rcases h with ⟨⟨⟩, n, hn, -⟩ | ⟨-, ⟨⟩, n, hn, -⟩
    · exact hbase n hn
    · exact hmodifier n hn
  have hfood : ¬ Overflows food := fun h => hfits h nofun nofun
  have htraces : ¬ Overflow (.ofList traces) := by
    rintro ⟨trace, htrace, hoverflows⟩
    rcases List.mem_cons.1 htrace with rfl | htrace
    · exact hfood hoverflows
    · obtain rfl := List.mem_singleton.1 htrace
      exact hfits hoverflows nofun nofun
  obtain ⟨hread, -, -, -, -, hupdate⟩ :=
    standing_yields_exact food (.ofList traces) (opened {} .empty)
  obtain ⟨hok, -⟩ := hupdate (explaining traces) _ rfl
  exact ⟨hread hfood, _, hok htraces, rfl⟩

/-- A trace whose base value is beyond the largest double. -/
def excessive : Json :=
  traced (.int (Int.pow 10 400)) (.int 1)

/-- `excessive` is `tooLarge`, and so `ofTraces` and `updateBaselines` end in `tooLarge`, although
the trace of `YIELD_GOLD` has a `reading`. -/
theorem excessive_food_stops_update :
    let traces := [("YIELD_FOOD", excessive), ("YIELD_GOLD", traced (.text "12") (.bool true))]
    ofTrace excessive = .error .tooLarge ∧ ofTraces (.ofList traces) = .error .tooLarge ∧
      (opened {} .empty).updateBaselines (explaining traces)
        = .error (.evaluation (.number .tooLarge)) := by
  intro traces
  have hlarge : Overflows excessive := .base rfl ⟨Int.pow 10 400, rfl, by decide +kernel⟩
  have htraces : ofTraces (.ofList traces) = .error .tooLarge :=
    ofTraces_of_overflow ⟨excessive, List.mem_cons_self, hlarge⟩
  have hplayer : (explaining traces).localPlayer
      = .ok { id := 0, yieldTraces := OrderedMap.ofList traces } := rfl
  refine ⟨ofTrace_of_overflows hlarge, htraces, ?_⟩
  rw [updateBaselines_eq _ hplayer, htraces]
  rfl

end Session

end PolicyForecast
