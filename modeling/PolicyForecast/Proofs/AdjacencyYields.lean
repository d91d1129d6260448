import PolicyForecast.Proofs.ChannelSums
import PolicyForecast.Proofs.NeighbourDemands
import PolicyForecast.Proofs.SavingArithmetic

/-!
# Adjacency yields are all or nothing

Only the number of the neighbours that qualify goes into the yield of a plot: each counts for the
rule's change if there are as many as the rule requires, and none does otherwise
(`AdjacencyRule.worth`). An effect adds these values up once for each constructible of a city that
takes part.

Main statement: `AdjacencyRule.yields_all_or_nothing`.
-/

namespace PolicyForecast

/-! ## What the neighbours are worth -/

/-- A number of things, each of a quantity, as a double. -/
def Quantity.times (n : Nat) : Quantity → Except NumberFault Float
  | .whole q => Exact.ofInt? (n * q)
  | .real x => .ok (Float.ofNat n * x)

lemma Quantity.times_zero (n : Nat) : (Quantity.whole 0).times n = .ok 0.0 := by
  show Exact.ofInt? (n * 0) = .ok 0.0
  rw [Int.mul_zero]
  rfl

/-- A quantity lies above a number. Below it are all numbers that are not at least as large; nothing
lies below what is no number. -/
def Quantity.Exceeds (n : Nat) : Quantity → Prop
  | .whole q => n < q
  | .real x => Exact.intBelow n x = true

instance (n : Nat) : DecidablePred (Quantity.Exceeds n)
  | .whole q => inferInstanceAs (Decidable ((n : Int) < q))
  | .real x => inferInstanceAs (Decidable (Exact.intBelow n x = true))

namespace AdjacencyRule

variable {r : AdjacencyRule} {tables : Rules} {p : Plot} {answers : Answers} {map : HexMap}

/-- How many neighbours a rule requires: one, if it says nothing or zero. -/
def required (r : AdjacencyRule) : Quantity :=
  (r.tilesRequired.filter (!·.isZero)).getD (.whole 1)

/-- What a rule adds for each neighbour. -/
def change (r : AdjacencyRule) : Quantity :=
  (r.yieldChange.filter (!·.isZero)).getD (.whole 0)

/-- What a number of neighbours is worth: nothing if the rule requires more, and the change for each
of them otherwise. -/
def worth (r : AdjacencyRule) (n : Nat) : Except NumberFault Float :=
  if r.required.Exceeds n then .ok 0.0 else r.change.times n

lemma enough_iff {n : Nat} : r.enough n = true ↔ ¬ r.required.Exceeds n := by
  unfold enough required
  cases r.tilesRequired.filter (!·.isZero) with
  | none =>
    rw [decide_eq_true_iff]
    show 1 ≤ n ↔ ¬ (n : Int) < 1
    omega
  | some required =>
    cases required with
    | whole t =>
      rw [decide_eq_true_iff]
      exact Int.not_lt.symm
    | real t =>
      show (!Exact.intBelow n t) = true ↔ ¬ Exact.intBelow n t = true
      rw [Bool.not_eq_true', Bool.not_eq_true]

lemma gain_eq (r : AdjacencyRule) (n : Nat) : r.gain n = r.change.times n := by
  unfold gain change
  cases r.yieldChange.filter (!·.isZero) with
  | none => exact (Quantity.times_zero n).symm
  | some change => cases change <;> rfl

/-- `worth` has no fault for a rule of `ofRow`. -/
lemma exists_worth_ofRow (row : Row) (n : Nat) : ∃ value, (ofRow row).worth n = .ok value := by
  have hchange : ∃ value, (ofRow row).change.times n = .ok value := by
    unfold change
    show ∃ value, Quantity.times n (((row.cell "YieldChange").real?.map .real
      |>.filter (!·.isZero)).getD (.whole 0)) = .ok value
    cases hfound : ((row.cell "YieldChange").real?.map Quantity.real).filter (!·.isZero) with
    | none => exact ⟨_, Quantity.times_zero n⟩
    | some change =>
      obtain ⟨x, -, rfl⟩ := Option.map_eq_some_iff.1 (Option.filter_eq_some_iff.1 hfound).1
      exact ⟨_, rfl⟩
  unfold worth
  split
  · exact ⟨_, rfl⟩
  · exact hchange

/-- `yield` is the `worth` of the number of neighbours that are `qualified`. -/
lemma given_yield (hwidth : map.width ≠ 0) (h : answers.TellOf tables) :
    (r.yield map p).given answers
      = ⟨[], (r.worth (r.qualified tables map p).length).mapError .number⟩ := by
  have hyield : (r.yield map p).given answers
      = (if r.enough (r.qualified tables map p).length
          then Evaluation.ofNumber (r.gain (r.qualified tables map p).length)
          else pure 0.0 : Evaluation Float).given answers := by
    rw [AdjacencyRule.yield, Evaluation.given_bind, given_qualifying hwidth h]
    rfl
  rw [hyield, worth, ← gain_eq]
  by_cases henough : r.enough (r.qualified tables map p).length = true
  · rw [if_pos henough, if_neg (enough_iff.1 henough)]
    rfl
  · rw [if_neg henough, if_pos (not_not.1 fun hnot => henough (enough_iff.2 hnot))]
    rfl

end AdjacencyRule

/-! ## The effect on a city -/

namespace Evaluation

variable {α β : Type} {answers : Answers}

/-- `mapM` of computations without events is `mapM` of their results. -/
lemma given_mapM_of_silent {f : α → Evaluation β} {g : α → Except EvaluationFault β}
    (h : ∀ a, (f a).given answers = ⟨[], g a⟩) (as : List α) :
    (as.mapM f).given answers = ⟨[], as.mapM g⟩ := by
  induction as with
  | nil => rfl
  | cons a rest ih =>
    rw [List.mapM_cons, List.mapM_cons, given_bind, h]
    cases g a with
    | error fault => rfl
    | ok b =>
      show (rest.mapM f >>= fun bs => pure (b :: bs) : Evaluation (List β)).given answers = _
      rw [given_bind, ih]
      cases rest.mapM g <;> rfl

end Evaluation

/-- `usesInCity` goes through `purchasedPlots`, and has each plot as often as constructibles on it
are among `members`. -/
lemma map_usesInCity {α : Type} (f : Plot → α) (map : HexMap) (c : City)
    (members : List (Option String)) :
    (usesInCity map c members).map f
      = c.purchasedPlots.flatMap fun index => (map.plot? index).toList.flatMap fun p =>
        .replicate (p.constructibles.countP members.contains) (f p) := by
  have hplots : map.cityPlots c = c.purchasedPlots.flatMap fun index => (map.plot? index).toList :=
    List.filterMap_eq_flatMap_toList _ _
  have hplot (p : Plot) : ((p.constructibles.filter members.contains).map fun _ => p).map f
      = .replicate (p.constructibles.countP members.contains) (f p) := by
    rw [List.map_map, List.countP_eq_length_filter]
    exact List.map_const'
  rw [usesInCity, List.map_flatMap, hplots, List.flatMap_assoc]
  simp only [hplot]

section Effect

open Arithmetic

variable {tables : Rules} {answers : Answers} {s : Scene} {m : Modifier} {c : City} {key : String}
  {r : AdjacencyRule} {members : List (Option String)}

/-- What the neighbours of a city's plots are worth: a value for every entry in its list of plots
that the map has and every constructible there that takes part. -/
def AdjacencyRule.worths (r : AdjacencyRule) (tables : Rules) (map : HexMap) (c : City)
    (members : List (Option String)) : List (Except NumberFault Float) :=
  c.purchasedPlots.flatMap fun index => (map.plot? index).toList.flatMap fun p =>
    .replicate (p.constructibles.countP members.contains)
      (r.worth (r.qualified tables map p).length)

lemma AdjacencyRule.worths_eq (map : HexMap) : r.worths tables map c members
    = (usesInCity map c members).map fun p => r.worth (r.qualified tables map p).length :=
  (map_usesInCity _ map c members).symm

/-- Without the adjacency, `cityAdjacency` makes one remark. -/
lemma given_cityAdjacency_of_none (hkey : m.text "ConstructibleAdjacency" = .ok key)
    (hrule : answers (.adjacency key) = (none : Option AdjacencyRule)) :
    (YieldEffect.cityAdjacency.run s m (.city c)).given answers
      = ⟨[.missing s!"Adjacency {key} not found ({m.id})"], .ok ()⟩ := by
  have hrun : YieldEffect.cityAdjacency.run s m (.city c) = addAdjacency s m c := rfl
  rw [hrun, addAdjacency, hkey]
  refine (Evaluation.given_ofConsulting_bind (Consulting.silent_request _) _).trans ?_
  rw [Consulting.given_request, hrule]
  rfl

/-- `cityAdjacency` contributes the sum of `worths`. -/
lemma given_cityAdjacency_of_some (hkey : m.text "ConstructibleAdjacency" = .ok key)
    (hrule : answers (.adjacency key) = some r)
    (hmembers : answers (.adjacencyMembers key) = members) (hwidth : s.game.map.width ≠ 0)
    (h : answers.TellOf tables) :
    (YieldEffect.cityAdjacency.run s m (.city c)).given answers
      = contributed .amount r.yieldType (doubles.sum (r.worths tables s.game.map c members)) := by
  let plots := usesInCity s.game.map c members
  let value (p : Plot) : Except EvaluationFault Float :=
    (r.worth (r.qualified tables s.game.map p).length).mapError .number
  have hvalues : plots.map value
      = (r.worths tables s.game.map c members).map (·.mapError .number) := by
    rw [AdjacencyRule.worths_eq, List.map_map]
    rfl
  have hyields : (plots.mapM (r.yield s.game.map)).given answers = ⟨[], plots.mapM value⟩ :=
    Evaluation.given_mapM_of_silent (fun p => AdjacencyRule.given_yield hwidth h) plots
  have hrun : YieldEffect.cityAdjacency.run s m (.city c) = addAdjacency s m c := rfl
  rw [hrun, addAdjacency, hkey]
  refine (Evaluation.given_ofConsulting_bind (Consulting.silent_request _) _).trans ?_
  rw [Consulting.given_request, hrule]
  refine (Evaluation.given_ofConsulting_bind (Consulting.silent_request _) _).trans ?_
  rw [Consulting.given_request, hmembers, Evaluation.given_bind, hyields,
    ← given_contribute_sum hvalues, Evaluation.given_bind]
  rfl

/-- The `worths` of a rule of `Rules.ofDatabase` have a sum. -/
lemma exists_sum_worths {db : Database} (hrule : (Rules.ofDatabase db).adjacency? key = some r)
    (map : HexMap) (c : City) (members : List (Option String)) :
    ∃ total, doubles.sum (r.worths tables map c members) = .ok total := by
  obtain ⟨row, -, rfl⟩ := List.mem_map.1 (List.mem_of_find?_eq_some hrule)
  have hterms : ∀ term ∈ (AdjacencyRule.ofRow row).worths tables map c members,
      ∃ value, id term = .ok value := by
    intro term hterm
    rw [AdjacencyRule.worths_eq] at hterm
    obtain ⟨p, -, rfl⟩ := List.mem_map.1 hterm
    exact AdjacencyRule.exists_worth_ofRow row _
  obtain ⟨values, hvalues⟩ := exists_mapM_ok.2 hterms
  exact ⟨values.foldl (· + ·) 0.0, by rw [doubles_sum, hvalues]; rfl⟩

end Effect

namespace AdjacencyRule

open Arithmetic

/-- Let the cache look up in `tables`, and let the map have columns.

`qualifying` finds the neighbours that the rule `Admits`, in their order, and `yield` is the `worth`
of their number. The `join` of rules that are `Apart` `Carries` both, and a rule that `Carries` two
picks the neighbours that both pick.

`cityAdjacency` adds to each type of the rule the sum of its `worths`, in order and from zero, and
changes no other channel; under the rules of a database this sum exists. If the rules do not have
the adjacency, it remarks on that and adds nothing. -/
theorem yields_all_or_nothing {tables : Rules} {cache : RuleCache} (hcache : cache.LooksUp tables)
    (rules : Rules) (s : Scene) (hwidth : s.game.map.width ≠ 0) :
    let map := s.game.map
    (∀ (r : AdjacencyRule) (p : Plot), ∃ neighbours, map.neighbours p.index = .ok neighbours ∧
      r.qualified tables map p = neighbours.filter (r.Admits tables) ∧
      ((r.qualifying map p).run rules cache).1 = ⟨[], .ok (r.qualified tables map p)⟩ ∧
      ((r.yield map p).run rules cache).1
        = ⟨[], (r.worth (r.qualified tables map p).length).mapError .number⟩) ∧
    (∀ r r' : AdjacencyRule, r.Apart r' → (r.join r').Carries r r') ∧
    (∀ both r r' : AdjacencyRule, both.Carries r r' → ∀ p q, q ∈ both.qualified tables map p ↔
      q ∈ r.qualified tables map p ∧ q ∈ r'.qualified tables map p) ∧
    ∀ m c key, m.text "ConstructibleAdjacency" = .ok key →
      let applied := ((YieldEffect.cityAdjacency.run s m (.city c)).run rules cache).1
      (rules.adjacency? key = none →
        applied = ⟨[.missing s!"Adjacency {key} not found ({m.id})"], .ok ()⟩ ∧
        ∀ delta : Delta, delta.addAll applied.additions = delta) ∧
      ∀ r, rules.adjacency? key = some r →
        let sum := doubles.sum (r.worths tables map c (rules.constructiblesOfAdjacency key))
        applied = contributed .amount r.yieldType sum ∧
        (∀ db, rules = .ofDatabase db → ∃ total, sum = .ok total) ∧
        ∀ total, sum = .ok total → ∀ delta : Delta,
          let after := delta.addAll applied.additions
          (∀ type, after.amount.get? type
            = (List.replicate ((yieldTypes r.yieldType).count type) total).foldl plusTerm
              (delta.amount.get? type)) ∧
          ∀ other, other ≠ .amount → after.channel other = delta.channel other := by
  intro map
  have htell := hcache.tellOf rules
  refine ⟨fun r p => ?_, fun r r' => Apart.carries, fun both r r' h p q => h.mem_qualified,
    fun m c key hkey => ⟨fun hrule => ?_, fun r hrule => ?_⟩⟩
  · have hqualifying : (r.qualifying map p).Factual := r.confined_qualifying map p
    have hyield : (r.yield map p).Factual := r.confined_yield map p
    refine ⟨map.around p, HexMap.neighbours_eq_around hwidth p, rfl, ?_, ?_⟩
    · rw [hqualifying.run_eq_given]
      exact given_qualifying hwidth htell
    · rw [hyield.run_eq_given]
      exact given_yield hwidth htell
  · rw [(YieldEffect.factual_run _ _ _ _).run_eq_given, given_cityAdjacency_of_none hkey hrule]
    exact ⟨rfl, fun _ => rfl⟩
  · have hmembers : cache.replies rules (.adjacencyMembers key)
        = rules.constructiblesOfAdjacency key := rfl
    rw [(YieldEffect.factual_run _ _ _ _).run_eq_given,
      given_cityAdjacency_of_some hkey hrule hmembers hwidth htell]
    refine ⟨rfl, ?_, fun total htotal delta => ?_⟩
    · rintro db rfl
      exact exists_sum_worths hrule map c _
    · let contribution : Addition := ⟨.amount, r.yieldType, total⟩
      rw [htotal]
      exact ⟨fun type => delta.get?_channel_add contribution (c := .amount),
        fun other hother => delta.channel_add_of_ne contribution hother⟩

/-- Plot 1 has two mills, and plots 0 and 2 beside it are on a river. -/
def riverbank : Scene where
  game := {
    localPlayerId := some 0
    map := {
      width := 3
      height := 1
      plots := .ofList [
        (0, { index := 0, x := 0, y := 0, river := true }),
        (1, { index := 1, x := 1, y := 0, constructibles := [some "MILL", some "MILL"] }),
        (2, { index := 2, x := 2, y := 0, river := true })] } }
  player := { id := 0 }
  settings := {}

/-- A city with plot 1 and with plot 7, which the map does not have. -/
def milltown : City where
  id := 1
  name := none
  owner := 0
  purchasedPlots := [1, 7]

/-- 1.5 food for each neighbour on a river, if there are two. -/
def riverFood : AdjacencyRule where
  id := some "RIVER_FOOD"
  yieldType := some "YIELD_FOOD"
  yieldChange := some (.real 1.5)
  tilesRequired := some (.whole 2)
  river := true

/-- Rules with `riverFood`, in which mills take part. -/
def millRules : Rules where
  adjacencies := [riverFood]
  adjacencyLinks := [⟨some "MILL", some "RIVER_FOOD"⟩]

/-- The effect that activates an adjacency. -/
def activation (adjacency : String) : Modifier where
  id := "ACTIVATION"
  arguments := .ofRows [{ name := some "ConstructibleAdjacency", value := some adjacency }]

/-- Both neighbours of the `mills` qualify for `riverFood`, and none does if it has to be a quarter
too. `RIVER_FOOD` adds `2 * 1.5` for each mill, and `LAKE_FOOD`, which `millRules` do not have,
nothing. -/
theorem mills_on_the_riverbank :
    let map := riverbank.game.map
    let mills : Plot := { index := 1, x := 1, y := 0, constructibles := [some "MILL", some "MILL"] }
    let applied := fun adjacency => ((YieldEffect.cityAdjacency.run riverbank (activation adjacency)
      (.city milltown)).run millRules (.ofRules millRules)).1
    riverbank.game.map.width ≠ 0 ∧
    (∃ plots, ((riverFood.qualifying map mills).run millRules (.ofRules millRules)).1
      = ⟨[], .ok plots⟩ ∧ plots.map Plot.index = [2, 0]) ∧
    (∀ q, q ∉ (riverFood.join { quarter := true }).qualified millRules map mills) ∧
    (applied "RIVER_FOOD").additions
      = [⟨.amount, some "YIELD_FOOD", 0.0 + Float.ofNat 2 * 1.5 + Float.ofNat 2 * 1.5⟩] ∧
    (applied "LAKE_FOOD").additions = [] := by
  intro map mills applied
  have hwidth : riverbank.game.map.width ≠ 0 := by decide
  obtain ⟨hyields, hjoin, hboth, heffect⟩ :=
    yields_all_or_nothing (RuleCache.looksUp_ofRules millRules) millRules riverbank hwidth
  refine ⟨hwidth, ?_, fun q hq => ?_, ?_, ?_⟩
  · obtain ⟨-, -, -, hqualifying, -⟩ := hyields riverFood mills
    exact ⟨_, hqualifying, by decide +kernel⟩
  · have hapart : riverFood.Apart { quarter := true } := by
      unfold Apart
      decide +kernel
    obtain ⟨-, hquarter⟩ := (hboth _ _ _ (hjoin _ _ hapart) mills q).1 hq
    have hnone : qualified { quarter := true } millRules map mills = [] := by decide +kernel
    rw [hnone] at hquarter
    cases hquarter
  · obtain ⟨-, hfound⟩ := heffect (activation "RIVER_FOOD") milltown "RIVER_FOOD" rfl
    obtain ⟨happlied, -⟩ := hfound riverFood rfl
    exact (congrArg Recorded.additions happlied).trans rfl
  · obtain ⟨hmissing, -⟩ := heffect (activation "LAKE_FOOD") milltown "LAKE_FOOD" rfl
    obtain ⟨happlied, -⟩ := hmissing rfl
    exact congrArg Recorded.additions happlied

end AdjacencyRule

end PolicyForecast
