import Mathlib.Tactic.Lemma
import PolicyForecast.Preview.Engine

/-!
# Scenes that look alike

A preview does not read all of a scene. Of the game it reads the map, and of the players other than
the one at hand only how they stand to a player: whether there is peace with the major ones, how
many of them are allies, how many city-states follow. Scenes that have these in common are *alike*,
and everything that is worked out in one of them is worked out the same way in the other:
requirements, subjects (`Modifier.subjects_congr`) and contributions (`YieldEffect.run_congr`).
Where the settings are the same as well, so is the application of modifiers
(`Scene.applyToAll_congr`).
-/

namespace PolicyForecast

/-- Scenes with the same map and player, in which others stand to every player in the same way. -/
structure Scene.Alike (s s' : Scene) : Prop where
  map : s.game.map = s'.game.map
  player : s.player = s'.player
  peace : ∀ p, isAtPeaceWithMajors s.game p = isAtPeaceWithMajors s'.game p
  alliances : ∀ p, (alliedMajors s.game p).length = (alliedMajors s'.game p).length
  cityStates : ∀ p, (suzerainCityStates s.game p).length = (suzerainCityStates s'.game p).length

variable {s s' : Scene}

/-! ## Requirements -/

lemma CityFact.holds_congr (h : s.Alike s') (c : City) (head : RequirementHead)
    (fact : CityFact) : fact.holds s c head = fact.holds s' c head := by
  cases fact with
  | isFounder => simp only [holds, h.player]
  | hasBuilding => simp only [holds, h.map]
  | hasTerrain => simp only [holds, hasEnoughTerrain, h.map]
  | followsReligion => simp only [holds, h.player]
  | isCapital | isCity | isTown | isDistantLands | hasProject | population => rfl

lemma PlotFact.holds_congr (h : s.Alike s') (p : Plot) (head : RequirementHead)
    (fact : PlotFact) : fact.holds s p head = fact.holds s' p head := by
  cases fact with
  | adjacentToCoast => simp only [holds, h.map]
  | districtClass | resourceVisible | isCoastalLand | hasConstructible | numConstructibles
  | isQuarter | terrain | feature => rfl

lemma PlayerFact.holds_congr (h : s.Alike s') (p : Player) (head : RequirementHead)
    (fact : PlayerFact) : fact.holds s p head = fact.holds s' p head := by
  cases fact with
  | atPeaceWithMajors => simp only [holds, h.peace]
  | numAlliances => simp only [holds, h.alliances]
  | hasTrait | leader => rfl

lemma RequirementHead.isSatisfied_congr (h : s.Alike s') (subject : Subject)
    (head : RequirementHead) : head.isSatisfied s subject = head.isSatisfied s' subject := by
  have hplayer : playerOf s subject = playerOf s' subject := by
    cases subject <;> simp only [playerOf, h.player]
  unfold isSatisfied
  simp only [h.map, hplayer, CityFact.holds_congr h, PlotFact.holds_congr h,
    PlayerFact.holds_congr h]

mutual

lemma Requirement.holds_congr (h : s.Alike s') (subject : Subject) : (r : Requirement) →
    Requirement.holds s subject r = Requirement.holds s' subject r
  | .leaf head => by
    unfold Requirement.holds RequirementHead.isSatisfiedAlone
    rw [head.isSatisfied_congr h]
  | .nested head id type requirements => by
    unfold Requirement.holds
    simp only [Requirement.search_congr h subject _ requirements]

lemma Requirement.search_congr (h : s.Alike s') (subject : Subject) (deciding : Bool) :
    (requirements : List Requirement) →
      Requirement.search s subject deciding requirements
        = Requirement.search s' subject deciding requirements
  | [] => by
    unfold Requirement.search
    rfl
  | r :: rest => by
    unfold Requirement.search
    rw [Requirement.holds_congr h subject r, Requirement.search_congr h subject deciding rest]

end

lemma RequirementSet.holds_congr (h : s.Alike s') (subject : Subject) (set : RequirementSet) :
    set.holds s subject = set.holds s' subject := by
  unfold holds
  simp only [Requirement.search_congr h]

/-! ## Subjects -/

lemma Collection.members_congr (h : s.Alike s') (parent : Option Subject)
    (collection : Collection) : collection.members s parent = collection.members s' parent := by
  cases collection with
  | unsupported => rfl
  | capital | cities | plots | owner | cityPlots | units =>
    simp only [members, h.map, h.player]

/-- `subjects` is the same in scenes that are `Alike`, with the same `evaluateOwnerRequirements`. -/
lemma Modifier.subjects_congr (h : s.Alike s')
    (howner : s.settings.evaluateOwnerRequirements = s'.settings.evaluateOwnerRequirements)
    (m : Modifier) (parent : Option Subject) : m.subjects s parent = m.subjects s' parent := by
  have hmeets : m.ownerMeets s = m.ownerMeets s' := by
    unfold ownerMeets
    rw [howner, h.player, RequirementSet.holds_congr h]
  have hadmits : m.admits s = m.admits s' := by
    funext subject
    unfold admits
    rw [RequirementSet.holds_congr h]
  have hcandidates : m.candidates s parent = m.candidates s' parent := by
    unfold candidates
    simp only [Collection.members_congr h]
  unfold subjects
  rw [hmeets, hadmits, hcandidates]

/-! ## Contributions to yields -/

lemma CityCount.of_congr (h : s.Alike s') (m : Modifier) (c : City) (count : CityCount) :
    count.of s m c = count.of s' m c := by
  cases count with
  | attributePoints => simp only [of, h.player]
  | constructibles => simp only [of, h.map]
  | specialists | population | resources | greatWorks => rfl

lemma PlayerCount.of_congr (h : s.Alike s') (m : Modifier) (p : Player) (count : PlayerCount) :
    count.of s m p = count.of s' m p := by
  cases count with
  | cityStates => simp only [of, h.cityStates]
  | alliances => simp only [of, h.alliances]
  | constructibles => simp only [of, h.map]
  | activeTraditions | settlements | resources | commanderLevels => rfl

/-- `run` does not read the settings. -/
lemma YieldEffect.run_congr (h : s.Alike s') (m : Modifier) (subject : Subject)
    (effect : YieldEffect) : effect.run s m subject = effect.run s' m subject := by
  cases effect with
  | cityYieldPer count => simp only [run, CityCount.of_congr h]
  | cityAdjacency => simp only [run, addAdjacency, h.map]
  | cityWarehouse => simp only [run, addWarehouse, h.map]
  | cityMaintenance => simp only [run, Modifier.saveOnConstructibles, h.map]
  | playerYieldPer count => simp only [run, PlayerCount.of_congr h]
  | playerMaintenance => simp only [run, Modifier.saveOnConstructibles, h.map]
  | cityYield | playerYield | playerUnitMaintenance | plotYield | unitMaintenance => rfl

/-! ## Applications -/

namespace Scene

variable {apply : Modifier → Subject → Application Unit}

lemma enter_congr (h : s.Alike s') (hsettings : s.settings = s'.settings) (m : Modifier)
    (parent : Option Subject) : s.enter apply m parent = s'.enter apply m parent := by
  unfold enter
  rw [m.subjects_congr h (by rw [hsettings])]

lemma effect_congr (h : s.Alike s') (hsettings : s.settings = s'.settings) (m : Modifier)
    (subject : Subject) : s.effect apply m subject = s'.effect apply m subject := by
  have hperform (effect : Effect) :
      s.perform apply m subject effect = s'.perform apply m subject effect := by
    cases effect with
    | yields effect => simp only [perform, effect.run_congr h]
    | attach => simp only [perform, attach, enter_congr h hsettings]
    | inert => rfl
  unfold effect guarded
  simp only [hperform, hsettings]

lemma apply_congr (h : s.Alike s') (hsettings : s.settings = s'.settings) (fuel : Nat) :
    s.apply fuel = s'.apply fuel := by
  -- induction on the bound; what an effect attaches is applied with a smaller one
  induction fuel with
  | zero => rfl
  | succ fuel ih =>
    funext m subject
    unfold apply
    rw [ih, effect_congr h hsettings]

/-- `applyToAll` is the same in scenes that are `Alike` with the same settings. -/
lemma applyToAll_congr (h : s.Alike s') (hsettings : s.settings = s'.settings) (fuel : Nat) :
    s.applyToAll fuel = s'.applyToAll fuel := by
  funext m
  unfold applyToAll
  rw [apply_congr h hsettings, enter_congr h hsettings]

end Scene

end PolicyForecast
