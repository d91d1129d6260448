import Mathlib.Data.List.Forall2
import PolicyForecast.Proofs.AlikeScenes
import PolicyForecast.Proofs.PreviewRecord

/-!
# What other players have

A preview is made for the local player. Of all others it regards only their standing: whether they
are in the game, whether they are major players, and whose suzerainty they are under. What they own,
whom they are allied or at war with and what they yield never makes a difference
(`Engine.preview_eq_of_sameForLocalPlayer`), and neither does the age, nor the place of the local
player among the others.
-/

namespace PolicyForecast

/-! ## Games that are the same for the local player -/

/-- Players who have the same id and the same standing, and possibly nothing else in common. -/
structure Player.SameStanding (p p' : Player) : Prop where
  id : p.id = p'.id
  isMajor : p.isMajor = p'.isMajor
  isAlive : p.isAlive = p'.isAlive
  suzerain : p.suzerain = p'.suzerain

namespace Snapshot

/-- The entry of the local player. -/
def ownEntries (g : Snapshot) : List (Int × Player) :=
  g.players.entries.filter fun entry => some entry.1 == g.localPlayerId

/-- The entries of all others, in order. -/
def otherEntries (g : Snapshot) : List (Int × Player) :=
  g.players.entries.filter fun entry => !(some entry.1 == g.localPlayerId)

/-- Games with the same map and the same local player, in which the other players are the same by
their ids and have the same standing. -/
structure SameForLocalPlayer (g g' : Snapshot) : Prop where
  map : g.map = g'.map
  localPlayerId : g.localPlayerId = g'.localPlayerId
  own : g.ownEntries = g'.ownEntries
  others : List.Forall₂ (fun entry entry' => entry.1 = entry'.1 ∧ entry.2.SameStanding entry'.2)
    g.otherEntries g'.otherEntries

end Snapshot

/-! ## What is found under an id -/

/-- `lookup` of a key that passes a test on keys is the same among the entries that pass it. -/
lemma OrderedMap.lookup_filter_key {κ υ : Type} [BEq κ] [LawfulBEq κ] {t : κ → Bool} {k : κ}
    (h : t k = true) (entries : List (κ × υ)) :
    (entries.filter fun entry => t entry.1).lookup k = entries.lookup k := by
  induction entries with
  | nil => rfl
  | cons entry rest ih =>
    obtain ⟨k', v⟩ := entry
    by_cases hkey : k = k'
    · subst hkey
      simp [h]
    · have hne : (k == k') = false := beq_eq_false_iff_ne.2 hkey
      rw [List.lookup_cons, hne, ← ih, List.filter_cons]
      split
      · rw [List.lookup_cons, hne]
      · rfl

namespace Snapshot

variable {g g' : Snapshot} {id : Int}

/-- The local player is looked up among `ownEntries`. -/
lemma get?_of_own (h : (some id == g.localPlayerId) = true) :
    g.players.get? id = g.ownEntries.lookup id :=
  (OrderedMap.lookup_filter_key (t := fun k => some k == g.localPlayerId) h _).symm

/-- All other players are looked up among `otherEntries`. -/
lemma get?_of_other (h : (!(some id == g.localPlayerId)) = true) :
    g.players.get? id = g.otherEntries.lookup id :=
  (OrderedMap.lookup_filter_key (t := fun k => !(some k == g.localPlayerId)) h _).symm

namespace SameForLocalPlayer

/-- `lookup` among entries with the same keys and related values. -/
lemma lookup_rel {κ υ : Type} [BEq κ] {related : υ → υ → Prop} {entries entries' : List (κ × υ)}
    (h : List.Forall₂ (fun entry entry' => entry.1 = entry'.1 ∧ related entry.2 entry'.2)
      entries entries') (k : κ) : Option.Rel related (entries.lookup k) (entries'.lookup k) := by
  induction h with
  | nil => exact .none
  | @cons entry entry' rest rest' hentry _ ih =>
    obtain ⟨key, value⟩ := entry
    obtain ⟨key', value'⟩ := entry'
    obtain ⟨rfl, hrelated⟩ := hentry
    rw [List.lookup_cons, List.lookup_cons]
    cases k == key with
    | true => exact .some hrelated
    | false => exact ih

/-- Players under the same id have the `SameStanding`. -/
lemma get? (h : g.SameForLocalPlayer g') (id : Int) :
    Option.Rel Player.SameStanding (g.players.get? id) (g'.players.get? id) := by
  cases hown : some id == g.localPlayerId with
  | true =>
    -- the local player is the same in both
    rw [get?_of_own hown, get?_of_own (h.localPlayerId ▸ hown), h.own]
    cases g'.ownEntries.lookup id with
    | none => exact .none
    | some p => exact .some ⟨rfl, rfl, rfl, rfl⟩
  | false =>
    have hother : (!(some id == g.localPlayerId)) = true := by rw [hown]; rfl
    rw [get?_of_other hother, get?_of_other (h.localPlayerId ▸ hother)]
    exact lookup_rel h.others id

lemma localPlayer (h : g.SameForLocalPlayer g') : g.localPlayer = g'.localPlayer := by
  have hplayer : g.player? g.localPlayerId = g'.player? g'.localPlayerId := by
    rw [← h.localPlayerId]
    cases hid : g.localPlayerId with
    | none => rfl
    | some id =>
      have hown : (some id == g.localPlayerId) = true := by simp [hid]
      show g.players.get? id = g'.players.get? id
      rw [get?_of_own hown, get?_of_own (h.localPlayerId ▸ hown), h.own]
  unfold Snapshot.localPlayer
  rw [hplayer, h.localPlayerId]

/-! ## How others stand to a player -/

/-- `majorsAmong` have the `SameStanding` one by one. -/
lemma majorsAmong (h : g.SameForLocalPlayer g') (ids : List Int) :
    List.Forall₂ Player.SameStanding (majorsAmong g ids) (majorsAmong g' ids) := by
  have hfound : List.Forall₂ Player.SameStanding (ids.filterMap g.players.get?)
      (ids.filterMap g'.players.get?) :=
    List.rel_filterMap (R := Eq) (fun id _ hid => hid ▸ h.get? id)
      (List.forall₂_same.2 fun _ _ => rfl)
  refine List.rel_filter (fun p p' hp => ?_) hfound
  show (p.isAlive && p.isMajor) = true ↔ (p'.isAlive && p'.isMajor) = true
  rw [hp.isAlive, hp.isMajor]

lemma peace (h : g.SameForLocalPlayer g') (p : Player) :
    isAtPeaceWithMajors g p = isAtPeaceWithMajors g' p := by
  have hlength := (h.majorsAmong p.atWarWith).length_eq
  unfold isAtPeaceWithMajors
  rw [Bool.eq_iff_iff, List.isEmpty_iff_length_eq_zero, List.isEmpty_iff_length_eq_zero, hlength]

lemma alliances (h : g.SameForLocalPlayer g') (p : Player) :
    (alliedMajors g p).length = (alliedMajors g' p).length := by
  have hothers : List.Forall₂ Player.SameStanding (alliedMajors g p) (alliedMajors g' p) := by
    refine List.rel_filter (fun other other' hother => ?_) (h.majorsAmong p.allies)
    show (other.id != p.id) = true ↔ (other'.id != p.id) = true
    rw [hother.id]
  exact hothers.length_eq

/-- The number of `suzerainCityStates` is the same. -/
lemma cityStates (h : g.SameForLocalPlayer g') (p : Player) :
    (suzerainCityStates g p).length = (suzerainCityStates g' p).length := by
  let follows (entry : Int × Player) : Bool :=
    (!entry.2.isMajor && entry.2.suzerain == some p.id) && entry.2.isAlive
  have hcount (g : Snapshot) : (suzerainCityStates g p).length
      = g.ownEntries.countP follows + g.otherEntries.countP follows := by
    unfold suzerainCityStates alivePlayers OrderedMap.values
    rw [List.filter_filter, ← List.countP_eq_length_filter, List.countP_map,
      List.countP_eq_countP_filter_add _ _ fun entry => some entry.1 == g.localPlayerId]
    rfl
  have hothers : g.otherEntries.countP follows = g'.otherEntries.countP follows := by
    rw [List.countP_eq_length_filter, List.countP_eq_length_filter]
    refine (List.rel_filter (fun entry entry' hentry => ?_) h.others).length_eq
    show follows entry = true ↔ follows entry' = true
    simp only [follows, hentry.2.isMajor, hentry.2.suzerain, hentry.2.isAlive]
  rw [hcount, hcount, h.own, hothers]

end SameForLocalPlayer

end Snapshot

/-! ## Previews -/

/-- Scenes over games with `SameForLocalPlayer` are `Alike`. -/
lemma Snapshot.SameForLocalPlayer.alike {g g' : Snapshot} (h : g.SameForLocalPlayer g')
    (player : Player) (settings : Settings) :
    (⟨g, player, settings⟩ : Scene).Alike ⟨g', player, settings⟩ :=
  ⟨h.map, rfl, h.peace, h.alliances, h.cityStates⟩

namespace Engine

variable {g g' : Snapshot}

lemma previewIds_of_sameForLocalPlayer (e : Engine) (h : g.SameForLocalPlayer g')
    (ids : List (Option String)) (cache : RuleCache) :
    e.previewIds g ids cache = e.previewIds g' ids cache := by
  have hrun : e.run g ids cache = e.run g' ids cache := by
    unfold run
    rw [scene_eq, scene_eq, h.localPlayer]
    cases g'.localPlayer with
    | error fault => rfl
    | ok player =>
      have hall (modifiers : List Modifier) (cache : RuleCache) :
          e.applyAll ⟨g, player, e.settings⟩ modifiers cache
            = e.applyAll ⟨g', player, e.settings⟩ modifiers cache := by
        unfold applyAll
        rw [Scene.applyToAll_congr (h.alike player e.settings) rfl]
      simp only [Except.map, hall]
  unfold previewIds
  rw [hrun]

/-- `preview` and `previewModifiers` are the same, with the cache that they leave, on games with
`SameForLocalPlayer`. -/
theorem preview_eq_of_sameForLocalPlayer (e : Engine) (h : g.SameForLocalPlayer g')
    (cache : RuleCache) :
    (∀ tradition, e.preview g tradition cache = e.preview g' tradition cache) ∧
      ∀ ids, e.previewModifiers g ids cache = e.previewModifiers g' ids cache := by
  refine ⟨fun tradition => ?_, fun ids => ?_⟩
  · unfold preview
    simp only [e.previewIds_of_sameForLocalPlayer h]
  · unfold previewModifiers
    rw [e.previewIds_of_sameForLocalPlayer h]

/-- A player with one city, and an ally and a city-state with nothing. -/
def bareNeighbours : Snapshot where
  localPlayerId := some 0
  players :=
    ⟨[(0, { id := 0, cities := [{ id := 1, name := some "Home", owner := 0 }], allies := [1] }),
      (1, { id := 1 }),
      (2, { id := 2, isMajor := false, suzerain := some 0 })]⟩

/-- The same player, listed last; the ally and the city-state own cities and units, and the ally is
at war. -/
def richNeighbours : Snapshot where
  localPlayerId := some 0
  players :=
    ⟨[(1, { id := 1, leader := some "LEADER", religion := some "RELIGION", atWarWith := [0, 2]
            allies := [0, 2]
            cities := [{ id := 2, name := some "Near", owner := 1, isCapital := true },
                       { id := 3, name := some "Far", owner := 1 }] }),
      (2, { id := 2, isMajor := false, suzerain := some 0
            units := [{ id := 1, unitType := some "UNIT", owner := 2 }] }),
      (0, { id := 0, cities := [{ id := 1, name := some "Home", owner := 0 }], allies := [1] })]⟩

/-- `PACT` gives gold for all cities, for each alliance and for each city-state. -/
def neighbourly : Engine where
  rules :=
    { traditionModifiers :=
        [⟨some "PACT", some "CITIES"⟩, ⟨some "PACT", some "ALLIES"⟩, ⟨some "PACT", some "STATES"⟩]
      modifiers :=
        [⟨some "CITIES", some "PER_CITY", none, none, false, false, false⟩,
         ⟨some "ALLIES", some "PER_ALLY", none, none, false, false, false⟩,
         ⟨some "STATES", some "PER_STATE", none, none, false, false, false⟩]
      modifierTypes :=
        [⟨some "PER_CITY", some "COLLECTION_ALL_CITIES", some "EFFECT_CITY_ADJUST_YIELD"⟩,
         ⟨some "PER_ALLY", some "COLLECTION_OWNER", some "EFFECT_PLAYER_ADJUST_YIELD_PER_ALLIANCE"⟩,
         ⟨some "PER_STATE", some "COLLECTION_OWNER",
           some "EFFECT_PLAYER_ADJUST_YIELD_PER_SUZERAIN"⟩]
      modifierArguments :=
        ["CITIES", "ALLIES", "STATES"].flatMap fun modifier =>
          [⟨some modifier, { name := some "YieldType", value := some "YIELD_GOLD" }⟩,
           ⟨some modifier, { name := some "Amount", value := some "5" }⟩]
      yieldTypes := ["YIELD_GOLD"] }
  settings := {}
  baselines := ∅

/-- `neighbourly` gives 15 `YIELD_GOLD` in `bareNeighbours` and in `richNeighbours`, which differ in
what the ally and the city-state have. -/
theorem neighbours_possessions_add_nothing :
    bareNeighbours.SameForLocalPlayer richNeighbours ∧
      (neighbourly.preview bareNeighbours (some "PACT") (.ofRules neighbourly.rules)).1.yields
        = [("YIELD_GOLD", 15)] ∧
      (neighbourly.preview richNeighbours (some "PACT") (.ofRules neighbourly.rules)).1.yields
        = [("YIELD_GOLD", 15)] := by
  have hsame : bareNeighbours.SameForLocalPlayer richNeighbours :=
    ⟨rfl, rfl, rfl, .cons ⟨rfl, rfl, rfl, rfl, rfl⟩ (.cons ⟨rfl, rfl, rfl, rfl, rfl⟩ .nil)⟩
  have hbare : (neighbourly.preview bareNeighbours (some "PACT")
      (.ofRules neighbourly.rules)).1.yields = [("YIELD_GOLD", 15)] := by
    decide +kernel
  have hpreviews := (preview_eq_of_sameForLocalPlayer neighbourly hsame
    (.ofRules neighbourly.rules)).1 (some "PACT")
  exact ⟨hsame, hbare, hpreviews ▸ hbare⟩

end Engine

end PolicyForecast
