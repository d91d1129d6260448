import PolicyForecast.Proofs.Faithful
import PolicyForecast.Proofs.Steady

/-!
# The record of a preview

A preview ends before any modifier is applied, because its game has no local player or a requirement
set is a cycle; or else its record is the sequence of the records of its modifiers, each from an
empty stack (`Engine.record_cases`).
-/

namespace PolicyForecast

/-- `resolvedAll` has modifiers of the rules, and fails with a `requirementSetCycle` only. -/
lemma Rules.resolvedAll_cases (rules : Rules) (ids : List (Option String)) :
    (∀ m ∈ (rules.resolvedAll ids).1, m.id ∈ rules.modifierIds) ∧
      ((rules.resolvedAll ids).2 = .ok () ∨
        ∃ chain, (rules.resolvedAll ids).2 = .error (.requirementSetCycle chain)) := by
  induction ids with
  | nil => exact ⟨by simp [resolvedAll], .inl rfl⟩
  | cons id rest ih =>
    unfold resolvedAll
    rcases rules.resolved_cases id with ⟨found, hfound, hknown⟩ | ⟨chain, hchain⟩
    · rw [hfound]
      refine ⟨fun m hm => ?_, ih.2⟩
      rcases List.mem_append.1 hm with hm | hm
      · exact (hknown m (Option.mem_toList.1 hm)).2
      · exact ih.1 m hm
    · rw [hchain]
      exact ⟨by simp, .inr ⟨chain, rfl⟩⟩

namespace Engine

variable {e : Engine} {g : Snapshot} {s : Scene} {ids : List (Option String)}

lemma scene_eq (e : Engine) (g : Snapshot) :
    e.scene g = g.localPlayer.map fun player => ⟨g, player, e.settings⟩ := by
  unfold scene
  cases g.localPlayer <;> rfl

lemma scene_of_player {player : Player} (h : g.player? g.localPlayerId = some player) :
    e.scene g = .ok ⟨g, player, e.settings⟩ := by
  rw [scene_eq, Snapshot.localPlayer, h]
  rfl

lemma scene_of_no_player (h : g.player? g.localPlayerId = none) :
    e.scene g = .error (.unknownPlayer g.localPlayerId) := by
  rw [scene_eq, Snapshot.localPlayer, h]
  rfl

/-- The record of a previewed modifier, with nothing on the stack. -/
def applied (e : Engine) (s : Scene) (m : Modifier) : Recorded Fault Unit :=
  (s.applyToAll e.rules.depth m).record e.rules.answer []

/-- With a player, and if `resolvedAll` ends well, `record` is `forM` of `applied`. -/
lemma record_of_resolvedAll (hscene : e.scene g = .ok s)
    (hresolved : (e.rules.resolvedAll ids).2 = .ok ()) :
    e.record g ids
      = ((e.rules.resolvedAll ids).1, (e.rules.resolvedAll ids).1.forM (e.applied s)) := by
  unfold record
  rw [hscene]
  rcases h : e.rules.resolvedAll ids with ⟨modifiers, result⟩
  rw [h] at hresolved
  obtain rfl : result = .ok () := hresolved
  exact congrArg (Prod.mk modifiers)
    (Application.record_forM (s.steady_applyToAll e.rules.depth) modifiers)

/-- `record` ends in `unknownPlayer` or in a `requirementSetCycle`, or is `forM` of `applied`. -/
lemma record_cases (e : Engine) (g : Snapshot) (ids : List (Option String)) :
    (∃ id, (e.record g ids).2.result = .error (.unknownPlayer id)) ∨
    (∃ chain, (e.record g ids).2.result = .error (.requirementSetCycle chain)) ∨
    ∃ s, e.scene g = .ok s ∧ (e.rules.resolvedAll ids).2 = .ok () ∧
      e.record g ids
        = ((e.rules.resolvedAll ids).1, (e.rules.resolvedAll ids).1.forM (e.applied s)) := by
  cases hplayer : g.player? g.localPlayerId with
  | none =>
    refine .inl ⟨g.localPlayerId, ?_⟩
    rw [record, scene_of_no_player hplayer]
  | some player =>
    have hscene := scene_of_player (e := e) hplayer
    rcases (e.rules.resolvedAll_cases ids).2 with hok | ⟨chain, hchain⟩
    · exact .inr (.inr ⟨_, hscene, hok, record_of_resolvedAll hscene hok⟩)
    · refine .inr (.inl ⟨chain, ?_⟩)
      unfold record
      rw [hscene]
      rcases h : e.rules.resolvedAll ids with ⟨modifiers, result⟩
      rw [h] at hchain
      obtain rfl : result = _ := hchain
      rfl

/-- `preview` of a tradition is `previewIds` of its `traditionModifierIds`. -/
lemma preview_of_ne (e : Engine) (g : Snapshot) {t : String} (ht : t ≠ "") (cache : RuleCache) :
    e.preview g (some t) cache = e.previewIds g (e.rules.traditionModifierIds t) cache := by
  have hfilter : (some t).filter (· ≠ "") = some t := by simpa using ht
  unfold preview
  rw [hfilter]

/-- `previewModifiers` without null ids is `previewIds`. -/
lemma previewModifiers_of_not_mem (e : Engine) (g : Snapshot) (cache : RuleCache)
    (h : none ∉ ids) : e.previewModifiers g ids cache = .ok (e.previewIds g ids cache) := by
  unfold previewModifiers
  rw [if_neg fun hnone => h (List.contains_iff_mem.1 hnone)]

/-- `previewModifiers` with a null id is `missingId`. -/
lemma previewModifiers_of_mem (e : Engine) (g : Snapshot) (cache : RuleCache)
    (h : none ∈ ids) : e.previewModifiers g ids cache = .error .missingId := by
  unfold previewModifiers
  rw [if_pos (List.contains_iff_mem.2 h)]

end Engine

/-- A game with one player, who has nothing. -/
def Snapshot.solitaire : Snapshot where
  localPlayerId := some 0
  players := ⟨[(0, { id := 0 })]⟩

end PolicyForecast
