import PolicyForecast.Preview.Engine
import PolicyForecast.Proofs.Memoization

/-!
# Faithful caches

A cache is faithful to rules if its look-ups go to them, every answer that it keeps is theirs, and
every set that it keeps is unfolded. A computation that is run on a faithful cache has the record
that it has when each request is answered by the rules alone, and it leaves a faithful cache; so a
run may be replaced by the computation under given answers (`Consulting.given`,
`Application.given`).

Main statements: `Application.run_of_faithful` for what is run on a cache, and
`Engine.run_of_faithful` for whole previews.
-/

namespace PolicyForecast

variable {rules : Rules} {cache : RuleCache} {α : Type}

namespace RuleCache

/-- The look-ups of a cache go to rules, and every answer that it keeps is theirs. -/
structure LooksUp (cache : RuleCache) (rules : Rules) : Prop where
  rules_eq : cache.rules = rules
  answers : ∀ table key answer,
    (cache.answers table).get? key = some answer → answer = rules.lookUp table key

/-- All that a cache keeps is as the rules have it. -/
structure Faithful (cache : RuleCache) (rules : Rules) : Prop where
  rules_eq : cache.rules = rules
  answers : ∀ table key answer,
    (cache.answers table).get? key = some answer → answer = rules.lookUp table key
  sets : rules.Sound cache.sets

lemma LooksUp.faithful (h : cache.LooksUp rules) (hsets : rules.Sound cache.sets) :
    cache.Faithful rules :=
  ⟨h.rules_eq, h.answers, hsets⟩

lemma Faithful.looksUp (h : cache.Faithful rules) : cache.LooksUp rules :=
  ⟨h.rules_eq, h.answers⟩

lemma looksUp_ofRules (rules : Rules) : (ofRules rules).LooksUp rules where
  rules_eq := rfl
  answers table key answer h := by cases h

lemma faithful_ofRules (rules : Rules) : (ofRules rules).Faithful rules :=
  (looksUp_ofRules rules).faithful Rules.sound_empty

/-- An answer of the rules may be kept. -/
lemma LooksUp.keep (h : cache.LooksUp rules) (table : MemoTable) (key : Option String) :
    (cache.keep table key (rules.lookUp table key)).LooksUp rules where
  rules_eq := h.rules_eq
  answers table' key' answer hget := by
    by_cases htable : table' = table
    · -- in the table itself the key decides, in all others nothing changes
      subst htable
      simp only [RuleCache.keep, if_true] at hget
      rw [OrderedMap.get?_insert] at hget
      split at hget
      next hkey =>
        rw [eq_of_beq hkey]
        exact (Option.some.inj hget).symm
      next => exact h.answers table' key' answer hget
    · simp only [RuleCache.keep, htable, if_false] at hget
      exact h.answers table' key' answer hget

/-- `lookUp` finds the answer of the rules and leaves a cache that `LooksUp` them. -/
lemma lookUp_of_looksUp (h : cache.LooksUp rules) (table : MemoTable) (key : Option String) :
    (cache.lookUp table key).1 = rules.lookUp table key ∧
      (cache.lookUp table key).2.LooksUp rules ∧
      (cache.lookUp table key).2.sets = cache.sets := by
  unfold lookUp
  cases hget : (cache.answers table).get? key with
  | none =>
    rw [h.rules_eq]
    exact ⟨rfl, h.keep table key, rfl⟩
  | some answer => exact ⟨h.answers table key answer hget, h, rfl⟩

/-- `lookUp` finds the answer of the rules and leaves a `Faithful` cache. -/
lemma lookUp_of_faithful (h : cache.Faithful rules) (table : MemoTable) (key : Option String) :
    (cache.lookUp table key).1 = rules.lookUp table key ∧
      (cache.lookUp table key).2.Faithful rules := by
  obtain ⟨hanswer, hlookups, hsets⟩ := lookUp_of_looksUp h.looksUp table key
  exact ⟨hanswer, hlookups.faithful (hsets ▸ h.sets)⟩

/-- `resolve` finds what it finds from the empty cache, and leaves a `Faithful` one. -/
lemma resolve_of_faithful (h : cache.Faithful rules) (id : Option String) :
    (cache.resolve rules id).1 = ((ofRules rules).resolve rules id).1 ∧
      (cache.resolve rules id).2.Faithful rules := by
  obtain ⟨outcome, hfollows⟩ : ∃ outcome, rules.Follows (rules.resolveModifier? id) outcome := by
    rcases Rules.follows_resolveModifier? rules id with ⟨_, -, h⟩ | ⟨_, h⟩
    · exact ⟨_, h⟩
    · exact ⟨_, h⟩
  obtain ⟨hresult, hsets⟩ := hfollows cache.sets h.sets
  obtain ⟨hfresh, -⟩ := hfollows ∅ Rules.sound_empty
  exact ⟨hresult.trans hfresh.symm, h.rules_eq, h.answers, hsets⟩

/-- `serve` gives `rules.answer` and leaves a `Faithful` cache. -/
lemma serve_of_faithful (h : cache.Faithful rules) (q : Request) :
    (cache.serve rules q).1 = rules.answer q ∧ (cache.serve rules q).2.Faithful rules := by
  cases q with
  | lookUp table key => exact lookUp_of_faithful h table key
  | district type => exact ⟨congrArg (Rules.district? · type) h.rules_eq, h⟩
  | constructible type => exact ⟨congrArg (Rules.constructible? · type) h.rules_eq, h⟩
  | unitDomain type => exact ⟨congrArg (Rules.unitDomain · type) h.rules_eq, h⟩
  | unit type => exact ⟨rfl, h⟩
  | adjacency id => exact ⟨rfl, h⟩
  | adjacencyMembers id => exact ⟨rfl, h⟩
  | warehouse id => exact ⟨rfl, h⟩
  | maintenances type => exact ⟨rfl, h⟩
  | modifier id => exact resolve_of_faithful h (some id)

end RuleCache

/-! ## Runs -/

/-- `run` on a `Faithful` cache is `given rules.answer`. -/
theorem Consulting.run_of_faithful (x : Consulting α) (h : cache.Faithful rules) :
    (x.run rules cache).1 = x.given rules.answer ∧ (x.run rules cache).2.Faithful rules := by
  -- induction on the computation; each request that is served leaves another faithful cache
  induction x generalizing cache with
  | done a => exact ⟨rfl, h⟩
  | note e rest ih =>
    obtain ⟨hrecord, hleft⟩ := ih h
    refine ⟨?_, hleft⟩
    simp only [run, given, hrecord]
  | ask q next ih =>
    obtain ⟨hanswer, hserved⟩ := RuleCache.serve_of_faithful h q
    simp only [run, given, ← hanswer]
    exact ih _ hserved

/-- `run` on a `Faithful` cache is `given rules.answer`. -/
theorem Application.run_of_faithful (x : Application α) (stack : List String)
    (h : cache.Faithful rules) :
    (x.run rules stack cache).1 = x.given rules.answer stack ∧
      (x.run rules stack cache).2.Faithful rules := by
  obtain ⟨hrecord, hleft⟩ := Consulting.run_of_faithful (x.outcome stack) h
  refine ⟨?_, hleft⟩
  simp only [run, given, hrecord]

/-! ## Previews -/

namespace Rules

/-- The modifier of an id, resolved when no set is kept. -/
def resolved (rules : Rules) (id : Option String) : Except Fault (Option Modifier) :=
  ((RuleCache.ofRules rules).resolve rules id).1

/-- `resolved` finds no modifier, or one with the id, or ends in a `requirementSetCycle`. -/
lemma resolved_cases (rules : Rules) (id : Option String) :
    (∃ found, rules.resolved id = .ok found ∧
      ∀ m ∈ found, some m.id = id ∧ m.id ∈ rules.modifierIds) ∨
    ∃ chain, rules.resolved id = .error (.requirementSetCycle chain) := by
  rcases follows_resolveModifier? rules id with ⟨found, hfound, h⟩ | ⟨chain, h⟩
  · exact .inl ⟨found, (h ∅ sound_empty).1, hfound⟩
  · exact .inr ⟨chain, (h ∅ sound_empty).1⟩

/-- The modifiers of ids up to the first that cannot be resolved, each resolved when no set is
kept. -/
def resolvedAll (rules : Rules) : List (Option String) → List Modifier × Except Fault Unit
  | [] => ([], .ok ())
  | id :: rest =>
    match rules.resolved id with
    | .error fault => ([], .error fault)
    | .ok found => (found.toList ++ (rules.resolvedAll rest).1, (rules.resolvedAll rest).2)

end Rules

namespace Engine

/-- The modifiers of a preview and the record of their application when nothing is kept. -/
def record (e : Engine) (g : Snapshot) (ids : List (Option String)) :
    List Modifier × Recorded Fault Unit :=
  match e.scene g with
  | .error fault => ([], ⟨[], .error fault⟩)
  | .ok s =>
    match e.rules.resolvedAll ids with
    | (modifiers, .error fault) => (modifiers, ⟨[], .error fault⟩)
    | (modifiers, .ok ()) =>
      (modifiers,
        ((modifiers.forM (s.applyToAll e.rules.depth)).given e.rules.answer []).1)

lemma resolveAll_of_faithful (h : cache.Faithful rules) (ids : List (Option String)) :
    (resolveAll rules ids cache).1 = rules.resolvedAll ids ∧
      (resolveAll rules ids cache).2.Faithful rules := by
  induction ids generalizing cache with
  | nil => exact ⟨rfl, h⟩
  | cons id rest ih =>
    obtain ⟨hfound, hleft⟩ := RuleCache.resolve_of_faithful h id
    unfold resolveAll Rules.resolvedAll Rules.resolved
    rw [← hfound]
    rcases hrun : cache.resolve rules id with ⟨found, left⟩
    rw [hrun] at hleft
    cases found with
    | error fault => exact ⟨rfl, hleft⟩
    | ok found =>
      obtain ⟨hrest, hend⟩ := ih hleft
      exact ⟨by simp only [hrest], hend⟩

/-- `run` from a `Faithful` cache is `record`. -/
theorem run_of_faithful (e : Engine) (g : Snapshot) (ids : List (Option String))
    (h : cache.Faithful e.rules) :
    (e.run g ids cache).1 = e.record g ids ∧ (e.run g ids cache).2.Faithful e.rules := by
  unfold run record
  cases e.scene g with
  | error fault => exact ⟨rfl, h⟩
  | ok s =>
    obtain ⟨hresolved, hleft⟩ := resolveAll_of_faithful h ids
    rw [← hresolved]
    rcases hrun : resolveAll e.rules ids cache with ⟨⟨modifiers, result⟩, left⟩
    rw [hrun] at hleft
    cases result with
    | error fault => exact ⟨rfl, hleft⟩
    | ok _ =>
      obtain ⟨hrecord, hend⟩ :=
        Application.run_of_faithful (modifiers.forM (s.applyToAll e.rules.depth)) [] hleft
      exact ⟨by simp only [applyAll, hrecord], hend⟩

/-- `previewIds` is the same from every `Faithful` cache. -/
lemma previewIds_of_faithful (e : Engine) (g : Snapshot) (ids : List (Option String))
    (h : cache.Faithful e.rules) :
    (e.previewIds g ids cache).1 = (e.previewIds g ids (.ofRules e.rules)).1 ∧
      (e.previewIds g ids cache).2.Faithful e.rules := by
  obtain ⟨hrecord, hleft⟩ := e.run_of_faithful g ids h
  obtain ⟨hfresh, -⟩ := e.run_of_faithful g ids (RuleCache.faithful_ofRules e.rules)
  exact ⟨by simp only [previewIds, hrecord, hfresh], hleft⟩

/-- `preview` is the same from every `Faithful` cache. -/
lemma preview_of_faithful (e : Engine) (g : Snapshot) (tradition : Option String)
    (h : cache.Faithful e.rules) :
    (e.preview g tradition cache).1 = (e.preview g tradition (.ofRules e.rules)).1 ∧
      (e.preview g tradition cache).2.Faithful e.rules := by
  unfold preview
  cases tradition.filter (· ≠ "") with
  | none => exact ⟨rfl, h⟩
  | some t => exact e.previewIds_of_faithful g _ h

end Engine

end PolicyForecast
