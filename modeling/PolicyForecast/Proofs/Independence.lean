import PolicyForecast.Proofs.PreviewRecord

/-!
# Modifiers contribute independently

The modifiers of a preview share a cache, a stack and the yields that they add up. Main statement:
when nothing stops the preview, what its modifiers do is, one after the other, what each of them
does in a preview of its own with a new cache (`independent_of_ok`). The cache makes no difference
because it is faithful, and the stack none because every modifier leaves it empty.
-/

namespace PolicyForecast

namespace Recorded

variable {ε α : Type}

/-- The recorded contributions to yields. -/
def additions (x : Recorded ε α) : List Addition :=
  x.events.filterMap Event.addition?

/-- The recorded remarks on malformed rules. -/
def errors (x : Recorded ε α) : List String :=
  x.events.filterMap Event.error?

/-- The recorded remarks on what is not known. -/
def missings (x : Recorded ε α) : List String :=
  x.events.filterMap Event.missing?

/-- The recorded remarks on effects of no concern. -/
def ignored (x : Recorded ε α) : List String :=
  x.events.filterMap Event.ignored?

end Recorded

/-- If `resolvedAll` ends well, it has the modifiers of the single ids. -/
lemma Rules.resolvedAll_of_ok {rules : Rules} {ids : List (Option String)}
    (h : (rules.resolvedAll ids).2 = .ok ()) :
    (∀ id ∈ ids, (rules.resolvedAll [id]).2 = .ok ()) ∧
      (rules.resolvedAll ids).1 = ids.flatMap fun id => (rules.resolvedAll [id]).1 := by
  induction ids with
  | nil => exact ⟨by simp, rfl⟩
  | cons id rest ih =>
    unfold resolvedAll at h
    cases hfound : rules.resolved id with
    | error fault =>
      rw [hfound] at h
      cases h
    | ok found =>
      rw [hfound] at h
      obtain ⟨hall, hmodifiers⟩ := ih h
      have hone : rules.resolvedAll [id] = (found.toList ++ [], .ok ()) := by
        simp only [resolvedAll, hfound]
      refine ⟨List.forall_mem_cons.2 ⟨by rw [hone], hall⟩, ?_⟩
      rw [List.flatMap_cons, ← hmodifiers, hone, List.append_nil]
      simp only [resolvedAll, hfound]

namespace Engine

variable {e : Engine} {g : Snapshot} {ids : List (Option String)}

/-- `answer` has the remarks of the record, and one more error if it was stopped. -/
lemma remarks_of_answer (e : Engine) (modifiers : List Modifier) (record : Recorded Fault Unit) :
    (e.answer modifiers record).modifiers = modifiers ∧
      record.errors <+: (e.answer modifiers record).errors ∧
      (e.answer modifiers record).missings = record.missings ∧
      (e.answer modifiers record).ignored = record.ignored := by
  unfold answer
  split
  · exact ⟨rfl, List.prefix_rfl, rfl, rfl⟩
  · exact ⟨rfl, List.prefix_append _ _, rfl, rfl⟩

/-- The events of a record that ends well are those of the single ids. -/
lemma record_eq_of_ok (h : (e.record g ids).2.result = .ok ()) :
    (∀ id ∈ ids, (e.record g [id]).2.result = .ok ()) ∧
      (e.record g ids).2.events = ids.flatMap fun id => (e.record g [id]).2.events := by
  rcases e.record_cases g ids with ⟨_, hfault⟩ | ⟨_, hfault⟩ | ⟨s, hscene, hresolved, hrecord⟩
  · rw [hfault] at h
    cases h
  · rw [hfault] at h
    cases h
  obtain ⟨hsingle, hmodifiers⟩ := Rules.resolvedAll_of_ok hresolved
  rw [hrecord] at h ⊢
  have happlied := Recorded.ok_of_forM_ok h
  -- alone, a modifier is applied in the same scene and from the same empty stack
  have hone : ∀ id ∈ ids, (e.record g [id]).2
      = ⟨(e.rules.resolvedAll [id]).1.flatMap fun m => (e.applied s m).events, .ok ()⟩ := by
    intro id hid
    rw [record_of_resolvedAll hscene (hsingle id hid)]
    refine Recorded.forM_of_ok fun m hm => happlied m ?_
    show m ∈ (e.rules.resolvedAll ids).1
    rw [hmodifiers]
    exact List.mem_flatMap.2 ⟨id, hid, hm⟩
  refine ⟨fun id hid => by rw [hone id hid], ?_⟩
  rw [Recorded.forM_of_ok happlied, hmodifiers, List.flatMap_assoc]
  exact List.flatMap_congr fun id hid => by rw [hone id hid]

/-- The record of a preview of one modifier with a new cache. -/
def alone (e : Engine) (g : Snapshot) (id : Option String) : Recorded Fault Unit :=
  (e.run g [id] (.ofRules e.rules)).1.2

/-- If `run` ends well, so does `alone` for every listed id, and the additions, errors, missings and
ignored of `run` are those of `alone`, concatenated over the list. -/
theorem independent_of_ok (e : Engine) (g : Snapshot) (ids : List (Option String))
    (cache : RuleCache) (hcache : cache.Faithful e.rules)
    (hok : (e.run g ids cache).1.2.result = .ok ()) :
    (∀ id ∈ ids, (e.alone g id).result = .ok ()) ∧
      (e.run g ids cache).1.2.additions = ids.flatMap (fun id => (e.alone g id).additions) ∧
      (e.run g ids cache).1.2.errors = ids.flatMap (fun id => (e.alone g id).errors) ∧
      (e.run g ids cache).1.2.missings = ids.flatMap (fun id => (e.alone g id).missings) ∧
      (e.run g ids cache).1.2.ignored = ids.flatMap (fun id => (e.alone g id).ignored) := by
  have halone : ∀ id, e.alone g id = (e.record g [id]).2 := fun id =>
    congrArg Prod.snd (e.run_of_faithful g [id] (RuleCache.faithful_ofRules e.rules)).1
  have hrun : (e.run g ids cache).1.2 = (e.record g ids).2 :=
    congrArg Prod.snd (e.run_of_faithful g ids hcache).1
  rw [hrun] at hok
  obtain ⟨hall, hevents⟩ := record_eq_of_ok hok
  -- additions and remarks of each kind are views of the events
  have hview {β : Type} (view : Event → Option β) :
      (e.run g ids cache).1.2.events.filterMap view
        = ids.flatMap fun id => (e.alone g id).events.filterMap view := by
    simp only [halone, hrun, hevents, List.filterMap_flatMap]
  refine ⟨fun id hid => ?_, hview _, hview _, hview _, hview _⟩
  rw [halone]
  exact hall id hid

/-- An engine whose rules have `GRANT`, which gives the player 5 of a yield. -/
def granting : Engine where
  rules :=
    { modifiers := [⟨some "GRANT", some "TYPE", none, none, false, false, false⟩]
      modifierTypes :=
        [⟨some "TYPE", some "COLLECTION_OWNER", some "EFFECT_PLAYER_ADJUST_YIELD"⟩]
      modifierArguments :=
        [⟨some "GRANT", { name := some "YieldType", value := some "YIELD_GOLD" }⟩,
         ⟨some "GRANT", { name := some "Amount", value := some "5" }⟩] }
  settings := {}
  baselines := ∅

/-- The additions of `[GRANT, GRANT]` are those of `GRANT` alone, twice. -/
theorem granting_twice :
    (granting.run .solitaire [some "GRANT", some "GRANT"] (.ofRules granting.rules)).1.2.result
        = .ok () ∧
      (granting.run .solitaire [some "GRANT", some "GRANT"]
          (.ofRules granting.rules)).1.2.additions
        = (granting.alone .solitaire (some "GRANT")).additions
          ++ (granting.alone .solitaire (some "GRANT")).additions := by
  have hok : (granting.run .solitaire [some "GRANT", some "GRANT"]
      (.ofRules granting.rules)).1.2.result = .ok () := rfl
  have hindependent := independent_of_ok granting .solitaire [some "GRANT", some "GRANT"]
    (.ofRules granting.rules) (RuleCache.faithful_ofRules granting.rules) hok
  refine ⟨hok, hindependent.2.1.trans ?_⟩
  rw [List.flatMap_cons, List.flatMap_singleton]

end Engine

end PolicyForecast
