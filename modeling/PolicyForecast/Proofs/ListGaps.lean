import PolicyForecast.Proofs.AlikeRules
import PolicyForecast.Proofs.Independence
import PolicyForecast.Proofs.OtherTraditions

/-!
# Gaps in a list of modifiers

A link of a tradition may name no modifier, which leaves a gap in the list of the tradition. A
preview passes over the gaps of a tradition's own list: its record is that of the list without them
(`Engine.record_filter`). The same list in the hands of a caller is refused.

Main statement: the list of a tradition is refused exactly when some link of the tradition names no
modifier; where it is accepted its preview is the tradition's, and that is also the preview of the
list without its gaps (`Engine.previewModifiers_traditionModifierIds`).
-/

namespace PolicyForecast

namespace Rules

variable {rules : Rules}

lemma mem_traditionModifierIds {t : String} {id : Option String} :
    id ∈ rules.traditionModifierIds t ↔
      ∃ r ∈ rules.traditionModifiers, r.tradition = some t ∧ r.modifier = id := by
  simp [traditionModifierIds, keyMatches, and_assoc]

lemma resolved_none : rules.resolved none = .ok none :=
  resolved_of_no_record modifier?_none

lemma resolvedAll_filter (ids : List (Option String)) :
    rules.resolvedAll (ids.filter Option.isSome) = rules.resolvedAll ids := by
  induction ids with
  | nil => rfl
  | cons id rest ih =>
    cases id with
    | none =>
      have hgap : rules.resolvedAll (none :: rest) = rules.resolvedAll rest := by
        rw [resolvedAll, resolved_none]
        rfl
      rw [hgap, ← ih]
      rfl
    | some id =>
      show rules.resolvedAll (some id :: rest.filter Option.isSome) = _
      rw [resolvedAll, resolvedAll, ih]

end Rules

namespace Engine

variable {e : Engine} {g : Snapshot} {cache cache' : RuleCache} {ids ids' : List (Option String)}

/-- `record` is the same without null ids. -/
lemma record_filter (e : Engine) (g : Snapshot) (ids : List (Option String)) :
    e.record g (ids.filter Option.isSome) = e.record g ids := by
  unfold record
  rw [Rules.resolvedAll_filter]

/-- `previewIds` is the same for lists with the same `record`. -/
lemma previewIds_of_record_eq (hcache : cache.Faithful e.rules) (hcache' : cache'.Faithful e.rules)
    (h : e.record g ids = e.record g ids') :
    (e.previewIds g ids cache).1 = (e.previewIds g ids' cache').1 := by
  obtain ⟨hrun, -⟩ := e.run_of_faithful g ids hcache
  obtain ⟨hrun', -⟩ := e.run_of_faithful g ids' hcache'
  show e.answer (e.run g ids cache).1.1 (e.run g ids cache).1.2
    = e.answer (e.run g ids' cache').1.1 (e.run g ids' cache').1.2
  rw [hrun, hrun', h]

/-- `previewModifiers` without null ids is `previewIds` of any list with the same `record`. -/
lemma previewModifiers_of_record_eq (hcache : cache.Faithful e.rules)
    (hcache' : cache'.Faithful e.rules) (hids : none ∉ ids) (h : e.record g ids = e.record g ids') :
    ∃ left, e.previewModifiers g ids cache = .ok ((e.previewIds g ids' cache').1, left) := by
  refine ⟨(e.previewIds g ids cache).2, ?_⟩
  rw [e.previewModifiers_of_not_mem g cache hids, ← previewIds_of_record_eq hcache hcache' h]

/-- `previewModifiers` of `traditionModifierIds t` is refused iff a link of `t` has no modifier.
Otherwise its answer is that of `preview` for `t`, and so is the answer without the null ids. -/
theorem previewModifiers_traditionModifierIds (e : Engine) (g : Snapshot) (t : String) (ht : t ≠ "")
    (cache cache' : RuleCache) (hcache : cache.Faithful e.rules)
    (hcache' : cache'.Faithful e.rules) :
    ((∃ fault, e.previewModifiers g (e.rules.traditionModifierIds t) cache' = .error fault) ↔
      ∃ r ∈ e.rules.traditionModifiers, r.tradition = some t ∧ r.modifier = none) ∧
    (∀ p left, e.previewModifiers g (e.rules.traditionModifierIds t) cache' = .ok (p, left) →
      p = (e.preview g (some t) cache).1) ∧
    ∃ left, e.previewModifiers g ((e.rules.traditionModifierIds t).filter Option.isSome) cache'
      = .ok ((e.preview g (some t) cache).1, left) := by
  rw [← Rules.mem_traditionModifierIds, e.preview_of_ne g ht]
  have hfilled : none ∉ (e.rules.traditionModifierIds t).filter Option.isSome := by
    intro hnone
    cases (List.mem_filter.1 hnone).2
  have hleft := previewModifiers_of_record_eq hcache' hcache hfilled (e.record_filter g _)
  by_cases hgap : none ∈ e.rules.traditionModifierIds t
  · have hrefused := e.previewModifiers_of_mem g cache' hgap
    refine ⟨iff_of_true ⟨_, hrefused⟩ hgap, fun p left haccepted => ?_, hleft⟩
    rw [hrefused] at haccepted
    cases haccepted
  · obtain ⟨rest, hanswer⟩ := previewModifiers_of_record_eq hcache' hcache hgap rfl
    rw [hanswer]
    refine ⟨iff_of_false nofun hgap, fun p left haccepted => ?_, hleft⟩
    exact (Prod.mk.inj (Except.ok.inj haccepted)).1.symm

/-- `HOARD` has a link to `GRANT`, which gives 5 gold, and one without a modifier. -/
def unfinished : Engine :=
  { granting.listing [⟨some "HOARD", some "GRANT"⟩, ⟨some "HOARD", none⟩] with
    rules :=
      { (granting.listing [⟨some "HOARD", some "GRANT"⟩, ⟨some "HOARD", none⟩]).rules with
        yieldTypes := ["YIELD_GOLD"] } }

/-- In `unfinished`, `preview` of `HOARD` gives 5 `YIELD_GOLD` without errors, but
`previewModifiers` of its ids `[GRANT, null]` is `missingId`. -/
theorem unfinished_list_refused :
    unfinished.rules.traditionModifierIds "HOARD" = [some "GRANT", none] ∧
      (unfinished.preview .solitaire (some "HOARD") (.ofRules unfinished.rules)).1.yields
        = [("YIELD_GOLD", 5)] ∧
      (unfinished.preview .solitaire (some "HOARD") (.ofRules unfinished.rules)).1.errors = [] ∧
      unfinished.previewModifiers .solitaire (unfinished.rules.traditionModifierIds "HOARD")
        (.ofRules unfinished.rules) = .error .missingId := by
  have hids : unfinished.rules.traditionModifierIds "HOARD" = [some "GRANT", none] := by decide
  refine ⟨hids, by decide +kernel, by decide +kernel, ?_⟩
  rw [hids]
  exact previewModifiers_of_mem _ _ _ (by decide)

/-- The ids of `HOARD` in `unfinished` are refused, and `[GRANT]` has the preview of `HOARD`. -/
theorem unfinished_list_filled :
    (∃ fault, unfinished.previewModifiers .solitaire (unfinished.rules.traditionModifierIds "HOARD")
      (.ofRules unfinished.rules) = .error fault) ∧
    ∃ left, unfinished.previewModifiers .solitaire [some "GRANT"] (.ofRules unfinished.rules)
      = .ok ((unfinished.preview .solitaire (some "HOARD") (.ofRules unfinished.rules)).1,
          left) := by
  have hfilled : (unfinished.rules.traditionModifierIds "HOARD").filter Option.isSome
      = [some "GRANT"] := by
    decide
  obtain ⟨hrefused, -, hanswered⟩ := previewModifiers_traditionModifierIds unfinished .solitaire
    "HOARD" (by decide) _ _ (RuleCache.faithful_ofRules unfinished.rules)
    (RuleCache.faithful_ofRules unfinished.rules)
  rw [hfilled] at hanswered
  exact ⟨hrefused.2 (by decide +kernel), hanswered⟩

end Engine

end PolicyForecast
