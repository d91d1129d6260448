import PolicyForecast.Proofs.Attachment
import PolicyForecast.Proofs.Confinement

/-!
# Applications under other answers

Where answers agree on all facts, the application of a modifier differs only in the modifiers that
it attaches. A relation between records that is kept by sequencing and by remarks on malformed rules
(`Recorded.Compositional`) therefore holds between whole applications, once it holds for what is
attached. The bounds of the two applications need not be the same, if both suffice.

Main statement: `Recorded.Compositional.enter`, an induction for all relations. With equality for
the relation it says that answers, and bounds, make no difference.
-/

namespace PolicyForecast

variable {α : Type}

/-- What an effect that attaches a modifier does when it has the id: the modifier is looked up, and
entered if there is one. -/
def Scene.attached (s : Scene) (answers : Answers) (apply : Modifier → Subject → Application Unit)
    (m : Modifier) (subject : Subject) (id : String) (stack : List String) : Recorded Fault Unit :=
  (⟨[], answers (.modifier id)⟩ : Recorded Fault (Option Modifier)) >>= fun found =>
    found.elim ⟨[Scene.unattachedRemark m id], .ok ()⟩ fun attached =>
      (s.enter apply attached (some subject)).record answers stack

namespace Recorded

/-- A relation between records that holds of each and itself, and is kept by sequencing and by
remarks on malformed rules. -/
structure Compositional (R : Recorded Fault Unit → Recorded Fault Unit → Prop) : Prop where
  refl : ∀ x, R x x
  bind : ∀ {x y x' y'}, R x y → R x' y' → R (x >>= fun _ => x') (y >>= fun _ => y')
  remarked : ∀ {x y} (s : Scene) (m : Modifier) (subject : Subject), R x y →
    R (s.remarked m subject x) (s.remarked m subject y)

lemma compositional_eq : Compositional Eq where
  refl _ := rfl
  bind hx hx' := by rw [hx, hx']
  remarked s m subject h := by rw [h]

namespace Compositional

variable {R : Recorded Fault Unit → Recorded Fault Unit → Prop}

/-- `>>=` after the same first part. -/
lemma bind_same (hR : Compositional R) {x : Recorded Fault α} {f f' : α → Recorded Fault Unit}
    (h : ∀ a, x.result = .ok a → R (f a) (f' a)) : R (x >>= f) (x >>= f') := by
  cases hresult : x.result with
  | error fault =>
    rw [bind_of_error hresult, bind_of_error hresult]
    exact hR.refl _
  | ok a =>
    rw [bind_of_ok hresult, bind_of_ok hresult]
    exact hR.bind (hR.refl ⟨x.events, .ok ()⟩) (h a hresult)

/-- `forM` of related steps. -/
lemma forM (hR : Compositional R) {f f' : α → Recorded Fault Unit} {as : List α}
    (h : ∀ a ∈ as, R (f a) (f' a)) : R (as.forM f) (as.forM f') := by
  induction as with
  | nil => exact hR.refl _
  | cons a rest ih =>
    rw [List.forall_mem_cons] at h
    exact hR.bind h.1 (ih h.2)

/-! ## Effects -/

section

open Application

variable {s : Scene} {answers answers' : Answers} {m : Modifier} {subject : Subject}
  {stack : List String} {apply apply' : Modifier → Subject → Application Unit}

/-- `effect` of modifiers whose `attached` are related. -/
lemma effect (hR : Compositional R) (hfacts : answers.AgreeOnFacts answers')
    (hsteady : ∀ m subject, Steady (apply m subject))
    (hsteady' : ∀ m subject, Steady (apply' m subject))
    (hattached : ∀ id, m.text "ModifierId" = .ok id →
      R (s.attached answers apply m subject id stack)
        (s.attached answers' apply' m subject id stack)) :
    R ((s.effect apply m subject).record answers stack)
      ((s.effect apply' m subject).record answers' stack) := by
  have hremark (event : Event) :
      R ((ofEvaluation (.note event)).record answers stack)
        ((ofEvaluation (.note event)).record answers' stack) := by
    rw [record_ofEvaluation, record_ofEvaluation, Evaluation.given_note, Evaluation.given_note]
    exact hR.refl _
  unfold Scene.effect
  split
  · exact hremark _
  · exact hremark _
  next effect _ _ =>
    rw [Scene.record_guarded (s.steady_perform hsteady m subject effect),
      Scene.record_guarded (s.steady_perform hsteady' m subject effect)]
    refine hR.remarked s m subject ?_
    cases effect with
    | inert => exact hR.refl _
    | yields effect =>
      -- what is contributed depends on facts only
      have hrun : (effect.run s m subject).given answers
          = (effect.run s m subject).given answers' :=
        (effect.factual_run s m subject).given_congr hfacts
      show R ((ofEvaluation (effect.run s m subject)).record answers stack)
        ((ofEvaluation (effect.run s m subject)).record answers' stack)
      rw [record_ofEvaluation, record_ofEvaluation, hrun]
      exact hR.refl _
    | attach =>
      show R ((s.attach apply m subject).record answers stack)
        ((s.attach apply' m subject).record answers' stack)
      cases htext : m.text "ModifierId" with
      | error fault =>
        rw [Scene.record_attach_of_error htext, Scene.record_attach_of_error htext]
        exact hR.refl _
      | ok id =>
        rw [Scene.record_attach_of_ok htext, Scene.record_attach_of_ok htext]
        exact hattached id htext

end

/-! ## Modifiers that are entered -/

/-- What is attached is either the same modifier under both answers, and one of the same kind `P`;
or else it is related whatever would be applied. -/
def AttachesAlike (R : Recorded Fault Unit → Recorded Fault Unit → Prop) (P : Modifier → Prop)
    (s : Scene) (answers answers' : Answers) (m : Modifier) (id : String) : Prop :=
  (answers (.modifier id) = answers' (.modifier id) ∧
    ∀ attached, answers (.modifier id) = .ok (some attached) → P attached) ∨
  ∀ fuel fuel' subject stack, R (s.attached answers (s.apply fuel) m subject id stack)
    (s.attached answers' (s.apply fuel') m subject id stack)

/-- Under answers that agree on facts, modifiers of a kind are related if it is related what they
attach. The bounds of both applications suffice for the modifiers of the kind, which are those of
`rules`. -/
theorem enter (hR : Compositional R) {P : Modifier → Prop} {s : Scene} {rules : Rules}
    {answers answers' : Answers} (hfacts : answers.AgreeOnFacts answers')
    (hknown : ∀ m, P m → m.id ∈ rules.modifierIds)
    (hattaches : ∀ m id, P m → m.text "ModifierId" = .ok id →
      AttachesAlike R P s answers answers' m id)
    {fuel : Nat} {stack : List String} (hbounded : Scene.Bounded rules fuel stack) {m : Modifier}
    (hm : P m) (parent : Option Subject) (extra extra' : Nat) :
    R ((s.enter (s.apply (fuel + extra)) m parent).record answers stack)
      ((s.enter (s.apply (fuel + extra')) m parent).record answers' stack) := by
  -- induction on the bound: what is attached has a longer stack and a smaller bound
  induction fuel generalizing stack m parent with
  | zero =>
    by_cases hmem : m.id ∈ stack
    · rw [s.record_enter_of_mem hmem, s.record_enter_of_mem hmem]
      exact hR.refl _
    · obtain ⟨rest, hrest, -⟩ := hbounded.push hmem (hknown m hm)
      cases hrest
  | succ fuel ih =>
    by_cases hmem : m.id ∈ stack
    · rw [s.record_enter_of_mem hmem, s.record_enter_of_mem hmem]
      exact hR.refl _
    obtain ⟨rest, hrest, hbounded⟩ := hbounded.push hmem (hknown m hm)
    obtain rfl : fuel = rest := Nat.succ.inj hrest
    have hsubjects : (m.subjects s parent).given answers = (m.subjects s parent).given answers' :=
      (m.confined_subjects s parent).given_congr hfacts
    rw [s.record_enter_of_not_mem (s.steady_apply _) hmem,
      s.record_enter_of_not_mem (s.steady_apply _) hmem, hsubjects]
    refine hR.bind_same fun subjects _ => hR.forM fun subject _ => ?_
    rw [Nat.add_right_comm fuel 1 extra, Nat.add_right_comm fuel 1 extra']
    unfold Scene.apply
    split
    · exact hR.refl _
    refine hR.effect hfacts (s.steady_apply _) (s.steady_apply _) fun id htext => ?_
    rcases hattaches m id hm htext with ⟨hanswer, hkind⟩ | hrelated
    · -- the same modifier is entered
      unfold Scene.attached
      rw [← hanswer]
      refine hR.bind_same fun found hfound => ?_
      cases found with
      | none => exact hR.refl ⟨[Scene.unattachedRemark m id], .ok ()⟩
      | some attached => exact ih hbounded (hkind attached hfound) (some subject)
    · exact hrelated _ _ subject _

end Compositional

end Recorded

end PolicyForecast
