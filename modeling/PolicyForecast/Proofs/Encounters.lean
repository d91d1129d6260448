import PolicyForecast.Proofs.ApplicationCases
import PolicyForecast.Proofs.MalformedApplication
import PolicyForecast.Proofs.OtherSettings

/-!
# Malformed rules that a preview meets

Where rules are not strict, a preview goes past malformed rules. Which of them it meets is told here
in the order in which it meets them, each with what was done before and with the applications by
which its modifier was attached (`Encounter`): `Scene.encounters` goes along with an application,
`Engine.encounters` with a preview.

A record *stops at the first* encounter if it has what was done before, the remarks of the encounter
and of all applications around it, and the malformed rule as its fault. Main statement: this is what
becomes of an application where rules are strict (`Scene.stopsAtFirst_enter`).
-/

namespace PolicyForecast

variable {α : Type}

/-! ## Encounters -/

/-- A malformed rule that is met while modifiers are applied. -/
structure Encounter where
  /-- What was done before. -/
  before : List Event
  fault : RuleFault
  /-- The modifier whose rule it is. -/
  modifier : Modifier
  subject : Subject
  /-- The applications by which the modifier was attached, the innermost first. -/
  enclosing : List (Modifier × Subject) := []

namespace Encounter

/-- What an application says of a malformed rule that it comes upon. -/
def wording (k : Encounter) (application : Modifier × Subject) : String :=
  s!"{Wording.name application.1.effect} on {application.2.describe}: {k.fault.message}"

/-- The remark on a malformed rule. -/
def remark (k : Encounter) : Event :=
  .error (k.wording (k.modifier, k.subject))

/-- The remarks of the applications around it, where it is not contained. -/
def further (k : Encounter) : List Event :=
  k.enclosing.map (.error ∘ k.wording)

/-- An encounter after events. -/
def after (events : List Event) (k : Encounter) : Encounter :=
  { k with before := events ++ k.before }

/-- An encounter in what a modifier attaches to a subject. -/
def within (m : Modifier) (subject : Subject) (k : Encounter) : Encounter :=
  { k with enclosing := k.enclosing ++ [(m, subject)] }

/-- The record of what is stopped by an encounter. -/
def stopped (k : Encounter) : Recorded Fault Unit where
  events := k.before ++ k.remark :: k.further
  result := .error (.evaluation (.rule k.fault))

lemma errors_stopped (k : Encounter) :
    k.stopped.events.filterMap Event.error?
      = k.before.filterMap Event.error?
        ++ k.wording (k.modifier, k.subject) :: k.enclosing.map k.wording := by
  have hfurther : k.further.filterMap Event.error? = k.enclosing.map k.wording := by
    unfold further
    induction k.enclosing with
    | nil => rfl
    | cons application rest ih => rw [List.map_cons, List.map_cons, ← ih]; rfl
  rw [stopped, List.filterMap_append, ← hfurther]
  rfl

/-- The events of `stopped` are those of `before`, as seen by a view without errors. -/
lemma filterMap_stopped (k : Encounter) {view : Event → Option α}
    (h : ∀ text, view (.error text) = none) :
    k.stopped.events.filterMap view = k.before.filterMap view := by
  simp [stopped, remark, further, List.filterMap_append, List.filterMap_map, h]

lemma stopped_after (events : List Event) (k : Encounter) :
    (k.after events).stopped = ⟨events ++ k.stopped.events, k.stopped.result⟩ :=
  congrArg (Recorded.mk · k.stopped.result) (List.append_assoc events k.before _)

lemma stopped_within (m : Modifier) (subject : Subject) (k : Encounter) :
    (k.within m subject).stopped
      = ⟨k.stopped.events ++ [Scene.ruleRemark m subject k.fault], k.stopped.result⟩ := by
  have hfurther : (k.within m subject).further
      = k.further ++ [Scene.ruleRemark m subject k.fault] := List.map_append
  show (⟨k.before ++ k.remark :: (k.within m subject).further, _⟩ : Recorded Fault Unit) = _
  rw [hfurther, stopped, List.append_assoc, List.cons_append]
  rfl

/-- The encounters of a sequence up to the step that stops, if any. -/
def inTurn (record : α → Recorded Fault Unit) (encounters : α → List Encounter) :
    List α → List Encounter
  | [] => []
  | a :: rest =>
    encounters a ++
      match (record a).result with
      | .ok _ => (inTurn record encounters rest).map (after (record a).events)
      | .error _ => []

/-- The encounter that a record ends with, if it is stopped by a malformed rule. -/
def ofRecord (m : Modifier) (subject : Subject) (r : Recorded Fault Unit) : List Encounter :=
  match r.result with
  | .error (.evaluation (.rule fault)) => [⟨r.events, fault, m, subject, []⟩]
  | _ => []

end Encounter

/-- The modifier that an effect attaches, if it attaches one that can be resolved. -/
def Effect.attached? (answers : Answers) (m : Modifier) : Effect → Option Modifier
  | .attach =>
    (m.text "ModifierId").toOption.bind fun id => (answers (.modifier id)).toOption.join
  | _ => none

namespace Scene

variable (s : Scene) (answers : Answers)

/-- The encounters of a modifier that is entered, by those of its applications. -/
def encountersIn (apply : Modifier → Subject → Application Unit)
    (encounters : Modifier → Subject → List String → List Encounter) (m : Modifier)
    (parent : Option Subject) (stack : List String) : List Encounter :=
  if m.id ∈ stack then []
  else
    match ((m.subjects s parent).given answers).result with
    | .error _ => []
    | .ok subjects =>
      (Encounter.inTurn (fun subject => (apply m subject).record answers (stack ++ [m.id]))
        (encounters m · (stack ++ [m.id])) subjects).map
          (.after ((m.subjects s parent).given answers).events)

/-- The encounters of an application: those of what it attaches, and the one in its own effect. -/
def encounters : (fuel : Nat) → Modifier → Subject → List String → List Encounter
  | 0, _, _, _ => []
  | fuel + 1, m, subject, stack =>
    match m.carriedOut? subject with
    | none => []
    | some effect =>
      ((effect.attached? answers m).elim [] fun attached =>
        s.encountersIn answers (s.apply fuel) (encounters fuel) attached (some subject) stack).map
          (.within m subject)
        ++ Encounter.ofRecord m subject
            ((s.perform (s.apply fuel) m subject effect).record answers stack)

end Scene

namespace Engine

/-- The encounters of a preview. -/
def encounters (e : Engine) (g : Snapshot) (ids : List (Option String)) : List Encounter :=
  match e.scene g, e.rules.resolvedAll ids with
  | .ok s, (modifiers, .ok ()) =>
    Encounter.inTurn (e.applied s)
      (s.encountersIn e.rules.answer (s.apply e.rules.depth)
        (s.encounters e.rules.answer e.rules.depth) · none []) modifiers
  | _, _ => []

end Engine

/-! ## Stopping at the first encounter -/

open Application

/-- A record is that of a lenient computation up to its first encounter, if there is one, where it
stops; and every encounter is remarked on in the lenient record after what was done before. -/
structure StopsAtFirst (lenient strict : Recorded Fault Unit) (encounters : List Encounter) :
    Prop where
  strict_eq : strict = encounters.head?.elim lenient Encounter.stopped
  placed : ∀ k ∈ encounters, k.before ++ [k.remark] <+: lenient.events

namespace StopsAtFirst

variable {lenient strict : Recorded Fault Unit} {encounters : List Encounter}

lemma refl (r : Recorded Fault Unit) : StopsAtFirst r r [] where
  strict_eq := rfl
  placed := by simp

/-- `StopsAtFirst` with the same events before both runs. -/
lemma after (h : StopsAtFirst lenient strict encounters) (events : List Event) :
    StopsAtFirst ⟨events ++ lenient.events, lenient.result⟩
      ⟨events ++ strict.events, strict.result⟩ (encounters.map (.after events)) where
  strict_eq := by
    rw [h.strict_eq]
    cases encounters with
    | nil => rfl
    | cons k rest => exact (k.stopped_after events).symm
  placed := by
    intro k hk
    obtain ⟨k, hmem, rfl⟩ := List.mem_map.1 hk
    rw [Encounter.after, List.append_assoc]
    exact List.prefix_append_right_inj events |>.2 (h.placed k hmem)

lemma stopped_bind (k : Encounter) (f : Unit → Recorded Fault Unit) :
    k.stopped >>= f = k.stopped :=
  Recorded.bind_of_error rfl f

/-- `StopsAtFirst` of a sequence: the encounters of the second part count if the first ends well. -/
lemma bind {lenient' strict' : Recorded Fault Unit} {encounters' : List Encounter}
    (hx : StopsAtFirst lenient strict encounters)
    (hy : StopsAtFirst lenient' strict' encounters') :
    StopsAtFirst (lenient >>= fun _ => lenient') (strict >>= fun _ => strict')
      (encounters ++
        match lenient.result with
        | .ok _ => encounters'.map (.after lenient.events)
        | .error _ => []) := by
  have hstrict := hx.strict_eq
  cases hresult : lenient.result with
  | error fault =>
    have hstays (f : Unit → Recorded Fault Unit) : lenient >>= f = lenient := by
      rw [Recorded.bind_of_error hresult, ← hresult]
    rw [hstays]
    refine ⟨?_, fun k hk => hx.placed k (by simpa using hk)⟩
    cases encounters with
    | nil => rw [hstrict]; exact hstays _
    | cons k rest => rw [hstrict]; exact stopped_bind k _
  | ok _ =>
    have hlater := hy.after lenient.events
    rw [Recorded.bind_of_ok hresult]
    refine ⟨?_, fun k hk => ?_⟩
    · cases encounters with
      | nil =>
        rw [hstrict]
        exact (Recorded.bind_of_ok hresult _).trans hlater.strict_eq
      | cons k rest => rw [hstrict]; exact stopped_bind k _
    · rcases List.mem_append.1 hk with hk | hk
      · exact (hx.placed k hk).trans (List.prefix_append _ _)
      · exact hlater.placed k hk

/-- `StopsAtFirst` of `forM`, with the encounters `inTurn`. -/
lemma forM {lenient strict : α → Recorded Fault Unit} {encounters : α → List Encounter}
    (h : ∀ a, StopsAtFirst (lenient a) (strict a) (encounters a)) (as : List α) :
    StopsAtFirst (as.forM lenient) (as.forM strict) (Encounter.inTurn lenient encounters as) := by
  induction as with
  | nil => exact refl _
  | cons a rest ih => exact (h a).bind ih

end StopsAtFirst

/-! ## Scenes that differ in strictness -/

namespace Scene

/-- A scene in which rules are strict or not. -/
def withStrictness (s : Scene) (strict : Bool) : Scene :=
  s.under { s.settings with strictArguments := strict }

lemma subjects_withStrictness (s : Scene) (strict : Bool) (m : Modifier)
    (parent : Option Subject) : m.subjects (s.withStrictness strict) parent = m.subjects s parent :=
  m.subjects_under s _ parent rfl

variable (s : Scene) {answers : Answers} {m : Modifier} {subject : Subject} {stack : List String}

/-- `remarked` puts encounters `within` the modifier and subject that attached them. -/
lemma stopsAtFirst_within {lenient strict : Recorded Fault Unit} {encounters : List Encounter}
    (h : StopsAtFirst lenient strict encounters)
    (hfree : ∀ rule, lenient.result ≠ .error (.evaluation (.rule rule))) :
    StopsAtFirst ((s.withStrictness false).remarked m subject lenient)
      ((s.withStrictness true).remarked m subject strict) (encounters.map (.within m subject)) := by
  have hcontained (strict : Bool) :
      (s.withStrictness strict).remarked m subject lenient = lenient := by
    unfold remarked
    split
    next rule hrule => exact absurd hrule (hfree rule)
    next => rfl
  have hstrict := h.strict_eq
  rw [hcontained]
  refine ⟨?_, fun k hk => ?_⟩
  · cases encounters with
    | nil => rw [hstrict]; exact hcontained true
    | cons k rest =>
      rw [hstrict]
      exact (k.stopped_within m subject).symm
  · obtain ⟨k, hmem, rfl⟩ := List.mem_map.1 hk
    exact h.placed k hmem

/-- A rule fault of what is `remarked` is an encounter of its own. -/
lemma stopsAtFirst_own (m : Modifier) (subject : Subject) (r : Recorded Fault Unit) :
    StopsAtFirst ((s.withStrictness false).remarked m subject r)
      ((s.withStrictness true).remarked m subject r) (Encounter.ofRecord m subject r) := by
  obtain ⟨events, result⟩ := r
  rcases result with fault | _
  · rcases fault with fault | _ | _ | _ | _
    · rcases fault with rule | _ | _ | _
      · refine ⟨rfl, fun k hk => ?_⟩
        obtain rfl := List.mem_singleton.1 hk
        exact List.prefix_rfl
      all_goals exact .refl _
    all_goals exact .refl _
  · exact .refl _

/-- `StopsAtFirst` of `enter`, from that of `apply`. -/
lemma stopsAtFirst_enter {lenient strict : Modifier → Subject → Application Unit}
    {encounters : Modifier → Subject → List String → List Encounter}
    (hlenient : ∀ m subject, Steady (lenient m subject))
    (hstrict : ∀ m subject, Steady (strict m subject))
    (h : ∀ m subject stack, StopsAtFirst ((lenient m subject).record answers stack)
      ((strict m subject).record answers stack) (encounters m subject stack))
    (m : Modifier) (parent : Option Subject) (stack : List String) :
    StopsAtFirst (((s.withStrictness false).enter lenient m parent).record answers stack)
      (((s.withStrictness true).enter strict m parent).record answers stack)
      ((s.withStrictness false).encountersIn answers lenient encounters m parent stack) := by
  have hsubjects : m.subjects (s.withStrictness true) parent
      = m.subjects (s.withStrictness false) parent :=
    (s.subjects_withStrictness true m parent).trans (s.subjects_withStrictness false m parent).symm
  unfold encountersIn
  by_cases hmem : m.id ∈ stack
  · rw [record_enter_of_mem _ hmem, record_enter_of_mem _ hmem, if_pos hmem]
    exact .refl _
  · rw [record_enter_of_not_mem _ hlenient hmem, record_enter_of_not_mem _ hstrict hmem,
      if_neg hmem, hsubjects]
    cases hfound : ((m.subjects (s.withStrictness false) parent).given answers).result with
    | error fault =>
      have hfault : (((m.subjects (s.withStrictness false) parent).given answers).mapError
          Fault.evaluation).result = .error (.evaluation fault) := by
        rw [Recorded.mapError, hfound]
        rfl
      rw [Recorded.bind_of_error hfault, Recorded.bind_of_error hfault]
      exact .refl _
    | ok subjects =>
      have hok : (((m.subjects (s.withStrictness false) parent).given answers).mapError
          Fault.evaluation).result = .ok subjects := by
        rw [Recorded.mapError, hfound]
        rfl
      rw [Recorded.bind_of_ok hok, Recorded.bind_of_ok hok]
      exact (StopsAtFirst.forM (fun subject => h m subject _) subjects).after _

/-- `apply` does not read the scene if `carriedOut?` is `none` or `inert`. -/
lemma apply_of_idle (s s' : Scene) (fuel : Nat)
    (h : m.carriedOut? subject = none ∨ m.carriedOut? subject = some .inert) :
    s.apply (fuel + 1) m subject = s'.apply (fuel + 1) m subject := by
  unfold Modifier.carriedOut? at h
  unfold apply Scene.effect
  split at h
  next hidle => rw [if_pos hidle, if_pos hidle]
  next hbusy =>
    rw [if_neg hbusy, if_neg hbusy]
    rcases h with h | h <;> rw [h]

/-- `attach` is `enter` on what is `attached?`, or the same record in every scene. -/
lemma attach_cases (answers : Answers) (m : Modifier) (subject : Subject) (stack : List String) :
    (Effect.attach.attached? answers m = none ∧
      ∃ r, ∀ (s : Scene) apply, (s.attach apply m subject).record answers stack = r) ∨
    ∃ attached, Effect.attach.attached? answers m = some attached ∧
      ∀ (s : Scene) apply, (s.attach apply m subject).record answers stack
        = (s.enter apply attached (some subject)).record answers stack := by
  unfold Effect.attached?
  cases htext : m.text "ModifierId" with
  | error fault => exact .inl ⟨rfl, _, fun s apply => record_attach_of_error htext⟩
  | ok id =>
    cases hanswer : answers (.modifier id) with
    | error fault =>
      refine .inl ⟨by simp [Except.toOption, hanswer], ⟨[], .error fault⟩, fun s apply => ?_⟩
      rw [record_attach_of_ok htext, hanswer, Recorded.bind_of_error rfl]
    | ok found =>
      cases found with
      | none =>
        refine .inl ⟨by simp [Except.toOption, hanswer], ⟨[unattachedRemark m id], .ok ()⟩,
          fun s apply => ?_⟩
        rw [record_attach_of_ok htext, hanswer, Recorded.bind_of_ok rfl]
        rfl
      | some attached =>
        refine .inr ⟨attached, by simp [Except.toOption, hanswer], fun s apply => ?_⟩
        rw [record_attach_of_ok htext, hanswer, Recorded.bind_of_ok rfl]
        rfl

/-- `apply` under strict rules stops at the first of the `encounters` of `apply` under lenient
ones. -/
lemma stopsAtFirst_apply (answers : Answers) (fuel : Nat) (m : Modifier) (subject : Subject)
    (stack : List String) :
    StopsAtFirst (((s.withStrictness false).apply fuel m subject).record answers stack)
      (((s.withStrictness true).apply fuel m subject).record answers stack)
      ((s.withStrictness false).encounters answers fuel m subject stack) := by
  -- induction on the bound; an encounter is in the effect itself, or in what it attaches
  induction fuel generalizing m subject stack with
  | zero => exact .refl _
  | succ fuel ih =>
    unfold encounters
    cases hcarried : m.carriedOut? subject with
    | none =>
      rw [apply_of_idle (s.withStrictness true) (s.withStrictness false) fuel (.inl hcarried)]
      exact .refl _
    | some effect =>
      cases effect with
      | inert =>
        rw [apply_of_idle (s.withStrictness true) (s.withStrictness false) fuel (.inr hcarried)]
        exact .refl _
      | yields effect =>
        rw [apply_of_carriedOut hcarried (by simp), apply_of_carriedOut hcarried (by simp),
          record_guarded (steady_perform _ (steady_apply _ fuel) m subject _),
          record_guarded (steady_perform _ (steady_apply _ fuel) m subject _)]
        -- the effect itself is the same in both scenes
        simp only [perform, withStrictness, effect.run_under]
        exact s.stopsAtFirst_own m subject _
      | attach =>
        rw [apply_of_carriedOut hcarried (by simp), apply_of_carriedOut hcarried (by simp),
          record_guarded (steady_perform _ (steady_apply _ fuel) m subject _),
          record_guarded (steady_perform _ (steady_apply _ fuel) m subject _)]
        rcases attach_cases answers m subject stack with ⟨hnone, r, hr⟩ | ⟨attached, hattached, hr⟩
        · -- nothing is attached, so that an encounter can only be in the effect itself
          simp only [perform, hnone, hr]
          exact s.stopsAtFirst_own m subject r
        · -- what is attached contains all malformed rules, so that the effect itself has none
          have hfree : ∀ rule, (((s.withStrictness false).enter
              ((s.withStrictness false).apply fuel) attached (some subject)).record answers
                stack).result ≠ .error (.evaluation (.rule rule)) :=
            (neverMalformed_enter (neverMalformed_apply rfl fuel) attached _ stack).given answers
          have hown : Encounter.ofRecord m subject (((s.withStrictness false).enter
              ((s.withStrictness false).apply fuel) attached (some subject)).record answers
                stack) = [] := by
            unfold Encounter.ofRecord
            split
            next rule hrule => exact absurd hrule (hfree rule)
            next => rfl
          simp only [perform, hattached, hr, hown, List.append_nil]
          exact s.stopsAtFirst_within
            (s.stopsAtFirst_enter (steady_apply _ fuel) (steady_apply _ fuel) ih attached _ stack)
            hfree

end Scene

end PolicyForecast
