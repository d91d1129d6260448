import Mathlib.Tactic.Lemma
import PolicyForecast.Preview.Engine

/-!
# Applications and their stack

An application is *steady* if it leaves every stack as it found it, whatever it is answered and
whether it stops or not. Everything that is done when modifiers are applied is steady
(`Scene.steady_apply`). For steady applications the stack can be held fixed: from a given stack,
records of sequences are sequences of records (`record_bind`).
-/

namespace PolicyForecast

variable {α β : Type}

/-! ## What holds whatever the answers are -/

namespace Consulting

/-- The value that a computation comes to satisfies a predicate, whatever it is answered. -/
def Always (P : α → Prop) : Consulting α → Prop
  | .done a => P a
  | .note _ rest => rest.Always P
  | .ask _ next => ∀ answer, (next answer).Always P

variable {P : α → Prop} {Q : β → Prop}

lemma always_pure {a : α} (h : P a) : (pure a : Consulting α).Always P := h

lemma always_true (x : Consulting α) : x.Always fun _ => True := by
  induction x with
  | done a => trivial
  | note e rest ih => exact ih
  | ask q next ih => exact ih

lemma Always.bind {x : Consulting α} {f : α → Consulting β} (hx : x.Always P)
    (hf : ∀ a, P a → (f a).Always Q) : (x >>= f).Always Q := by
  show (Consulting.bind x f).Always Q
  induction x with
  | done a => exact hf a hx
  | note e rest ih => exact ih hx
  | ask q next ih => exact fun answer => ih answer (hx answer)

lemma Always.given {x : Consulting α} (h : x.Always P) (answers : Answers) :
    P (x.given answers).2 := by
  induction x with
  | done a => exact h
  | note e rest ih => exact ih h
  | ask q next ih => exact ih (answers q) (h (answers q))

lemma Always.run {x : Consulting α} (h : x.Always P) (rules : Rules) (cache : RuleCache) :
    P (x.run rules cache).1.2 := by
  induction x generalizing cache with
  | done a => exact h
  | note e rest ih => exact ih h cache
  | ask q next ih => exact ih _ (h _) _

end Consulting

/-! ## Steady applications -/

namespace Application

/-- A computation leaves every stack as it found it, whatever it is answered. -/
def Steady (x : Application α) : Prop :=
  ∀ stack, (x.outcome stack).Always fun r => r.2 = stack

lemma steady_pure (a : α) : Steady (pure a) := fun _ => rfl

lemma steady_throw (fault : Fault) : Steady (throw fault : Application α) := fun _ => rfl

lemma steady_ofResult (x : Consulting (Except Fault α)) : Steady (ofResult x) := by
  intro stack
  rw [outcome_ofResult]
  exact x.always_true.bind fun _ _ => Consulting.always_pure rfl

lemma steady_ofEvaluation (x : Evaluation α) : Steady (ofEvaluation x) := by
  intro stack
  rw [outcome_ofEvaluation]
  exact x.outcome.always_true.bind fun _ _ => Consulting.always_pure rfl

lemma Steady.bind {x : Application α} {f : α → Application β} (hx : Steady x)
    (hf : ∀ a, Steady (f a)) : Steady (x >>= f) := by
  intro stack
  rw [outcome_bind]
  refine (hx stack).bind fun r hr => ?_
  obtain ⟨result, left⟩ := r
  obtain rfl : left = stack := hr
  cases result with
  | error fault => exact Consulting.always_pure rfl
  | ok a => exact hf a left

lemma Steady.tryCatch {x : Application α} {handle : Fault → Application α} (hx : Steady x)
    (hhandle : ∀ fault, Steady (handle fault)) : Steady (tryCatch x handle) := by
  intro stack
  rw [outcome_tryCatch]
  refine (hx stack).bind fun r hr => ?_
  obtain ⟨result, left⟩ := r
  obtain rfl : left = stack := hr
  cases result with
  | error fault => exact hhandle fault left
  | ok a => exact Consulting.always_pure rfl

lemma Steady.entering {body : Application α} (h : Steady body) (id : String) :
    Steady (entering id body) := by
  intro stack
  by_cases hmem : id ∈ stack
  · rw [outcome_entering_of_mem hmem]
    exact Consulting.always_pure rfl
  · rw [outcome_entering_of_not_mem hmem]
    refine (h (stack ++ [id])).bind fun r hr => Consulting.always_pure ?_
    rw [hr, List.dropLast_concat]

lemma steady_forM {f : α → Application Unit} (h : ∀ a, Steady (f a)) (as : List α) :
    Steady (as.forM f) := by
  induction as with
  | nil => exact steady_pure ()
  | cons a rest ih => exact (h a).bind fun _ => ih

end Application

namespace Scene

open Application

variable (s : Scene) {apply : Modifier → Subject → Application Unit}

lemma steady_guarded (m : Modifier) (subject : Subject) {x : Application Unit} (h : Steady x) :
    Steady (s.guarded m subject x) := by
  refine h.tryCatch fun fault => ?_
  split
  · refine (steady_ofEvaluation _).bind fun _ => ?_
    split
    · exact steady_throw _
    · exact steady_pure _
  · exact steady_throw _

lemma steady_enter (h : ∀ m subject, Steady (apply m subject)) (m : Modifier)
    (parent : Option Subject) : Steady (s.enter apply m parent) :=
  ((steady_ofEvaluation _).bind fun subjects => steady_forM (h m) subjects).entering m.id

lemma steady_attach (h : ∀ m subject, Steady (apply m subject)) (m : Modifier)
    (subject : Subject) : Steady (s.attach apply m subject) := by
  refine (steady_ofEvaluation _).bind fun id => (steady_ofResult _).bind fun found => ?_
  cases found with
  | none => exact steady_ofEvaluation _
  | some attached => exact s.steady_enter h attached (some subject)

lemma steady_perform (h : ∀ m subject, Steady (apply m subject)) (m : Modifier)
    (subject : Subject) (effect : Effect) : Steady (s.perform apply m subject effect) := by
  cases effect with
  | yields effect => exact steady_ofEvaluation _
  | attach => exact s.steady_attach h m subject
  | inert => exact steady_pure ()

lemma steady_effect (h : ∀ m subject, Steady (apply m subject)) (m : Modifier)
    (subject : Subject) : Steady (s.effect apply m subject) := by
  unfold effect
  split
  · exact steady_ofEvaluation _
  · exact steady_ofEvaluation _
  next effect _ _ => exact s.steady_guarded m subject (s.steady_perform h m subject effect)

/-- `apply` leaves the stack as it was. -/
theorem steady_apply (fuel : Nat) (m : Modifier) (subject : Subject) :
    Steady (s.apply fuel m subject) := by
  -- induction on the bound; what an effect attaches is applied with a smaller one
  induction fuel generalizing m subject with
  | zero => exact steady_throw _
  | succ fuel ih =>
    unfold apply
    split
    · exact steady_pure ()
    · exact s.steady_effect ih m subject

lemma steady_applyToAll (fuel : Nat) (m : Modifier) : Steady (s.applyToAll fuel m) :=
  s.steady_enter (s.steady_apply fuel) m none

end Scene

/-! ## Records from a fixed stack -/

/-- A record with its fault under another name. -/
def Recorded.mapError {ε ε' : Type} (f : ε → ε') (x : Recorded ε α) : Recorded ε' α :=
  ⟨x.events, x.result.mapError f⟩

namespace Application

variable {answers : Answers} {stack : List String}

/-- The record of a computation from a stack. -/
def record (answers : Answers) (x : Application α) (stack : List String) : Recorded Fault α :=
  (x.given answers stack).1

/-- The outcome of a `Steady` computation is its `record` and the stack that it had. -/
lemma Steady.given_outcome {x : Application α} (h : Steady x) :
    (x.outcome stack).given answers
      = ((x.record answers stack).events, (x.record answers stack).result, stack) := by
  have hstack : ((x.outcome stack).given answers).2.2 = stack := (h stack).given answers
  rw [Prod.ext_iff, Prod.ext_iff]
  exact ⟨rfl, rfl, hstack⟩

lemma record_pure (a : α) : (pure a : Application α).record answers stack = ⟨[], .ok a⟩ := rfl

lemma record_throw (fault : Fault) :
    (throw fault : Application α).record answers stack = ⟨[], .error fault⟩ := rfl

lemma record_ofResult (x : Consulting (Except Fault α)) :
    (ofResult x).record answers stack = ⟨(x.given answers).1, (x.given answers).2⟩ := by
  simp only [record, Application.given, outcome_ofResult, Consulting.given_bind,
    Consulting.given_pure, List.append_nil]

lemma record_ofEvaluation (x : Evaluation α) :
    (ofEvaluation x).record answers stack = (x.given answers).mapError .evaluation := by
  simp only [record, Application.given, outcome_ofEvaluation, Consulting.given_bind,
    Consulting.given_pure, List.append_nil, Recorded.mapError, Evaluation.given]

lemma record_bind {x : Application α} (hx : Steady x) (f : α → Application β) :
    (x >>= f).record answers stack
      = x.record answers stack >>= fun a => (f a).record answers stack := by
  conv =>
    lhs
    rw [record, Application.given, outcome_bind, Consulting.given_bind, hx.given_outcome]
  cases hresult : (x.record answers stack).result with
  | error fault =>
    -- the rest is left out: the record ends with the events up to the fault
    rw [Recorded.bind_of_error hresult]
    simp only [Consulting.given_pure, List.append_nil]
  | ok a =>
    -- the rest goes on from the stack that the first part began with
    rw [Recorded.bind_of_ok hresult]
    rfl

lemma record_tryCatch {x : Application α} (hx : Steady x) (handle : Fault → Application α) :
    (tryCatch x handle).record answers stack =
      match (x.record answers stack).result with
      | .ok _ => x.record answers stack
      | .error fault =>
        ⟨(x.record answers stack).events ++ ((handle fault).record answers stack).events,
          ((handle fault).record answers stack).result⟩ := by
  conv =>
    lhs
    rw [record, Application.given, outcome_tryCatch, Consulting.given_bind, hx.given_outcome]
  cases hresult : (x.record answers stack).result with
  | error fault => rfl
  | ok a => simp only [Consulting.given_pure, List.append_nil, ← hresult]

lemma record_entering_of_mem {id : String} (h : id ∈ stack) (body : Application α) :
    (entering id body).record answers stack = ⟨[], .error (.modifierCycle (stack ++ [id]))⟩ := by
  simp only [record, Application.given, outcome_entering_of_mem h, Consulting.given_pure]

lemma record_entering_of_not_mem {id : String} (h : id ∉ stack) (body : Application α) :
    (entering id body).record answers stack = body.record answers (stack ++ [id]) := by
  simp only [record, Application.given, outcome_entering_of_not_mem h, Consulting.given_bind,
    Consulting.given_pure, List.append_nil]

lemma record_forM {f : α → Application Unit} (h : ∀ a, Steady (f a)) (as : List α) :
    (as.forM f).record answers stack = as.forM fun a => (f a).record answers stack := by
  induction as with
  | nil => rfl
  | cons a rest ih =>
    show (f a >>= fun _ => rest.forM f).record answers stack = _
    rw [record_bind (h a), ih]
    rfl

end Application

/-! ## What records of applications are made of -/

namespace Scene

open Application

variable (s : Scene) {apply : Modifier → Subject → Application Unit} {answers : Answers}
  {stack : List String}

/-- `enter` of an id that is not on the stack is `apply` on each subject, with the id on the
stack. -/
lemma record_enter_of_not_mem (h : ∀ m subject, Steady (apply m subject)) {m : Modifier}
    {parent : Option Subject} (hmem : m.id ∉ stack) :
    (s.enter apply m parent).record answers stack
      = ((m.subjects s parent).given answers).mapError .evaluation >>= fun subjects =>
          subjects.forM fun subject => (apply m subject).record answers (stack ++ [m.id]) := by
  have hbody : (ofEvaluation (m.subjects s parent) >>= fun subjects =>
        subjects.forM (apply m)).record answers (stack ++ [m.id])
      = (ofEvaluation (m.subjects s parent)).record answers (stack ++ [m.id]) >>= fun subjects =>
          (subjects.forM (apply m)).record answers (stack ++ [m.id]) :=
    record_bind (steady_ofEvaluation _) _
  rw [enter, record_entering_of_not_mem hmem]
  simp only [record_forM (h m), record_ofEvaluation] at hbody
  exact hbody

lemma record_enter_of_mem {m : Modifier} {parent : Option Subject} (hmem : m.id ∈ stack) :
    (s.enter apply m parent).record answers stack
      = ⟨[], .error (.modifierCycle (stack ++ [m.id]))⟩ :=
  record_entering_of_mem hmem _

end Scene

end PolicyForecast
