import PolicyForecast.Consulting.Cache
import PolicyForecast.Preview.Subjects
import PolicyForecast.Preview.YieldEffects

/-!
# Applying modifiers

A modifier is applied to its subjects one by one. An effect either contributes to yields or attaches
another modifier, which is then resolved and applied in turn to its own subjects. Modifiers refer to
each other by id, so the modifiers that are being applied are kept on a stack: one that is met again
below itself is a cycle and stops the preview, while one that is met on several branches is applied
on each. A modifier leaves the stack when its application ends, also when it ends with a fault.

No stack is longer than the list of modifiers, which bounds the recursion.
-/

namespace PolicyForecast

/-- A computation that asks, notes events, may stop with a fault, and in any case leaves a stack of
modifiers, the outermost first. -/
def Application (α : Type) := ExceptT Fault (StateT (List String) Consulting) α

namespace Application

variable {α β : Type}

instance : Monad Application :=
  inferInstanceAs (Monad (ExceptT Fault (StateT (List String) Consulting)))

instance : LawfulMonad Application :=
  inferInstanceAs (LawfulMonad (ExceptT Fault (StateT (List String) Consulting)))

instance : MonadStateOf (List String) Application :=
  inferInstanceAs (MonadStateOf (List String) (ExceptT Fault (StateT (List String) Consulting)))

instance : MonadExceptOf Fault Application :=
  inferInstanceAs (MonadExceptOf Fault (ExceptT Fault (StateT (List String) Consulting)))

instance : MonadFinally Application :=
  inferInstanceAs (MonadFinally (ExceptT Fault (StateT (List String) Consulting)))

/-- The computation from a stack, with its fault or value as an outcome beside the stack that it
leaves. -/
def outcome (x : Application α) (stack : List String) :
    Consulting (Except Fault α × List String) :=
  x stack

/-- A computation that leaves the stack alone. -/
def ofEvaluation (x : Evaluation α) : Application α :=
  ExceptT.mk (StateT.lift ((·.mapError .evaluation) <$> x.outcome))

/-- A computation that leaves the stack alone and may stop with any fault. -/
def ofResult (x : Consulting (Except Fault α)) : Application α :=
  ExceptT.mk (StateT.lift x)

instance : MonadLift Evaluation Application := ⟨ofEvaluation⟩

/-- Carries out a computation with a modifier on top of the stack, where it must not be yet. -/
def entering (id : String) (body : Application α) : Application α := do
  let stack ← get
  if stack.contains id then throw (.modifierCycle (stack ++ [id]))
  set (stack ++ [id])
  try body finally modify List.dropLast

/-- The record of a computation from a stack, and the stack that it leaves, when its requests have
given answers. -/
def given (answers : Answers) (x : Application α) (stack : List String) :
    Recorded Fault α × List String :=
  let (events, result, stack) := (x.outcome stack).given answers
  (⟨events, result⟩, stack)

/-- Runs a computation of a preview over `rules` from a stack on a cache. -/
def run (rules : Rules) (x : Application α) (stack : List String) (cache : RuleCache) :
    (Recorded Fault α × List String) × RuleCache :=
  let ((events, result, stack), cache) := (x.outcome stack).run rules cache
  ((⟨events, result⟩, stack), cache)

/-! ## Outcomes -/

theorem outcome_throw (fault : Fault) (stack : List String) :
    (throw fault : Application α).outcome stack = pure (.error fault, stack) := rfl

theorem outcome_get (stack : List String) :
    (get : Application (List String)).outcome stack = pure (.ok stack, stack) := rfl

theorem outcome_set (stack new : List String) :
    (set new : Application PUnit).outcome stack = pure (.ok ⟨⟩, new) := rfl

theorem outcome_bind (x : Application α) (f : α → Application β) (stack : List String) :
    (x >>= f).outcome stack = x.outcome stack >>= fun
      | (.ok a, left) => (f a).outcome left
      | (.error fault, left) => pure (.error fault, left) := by
  show Consulting.bind (x.outcome stack) _ = Consulting.bind (x.outcome stack) _
  congr 1
  funext ⟨r, left⟩
  cases r <;> rfl

theorem outcome_tryCatch (x : Application α) (handle : Fault → Application α)
    (stack : List String) :
    (tryCatch x handle).outcome stack = x.outcome stack >>= fun
      | (.ok a, left) => pure (.ok a, left)
      | (.error fault, left) => (handle fault).outcome left := by
  show Consulting.bind (x.outcome stack) _ = Consulting.bind (x.outcome stack) _
  congr 1
  funext ⟨r, left⟩
  cases r <;> rfl

theorem outcome_finally (x : Application α) (change : List String → List String)
    (stack : List String) :
    (tryFinally x (modify change)).outcome stack
      = x.outcome stack >>= fun r => pure (r.1, change r.2) := by
  show x.outcome stack >>= _ >>= _ >>= _ >>= _ = _
  rw [bind_assoc, bind_assoc, bind_assoc]
  congr 1
  funext ⟨r, left⟩
  cases r <;> rfl

theorem outcome_ofResult (x : Consulting (Except Fault α)) (stack : List String) :
    (ofResult x).outcome stack = x >>= fun r => pure (r, stack) := rfl

theorem outcome_ofEvaluation (x : Evaluation α) (stack : List String) :
    (ofEvaluation x).outcome stack
      = x.outcome >>= fun r => pure (r.mapError .evaluation, stack) := by
  show (·.mapError Fault.evaluation) <$> x.outcome >>= (fun r => pure (r, stack)) = _
  rw [map_eq_pure_bind, bind_assoc]
  rfl

/-- A modifier that is on the stack is not entered again. -/
theorem outcome_entering_of_mem {id : String} {stack : List String} (h : id ∈ stack)
    (body : Application α) :
    (entering id body).outcome stack = pure (.error (.modifierCycle (stack ++ [id])), stack) := by
  have hc : stack.contains id = true := List.contains_iff_mem.2 h
  unfold entering
  simp only [outcome_bind, outcome_get, pure_bind, hc, if_true, outcome_throw]

/-- A modifier leaves the stack in any case. -/
theorem outcome_entering_of_not_mem {id : String} {stack : List String} (h : id ∉ stack)
    (body : Application α) :
    (entering id body).outcome stack
      = body.outcome (stack ++ [id]) >>= fun r => pure (r.1, r.2.dropLast) := by
  have hc : ¬ stack.contains id = true := fun hc => h (List.contains_iff_mem.1 hc)
  unfold entering
  simp only [outcome_bind, outcome_get, pure_bind, if_neg hc, outcome_set, outcome_finally]

end Application

namespace Scene

/-- The remark on a malformed rule. -/
def ruleRemark (m : Modifier) (subject : Subject) (fault : RuleFault) : Event :=
  .error s!"{Wording.name m.effect} on {subject.describe}: {fault.message}"

/-- The remark on a modifier to attach that the rules do not have. -/
def unattachedRemark (m : Modifier) (id : String) : Event :=
  .missing s!"Attached modifier {id} not found ({m.id})"

/-- The remark on an effect that is not known. -/
def unhandledRemark (m : Modifier) : Event :=
  .missing s!"Unhandled EffectType: {Wording.name m.effect} ({m.id})"

/-- The remark on an effect that has no influence on yields. -/
def ignoredRemark (m : Modifier) : Event :=
  .ignored s!"Ignored EffectType: {Wording.name m.effect} ({m.id})"

/-- An effect whose malformed rule is remarked on, and stops nothing unless rules are strict. -/
def guarded (s : Scene) (m : Modifier) (subject : Subject) (effect : Application Unit) :
    Application Unit :=
  tryCatch effect fun
    | .evaluation (.rule fault) => do
      Evaluation.note (ruleRemark m subject fault)
      if s.settings.strictArguments then throw (.evaluation (.rule fault))
    | fault => throw fault

/-- Goes through the subjects of a modifier, which is attached to `parent` if anything. -/
def enter (s : Scene) (apply : Modifier → Subject → Application Unit) (m : Modifier)
    (parent : Option Subject) : Application Unit :=
  Application.entering m.id do
    let subjects ← m.subjects s parent
    subjects.forM (apply m)

/-- Attaches the modifier that an argument names to a subject. -/
def attach (s : Scene) (apply : Modifier → Subject → Application Unit) (m : Modifier)
    (subject : Subject) : Application Unit := do
  let id ← (m.text "ModifierId" : Evaluation _)
  match ← Application.ofResult (.modifier id) with
  | none => Evaluation.note (unattachedRemark m id)
  | some attached => s.enter apply attached (some subject)

/-- Carries out an effect on a subject. Attached modifiers are applied by `apply`. -/
def perform (s : Scene) (apply : Modifier → Subject → Application Unit) (m : Modifier)
    (subject : Subject) : Effect → Application Unit
  | .yields effect => effect.run s m subject
  | .attach => s.attach apply m subject
  | .inert => pure ()

/-- What a modifier does to a subject, with a remark where it does nothing. -/
def effect (s : Scene) (apply : Modifier → Subject → Application Unit) (m : Modifier)
    (subject : Subject) : Application Unit :=
  match Effect.ofType? m.effect with
  | none => Evaluation.note (unhandledRemark m)
  | some .inert => Evaluation.note (ignoredRemark m)
  | some effect => s.guarded m subject (s.perform apply m subject effect)

/-- Applies a modifier to a subject. Nothing happens on an empty subject, nor by a modifier that
only acts at the moment when it is new. -/
def apply (s : Scene) : (fuel : Nat) → Modifier → Subject → Application Unit
  | 0, _, _ => throw .tooDeep
  | fuel + 1, m, subject =>
    if m.newOnly || subject.isEmpty then pure ()
    else s.effect (s.apply fuel) m subject

/-- Applies a previewed modifier to all its subjects. -/
def applyToAll (s : Scene) (fuel : Nat) (m : Modifier) : Application Unit :=
  s.enter (s.apply fuel) m none

end Scene

/-- A bound on the length of a stack of modifiers. -/
def Rules.depth (rules : Rules) : Nat :=
  rules.modifiers.length + 1

end PolicyForecast
