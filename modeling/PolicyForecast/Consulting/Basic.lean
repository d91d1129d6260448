import PolicyForecast.Consulting.Recorded
import PolicyForecast.Rules.Modifier
import PolicyForecast.Rules.Basic

/-!
# Computations that consult the rules

Requirements and effects are worked out by computations that ask the rules for what they need and
note events on the way. A computation is the tree of its requests: each continues with the answer.
It does not say how a request is answered. Under fixed answers it has a record (`given`), and a
cache can serve its requests one after the other and keep the answers (see `Consulting/Cache`).

A `Consulting` always comes to an end; an `Evaluation` may also stop with a fault.
-/

namespace PolicyForecast

/-- The look-ups whose answers are kept. -/
inductive MemoTable where
  | tagsOfType | typesWithTag | leaderTraits | civilizationTraits
deriving DecidableEq, Repr

/-- What a look-up that is kept finds in the rules. -/
def Rules.lookUp (rules : Rules) : MemoTable → Option String → List (Option String)
  | .tagsOfType => rules.tagsOfType
  | .typesWithTag => rules.typesWithTag
  | .leaderTraits => rules.traitsOfLeader
  | .civilizationTraits => rules.traitsOfCivilization

/-- What a computation asks for. The first four go to the rules behind the cache, the others to
the rules of the preview itself. -/
inductive Request where
  /-- A look-up that is kept. -/
  | lookUp (table : MemoTable) (key : Option String)
  /-- The record of a district type. -/
  | district (type : Option String)
  /-- The record of a constructible type. -/
  | constructible (type : Option String)
  /-- The domain of a unit type. -/
  | unitDomain (type : Option String)
  /-- The record of a unit type. -/
  | unit (type : Option String)
  /-- The adjacency of an id. -/
  | adjacency (id : String)
  /-- The constructible types that take part in an adjacency. -/
  | adjacencyMembers (id : String)
  /-- The warehouse yield of an id. -/
  | warehouse (id : String)
  /-- What a constructible type costs. -/
  | maintenances (type : Option String)
  /-- The modifier of an id with all that belongs to it. -/
  | modifier (id : String)

/-- The form in which a request is answered. -/
def Request.Answer : Request → Type
  | .lookUp .. => List (Option String)
  | .district _ => Option DistrictRecord
  | .constructible _ => Option ConstructibleRecord
  | .unitDomain _ => Option String
  | .unit _ => Option UnitRecord
  | .adjacency _ => Option AdjacencyRule
  | .adjacencyMembers _ => List (Option String)
  | .warehouse _ => Option WarehouseRule
  | .maintenances _ => List MaintenanceRecord
  | .modifier _ => Except Fault (Option Modifier)

/-- An answer to each request. -/
def Answers := (q : Request) → q.Answer

/-- The items of a list that pass a test, in order. -/
def selectM {m : Type → Type} [Monad m] {α : Type} (test : α → m Bool) : List α → m (List α)
  | [] => return []
  | a :: rest => do
    let stays ← test a
    let others ← selectM test rest
    return if stays then a :: others else others

/-- A computation that asks for what it needs and notes events. -/
inductive Consulting (α : Type) where
  /-- The end, with a value. -/
  | done (a : α)
  /-- An event, and what comes after it. -/
  | note (e : Event) (rest : Consulting α)
  /-- A request, and what comes after each answer. -/
  | ask (q : Request) (next : q.Answer → Consulting α)

namespace Consulting

variable {α β γ : Type}

/-- A computation that goes on with the value of another one. -/
def bind : Consulting α → (α → Consulting β) → Consulting β
  | .done a, f => f a
  | .note e rest, f => .note e (rest.bind f)
  | .ask q next, f => .ask q fun answer => (next answer).bind f

instance : Monad Consulting where
  pure := .done
  bind := bind

/-- The answer to a request. -/
def request (q : Request) : Consulting q.Answer :=
  .ask q .done

/-- A look-up that is kept. -/
def lookUp (table : MemoTable) (key : Option String) : Consulting (List (Option String)) :=
  request (.lookUp table key)

/-- The modifier of an id, which may not be possible to resolve. -/
def modifier (id : String) : Consulting (Except Fault (Option Modifier)) :=
  request (.modifier id)

/-- Whether a type carries a tag. -/
def hasTag (type tag : Option String) : Consulting Bool := do
  return (← lookUp .tagsOfType type).contains tag

/-- The traits in a table; a missing or empty name has none and is not looked up. -/
def traits (table : MemoTable) (bearer : Option String) : Consulting (List (Option String)) :=
  match bearer.filter (· ≠ "") with
  | none => return []
  | some _ => lookUp table bearer

theorem map_id_eq (x : Consulting α) : id <$> x = x := by
  show bind x (fun a => .done a) = x
  induction x with
  | done a => rfl
  | note e rest ih => simp only [bind, ih]
  | ask q next ih => simp only [bind, ih]

theorem bind_bind_eq (x : Consulting α) (f : α → Consulting β) (g : β → Consulting γ) :
    x >>= f >>= g = x >>= fun a => f a >>= g := by
  show bind (bind x f) g = bind x fun a => bind (f a) g
  induction x with
  | done a => rfl
  | note e rest ih => simp only [bind, ih]
  | ask q next ih => simp only [bind, ih]

instance : LawfulMonad Consulting :=
  LawfulMonad.mk' Consulting map_id_eq (fun _ _ => rfl) bind_bind_eq

/-- Nothing has to be undone at an end that is always reached. -/
instance : MonadFinally Consulting where
  tryFinally' x f := do
    let a ← x
    let b ← f (some a)
    return (a, b)

/-- The events and the value of a computation whose requests have given answers. -/
def given (answers : Answers) : Consulting α → List Event × α
  | .done a => ([], a)
  | .note e rest => (e :: (rest.given answers).1, (rest.given answers).2)
  | .ask q next => (next (answers q)).given answers

@[simp] theorem given_pure (answers : Answers) (a : α) :
    (pure a : Consulting α).given answers = ([], a) := rfl

@[simp] theorem given_request (answers : Answers) (q : Request) :
    (request q).given answers = ([], answers q) := rfl

@[simp] theorem given_modifier (answers : Answers) (id : String) :
    (modifier id).given answers = ([], answers (.modifier id)) := rfl

theorem given_bind (answers : Answers) (x : Consulting α) (f : α → Consulting β) :
    (x >>= f).given answers
      = ((x.given answers).1 ++ ((f (x.given answers).2).given answers).1,
        ((f (x.given answers).2).given answers).2) := by
  show (bind x f).given answers = _
  induction x with
  | done a => rfl
  | note e rest ih => simp only [bind, given, ih, List.cons_append]
  | ask q next ih => simp only [bind, given, ih]

end Consulting

/-- A computation that asks, notes events and may stop with a fault. -/
def Evaluation (α : Type) := ExceptT EvaluationFault Consulting α

namespace Evaluation

variable {α β : Type}

instance : Monad Evaluation := inferInstanceAs (Monad (ExceptT EvaluationFault Consulting))

instance : LawfulMonad Evaluation :=
  inferInstanceAs (LawfulMonad (ExceptT EvaluationFault Consulting))

/-- The computation with its fault or value as an outcome. -/
def outcome (x : Evaluation α) : Consulting (Except EvaluationFault α) := x

/-- A computation that always comes to an end. -/
def ofConsulting (x : Consulting α) : Evaluation α :=
  ExceptT.lift x

/-- A computation that asks and notes nothing. -/
def ofExcept (result : Except EvaluationFault α) : Evaluation α :=
  ExceptT.mk (pure result)

/-- A computation that stops where a rule is malformed. -/
def ofRule (result : Except RuleFault α) : Evaluation α :=
  ofExcept (result.mapError .rule)

/-- A computation with numbers, which stops where a number has no counterpart. -/
def ofNumber (result : Except NumberFault α) : Evaluation α :=
  ofExcept (result.mapError .number)

instance : MonadLift Consulting Evaluation := ⟨ofConsulting⟩
instance : MonadLift (Except EvaluationFault) Evaluation := ⟨ofExcept⟩
instance : MonadLift (Except RuleFault) Evaluation := ⟨ofRule⟩
instance : MonadLift (Except NumberFault) Evaluation := ⟨ofNumber⟩

/-- A single event. -/
def note (e : Event) : Evaluation Unit :=
  ofConsulting (.note e (.done ()))

/-- A contribution to yields. -/
def contribute (channel : Channel) (types : Option String) (value : Float) : Evaluation Unit :=
  note (.addition ⟨channel, types, value⟩)

/-- A stop. -/
def fail (fault : EvaluationFault) : Evaluation α :=
  ofExcept (.error fault)

/-- The record of a computation whose requests have given answers. -/
def given (answers : Answers) (x : Evaluation α) : Recorded EvaluationFault α where
  events := (x.outcome.given answers).1
  result := (x.outcome.given answers).2

@[simp] theorem given_pure (answers : Answers) (a : α) :
    (pure a : Evaluation α).given answers = pure a := rfl

@[simp] theorem given_note (answers : Answers) (e : Event) :
    (note e).given answers = ⟨[e], .ok ()⟩ := rfl

theorem outcome_bind (x : Evaluation α) (f : α → Evaluation β) :
    (x >>= f).outcome = x.outcome >>= fun
      | .ok a => (f a).outcome
      | .error fault => pure (.error fault) := by
  show Consulting.bind x.outcome _ = Consulting.bind x.outcome _
  congr 1
  funext r
  cases r <;> rfl

/-- Records of sequences are sequences of records. -/
theorem given_bind (answers : Answers) (x : Evaluation α) (f : α → Evaluation β) :
    (x >>= f).given answers = x.given answers >>= fun a => (f a).given answers := by
  unfold given
  simp only [outcome_bind, Consulting.given_bind]
  cases hr : (x.outcome.given answers).2 with
  | error fault =>
    rw [Recorded.bind_of_error rfl]
    simp
  | ok a =>
    rw [Recorded.bind_of_ok rfl]

end Evaluation

end PolicyForecast
