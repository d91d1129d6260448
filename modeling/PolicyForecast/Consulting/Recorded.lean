import PolicyForecast.Fault
import PolicyForecast.Yield.Delta

/-!
# Records

What a preview does to the outside is a sequence of events: contributions to yields and remarks on
rules that are malformed, not known or of no concern. A record has the events of a computation in
the order in which they happened, and its result or the fault that stopped it. What happened before
a fault stays recorded.

A computation never sees the events of those before it; the lemmas below say how sequencing joins
them.
-/

namespace PolicyForecast

/-- Something that a preview does. -/
inductive Event where
  /-- A contribution to yields. -/
  | addition (a : Addition)
  /-- A remark on a malformed rule. -/
  | error (text : String)
  /-- A remark on something that is not known. -/
  | missing (text : String)
  /-- A remark on an effect that has no influence on yields. -/
  | ignored (text : String)

namespace Event

/-- The contribution that an event is. -/
def addition? : Event → Option Addition
  | .addition a => some a
  | _ => none

/-- The text of a remark on a malformed rule. -/
def error? : Event → Option String
  | .error t => some t
  | _ => none

/-- The text of a remark on something not known. -/
def missing? : Event → Option String
  | .missing t => some t
  | _ => none

/-- The text of a remark on an effect of no concern. -/
def ignored? : Event → Option String
  | .ignored t => some t
  | _ => none

end Event

/-- A computation's events, and its result or the fault that stopped it. -/
structure Recorded (ε α : Type) where
  events : List Event
  result : Except ε α

namespace Recorded

variable {ε α β γ : Type}

/-- A record that goes on with the result of another one. -/
def bind (x : Recorded ε α) (f : α → Recorded ε β) : Recorded ε β :=
  match x.result with
  | .error fault => ⟨x.events, .error fault⟩
  | .ok a => ⟨x.events ++ (f a).events, (f a).result⟩

instance : Monad (Recorded ε) where
  pure a := ⟨[], .ok a⟩
  bind := bind

@[simp] theorem pure_eq (a : α) : (pure a : Recorded ε α) = ⟨[], .ok a⟩ := rfl

theorem bind_of_ok {x : Recorded ε α} {a : α} (h : x.result = .ok a) (f : α → Recorded ε β) :
    x >>= f = ⟨x.events ++ (f a).events, (f a).result⟩ := by
  show bind x f = _
  simp [bind, h]

theorem bind_of_error {x : Recorded ε α} {fault : ε} (h : x.result = .error fault)
    (f : α → Recorded ε β) : x >>= f = ⟨x.events, .error fault⟩ := by
  show bind x f = _
  simp [bind, h]

theorem map_id_eq (x : Recorded ε α) : id <$> x = x := by
  obtain ⟨es, r⟩ := x
  cases r <;> simp [Functor.map, bind]

theorem bind_pure_left (a : α) (f : α → Recorded ε β) : (pure a >>= f) = f a := by
  simp [Bind.bind, pure, bind]

theorem bind_bind_eq (x : Recorded ε α) (f : α → Recorded ε β) (g : β → Recorded ε γ) :
    x >>= f >>= g = x >>= fun a => f a >>= g := by
  obtain ⟨es, r⟩ := x
  cases r with
  | error fault => rfl
  | ok a => cases h : (f a).result <;> simp [Bind.bind, bind, h]

instance : LawfulMonad (Recorded ε) :=
  LawfulMonad.mk' (Recorded ε) map_id_eq bind_pure_left bind_bind_eq

/-- A sequence of steps that come to their ends has the events of all, one after the other. -/
theorem forM_of_ok {f : α → Recorded ε Unit} {as : List α}
    (h : ∀ a ∈ as, (f a).result = .ok ()) :
    as.forM f = ⟨as.flatMap fun a => (f a).events, .ok ()⟩ := by
  induction as with
  | nil => rfl
  | cons a rest ih =>
    rw [List.forall_mem_cons] at h
    have hcons : (a :: rest).forM f = f a >>= fun _ => rest.forM f := rfl
    rw [hcons, bind_of_ok h.1, ih h.2, List.flatMap_cons]

/-- In a sequence that comes to its end all steps do. -/
theorem ok_of_forM_ok {f : α → Recorded ε Unit} {as : List α}
    (h : (as.forM f).result = .ok ()) : ∀ a ∈ as, (f a).result = .ok () := by
  induction as with
  | nil => simp
  | cons a rest ih =>
    have hcons : (a :: rest).forM f = f a >>= fun _ => rest.forM f := rfl
    rw [hcons] at h
    cases hresult : (f a).result with
    | error fault =>
      rw [bind_of_error hresult] at h
      cases h
    | ok _ =>
      rw [bind_of_ok hresult] at h
      exact List.forall_mem_cons.2 ⟨hresult, ih h⟩

/-- A sequence that stops does so in one of its steps. -/
theorem exists_of_forM_error {f : α → Recorded ε Unit} {as : List α} {fault : ε}
    (h : (as.forM f).result = .error fault) : ∃ a ∈ as, (f a).result = .error fault := by
  induction as with
  | nil => cases h
  | cons a rest ih =>
    have hcons : (a :: rest).forM f = f a >>= fun _ => rest.forM f := rfl
    cases hresult : (f a).result with
    | error fault' =>
      rw [hcons, bind_of_error hresult] at h
      exact ⟨a, List.mem_cons_self, hresult.trans h⟩
    | ok _ =>
      rw [hcons, bind_of_ok hresult] at h
      obtain ⟨a', hmem, ha'⟩ := ih h
      exact ⟨a', List.mem_cons_of_mem a hmem, ha'⟩

end Recorded

end PolicyForecast
