import Mathlib.Data.List.Chain
import PolicyForecast.Proofs.Faithful
import PolicyForecast.Proofs.Steady

/-!
# Attachments

A modifier that is entered attaches another one to each of its subjects that is not empty, so that
modifiers and the subjects to which they are attached form a graph (`Attaches`). A subject
requirement that fails, or a modifier that only acts when it is new, leaves out attachments that the
rules alone would allow. Where a way of attachments comes to a modifier that is on it already, or on
the stack, this modifier is met again (`MeetsAgain`).

What the application of modifiers does is also said here without a stack and without a bound:
`Applies` lists the applications one by one, each attached modifier once for each subject that it is
attached to.
-/

namespace PolicyForecast

/-- A modifier names another one to attach: it has the effect that attaches, and its argument is the
id of the other one. -/
def Modifier.Names (rules : Rules) (m attached : Modifier) : Prop :=
  m.effect = some "EFFECT_ATTACH_MODIFIERS" ∧
    ∃ id, m.arguments.filled? "ModifierId" = some id ∧
      rules.resolved (some id) = .ok (some attached)

lemma Modifier.Names.unique {rules : Rules} {m attached attached' : Modifier}
    (h : m.Names rules attached) (h' : m.Names rules attached') : attached = attached' := by
  obtain ⟨-, id, hid, hresolved⟩ := h
  obtain ⟨-, id', hid', hresolved'⟩ := h'
  obtain rfl : id = id' := Option.some.inj (hid.symm.trans hid')
  exact Option.some.inj (Except.ok.inj (hresolved.symm.trans hresolved'))

lemma Modifier.Names.mem_modifierIds {rules : Rules} {m attached : Modifier}
    (h : m.Names rules attached) : attached.id ∈ rules.modifierIds := by
  obtain ⟨-, id, -, hresolved⟩ := h
  rcases rules.resolved_cases (some id) with ⟨found, hfound, hknown⟩ | ⟨chain, hchain⟩
  · rw [hfound] at hresolved
    exact (hknown attached (Except.ok.inj hresolved)).2
  · rw [hchain] at hresolved
    cases hresolved

/-- The subjects of a modifier, which is attached to `parent` if anything, can be worked out. -/
def Modifier.HasSubjects (rules : Rules) (s : Scene) (m : Modifier) (parent : Option Subject)
    (subjects : List Subject) : Prop :=
  ((m.subjects s parent).given rules.answer).result = .ok subjects

lemma Modifier.HasSubjects.unique {rules : Rules} {s : Scene} {m : Modifier}
    {parent : Option Subject} {subjects subjects' : List Subject}
    (h : m.HasSubjects rules s parent subjects) (h' : m.HasSubjects rules s parent subjects') :
    subjects = subjects' :=
  Except.ok.inj (h.symm.trans h')

/-- A modifier on the way, and the subject that it is attached to if any. -/
structure Entry where
  modifier : Modifier
  parent : Option Subject

namespace Entry

variable {rules : Rules} {s : Scene} {stack : List String} {entry next : Entry}

/-- A modifier is attached to a subject of another one: the other one is not only there when it is
new, names the modifier, and has the subject, which is not empty. -/
structure Attaches (rules : Rules) (s : Scene) (entry next : Entry) : Prop where
  lasting : entry.modifier.newOnly = false
  names : entry.modifier.Names rules next.modifier
  subject : ∃ subjects subject, entry.modifier.HasSubjects rules s entry.parent subjects ∧
    subject ∈ subjects ∧ subject.isEmpty = false ∧ next.parent = some subject

/-- Along some way of attachments a modifier is met that is on the stack or the way already. -/
inductive MeetsAgain (rules : Rules) (s : Scene) : List String → Entry → Prop
  | here {stack : List String} {entry : Entry} :
      entry.modifier.id ∈ stack → MeetsAgain rules s stack entry
  | there {stack : List String} {entry next : Entry} : entry.Attaches rules s next →
      MeetsAgain rules s (stack ++ [entry.modifier.id]) next → MeetsAgain rules s stack entry

/-- An entry `MeetsAgain` iff a chain of `Attaches` from it leads to an id of the stack or of the
chain. -/
lemma meetsAgain_iff : entry.MeetsAgain rules s stack ↔
    ∃ way last, (way ++ [last]).head? = some entry ∧
      (way ++ [last]).IsChain (Attaches rules s) ∧
      last.modifier.id ∈ stack ++ way.map (·.modifier.id) := by
  constructor
  · intro h
    -- each attachment goes before the way that comes after it
    induction h with
    | here hmem => exact ⟨[], _, rfl, List.isChain_singleton _, by simpa using hmem⟩
    | @there stack entry next hstep _ ih =>
      obtain ⟨way, last, hhead, hchain, hmem⟩ := ih
      refine ⟨entry :: way, last, rfl, List.isChain_cons.2 ⟨?_, hchain⟩, ?_⟩
      · intro first hfirst
        obtain rfl : next = first := Option.some.inj (hhead.symm.trans hfirst)
        exact hstep
      · rwa [List.append_assoc, List.singleton_append] at hmem
  · rintro ⟨way, last, hhead, hchain, hmem⟩
    induction way generalizing stack entry with
    | nil =>
      obtain rfl : last = entry := Option.some.inj hhead
      exact .here (by simpa using hmem)
    | cons first way ih =>
      obtain rfl : first = entry := Option.some.inj hhead
      rw [List.cons_append, List.isChain_cons] at hchain
      obtain ⟨hfirst, hrest⟩ := hchain
      obtain ⟨next, hnext⟩ : ∃ next, (way ++ [last]).head? = some next := by
        cases way <;> exact ⟨_, rfl⟩
      refine .there (hfirst next hnext) (ih hnext hrest ?_)
      rwa [List.append_assoc, List.singleton_append]

end Entry

namespace Rules

/-- From one of the previewed modifiers a way of attachments leads to a modifier with the id of an
earlier one on the way. -/
def AttachmentCycle (rules : Rules) (s : Scene) (modifiers : List Modifier) : Prop :=
  ∃ m ∈ modifiers, ∃ way last, way.head? = some ⟨m, none⟩ ∧
    (way ++ [last]).IsChain (Entry.Attaches rules s) ∧
    last.modifier.id ∈ way.map (·.modifier.id)

lemma attachmentCycle_iff {rules : Rules} {s : Scene} {modifiers : List Modifier} :
    rules.AttachmentCycle s modifiers ↔
      ∃ m ∈ modifiers, Entry.MeetsAgain rules s [] ⟨m, none⟩ := by
  refine exists_congr fun m => and_congr_right fun _ => ?_
  rw [Entry.meetsAgain_iff]
  refine exists_congr fun way => exists_congr fun last => ?_
  rw [List.nil_append]
  cases way with
  | nil => simp
  | cons first way => rfl

end Rules

/-! ## Applications one by one -/

/-- What an effect does on its own, with nothing done by what it attaches. -/
def Scene.own (s : Scene) (rules : Rules) (m : Modifier) (subject : Subject) :
    Recorded Fault Unit :=
  (s.effect (fun _ _ => pure ()) m subject).record rules.answer []

/-- The events of modifiers that are applied to subjects one after the other. A modifier that is
attached to a subject is applied there, once to each of its own subjects. -/
inductive Applies (rules : Rules) (s : Scene) : List (Modifier × Subject) → List Event → Prop
  /-- No application. -/
  | nil : Applies rules s [] []
  /-- An application that does nothing. -/
  | idle {m : Modifier} {subject : Subject} {rest : List (Modifier × Subject)}
      {events : List Event} :
      (m.newOnly || subject.isEmpty) = true → Applies rules s rest events →
      Applies rules s ((m, subject) :: rest) events
  /-- An application by which no modifier comes to its subjects. -/
  | single {m : Modifier} {subject : Subject} {rest : List (Modifier × Subject)}
      {events : List Event} :
      (m.newOnly || subject.isEmpty) = false →
      (∀ attached subjects, m.Names rules attached →
        ¬ attached.HasSubjects rules s (some subject) subjects) →
      Applies rules s rest events →
      Applies rules s ((m, subject) :: rest) ((s.own rules m subject).events ++ events)
  /-- An application that attaches a modifier to the subject. -/
  | attached {m attached : Modifier} {subject : Subject} {subjects : List Subject}
      {rest : List (Modifier × Subject)} {inner events : List Event} :
      (m.newOnly || subject.isEmpty) = false →
      m.Names rules attached → attached.HasSubjects rules s (some subject) subjects →
      Applies rules s (subjects.map (attached, ·)) inner →
      Applies rules s rest events →
      Applies rules s ((m, subject) :: rest)
        ((s.own rules m subject).events ++ inner ++ events)

/-- The events of a previewed modifier that is applied to its subjects. -/
def Modifier.AppliesToAll (rules : Rules) (s : Scene) (m : Modifier) (events : List Event) :
    Prop :=
  ∃ subjects inner, m.HasSubjects rules s none subjects ∧
    Applies rules s (subjects.map (m, ·)) inner ∧
    events = ((m.subjects s none).given rules.answer).events ++ inner

end PolicyForecast
