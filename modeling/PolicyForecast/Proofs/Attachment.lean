import PolicyForecast.Proofs.ApplicationCases

/-!
# Cycles of attachments

The application of modifiers is followed down the graph of attachments. What a modifier does when it
is entered, and what it does to one subject, is known (`enter_cases`, `apply_cases`); from that each
statement about all applications is an induction on the bound or on a way of attachments.

Main statement: the application of modifiers never comes to its bound, leaves the stack as it was,
stops with a cycle exactly where a way of attachments meets a modifier again, and otherwise applies
each attached modifier once for each subject that it is attached to (`attachment_exact`).
-/

namespace PolicyForecast

variable {rules : Rules} {s : Scene} {stack : List String} {m attached : Modifier}
  {subject : Subject} {parent : Option Subject} {fuel : Nat}
  {apply : Modifier → Subject → Application Unit}

namespace Scene

open Application

/-! ## Faults -/

/-- A fault of `remarked` is one of what was remarked on. -/
lemma result_of_remarked_error {r : Recorded Fault Unit} {fault : Fault}
    (h : (s.remarked m subject r).result = .error fault) : r.result = .error fault := by
  unfold remarked at h
  split at h
  next rule hrule =>
    split at h
    · exact hrule.trans h
    · cases h
  next => exact h

/-- Other faults of `enter` than those of evaluation are a `modifierCycle` or come of `apply` on a
subject. -/
lemma enter_error (hsteady : ∀ m subject, Steady (apply m subject)) {fault : Fault}
    (h : ((s.enter apply m parent).record rules.answer stack).result = .error fault)
    (hother : ∀ evaluation, fault ≠ .evaluation evaluation) :
    (m.id ∈ stack ∧ fault = .modifierCycle (stack ++ [m.id])) ∨
    (m.id ∉ stack ∧ ∃ subjects subject, m.HasSubjects rules s parent subjects ∧
      subject ∈ subjects ∧
      ((apply m subject).record rules.answer (stack ++ [m.id])).result = .error fault) := by
  rcases enter_cases rules s m parent stack hsteady with
    ⟨hmem, hrecord⟩ | ⟨-, evaluation, -, hrecord⟩ | ⟨hmem, subjects, hsubjects, hrecord⟩
  · rw [hrecord] at h
    exact .inl ⟨hmem, (Except.error.inj h).symm⟩
  · -- the fault of the subjects comes of an evaluation
    rw [hrecord] at h
    exact absurd (Except.error.inj h).symm (hother evaluation)
  · rw [hrecord] at h
    obtain ⟨subject, hsubject, hfault⟩ := Recorded.exists_of_forM_error h
    exact .inr ⟨hmem, subjects, subject, hsubjects, hsubject, hfault⟩

/-- A fault of `apply` that is not `Plain` comes of `enter` on the modifier that it `Names`. -/
lemma apply_error {fault : Fault}
    (h : ((s.apply (fuel + 1) m subject).record rules.answer stack).result = .error fault)
    (hother : ¬ s.Plain (.error fault)) :
    (m.newOnly || subject.isEmpty) = false ∧ ∃ attached, m.Names rules attached ∧
      ((s.enter (s.apply fuel) attached (some subject)).record rules.answer stack).result
        = .error fault := by
  rcases apply_cases rules s fuel m subject stack with
    ⟨-, hrecord⟩ | ⟨-, -, hrecord, hplain⟩ | ⟨hbusy, attached, hnames, hrecord⟩
  · rw [hrecord] at h
    cases h
  · rw [← hrecord, h] at hplain
    exact absurd hplain hother
  · rw [hrecord] at h
    exact ⟨hbusy, attached, hnames, result_of_remarked_error h⟩

/-- Unless rules are strict, `apply` ends in no rule fault. -/
lemma apply_not_rule (hlenient : s.settings.strictArguments = false) (fault : RuleFault) :
    ((s.apply fuel m subject).record rules.answer stack).result
      ≠ .error (.evaluation (.rule fault)) := by
  intro h
  cases fuel with
  | zero => cases h
  | succ fuel =>
    rcases apply_cases rules s fuel m subject stack with
      ⟨-, hrecord⟩ | ⟨-, -, hrecord, hplain⟩ | ⟨-, attached, -, hrecord⟩
    · rw [hrecord] at h
      cases h
    · rw [← hrecord, h] at hplain
      cases hplain with
      | evaluation hstrict =>
        rw [hstrict fault rfl] at hlenient
        cases hlenient
    · rw [hrecord] at h
      unfold remarked at h
      split at h
      next =>
        rw [hlenient] at h
        cases h
      next hrule => exact hrule fault h

/-! ## The bound -/

/-- A stack without repetitions, of modifiers that the rules have, and a bound that suffices for all
others. -/
structure Bounded (rules : Rules) (fuel : Nat) (stack : List String) : Prop where
  nodup : stack.Nodup
  known : ∀ id ∈ stack, id ∈ rules.modifierIds
  fuel_le : rules.modifiers.length ≤ fuel + stack.length

lemma bounded_nil (rules : Rules) : Bounded rules rules.depth [] where
  nodup := List.nodup_nil
  known := by simp
  fuel_le := Nat.le_succ _

/-- One more id on the stack takes one from the fuel. -/
lemma Bounded.push {id : String} (h : Bounded rules fuel stack) (hnew : id ∉ stack)
    (hknown : id ∈ rules.modifierIds) :
    ∃ rest, fuel = rest + 1 ∧ Bounded rules rest (stack ++ [id]) := by
  have hnodup : (stack ++ [id]).Nodup := by
    rw [← List.concat_eq_append]
    exact List.Nodup.concat hnew h.nodup
  have hsubset : ∀ a ∈ stack ++ [id], a ∈ rules.modifierIds := by
    rw [List.forall_mem_append, List.forall_mem_singleton]
    exact ⟨h.known, hknown⟩
  have hlength : (stack ++ [id]).length ≤ rules.modifierIds.length :=
    (List.subperm_of_subset hnodup hsubset).length_le
  have hmodifiers : rules.modifierIds.length ≤ rules.modifiers.length :=
    List.length_filterMap_le _ _
  have hfuel := h.fuel_le
  simp only [List.length_append, List.length_singleton] at hlength
  refine ⟨fuel - 1, by omega, hnodup, hsubset, ?_⟩
  simp only [List.length_append, List.length_singleton]
  omega

/-- Within the bound, `enter` does not end in `tooDeep`. -/
lemma enter_ne_tooDeep (h : Bounded rules fuel stack) (hknown : m.id ∈ rules.modifierIds) :
    ((s.enter (s.apply fuel) m parent).record rules.answer stack).result ≠ .error .tooDeep := by
  -- induction on the bound: what is entered below has a longer stack and a smaller bound
  induction fuel generalizing stack m parent with
  | zero =>
    intro hdeep
    rcases enter_error (s.steady_apply 0) hdeep nofun with ⟨-, hfault⟩ | ⟨hnew, -⟩
    · cases hfault
    · obtain ⟨rest, hrest, -⟩ := h.push hnew hknown
      cases hrest
  | succ fuel ih =>
    intro hdeep
    rcases enter_error (s.steady_apply (fuel + 1)) hdeep nofun with
      ⟨-, hfault⟩ | ⟨hnew, subjects, subject, -, -, hsubject⟩
    · cases hfault
    · obtain ⟨rest, hrest, hbounded⟩ := h.push hnew hknown
      obtain rfl : fuel = rest := Nat.succ.inj hrest
      obtain ⟨-, attached, hnames, hattached⟩ := apply_error hsubject nofun
      exact ih hbounded hnames.mem_modifierIds hattached

/-! ## Cycles -/

/-- `enter` ends in a `modifierCycle` only where the entry `MeetsAgain`. -/
lemma meetsAgain_of_cycle {chain : List String}
    (h : ((s.enter (s.apply fuel) m parent).record rules.answer stack).result
      = .error (.modifierCycle chain)) : Entry.MeetsAgain rules s stack ⟨m, parent⟩ := by
  -- induction on the bound: a cycle below is a way from the attached modifier, which one attachment
  -- leads to
  induction fuel generalizing stack m parent with
  | zero =>
    rcases enter_error (s.steady_apply 0) h nofun with
      ⟨hmem, -⟩ | ⟨-, subjects, subject, -, -, hsubject⟩
    · exact .here hmem
    · cases hsubject
  | succ fuel ih =>
    rcases enter_error (s.steady_apply (fuel + 1)) h nofun with
      ⟨hmem, -⟩ | ⟨-, subjects, subject, hsubjects, hmem, hsubject⟩
    · exact .here hmem
    · obtain ⟨hbusy, attached, hnames, hattached⟩ := apply_error hsubject nofun
      obtain ⟨hlasting, hsubstantial⟩ := Bool.or_eq_false_iff.1 hbusy
      have hagain := ih hattached
      refine .there ?_ hagain
      exact ⟨hlasting, hnames, subjects, subject, hsubjects, hmem, hsubstantial, rfl⟩

/-- An outcome after which the application of modifiers goes on, if need be with a remark. -/
def Settles (s : Scene) (outcome : Except Fault Unit) : Prop :=
  outcome = .ok () ∨
    s.settings.strictArguments = false ∧ ∃ rule, outcome = .error (.evaluation (.rule rule))

lemma remarked_of_ok {r : Recorded Fault Unit} (h : r.result = .ok ()) :
    s.remarked m subject r = r := by
  unfold remarked
  rw [h]

lemma settles_of_remarked_ok {r : Recorded Fault Unit}
    (h : (s.remarked m subject r).result = .ok ()) : s.Settles r.result := by
  unfold remarked at h
  split at h
  next rule hrule =>
    cases hstrict : s.settings.strictArguments with
    | true =>
      rw [hstrict] at h
      cases h
    | false => exact .inr ⟨hstrict, rule, hrule⟩
  next => exact .inl h

/-- If `enter` `Settles`, the id was not on the stack and `apply` ends well on each subject. -/
lemma applied_of_settles
    (h : s.Settles ((s.enter (s.apply fuel) m parent).record rules.answer stack).result) :
    m.id ∉ stack ∧ ∀ subjects, m.HasSubjects rules s parent subjects → ∀ subject ∈ subjects,
      ((s.apply fuel m subject).record rules.answer (stack ++ [m.id])).result = .ok () := by
  rcases enter_cases rules s m parent stack (s.steady_apply fuel) with
    ⟨-, hrecord⟩ | ⟨hmem, fault, hfault, -⟩ | ⟨hmem, subjects, hsubjects, hrecord⟩
  · rw [hrecord] at h
    rcases h with h | ⟨-, rule, h⟩ <;> cases h
  · refine ⟨hmem, fun subjects hsubjects => ?_⟩
    rw [Modifier.HasSubjects, hfault] at hsubjects
    cases hsubjects
  · refine ⟨hmem, fun subjects' hsubjects' => ?_⟩
    obtain rfl := hsubjects.unique hsubjects'
    rw [hrecord] at h
    rcases h with h | ⟨hlenient, rule, h⟩
    · exact Recorded.ok_of_forM_ok h
    · obtain ⟨subject, -, hsubject⟩ := Recorded.exists_of_forM_error h
      exact absurd hsubject (apply_not_rule hlenient rule)

/-- If `apply` ends well, `enter` on the modifier that it `Names` `Settles`. -/
lemma settles_of_apply_ok
    (h : ((s.apply fuel m subject).record rules.answer stack).result = .ok ())
    (hbusy : (m.newOnly || subject.isEmpty) = false) (hnames : m.Names rules attached) :
    ∃ rest, s.Settles
      ((s.enter (s.apply rest) attached (some subject)).record rules.answer stack).result := by
  cases fuel with
  | zero => cases h
  | succ rest =>
    refine ⟨rest, ?_⟩
    rcases apply_cases rules s rest m subject stack with
      ⟨hidle, -⟩ | ⟨-, hnone, -⟩ | ⟨-, attached', hnames', hrecord⟩
    · rw [hbusy] at hidle
      cases hidle
    · exact absurd hnames (hnone attached)
    · obtain rfl := hnames.unique hnames'
      rw [hrecord] at h
      exact settles_of_remarked_ok h

/-- An entry that `MeetsAgain` does not settle. -/
lemma not_meetsAgain_of_settles {entry : Entry} (hagain : entry.MeetsAgain rules s stack)
    (h : s.Settles ((s.enter (s.apply fuel) entry.modifier entry.parent).record rules.answer
      stack).result) : False := by
  -- induction on the way to the modifier that would be met again, by which applications settle
  induction hagain generalizing fuel with
  | here hmem => exact (applied_of_settles h).1 hmem
  | @there stack entry next hstep _ ih =>
    obtain ⟨subjects, subject, hsubjects, hmem, hsubstantial, hparent⟩ := hstep.subject
    have hsubject := (applied_of_settles h).2 subjects hsubjects subject hmem
    obtain ⟨rest, hrest⟩ := settles_of_apply_ok hsubject
      (Bool.or_eq_false_iff.2 ⟨hstep.lasting, hsubstantial⟩) hstep.names
    exact ih (by rwa [hparent])

/-! ## Applications without a fault -/

/-- If `enter` ends well, its events are those of `subjects` and then those of `apply` on each of
them. -/
lemma enter_of_ok (hsteady : ∀ m subject, Steady (apply m subject))
    (h : ((s.enter apply m parent).record rules.answer stack).result = .ok ()) :
    ∃ subjects, m.HasSubjects rules s parent subjects ∧
      (∀ subject ∈ subjects,
        ((apply m subject).record rules.answer (stack ++ [m.id])).result = .ok ()) ∧
      ((s.enter apply m parent).record rules.answer stack).events
        = ((m.subjects s parent).given rules.answer).events
          ++ subjects.flatMap fun subject =>
              ((apply m subject).record rules.answer (stack ++ [m.id])).events := by
  rcases enter_cases rules s m parent stack hsteady with
    ⟨-, hrecord⟩ | ⟨-, fault, -, hrecord⟩ | ⟨-, subjects, hsubjects, hrecord⟩
  · rw [hrecord] at h
    cases h
  · rw [hrecord] at h
    cases h
  · rw [hrecord] at h ⊢
    have happlied := Recorded.ok_of_forM_ok h
    refine ⟨subjects, hsubjects, happlied, ?_⟩
    rw [Recorded.forM_of_ok happlied]

/-- `own` of a modifier that `Names` another is `enter` on that one with an `apply` that does
nothing. -/
lemma own_of_names (hnames : m.Names rules attached) :
    s.own rules m subject = s.remarked m subject
      ((s.enter (fun _ _ => pure ()) attached (some subject)).record rules.answer []) :=
  record_effect_of_names hnames fun _ _ => steady_pure ()

/-- The events of `own` are then those of the `subjects` of the attached modifier. -/
lemma own_of_hasSubjects {subjects : List Subject} (hnames : m.Names rules attached)
    (hsubjects : attached.HasSubjects rules s (some subject) subjects) :
    (s.own rules m subject).events
      = ((attached.subjects s (some subject)).given rules.answer).events := by
  have hcases := enter_cases rules s attached (some subject) []
    fun (_ : Modifier) (_ : Subject) => steady_pure ()
  rcases hcases with
    ⟨hmem, -⟩ | ⟨-, fault, hfault, -⟩ | ⟨-, subjects', -, hrecord⟩
  · cases hmem
  · rw [Modifier.HasSubjects, hfault] at hsubjects
    cases hsubjects
  · have hquiet : (subjects'.forM fun _ => (⟨[], .ok ()⟩ : Recorded Fault Unit))
        = ⟨subjects'.flatMap fun _ => [], .ok ()⟩ := Recorded.forM_of_ok fun _ _ => rfl
    rw [own_of_names hnames, hrecord]
    simp [remarked, record_pure, hquiet]

/-- A fault of these `subjects` is the fault of `own`. -/
lemma own_of_fault {fault : EvaluationFault} (hnames : m.Names rules attached)
    (hfault : ((attached.subjects s (some subject)).given rules.answer).result = .error fault) :
    s.own rules m subject = s.remarked m subject
      ⟨((attached.subjects s (some subject)).given rules.answer).events,
        .error (.evaluation fault)⟩ := by
  have hcases := enter_cases rules s attached (some subject) []
    fun (_ : Modifier) (_ : Subject) => steady_pure ()
  rcases hcases with
    ⟨hmem, -⟩ | ⟨-, fault', hfault', hrecord⟩ | ⟨-, subjects, hsubjects, -⟩
  · cases hmem
  · rw [hfault] at hfault'
    obtain rfl := Except.error.inj hfault'
    rw [own_of_names hnames, hrecord]
  · rw [Modifier.HasSubjects, hfault] at hsubjects
    cases hsubjects

end Scene

/-- `Applies` for all subjects, from a step for each. -/
lemma applies_map {subjects : List Subject} {events : Subject → List Event}
    (h : ∀ subject ∈ subjects, ∀ rest after, Applies rules s rest after →
      Applies rules s ((m, subject) :: rest) (events subject ++ after)) :
    Applies rules s (subjects.map (m, ·)) (subjects.flatMap events) := by
  induction subjects with
  | nil => exact .nil
  | cons subject rest ih =>
    rw [List.forall_mem_cons] at h
    rw [List.map_cons, List.flatMap_cons]
    exact h.1 _ _ (ih h.2)

namespace Scene

open Application

/-- The events of an `apply` that ends well are those of `Applies`. -/
lemma applies_of_ok
    (h : ((s.apply fuel m subject).record rules.answer stack).result = .ok ())
    {rest : List (Modifier × Subject)} {after : List Event} (hrest : Applies rules s rest after) :
    Applies rules s ((m, subject) :: rest)
      (((s.apply fuel m subject).record rules.answer stack).events ++ after) := by
  -- induction on the bound, for all that is applied after this application
  induction fuel generalizing m subject stack rest after with
  | zero => cases h
  | succ fuel ih =>
    rcases apply_cases rules s fuel m subject stack with
      ⟨hidle, hrecord⟩ | ⟨hbusy, hnone, hrecord, -⟩ | ⟨hbusy, attached, hnames, hrecord⟩
    · rw [hrecord]
      exact .idle hidle hrest
    · rw [hrecord]
      exact .single hbusy (fun attached _ hnames => absurd hnames (hnone attached)) hrest
    · rw [hrecord] at h ⊢
      rcases settles_of_remarked_ok h with hok | ⟨hlenient, rule, hrule⟩
      · obtain ⟨subjects, hsubjects, happlied, hevents⟩ := enter_of_ok (s.steady_apply fuel) hok
        have hinner := applies_map fun subject hmem rest after hrest =>
          ih (happlied subject hmem) hrest
        rw [remarked_of_ok hok, hevents, ← own_of_hasSubjects hnames hsubjects]
        exact .attached hbusy hnames hsubjects hinner hrest
      · -- the malformed rule comes of the subjects, so that there are no applications
        rcases enter_cases rules s attached (some subject) stack (s.steady_apply fuel) with
          ⟨-, henter⟩ | ⟨-, fault, hfault, henter⟩ | ⟨-, subjects, -, henter⟩
        · rw [henter] at hrule
          cases hrule
        · rw [henter, ← own_of_fault hnames hfault]
          refine .single hbusy (fun attached' subjects hnames' hsubjects => ?_) hrest
          obtain rfl := hnames.unique hnames'
          rw [Modifier.HasSubjects, hfault] at hsubjects
          cases hsubjects
        · rw [henter] at hrule
          obtain ⟨subject', -, hsubject'⟩ := Recorded.exists_of_forM_error hrule
          exact absurd hsubject' (apply_not_rule hlenient rule)

/-- The events of an `applyToAll` that ends well are those of `AppliesToAll`. -/
lemma appliesToAll_of_ok
    (h : ((s.applyToAll fuel m).record rules.answer []).result = .ok ()) :
    m.AppliesToAll rules s ((s.applyToAll fuel m).record rules.answer []).events := by
  obtain ⟨subjects, hsubjects, happlied, hevents⟩ := enter_of_ok (s.steady_apply fuel) h
  exact ⟨subjects, _, hsubjects,
    applies_map fun subject hmem _ _ hrest => applies_of_ok (happlied subject hmem) hrest, hevents⟩

end Scene

/-! ## Previews -/

namespace Engine

variable {e : Engine} {s : Scene} {modifiers : List Modifier}

/-- `applied` does not end in `tooDeep`. -/
lemma applied_ne_tooDeep (hknown : m.id ∈ e.rules.modifierIds) :
    (e.applied s m).result ≠ .error .tooDeep :=
  Scene.enter_ne_tooDeep (Scene.bounded_nil e.rules) hknown

/-- A `modifierCycle` of `applied` on a list is an `AttachmentCycle`. -/
lemma attachmentCycle_of_error {chain : List String}
    (h : (modifiers.forM (e.applied s)).result = .error (.modifierCycle chain)) :
    e.rules.AttachmentCycle s modifiers := by
  obtain ⟨m, hmem, hm⟩ := Recorded.exists_of_forM_error h
  exact Rules.attachmentCycle_iff.2 ⟨m, hmem, Scene.meetsAgain_of_cycle hm⟩

/-- If `applied` ends well on a list, there is no `AttachmentCycle`. -/
lemma not_attachmentCycle_of_ok (h : (modifiers.forM (e.applied s)).result = .ok ()) :
    ¬ e.rules.AttachmentCycle s modifiers := by
  intro hcycle
  obtain ⟨m, hmem, hagain⟩ := Rules.attachmentCycle_iff.1 hcycle
  exact Scene.not_meetsAgain_of_settles hagain (.inl (Recorded.ok_of_forM_ok h m hmem))

/-- `run` never ends in `tooDeep`. Where it ends well or in a `modifierCycle`, it does the latter
iff there is an `AttachmentCycle` from a modifier of the preview; where it ends well, its events are
those of `Modifier.AppliesToAll`, modifier by modifier. `apply` and `applyToAll` give back the stack
that they got, however they end. -/
theorem attachment_exact (e : Engine) (g : Snapshot) (ids : List (Option String))
    (cache : RuleCache) (hcache : cache.Faithful e.rules) :
    (e.run g ids cache).1.2.result ≠ .error .tooDeep ∧
    ((e.run g ids cache).1.2.result = .ok () ∨
        (∃ chain, (e.run g ids cache).1.2.result = .error (.modifierCycle chain)) →
      ((∃ chain, (e.run g ids cache).1.2.result = .error (.modifierCycle chain)) ↔
        ∃ s, e.scene g = .ok s ∧ e.rules.AttachmentCycle s (e.run g ids cache).1.1)) ∧
    ((e.run g ids cache).1.2.result = .ok () →
      ∃ s events, e.scene g = .ok s ∧
        (∀ m ∈ (e.run g ids cache).1.1, m.AppliesToAll e.rules s (events m)) ∧
        (e.run g ids cache).1.2.events = (e.run g ids cache).1.1.flatMap events) ∧
    ∀ (s : Scene) (fuel : Nat) (m : Modifier) (subject : Subject) (stack : List String)
      (shared : RuleCache),
      ((s.apply fuel m subject).run e.rules stack shared).1.2 = stack ∧
        ((s.applyToAll fuel m).run e.rules stack shared).1.2 = stack := by
  rw [(e.run_of_faithful g ids hcache).1]
  have hstack (s : Scene) (fuel : Nat) (m : Modifier) (subject : Subject) (stack : List String)
      (shared : RuleCache) :
      ((s.apply fuel m subject).run e.rules stack shared).1.2 = stack ∧
        ((s.applyToAll fuel m).run e.rules stack shared).1.2 = stack :=
    ⟨(s.steady_apply fuel m subject stack).run e.rules shared,
      (s.steady_applyToAll fuel m stack).run e.rules shared⟩
  rcases e.record_cases g ids with ⟨id, hfault⟩ | ⟨chain, hfault⟩ | ⟨s, hscene, -, hrecord⟩
  · -- the game has no local player
    rw [hfault]
    refine ⟨nofun, ?_, nofun, hstack⟩
    rintro (h | ⟨_, h⟩) <;> cases h
  · -- a requirement set is a cycle
    rw [hfault]
    refine ⟨nofun, ?_, nofun, hstack⟩
    rintro (h | ⟨_, h⟩) <;> cases h
  · -- the modifiers are applied one after the other
    rw [hrecord]
    refine ⟨fun hdeep => ?_, fun hend => ⟨fun ⟨chain, hchain⟩ => ?_, fun ⟨s', hs', hcycle⟩ => ?_⟩,
      fun hok => ?_, hstack⟩
    · -- the bound is never reached
      obtain ⟨m, hmem, hm⟩ := Recorded.exists_of_forM_error hdeep
      exact applied_ne_tooDeep ((e.rules.resolvedAll_cases ids).1 m hmem) hm
    · exact ⟨s, hscene, attachmentCycle_of_error hchain⟩
    · -- with a cycle the preview has not ended well, so that it was stopped by one
      obtain rfl := Except.ok.inj (hscene.symm.trans hs')
      exact hend.resolve_left fun hok => not_attachmentCycle_of_ok hok hcycle
    · have happlied := Recorded.ok_of_forM_ok hok
      refine ⟨s, fun m => (e.applied s m).events, hscene,
        fun m hm => Scene.appliesToAll_of_ok (happlied m hm), ?_⟩
      rw [Recorded.forM_of_ok happlied]

/-- Rules in which `m` attaches `attached` to the player. -/
def attaching (m attached : String) : Rules where
  modifiers := [⟨some m, some "ATTACH", none, none, false, false, false⟩]
  modifierTypes := [⟨some "ATTACH", some "COLLECTION_OWNER", some "EFFECT_ATTACH_MODIFIERS"⟩]
  modifierArguments := [⟨some m, { name := some "ModifierId", value := some attached }⟩]

/-- `LOOP`, which attaches `LOOP`, is an `AttachmentCycle` and ends `run` in a `modifierCycle`. -/
theorem attaching_itself :
    let e : Engine := ⟨attaching "LOOP" "LOOP", {}, ∅⟩
    (∃ chain, (e.run .solitaire [some "LOOP"] (.ofRules e.rules)).1.2.result
        = .error (.modifierCycle chain)) ∧
      ∃ s, e.scene .solitaire = .ok s ∧
        e.rules.AttachmentCycle s (e.run .solitaire [some "LOOP"] (.ofRules e.rules)).1.1 := by
  intro e
  have hcycle : ∃ chain, (e.run .solitaire [some "LOOP"] (.ofRules e.rules)).1.2.result
      = .error (.modifierCycle chain) := ⟨["LOOP", "LOOP"], rfl⟩
  have hexact := attachment_exact e .solitaire [some "LOOP"] (.ofRules e.rules)
    (RuleCache.faithful_ofRules e.rules)
  exact ⟨hcycle, (hexact.2.1 (.inr hcycle)).1 hcycle⟩

end Engine

end PolicyForecast
