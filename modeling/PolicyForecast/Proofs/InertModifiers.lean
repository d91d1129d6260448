import PolicyForecast.Proofs.AddedModifier
import PolicyForecast.Proofs.AlikeRules
import PolicyForecast.Proofs.RelatedApplications

/-!
# Inert modifiers

A modifier is *inert* if it only acts at the moment when it is new, or if its effect is not known or
of no concern to yields. Entered anywhere, an inert modifier asks for no other modifier and notes
nothing but remarks (`Scene.inert_confined`). So it can be left out of a list of modifiers, and out
of the rules, where a modifier that attaches it then finds nothing: a preview that is not stopped
keeps its yields (`Engine.inert_modifiers_erased`).

The converse fails: an inert modifier may stop a preview, since its requirements are evaluated.
-/

namespace PolicyForecast

/-- A modifier with an effect type has no influence on yields. -/
def Effect.isIdle (newOnly : Bool) (type : Option String) : Bool :=
  newOnly || (Effect.ofType? type).all (· == .inert)

/-- A modifier that has no influence on yields. -/
def Modifier.isInert (m : Modifier) : Bool :=
  Effect.isIdle m.newOnly m.effect

/-! ## Inert modifiers that are entered -/

namespace Application

variable {α β : Type}

/-- Whatever it is answered, a computation asks for no modifiers and notes nothing but remarks. -/
def Confined (x : Application α) : Prop :=
  ∀ stack, (x.outcome stack).Confined Event.IsRemark

lemma confined_pure (a : α) : (pure a : Application α).Confined := fun _ => trivial

lemma confined_ofEvaluation {x : Evaluation α} (h : Evaluation.Confined Event.IsRemark x) :
    (ofEvaluation x).Confined := by
  intro stack
  rw [outcome_ofEvaluation]
  exact Consulting.Confined.bind h fun _ => Consulting.confined_pure _

lemma Confined.bind {x : Application α} {f : α → Application β} (hx : x.Confined)
    (hf : ∀ a, (f a).Confined) : (x >>= f).Confined := by
  intro stack
  rw [outcome_bind]
  refine (hx stack).bind fun ⟨result, left⟩ => ?_
  cases result with
  | error fault => exact Consulting.confined_pure _
  | ok a => exact hf a left

lemma confined_forM {f : α → Application Unit} (h : ∀ a, (f a).Confined) (as : List α) :
    (as.forM f).Confined := by
  induction as with
  | nil => exact confined_pure ()
  | cons a rest ih => exact (h a).bind fun _ => ih

lemma Confined.entering {body : Application α} (h : body.Confined) (id : String) :
    (entering id body).Confined := by
  intro stack
  by_cases hmem : id ∈ stack
  · rw [outcome_entering_of_mem hmem]
    exact Consulting.confined_pure _
  · rw [outcome_entering_of_not_mem hmem]
    exact (h _).bind fun _ => Consulting.confined_pure _

/-- A `Confined` computation has no additions. -/
lemma Confined.additions_record {x : Application α} (h : x.Confined) (answers : Answers)
    (stack : List String) : (x.record answers stack).additions = [] :=
  List.filterMap_eq_nil_iff.2 ((h stack).of_mem_given answers)

end Application

namespace Scene

open Application

variable {s : Scene} {m : Modifier}

/-- `apply` of an inert modifier does nothing or makes one remark. -/
lemma apply_inert_cases (h : m.isInert = true) (fuel : Nat) (subject : Subject) :
    s.apply (fuel + 1) m subject = pure () ∨
      ∃ event : Event, event.IsRemark ∧
        s.apply (fuel + 1) m subject = ofEvaluation (.note event) := by
  unfold apply
  split
  · exact .inl rfl
  next hbusy =>
    rw [Bool.or_eq_true, not_or] at hbusy
    unfold Scene.effect
    split
    · exact .inr ⟨unhandledRemark m, rfl, rfl⟩
    · exact .inr ⟨ignoredRemark m, rfl, rfl⟩
    next effect heffect htype =>
      -- a modifier with any other effect is inert only by being there when it is new
      unfold Modifier.isInert Effect.isIdle at h
      rw [htype, Bool.or_eq_true] at h
      rcases h with hnew | hinert
      · exact absurd hnew hbusy.1
      · exact absurd (by simpa using hinert) heffect

/-- `enter` of an inert modifier is `Confined`. -/
lemma inert_confined (h : m.isInert = true) (fuel : Nat) (parent : Option Subject) :
    (s.enter (s.apply fuel) m parent).Confined := by
  have happly (subject : Subject) : (s.apply fuel m subject).Confined := by
    cases fuel with
    | zero => exact fun _ => trivial
    | succ fuel =>
      rcases apply_inert_cases h fuel subject with hidle | ⟨event, hremark, hnote⟩
      · rw [hidle]
        exact confined_pure ()
      · rw [hnote]
        exact confined_ofEvaluation (Evaluation.confined_note hremark)
  have hsubjects : (ofEvaluation (m.subjects s parent)).Confined :=
    confined_ofEvaluation ((m.confined_subjects s parent).mono fun _ => Event.IsFinding.isRemark)
  exact (hsubjects.bind fun subjects => confined_forM happly subjects).entering m.id

lemma inert_neverMalformed (h : m.isInert = true) (fuel : Nat) (parent : Option Subject) :
    (s.enter (s.apply fuel) m parent).NeverMalformed := by
  have happly (subject : Subject) : (s.apply fuel m subject).NeverMalformed := by
    cases fuel with
    | zero => exact fun _ => nofun
    | succ fuel =>
      rcases apply_inert_cases h fuel subject with hidle | ⟨event, -, hnote⟩
      · rw [hidle]
        exact neverMalformed_pure ()
      · rw [hnote]
        exact neverMalformed_ofEvaluation (Evaluation.neverMalformed_note event)
  exact neverMalformed_enter (fun _ => happly) m parent

end Scene

/-! ## Rules without inert modifiers -/

namespace Rules

variable {rules : Rules} {id : Option String}

/-- The modifier of an id is inert. -/
def isInert (rules : Rules) (id : Option String) : Bool :=
  (rules.modifier? id).any fun r =>
    Effect.isIdle r.newOnly ((rules.modifierType? r.type).bind ModifierTypeRecord.effect)

/-- The rules without their inert modifiers. -/
def withoutInert (rules : Rules) : Rules :=
  { rules with modifiers := rules.modifiers.filter fun r => !rules.isInert r.id }

/-- `isInert` of a modifier is `isInert` of its id. -/
lemma isInert_of_resolved {m : Modifier} (h : rules.resolved id = .ok (some m)) :
    m.isInert = rules.isInert id := by
  obtain ⟨r, rfl, hrecord, hunfold⟩ := exists_record_of_resolved h
  obtain ⟨-, heffect, -, hnewOnly⟩ := unfoldRecord_ok hunfold
  unfold isInert Modifier.isInert
  rw [hrecord, heffect, hnewOnly]
  rfl

lemma modifier?_withoutInert (rules : Rules) (id : Option String) :
    rules.withoutInert.modifier? id = if rules.isInert id then none else rules.modifier? id := by
  -- a record that answers a look-up has the id that is looked up
  have hkey (r : ModifierRecord) (hr : keyMatches r.id id = true) : r.id = id := by
    unfold keyMatches at hr
    rw [Bool.and_eq_true] at hr
    exact eq_of_beq hr.2
  unfold withoutInert modifier?
  rw [List.find?_filter]
  cases hinert : rules.isInert id with
  | true =>
    rw [if_pos rfl, List.find?_eq_none]
    intro r _ hr
    rw [decide_eq_true_iff] at hr
    rw [hkey r hr.2, hinert] at hr
    exact Bool.false_ne_true hr.1
  | false =>
    rw [if_neg Bool.false_ne_true]
    congr 1
    funext r
    cases hr : keyMatches r.id id with
    | false => simp
    | true =>
      rw [hkey r hr, hinert]
      rfl

lemma alikeSets_withoutInert (rules : Rules) :
    AlikeSets rules rules.withoutInert fun _ => True where
  type _ _ := rfl
  requirements _ _ := rfl
  heads _ _ _ _ := rfl
  below _ _ _ _ := trivial
  links_le := Nat.le_refl _

/-- `withoutInert` resolves all other ids the same. -/
lemma resolved_withoutInert (h : rules.isInert id = false) :
    rules.resolved id = rules.withoutInert.resolved id := by
  have hrecord : rules.modifier? id = rules.withoutInert.modifier? id := by
    rw [modifier?_withoutInert, h]
    rfl
  refine resolved_congr hrecord fun name r _ _ => ⟨rfl, rfl, ?_, ?_⟩
  · exact rules.alikeSets_withoutInert.unfold fun _ _ _ => trivial
  · exact rules.alikeSets_withoutInert.unfold fun _ _ _ => trivial

/-- `withoutInert` does not find inert ids. -/
lemma resolved_withoutInert_of_inert (h : rules.isInert id = true) :
    rules.withoutInert.resolved id = .ok none := by
  apply resolved_of_no_record
  rw [modifier?_withoutInert, h]
  rfl

lemma agreeOnFacts_withoutInert (rules : Rules) :
    rules.answer.AgreeOnFacts rules.withoutInert.answer := by
  intro q hq
  cases q with
  | lookUp table key => cases table <;> rfl
  | modifier id => exact hq.elim
  | _ => rfl

end Rules

/-! ## Applications over rules without inert modifiers -/

namespace Recorded

variable {x y x' y' : Recorded Fault Unit}

/-- One record is the other one without remarks, unless the first stops with a fault other than that
a rule is malformed. -/
def Erases (x y : Recorded Fault Unit) : Prop :=
  (x.result = y.result ∧ x.additions = y.additions) ∨
    ∃ fault, x.result = .error fault ∧ ∀ rule, fault ≠ .evaluation (.rule rule)

lemma additions_bind_of_ok {α : Type} {x : Recorded Fault α} {a : α} (h : x.result = .ok a)
    (f : α → Recorded Fault Unit) : (x >>= f).additions = x.additions ++ (f a).additions := by
  unfold additions
  rw [bind_of_ok h, List.filterMap_append]

lemma Erases.bind (hx : x.Erases y) (hx' : x'.Erases y') :
    (x >>= fun _ => x').Erases (y >>= fun _ => y') := by
  rcases hx with ⟨hresult, hadditions⟩ | ⟨fault, hfault, hrule⟩
  · cases hy : y.result with
    | error fault =>
      -- both stop before the second part
      rw [hy] at hresult
      refine .inl ?_
      rw [bind_of_error hresult, bind_of_error hy]
      exact ⟨rfl, hadditions⟩
    | ok _ =>
      rw [hy] at hresult
      rcases hx' with ⟨hresult', hadditions'⟩ | ⟨fault, hfault, hrule⟩
      · refine .inl ⟨?_, ?_⟩
        · rw [bind_of_ok hresult, bind_of_ok hy]
          exact hresult'
        · rw [additions_bind_of_ok hresult, additions_bind_of_ok hy, hadditions, hadditions']
      · refine .inr ⟨fault, ?_, hrule⟩
        rw [bind_of_ok hresult]
        exact hfault
  · refine .inr ⟨fault, ?_, hrule⟩
    rw [bind_of_error hfault]

lemma additions_remarked (s : Scene) (m : Modifier) (subject : Subject)
    (x : Recorded Fault Unit) : (s.remarked m subject x).additions = x.additions := by
  unfold Scene.remarked additions
  split
  · rw [List.filterMap_append]
    exact List.append_nil _
  · rfl

lemma result_remarked_congr (s : Scene) (m : Modifier) (subject : Subject)
    (h : x.result = y.result) :
    (s.remarked m subject x).result = (s.remarked m subject y).result := by
  unfold Scene.remarked
  rw [← h]
  split
  · rfl
  · exact h

lemma compositional_erases : Compositional Erases where
  refl _ := .inl ⟨rfl, rfl⟩
  bind := Erases.bind
  remarked s m subject h := by
    rcases h with ⟨hresult, hadditions⟩ | ⟨fault, hfault, hrule⟩
    · refine .inl ⟨result_remarked_congr s m subject hresult, ?_⟩
      rw [additions_remarked, additions_remarked, hadditions]
    · -- what is no malformed rule is not remarked on
      refine .inr ⟨fault, ?_, hrule⟩
      unfold Scene.remarked
      rw [hfault]
      split
      next rule heq => exact absurd (Except.error.inj heq) (hrule rule)
      next => exact hfault

/-- If `x` ends well and `x.Erases y`, so does `y`, with the same additions. -/
lemma Erases.of_ok (h : x.Erases y) (hok : x.result = .ok ()) :
    y.result = .ok () ∧ y.additions = x.additions := by
  rcases h with ⟨hresult, hadditions⟩ | ⟨fault, hfault, -⟩
  · exact ⟨hresult ▸ hok, hadditions.symm⟩
  · rw [hok] at hfault
    cases hfault

end Recorded

namespace Scene

variable {s : Scene} {rules : Rules}

/-- An inert modifier that is attached `Erases` to one that is not found. -/
lemma attached_erases {id : String} (h : rules.isInert (some id) = true) (fuel fuel' : Nat)
    (m : Modifier) (subject : Subject) (stack : List String) :
    (s.attached rules.answer (s.apply fuel) m subject id stack).Erases
      (s.attached rules.withoutInert.answer (s.apply fuel') m subject id stack) := by
  have hnone : s.attached rules.withoutInert.answer (s.apply fuel') m subject id stack
      = ⟨[unattachedRemark m id], .ok ()⟩ := by
    have hanswer : rules.withoutInert.answer (.modifier id) = .ok none :=
      Rules.resolved_withoutInert_of_inert h
    unfold attached
    rw [Recorded.bind_of_ok hanswer]
    rfl
  rw [hnone]
  unfold attached
  rcases rules.resolved_cases (some id) with ⟨found, hfound, -⟩ | ⟨chain, hchain⟩
  · have hanswer : rules.answer (.modifier id) = .ok found := hfound
    rw [Recorded.bind_of_ok hanswer]
    cases found with
    | none => exact .inl ⟨rfl, rfl⟩
    | some attached =>
      have hinert : attached.isInert = true := (Rules.isInert_of_resolved hfound).trans h
      have hadditions := (inert_confined (s := s) hinert fuel (some subject)).additions_record
        rules.answer stack
      have hrule := (inert_neverMalformed (s := s) hinert fuel (some subject) stack).given
        rules.answer
      cases hresult : ((s.enter (s.apply fuel) attached (some subject)).record rules.answer
          stack).result with
      | ok _ => exact .inl ⟨hresult, hadditions⟩
      | error fault =>
        refine .inr ⟨fault, hresult, ?_⟩
        rintro rule rfl
        exact hrule rule hresult
  · have hanswer : rules.answer (.modifier id) = .error (.requirementSetCycle chain) := hchain
    rw [Recorded.bind_of_error hanswer]
    exact .inr ⟨_, rfl, nofun⟩

end Scene

namespace Rules

variable {rules : Rules} {m : Modifier}

/-- A modifier that the rules have and that is not inert. -/
structure Active (rules : Rules) (m : Modifier) : Prop where
  has : rules.Has m
  isInert_eq : m.isInert = false

lemma active_of_resolved {id : Option String} (hm : rules.resolved id = .ok (some m))
    (h : rules.isInert id = false) : rules.Active m :=
  ⟨has_of_resolved hm, (isInert_of_resolved hm).trans h⟩

lemma Active.mem_modifierIds (h : rules.Active m) : m.id ∈ rules.withoutInert.modifierIds := by
  have hactive : rules.isInert (some m.id) = false :=
    (isInert_of_resolved h.has).symm.trans h.isInert_eq
  have hhas : rules.withoutInert.Has m := (resolved_withoutInert hactive).symm.trans h.has
  exact hhas.mem_modifierIds

/-- What is attached is `Active`, or `Erases` to nothing. -/
lemma attachesAlike_withoutInert (rules : Rules) (s : Scene) (m : Modifier) (id : String) :
    Recorded.Compositional.AttachesAlike Recorded.Erases rules.Active s rules.answer
      rules.withoutInert.answer m id := by
  cases hid : rules.isInert (some id) with
  | true => exact .inr fun fuel fuel' => Scene.attached_erases hid fuel fuel' m
  | false =>
    exact .inl ⟨resolved_withoutInert hid, fun attached hattached =>
      active_of_resolved hattached hid⟩

end Rules

namespace Engine

variable {e : Engine} {g : Snapshot} {s : Scene} {m : Modifier} {id : Option String}
  {ids : List (Option String)}

/-- The engine whose rules have no inert modifiers. -/
def withoutInert (e : Engine) : Engine :=
  { e with rules := e.rules.withoutInert }

/-- `applied` of an `Active` modifier `Erases` to `applied` over `withoutInert`. -/
lemma applied_erases (hm : e.rules.Active m) (s : Scene) :
    (e.applied s m).Erases (e.withoutInert.applied s m) := by
  -- the bound without inert modifiers suffices, so that the larger one does
  have hdepth : e.rules.withoutInert.depth + (e.rules.depth - e.rules.withoutInert.depth)
      = e.rules.depth := by
    have hfilter : e.rules.withoutInert.modifiers.length ≤ e.rules.modifiers.length :=
      List.length_filter_le _ _
    unfold Rules.depth
    omega
  have hrelated := Recorded.compositional_erases.enter (s := s) e.rules.agreeOnFacts_withoutInert
    (fun _ => Rules.Active.mem_modifierIds)
    (fun m id _ _ => e.rules.attachesAlike_withoutInert s m id)
    (Scene.bounded_nil e.rules.withoutInert) hm none
    (e.rules.depth - e.rules.withoutInert.depth) 0
  rw [hdepth] at hrelated
  exact hrelated

/-! ## Previews -/

/-- The preview of a list of modifiers is stopped by a fault. -/
def Degrades (e : Engine) (g : Snapshot) (ids : List (Option String)) (cache : RuleCache) : Prop :=
  ∃ fault, e.outcome (e.run g ids cache).1.2 = .error fault

instance (e : Engine) (g : Snapshot) (ids : List (Option String)) (cache : RuleCache) :
    Decidable (e.Degrades g ids cache) :=
  decidable_of_iff ((e.outcome (e.run g ids cache).1.2).toBool = false) (by
    unfold Degrades
    cases e.outcome (e.run g ids cache).1.2 <;> simp [Except.toBool])

lemma record_of_not_found (hscene : e.scene g = .ok s) (h : e.rules.resolved id = .ok none) :
    (e.record g [id]).2 = ⟨[], .ok ()⟩ := by
  have hone : e.rules.resolvedAll [id] = ([], .ok ()) := by
    simp only [Rules.resolvedAll, h, Option.toList_none, List.append_nil]
  rw [record_of_resolvedAll hscene (congrArg Prod.snd hone), hone]
  rfl

lemma record_of_found (hscene : e.scene g = .ok s) (h : e.rules.resolved id = .ok (some m)) :
    (e.record g [id]).2 = e.applied s m := by
  have hone : e.rules.resolvedAll [id] = ([m], .ok ()) := by
    simp only [Rules.resolvedAll, h, Option.toList_some, List.append_nil]
  rw [record_of_resolvedAll hscene (congrArg Prod.snd hone), hone]
  show e.applied s m >>= (fun _ => pure ()) = e.applied s m
  exact bind_pure (e.applied s m)

lemma exists_resolved_of_ok (h : (e.record g [id]).2.result = .ok ()) :
    ∃ s found, e.scene g = .ok s ∧ e.rules.resolved id = .ok found := by
  obtain ⟨s, hscene⟩ := exists_scene_of_ok h
  refine ⟨s, ?_⟩
  cases hfound : e.rules.resolved id with
  | ok found => exact ⟨found, hscene, rfl⟩
  | error fault =>
    unfold record at h
    rw [hscene] at h
    simp only [Rules.resolvedAll, hfound] at h
    cases h

/-- A record ends well if those of its ids do. -/
lemma record_of_singles (hscene : e.scene g = .ok s)
    (h : ∀ id ∈ ids, (e.record g [id]).2.result = .ok ()) :
    (e.record g ids).2.result = .ok () := by
  have hresolves : ∀ id ∈ ids, (e.rules.resolvedAll [id]).2 = .ok () := by
    intro id hid
    obtain ⟨_, found, -, hfound⟩ := exists_resolved_of_ok (h id hid)
    simp only [Rules.resolvedAll, hfound]
  have hall := Rules.resolvedAll_ok hresolves
  rw [record_of_resolvedAll hscene hall]
  refine congrArg Recorded.result (Recorded.forM_of_ok fun m hm => ?_)
  rw [(Rules.resolvedAll_of_ok hall).2] at hm
  obtain ⟨id, hid, hm⟩ := List.mem_flatMap.1 hm
  have hone := h id hid
  rw [record_of_resolvedAll hscene (hresolves id hid)] at hone
  exact Recorded.ok_of_forM_ok hone m hm

/-- The record of an inert id has no additions. -/
lemma additions_of_inert (h : (e.record g [id]).2.result = .ok ())
    (hinert : e.rules.isInert id = true) : (e.record g [id]).2.additions = [] := by
  obtain ⟨s, found, hscene, hfound⟩ := exists_resolved_of_ok h
  cases found with
  | none =>
    rw [record_of_not_found hscene hfound]
    rfl
  | some m =>
    have hm : m.isInert = true := (Rules.isInert_of_resolved hfound).trans hinert
    rw [record_of_found hscene hfound]
    exact (Scene.inert_confined hm e.rules.depth none).additions_record e.rules.answer []

/-- The record of an id over `withoutInert` ends well, with the same additions. -/
lemma record_withoutInert (h : (e.record g [id]).2.result = .ok ()) :
    (e.withoutInert.record g [id]).2.result = .ok () ∧
      (e.withoutInert.record g [id]).2.additions = (e.record g [id]).2.additions := by
  obtain ⟨s, found, hscene, hfound⟩ := exists_resolved_of_ok h
  have hscene' : e.withoutInert.scene g = .ok s := hscene
  cases hid : e.rules.isInert id with
  | true =>
    rw [additions_of_inert h hid,
      record_of_not_found hscene' (Rules.resolved_withoutInert_of_inert hid)]
    exact ⟨rfl, rfl⟩
  | false =>
    have hsame : e.withoutInert.rules.resolved id = .ok found :=
      (Rules.resolved_withoutInert hid).symm.trans hfound
    cases found with
    | none =>
      rw [record_of_not_found hscene hfound, record_of_not_found hscene' hsame]
      exact ⟨rfl, rfl⟩
    | some m =>
      rw [record_of_found hscene hfound] at h ⊢
      rw [record_of_found hscene' hsame]
      exact (applied_erases (Rules.active_of_resolved hfound hid) s).of_ok h

/-- `outcome` reads only the result and the additions. -/
lemma outcome_of_additions {record record' : Recorded Fault Unit} {yields : List (String × Int)}
    (h : e.outcome record = .ok yields) (hok : record.result = .ok ())
    (hok' : record'.result = .ok ()) (hadditions : record'.additions = record.additions) :
    e.outcome record' = .ok yields := by
  rw [outcome_eq_ok_iff hok] at h
  rw [outcome_eq_ok_iff hok', hadditions, h]

lemma result_of_outcome_ok {record : Recorded Fault Unit} {yields : List (String × Int)}
    (h : e.outcome record = .ok yields) : record.result = .ok () := by
  cases hresult : record.result with
  | error fault =>
    rw [outcome, hresult] at h
    cases h
  | ok _ => rfl

/-- `outcome` is the same without the inert ids. -/
lemma outcome_filter {yields : List (String × Int)}
    (h : e.outcome (e.record g ids).2 = .ok yields) :
    e.outcome (e.record g (ids.filter fun id => !e.rules.isInert id)).2 = .ok yields := by
  have hok := result_of_outcome_ok h
  obtain ⟨s, hscene⟩ := exists_scene_of_ok hok
  have hsingle := (record_eq_of_ok hok).1
  have hok' : (e.record g (ids.filter fun id => !e.rules.isInert id)).2.result = .ok () :=
    record_of_singles hscene fun id hid => hsingle id (List.mem_of_mem_filter hid)
  refine outcome_of_additions h hok hok' ?_
  rw [additions_record_of_ok hok, additions_record_of_ok hok']
  -- what is left out contributed nothing
  clear h hok hok'
  induction ids with
  | nil => rfl
  | cons id rest ih =>
    rw [List.forall_mem_cons] at hsingle
    rw [List.filter_cons, List.flatMap_cons, ← ih hsingle.2]
    cases hid : e.rules.isInert id with
    | true => simp [additions_of_inert hsingle.1 hid]
    | false => simp

/-- `outcome` is the same over `withoutInert`. -/
lemma outcome_withoutInert {yields : List (String × Int)}
    (h : e.outcome (e.record g ids).2 = .ok yields) :
    e.withoutInert.outcome (e.withoutInert.record g ids).2 = .ok yields := by
  have hok := result_of_outcome_ok h
  obtain ⟨s, hscene⟩ := exists_scene_of_ok hok
  have hsingle := (record_eq_of_ok hok).1
  have hok' : (e.withoutInert.record g ids).2.result = .ok () :=
    record_of_singles (e := e.withoutInert) hscene fun id hid =>
      (record_withoutInert (hsingle id hid)).1
  refine outcome_of_additions (e := e) h hok hok' ?_
  rw [additions_record_of_ok hok, additions_record_of_ok hok']
  exact List.flatMap_congr fun id hid => (record_withoutInert (hsingle id hid)).2

/-- If `outcome` has yields, `previewModifiers` does not degrade and has them. -/
lemma previewModifiers_of_outcome {cache : RuleCache} (hcache : cache.Faithful e.rules)
    (hids : none ∉ ids) {yields : List (String × Int)}
    (h : e.outcome (e.record g ids).2 = .ok yields) :
    ¬ e.Degrades g ids cache ∧
      ∃ p left, e.previewModifiers g ids cache = .ok (p, left) ∧ p.yields = yields := by
  have hrun : e.outcome (e.run g ids cache).1.2 = .ok yields := by
    rw [(e.run_of_faithful g ids hcache).1, h]
  refine ⟨fun ⟨fault, hfault⟩ => ?_, (e.previewIds g ids cache).1, (e.previewIds g ids cache).2,
    e.previewModifiers_of_not_mem g cache hids, ?_⟩
  · rw [hrun] at hfault
    cases hfault
  · show (e.answer (e.run g ids cache).1.1 (e.run g ids cache).1.2).yields = yields
    rw [yields_answer, hrun]
    rfl

/-- If `previewModifiers` does not degrade, neither does it without the ids that are `isInert`, nor
over `withoutInert`, where no inert modifier can be attached, and the yields are the same. `enter`
of an inert modifier is `Confined`, at every depth. -/
theorem inert_modifiers_erased (e : Engine) (g : Snapshot) (ids : List (Option String))
    (cache : RuleCache) (hcache : cache.Faithful e.rules) (p : Preview) (left : RuleCache)
    (hpreview : e.previewModifiers g ids cache = .ok (p, left))
    (hruns : ¬ e.Degrades g ids cache) :
    (∀ cache' : RuleCache, cache'.Faithful e.rules →
      ¬ e.Degrades g (ids.filter fun id => !e.rules.isInert id) cache' ∧
      ∃ p' left', e.previewModifiers g (ids.filter fun id => !e.rules.isInert id) cache'
          = .ok (p', left') ∧ p'.yields = p.yields) ∧
    (∀ (s : Scene) (fuel : Nat) (m : Modifier) (parent : Option Subject), m.isInert = true →
      (s.enter (s.apply fuel) m parent).Confined) ∧
    ∀ cache' : RuleCache, cache'.Faithful e.withoutInert.rules →
      ¬ e.withoutInert.Degrades g ids cache' ∧
      ∃ p' left', e.withoutInert.previewModifiers g ids cache' = .ok (p', left') ∧
        p'.yields = p.yields := by
  have hids : none ∉ ids := by
    intro hnone
    rw [e.previewModifiers_of_mem g cache hnone] at hpreview
    cases hpreview
  obtain ⟨yields, hyields⟩ : ∃ yields, e.outcome (e.record g ids).2 = .ok yields := by
    rw [Degrades, exists_error_iff, not_not, (e.run_of_faithful g ids hcache).1] at hruns
    exact hruns
  obtain ⟨-, p₀, left₀, hpreview₀, hyields₀⟩ := previewModifiers_of_outcome hcache hids hyields
  obtain ⟨rfl, rfl⟩ : p₀ = p ∧ left₀ = left :=
    Prod.mk.inj (Except.ok.inj (hpreview₀.symm.trans hpreview))
  rw [hyields₀]
  refine ⟨fun cache' hcache' => ?_, fun s fuel m parent hm => Scene.inert_confined hm fuel parent,
    fun cache' hcache' => ?_⟩
  · exact previewModifiers_of_outcome hcache' (fun hnone => hids (List.mem_of_mem_filter hnone))
      (outcome_filter hyields)
  · exact previewModifiers_of_outcome hcache' hids (outcome_withoutInert hyields)

/-- `granting` with `HOLDER`, which attaches `ARRIVAL`, which is `newOnly` and would attach `GRANT`,
and with `GARRISON`, whose effect is ignored. -/
def garrisoned : Engine :=
  { granting with
    rules :=
      { granting.rules with
        modifiers := granting.rules.modifiers ++
          [⟨some "HOLDER", some "ATTACH", none, none, false, false, false⟩,
           ⟨some "ARRIVAL", some "ATTACH", none, none, false, false, true⟩,
           ⟨some "GARRISON", some "UNITS", none, none, false, false, false⟩]
        modifierTypes := granting.rules.modifierTypes ++
          [⟨some "ATTACH", some "COLLECTION_OWNER", some "EFFECT_ATTACH_MODIFIERS"⟩,
           ⟨some "UNITS", some "COLLECTION_OWNER", some "EFFECT_GRANT_UNIT"⟩]
        modifierArguments := granting.rules.modifierArguments ++
          [⟨some "HOLDER", { name := some "ModifierId", value := some "ARRIVAL" }⟩,
           ⟨some "ARRIVAL", { name := some "ModifierId", value := some "GRANT" }⟩]
        yieldTypes := ["YIELD_GOLD"] } }

/-- `GARRISON` is listed and `ARRIVAL` attached by `HOLDER`: without them, `garrisoned` still gives
5 `YIELD_GOLD`. -/
theorem garrison_makes_no_difference :
    let ids := [some "GARRISON", some "HOLDER", some "GRANT", some "ARRIVAL"]
    ¬ garrisoned.Degrades .solitaire ids (.ofRules garrisoned.rules) ∧
      (∃ p' left', garrisoned.previewModifiers .solitaire [some "HOLDER", some "GRANT"]
          (.ofRules garrisoned.rules) = .ok (p', left') ∧ p'.yields = [("YIELD_GOLD", 5)]) ∧
      ∃ p' left', garrisoned.withoutInert.previewModifiers .solitaire ids
          (.ofRules garrisoned.withoutInert.rules) = .ok (p', left') ∧
        p'.yields = [("YIELD_GOLD", 5)] := by
  intro ids
  have hruns : ¬ garrisoned.Degrades .solitaire ids (.ofRules garrisoned.rules) := by
    decide +kernel
  have hyields : (garrisoned.previewIds .solitaire ids (.ofRules garrisoned.rules)).1.yields
      = [("YIELD_GOLD", 5)] := by
    decide +kernel
  have hkept : (ids.filter fun id => !garrisoned.rules.isInert id)
      = [some "HOLDER", some "GRANT"] := by
    decide +kernel
  have hpreview := garrisoned.previewModifiers_of_not_mem .solitaire (.ofRules garrisoned.rules)
    (show none ∉ ids by decide)
  rcases hp : garrisoned.previewIds .solitaire ids (.ofRules garrisoned.rules) with ⟨p, left⟩
  rw [hp] at hpreview hyields
  obtain ⟨hlist, -, hrules⟩ := inert_modifiers_erased garrisoned .solitaire ids
    (.ofRules garrisoned.rules) (RuleCache.faithful_ofRules _) p left hpreview hruns
  rw [hyields] at hlist hrules
  rw [hkept] at hlist
  exact ⟨hruns, (hlist _ (RuleCache.faithful_ofRules _)).2,
    (hrules _ (RuleCache.faithful_ofRules _)).2⟩

end Engine

end PolicyForecast
