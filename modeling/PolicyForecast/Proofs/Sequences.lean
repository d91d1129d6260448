import Mathlib.Data.List.Basic

/-!
# Sequences of computations that may fail

The elements of a list are worked through in order, up to the first that fails. `StopsAt P Q` says
of a list that its first element without `P` has `Q`; the fault of a sequence is that of the element
at which it stops (`mapM_eq_error_iff`).
-/

namespace PolicyForecast

variable {ε α β γ : Type}

lemma Except.exists_of_bind_ok {x : Except ε α} {f : α → Except ε β} {b : β}
    (h : x >>= f = .ok b) : ∃ a, x = .ok a ∧ f a = .ok b := by
  cases x with
  | error fault => cases h
  | ok a => exact ⟨a, rfl, h⟩

/-! ## Where a list stops -/

/-- Some element of a list has `Q`, and every one before it has `P`. -/
inductive StopsAt (P Q : α → Prop) : List α → Prop where
  | here {a : α} {rest : List α} (h : Q a) : StopsAt P Q (a :: rest)
  | later {a : α} {rest : List α} (h : P a) (hrest : StopsAt P Q rest) : StopsAt P Q (a :: rest)

section StopsAt

variable {P Q P' Q' : α → Prop} {a : α} {as bs : List α}

@[simp] lemma not_stopsAt_nil : ¬ StopsAt P Q [] := nofun

@[simp] lemma stopsAt_cons : StopsAt P Q (a :: as) ↔ Q a ∨ P a ∧ StopsAt P Q as := by
  constructor
  · rintro (h | ⟨h, hrest⟩)
    · exact .inl h
    · exact .inr ⟨h, hrest⟩
  · rintro (h | ⟨h, hrest⟩)
    · exact .here h
    · exact .later h hrest

lemma stopsAt_append :
    StopsAt P Q (as ++ bs) ↔ StopsAt P Q as ∨ (∀ a ∈ as, P a) ∧ StopsAt P Q bs := by
  induction as with
  | nil => simp
  | cons a rest ih =>
    rw [List.cons_append, stopsAt_cons, stopsAt_cons, ih, List.forall_mem_cons]
    tauto

lemma stopsAt_map {f : β → α} {bs : List β} :
    StopsAt P Q (bs.map f) ↔ StopsAt (fun b => P (f b)) (fun b => Q (f b)) bs := by
  induction bs with
  | nil => simp
  | cons b rest ih => rw [List.map_cons, stopsAt_cons, stopsAt_cons, ih]

/-- `StopsAt` over a `flatMap` is `StopsAt` over its lists. -/
lemma stopsAt_flatMap {f : β → List α} {bs : List β} :
    StopsAt P Q (bs.flatMap f)
      ↔ StopsAt (fun b => ∀ a ∈ f b, P a) (fun b => StopsAt P Q (f b)) bs := by
  induction bs with
  | nil => simp
  | cons b rest ih => rw [List.flatMap_cons, stopsAt_append, stopsAt_cons, ih]

lemma stopsAt_congr (hP : ∀ a ∈ as, P a ↔ P' a) (hQ : ∀ a ∈ as, Q a ↔ Q' a) :
    StopsAt P Q as ↔ StopsAt P' Q' as := by
  induction as with
  | nil => simp
  | cons a rest ih =>
    rw [List.forall_mem_cons] at hP hQ
    rw [stopsAt_cons, stopsAt_cons, hP.1, hQ.1, ih hP.2 hQ.2]

end StopsAt

/-! ## Results of sequences -/

section Results

variable {f f' : α → Except ε β} {as : List α} {bs : List β}

lemma mapM_congr (h : ∀ a ∈ as, f a = f' a) : as.mapM f = as.mapM f' := by
  induction as with
  | nil => rfl
  | cons a rest ih =>
    rw [List.forall_mem_cons] at h
    rw [List.mapM_cons, List.mapM_cons, h.1, ih h.2]

/-- `mapM` succeeds iff every step does. -/
lemma exists_mapM_ok : (∃ bs, as.mapM f = .ok bs) ↔ ∀ a ∈ as, ∃ b, f a = .ok b := by
  induction as with
  | nil => exact ⟨fun _ => by simp, fun _ => ⟨[], rfl⟩⟩
  | cons a rest ih =>
    rw [List.forall_mem_cons, ← ih, List.mapM_cons]
    cases f a with
    | error fault => exact ⟨nofun, nofun⟩
    | ok b =>
      cases rest.mapM f with
      | error fault => exact ⟨nofun, nofun⟩
      | ok bs => exact ⟨fun _ => ⟨⟨b, rfl⟩, bs, rfl⟩, fun _ => ⟨b :: bs, rfl⟩⟩

/-- `mapM` has the fault of the step at which it `StopsAt`. -/
lemma mapM_eq_error_iff {fault : ε} :
    as.mapM f = .error fault
      ↔ StopsAt (fun a => ∃ b, f a = .ok b) (fun a => f a = .error fault) as := by
  induction as with
  | nil => exact ⟨nofun, nofun⟩
  | cons a rest ih =>
    rw [stopsAt_cons, ← ih, List.mapM_cons]
    cases f a with
    | error other =>
      show Except.error other = .error fault ↔ _
      simp
    | ok b =>
      cases rest.mapM f with
      | error other =>
        show Except.error other = .error fault ↔ _
        simp
      | ok bs => exact ⟨nofun, nofun⟩

/-- `mapM` of steps with one possible fault has it iff a step has. -/
lemma mapM_eq_error {stops : α → Prop} {only fault : ε}
    (hf : ∀ a fault, f a = .error fault ↔ stops a ∧ fault = only) :
    as.mapM f = .error fault ↔ (∃ a ∈ as, stops a) ∧ fault = only := by
  induction as with
  | nil => simp [pure, Except.pure]
  | cons a rest ih =>
    simp only [List.mapM_cons, List.mem_cons, exists_eq_or_imp]
    cases ha : f a with
    | error fault' =>
      obtain ⟨hstops, rfl⟩ := (hf a fault').1 ha
      show Except.error fault' = Except.error fault ↔ _
      simp [hstops, eq_comm]
    | ok b =>
      have hnot : ¬ stops a := fun hstops => by
        have herror := (hf a only).2 ⟨hstops, rfl⟩
        rw [ha] at herror
        cases herror
      simp only [hnot, false_or, ← ih]
      cases rest.mapM f with
      | error fault' => rfl
      | ok bs => exact ⟨nofun, nofun⟩

lemma bind_pure_eq_error {x : Except ε α} {g : α → β} {fault : ε} :
    (x >>= fun a => pure (g a)) = .error fault ↔ x = .error fault := by
  cases x with
  | error fault' => exact ⟨fun h => congrArg _ (Except.error.inj h),
      fun h => congrArg _ (Except.error.inj h)⟩
  | ok a => exact ⟨nofun, nofun⟩

lemma mapError_eq_ok_iff {ε' : Type} {rename : ε → ε'} {x : Except ε α} {a : α} :
    x.mapError rename = .ok a ↔ x = .ok a := by
  cases x <;> simp [Except.mapError]

/-- A fault after `mapError rename` is `rename` of one. -/
lemma exists_of_mapError_eq_error {ε' : Type} {rename : ε → ε'} {x : Except ε α} {fault : ε'}
    (h : x.mapError rename = .error fault) : ∃ e, fault = rename e := by
  cases x with
  | error e => exact ⟨e, (Except.error.inj h).symm⟩
  | ok a => cases h

/-- `mapError` of every term is `mapError` of `mapM`. -/
lemma mapM_mapError {ε' : Type} (rename : ε → ε') (terms : List (Except ε α)) :
    (terms.map (·.mapError rename)).mapM id = (terms.mapM id).mapError rename := by
  induction terms with
  | nil => rfl
  | cons term rest ih =>
    rw [List.map_cons, List.mapM_cons, List.mapM_cons, ih]
    cases term with
    | error fault => rfl
    | ok a => cases rest.mapM id <;> rfl

/-- `mapM` of `f a >>= g` is `mapM` of `g` over the results of `f`. -/
lemma mapM_bind_of_ok {g : β → Except ε γ} (h : as.mapM f = .ok bs) :
    as.mapM (fun a => f a >>= g) = bs.mapM g := by
  induction as generalizing bs with
  | nil =>
    obtain rfl : [] = bs := Except.ok.inj h
    rfl
  | cons a rest ih =>
    rw [List.mapM_cons] at h
    rcases ha : f a with _ | b
    · rw [ha] at h
      cases h
    rcases hrest : rest.mapM f with _ | bs'
    · rw [ha, hrest] at h
      cases h
    rw [ha, hrest] at h
    obtain rfl : b :: bs' = bs := Except.ok.inj h
    rw [List.mapM_cons, List.mapM_cons, ha, ih hrest]
    rfl

lemma map_eq_error_iff {g : α → β} {x : Except ε α} {fault : ε} :
    x.map g = .error fault ↔ x = .error fault := by
  cases x <;> simp [Except.map]

lemma toOption_mapM : (as.mapM f).toOption = as.mapM fun a => (f a).toOption := by
  induction as with
  | nil => rfl
  | cons a rest ih =>
    rw [List.mapM_cons, List.mapM_cons, ← ih]
    cases f a with
    | error fault => rfl
    | ok b => cases rest.mapM f <;> rfl

end Results

lemma mapM_eq_some_map {f : α → Option β} {g : α → β} {as : List α}
    (h : ∀ a ∈ as, f a = some (g a)) : as.mapM f = some (as.map g) := by
  induction as with
  | nil => rfl
  | cons a rest ih =>
    rw [List.forall_mem_cons] at h
    rw [List.mapM_cons, h.1, ih h.2]
    rfl

/-- `lookup` after `mapM` over the values of entries is `f` of the entry that `lookup` finds. -/
lemma lookup_of_mapM {κ : Type} [BEq κ] [LawfulBEq κ] {f : κ → α → Option β}
    {entries : List (κ × α)} {results : List (κ × β)}
    (h : entries.mapM (fun entry => (f entry.1 entry.2).map (entry.1, ·)) = some results) (k : κ) :
    results.lookup k = (entries.lookup k).bind (f k) := by
  induction entries generalizing results with
  | nil =>
    obtain rfl := Option.some.inj h
    rfl
  | cons entry rest ih =>
    rw [List.mapM_cons] at h
    obtain ⟨first, hfirst, h⟩ := Option.bind_eq_some_iff.1 h
    obtain ⟨others, hothers, h⟩ := Option.bind_eq_some_iff.1 h
    obtain rfl := Option.some.inj h
    obtain ⟨result, hresult, rfl⟩ := Option.map_eq_some_iff.1 hfirst
    rw [List.lookup_cons, List.lookup_cons, ih hothers]
    cases hk : k == entry.1 with
    | false => rfl
    | true => rw [eq_of_beq hk, Option.bind_some, hresult]

/-- `mapM` of `filter` is `filter` of `mapM`, where all results must pass. -/
lemma mapM_filter {f : α → Option β} {p : β → Bool} {as : List α} :
    (as.mapM fun a => (f a).filter p) = (as.mapM f).filter (·.all p) := by
  induction as with
  | nil => rfl
  | cons a rest ih =>
    rw [List.mapM_cons, List.mapM_cons, ih]
    cases f a with
    | none => rfl
    | some b =>
      cases rest.mapM f with
      | none => by_cases hb : p b = true <;> simp [Option.filter_some, hb]
      | some bs =>
        by_cases hb : p b = true <;> by_cases hbs : bs.all p = true <;>
          simp [Option.filter_some, hb, hbs]

end PolicyForecast
