import PolicyForecast.Proofs.Independence
import PolicyForecast.Proofs.Neighbourhood
import PolicyForecast.Proofs.Selection

/-!
# What modifiers are applied to

Effects are only carried out on what the local player has: the player, their cities, their units,
and plots that belong to one of their cities. To say so of a whole run, with all that is attached on
the way and also when it stops, the run is watched: before every effect a watch may do something,
note an event or stop. A watch that leaves alone what the player has makes no difference. Main
statement, which also says which subjects a modifier has: `Engine.subjects_owned_and_selected`.
-/

namespace PolicyForecast

variable {α β : Type}

/-! ## What a player has -/

/-- The subjects that belong to a player. A plot comes with a city of the player that has purchased
it, and the map has it under its number. -/
inductive Snapshot.Owns (g : Snapshot) (player : Player) : Subject → Prop
  | player : g.Owns player (.player player)
  | city {c : City} (h : c ∈ player.cities) : g.Owns player (.city c)
  | unit {u : GameUnit} (h : u ∈ player.units) : g.Owns player (.unit u)
  | plot {c : City} {p : Plot} (hcity : c ∈ player.cities)
      (hpurchased : p.index ∈ c.purchasedPlots) (hmap : g.map.plot? p.index = some p) :
      g.Owns player (.plot c p)

lemma Snapshot.Owns.city_mem {g : Snapshot} {player : Player} {subject : Subject} {c : City}
    (h : g.Owns player subject) (hc : subject.city? = some c) : c ∈ player.cities := by
  cases h with
  | player | unit => cases hc
  | city hcity | plot hcity =>
    obtain rfl := Option.some.inj hc
    exact hcity

/-! ## Computations and what they come to -/

namespace Consulting

variable {P : α → Prop}

lemma Always.mono {P' : α → Prop} {x : Consulting α} (h : x.Always P) (hP : ∀ a, P a → P' a) :
    x.Always P' := by
  induction x with
  | done a => exact hP a h
  | note e rest ih => exact ih h
  | ask q next ih => exact fun answer => ih answer (h answer)

/-- `>>=` reads the continuation only on values that the first part `Always` has. -/
lemma Always.bind_congr {x : Consulting α} (h : x.Always P) {f f' : α → Consulting β}
    (hf : ∀ a, P a → f a = f' a) : x >>= f = x >>= f' := by
  show Consulting.bind x f = Consulting.bind x f'
  induction x with
  | done a => exact hf a h
  | note e rest ih => exact congrArg (Consulting.note e) (ih h)
  | ask q next ih => exact congrArg (Consulting.ask q) (funext fun answer => ih answer (h answer))

end Consulting

namespace Evaluation

/-- The value that a computation comes to, if it does not stop, satisfies a predicate. -/
def Gives (P : α → Prop) (x : Evaluation α) : Prop :=
  x.outcome.Always fun r => ∀ a, r = .ok a → P a

variable {P : α → Prop} {Q : β → Prop}

lemma gives_pure {a : α} (h : P a) : (pure a : Evaluation α).Gives P := by
  intro b hb
  obtain rfl := Except.ok.inj hb
  exact h

lemma Gives.mono {x : Evaluation α} {P' : α → Prop} (h : x.Gives P) (hP : ∀ a, P a → P' a) :
    x.Gives P' :=
  Consulting.Always.mono h fun _ hr a ha => hP a (hr a ha)

lemma gives_true (x : Evaluation α) : x.Gives fun _ => True :=
  x.outcome.always_true.mono fun _ _ _ _ => trivial

lemma Gives.bind {x : Evaluation α} {f : α → Evaluation β} (hx : x.Gives P)
    (hf : ∀ a, P a → (f a).Gives Q) : (x >>= f).Gives Q := by
  unfold Gives
  rw [outcome_bind]
  refine Consulting.Always.bind hx fun r hr => ?_
  cases r with
  | error fault => exact Consulting.always_pure nofun
  | ok a => exact hf a (hr a rfl)

/-- `selectM` gives members of the list. -/
lemma gives_selectM (test : α → Evaluation Bool) (as : List α) :
    (selectM test as).Gives fun selected => ∀ a ∈ selected, a ∈ as := by
  induction as with
  | nil => exact gives_pure (by simp)
  | cons a rest ih =>
    refine (gives_true _).bind fun stays _ => ih.bind fun others hothers => gives_pure ?_
    intro b hb
    cases stays with
    | false => exact List.mem_cons_of_mem a (hothers b hb)
    | true =>
      rcases List.mem_cons.1 hb with rfl | hb
      · exact List.mem_cons_self
      · exact List.mem_cons_of_mem a (hothers b hb)

end Evaluation

namespace Application

lemma ofEvaluation_bind_congr {P : α → Prop} {x : Evaluation α} (h : x.Gives P)
    {f f' : α → Application β} (hf : ∀ a, P a → f a = f' a) :
    ofEvaluation x >>= f = ofEvaluation x >>= f' := by
  funext stack
  show (ofEvaluation x >>= f).outcome stack = (ofEvaluation x >>= f').outcome stack
  rw [outcome_bind, outcome_bind, outcome_ofEvaluation, bind_assoc, bind_assoc]
  refine Consulting.Always.bind_congr h fun r hr => ?_
  cases r with
  | error fault => rfl
  | ok a =>
    show (f a).outcome stack = (f' a).outcome stack
    rw [hf a (hr a rfl)]

lemma forM_congr {f f' : α → Application Unit} {as : List α} (h : ∀ a ∈ as, f a = f' a) :
    as.forM f = as.forM f' := by
  induction as with
  | nil => rfl
  | cons a rest ih =>
    rw [List.forall_mem_cons] at h
    show (f a >>= fun _ => rest.forM f) = (f' a >>= fun _ => rest.forM f')
    rw [h.1, ih h.2]

end Application

/-! ## Members of collections -/

namespace Scene

/-- A subject belongs to the player of a scene, or stands for nothing. -/
def Suits (s : Scene) (subject : Subject) : Prop :=
  s.game.Owns s.player subject ∨ subject.isEmpty = true

variable {s : Scene} {parent : Option Subject}

/-- `plotsOf` a city of the player suit. -/
lemma suits_plotsOf (hmap : s.game.map.WellIndexed) {c : City} (hc : c ∈ s.player.cities) :
    ∀ subject ∈ Collection.plotsOf s.game.map c, s.Suits subject := by
  intro subject hsubject
  obtain ⟨p, hp, rfl⟩ := List.mem_map.1 hsubject
  obtain ⟨index, hindex, hplot⟩ := List.mem_filterMap.1 hp
  obtain rfl := hmap index p hplot
  exact .inl (.plot hc hindex hplot)

/-- `members` suit if the parent belongs to the player. -/
lemma gives_members (hmap : s.game.map.WellIndexed)
    (hparent : ∀ subject ∈ parent, s.game.Owns s.player subject) (collection : Collection) :
    (collection.members s parent).Gives fun subjects => ∀ subject ∈ subjects, s.Suits subject := by
  cases collection with
  | capital =>
    unfold Collection.members
    cases hcapital : s.player.capital? with
    | none => exact Evaluation.gives_pure (by simp [Suits, Subject.isEmpty])
    | some c =>
      refine Evaluation.gives_pure ?_
      simp only [List.mem_singleton, forall_eq]
      exact .inl (.city (List.mem_of_find?_eq_some hcapital))
  | cities =>
    refine Evaluation.gives_pure fun subject hsubject => ?_
    obtain ⟨c, hc, rfl⟩ := List.mem_map.1 hsubject
    exact .inl (.city hc)
  | plots =>
    refine Evaluation.gives_pure fun subject hsubject => ?_
    obtain ⟨c, hc, hsubject⟩ := List.mem_flatMap.1 hsubject
    exact suits_plotsOf hmap hc subject hsubject
  | owner =>
    refine Evaluation.gives_pure ?_
    simp only [List.mem_singleton, forall_eq]
    exact .inl .player
  | cityPlots =>
    unfold Collection.members
    cases hc : parent.bind Subject.city? with
    | none => exact (Evaluation.gives_true _).bind fun _ _ => Evaluation.gives_pure (by simp)
    | some c =>
      -- the city is one of the player because the parent is owned
      obtain ⟨subject, rfl, hcity⟩ := Option.bind_eq_some_iff.1 hc
      exact Evaluation.gives_pure (suits_plotsOf hmap ((hparent subject rfl).city_mem hcity))
  | units =>
    refine Evaluation.gives_pure fun subject hsubject => ?_
    obtain ⟨u, hu, rfl⟩ := List.mem_map.1 hsubject
    exact .inl (.unit hu)
  | unsupported => exact Evaluation.gives_pure (by simp)

/-- `subjects` suit if the parent belongs to the player. -/
lemma gives_subjects (hmap : s.game.map.WellIndexed)
    (hparent : ∀ subject ∈ parent, s.game.Owns s.player subject) (m : Modifier) :
    (m.subjects s parent).Gives fun subjects => ∀ subject ∈ subjects, s.Suits subject := by
  have hcandidates : (m.candidates s parent).Gives
      fun subjects => ∀ subject ∈ subjects, s.Suits subject := by
    unfold Modifier.candidates
    split
    · exact gives_members hmap hparent _
    · exact (Evaluation.gives_true _).bind fun _ _ => Evaluation.gives_pure (by simp)
  refine (Evaluation.gives_true _).bind fun meets _ => ?_
  cases meets with
  | false => exact Evaluation.gives_pure (by simp)
  | true =>
    exact hcandidates.bind fun candidates hsuits =>
      (Evaluation.gives_selectM _ candidates).mono fun subjects hmem subject hsubject =>
        hsuits subject (hmem subject hsubject)

/-! ## Watched runs -/

/-- What a modifier does to a subject, watched just before an effect is carried out. -/
def effectWatched (s : Scene) (watch apply : Modifier → Subject → Application Unit) (m : Modifier)
    (subject : Subject) : Application Unit :=
  match Effect.ofType? m.effect with
  | none => Evaluation.note (unhandledRemark m)
  | some .inert => Evaluation.note (ignoredRemark m)
  | some effect =>
    s.guarded m subject do
      watch m subject
      s.perform apply m subject effect

/-- Applies a modifier to a subject, watched before this effect and all that it attaches. -/
def applyWatched (s : Scene) (watch : Modifier → Subject → Application Unit) :
    (fuel : Nat) → Modifier → Subject → Application Unit
  | 0, _, _ => throw .tooDeep
  | fuel + 1, m, subject =>
    if m.newOnly || subject.isEmpty then pure ()
    else s.effectWatched watch (s.applyWatched watch fuel) m subject

/-- Applies a previewed modifier to all its subjects, watched before every effect. -/
def applyToAllWatched (s : Scene) (watch : Modifier → Subject → Application Unit) (fuel : Nat)
    (m : Modifier) : Application Unit :=
  s.enter (s.applyWatched watch fuel) m none

variable {watch apply apply' : Modifier → Subject → Application Unit}

/-- `enter` reads `apply` only on subjects that suit. -/
lemma enter_eq_of_suits (hmap : s.game.map.WellIndexed)
    (hparent : ∀ subject ∈ parent, s.game.Owns s.player subject) {m : Modifier}
    (happly : ∀ subject, s.Suits subject → apply m subject = apply' m subject) :
    s.enter apply m parent = s.enter apply' m parent := by
  unfold enter
  congr 1
  refine Application.ofEvaluation_bind_congr (gives_subjects hmap hparent m)
    fun subjects hsuits => ?_
  exact Application.forM_congr fun subject hsubject => happly subject (hsuits subject hsubject)

/-- `effectWatched` is `effect` on subjects that the player owns, if the watch does nothing
there. -/
lemma effectWatched_eq_of_owns (hmap : s.game.map.WellIndexed)
    (hwatch : ∀ m subject, s.game.Owns s.player subject → watch m subject = pure ())
    (happly : ∀ m subject, s.Suits subject → apply m subject = apply' m subject) {m : Modifier}
    {subject : Subject} (howns : s.game.Owns s.player subject) :
    s.effectWatched watch apply m subject = s.effect apply' m subject := by
  have hperform (effect : Effect) :
      s.perform apply m subject effect = s.perform apply' m subject effect := by
    cases effect with
    | yields effect => rfl
    | attach =>
      have hparent : ∀ parent ∈ some subject, s.game.Owns s.player parent := by
        rintro _ ⟨⟩
        exact howns
      have henter (attached : Modifier) :
          s.enter apply attached (some subject) = s.enter apply' attached (some subject) :=
        enter_eq_of_suits hmap hparent (happly attached)
      unfold perform attach
      simp only [henter]
    | inert => rfl
  unfold effectWatched effect
  cases Effect.ofType? m.effect with
  | none => rfl
  | some effect =>
    cases effect with
    | inert => rfl
    | yields | attach => simp only [hwatch m subject howns, hperform, pure_bind]

/-- `applyWatched` is `apply` on subjects that suit, if the watch does nothing on those that the
player owns. -/
lemma applyWatched_eq (hmap : s.game.map.WellIndexed)
    (hwatch : ∀ m subject, s.game.Owns s.player subject → watch m subject = pure ()) (fuel : Nat)
    (m : Modifier) {subject : Subject} (hsuits : s.Suits subject) :
    s.applyWatched watch fuel m subject = s.apply fuel m subject := by
  -- induction on the bound; what an effect attaches is applied with a smaller one
  induction fuel generalizing m subject with
  | zero => rfl
  | succ fuel ih =>
    unfold applyWatched apply
    rcases hsuits with howns | hempty
    · rw [effectWatched_eq_of_owns hmap hwatch (fun m _ => ih m) howns]
    · simp only [hempty, Bool.or_true, if_true]

lemma applyToAllWatched_eq (hmap : s.game.map.WellIndexed)
    (hwatch : ∀ m subject, s.game.Owns s.player subject → watch m subject = pure ()) (fuel : Nat) :
    s.applyToAllWatched watch fuel = s.applyToAll fuel := by
  funext m
  exact enter_eq_of_suits hmap (by simp) fun _ => applyWatched_eq hmap hwatch fuel m

end Scene

/-! ## Previews -/

namespace Engine

/-- The run of a preview, watched before every effect. -/
def runWatched (e : Engine) (watch : Modifier → Subject → Application Unit) (g : Snapshot)
    (ids : List (Option String)) (cache : RuleCache) :
    (List Modifier × Recorded Fault Unit) × RuleCache :=
  match e.scene g with
  | .error fault => (([], ⟨[], .error fault⟩), cache)
  | .ok s =>
    match resolveAll e.rules ids cache with
    | ((modifiers, .error fault), cache) => ((modifiers, ⟨[], .error fault⟩), cache)
    | ((modifiers, .ok ()), cache) =>
      let ((record, _), cache) :=
        (modifiers.forM (s.applyToAllWatched watch e.rules.depth)).run e.rules [] cache
      ((modifiers, record), cache)

/-- In a game of `Snapshot.ofJson`, `runWatched` is `run` for every watch that does nothing on
subjects with `g.Owns player subject`; and `m.subjects` are those that `m.Selects`. -/
theorem subjects_owned_and_selected (e : Engine) {json : Json} {g : Snapshot}
    (hg : Snapshot.ofJson json = .ok g) (ids : List (Option String)) (cache : RuleCache)
    (hcache : cache.Faithful e.rules) :
    (∀ watch : Modifier → Subject → Application Unit,
      (∀ player, g.player? g.localPlayerId = some player →
        ∀ m subject, g.Owns player subject → watch m subject = pure ()) →
      e.runWatched watch g ids cache = e.run g ids cache) ∧
    ∀ (s : Scene) (m : Modifier) (parent : Option Subject) (subjects : List Subject),
      ((m.subjects s parent).run e.rules cache).1.result = .ok subjects ↔
        m.Selects e.rules cache s parent subjects := by
  refine ⟨fun watch hwatch => ?_, fun s m parent subjects => Modifier.subjects_eq_ok hcache⟩
  unfold runWatched run applyAll
  cases hplayer : g.player? g.localPlayerId with
  | none => rw [scene_of_no_player hplayer]
  | some player =>
    have happly : (⟨g, player, e.settings⟩ : Scene).applyToAllWatched watch e.rules.depth
        = Scene.applyToAll ⟨g, player, e.settings⟩ e.rules.depth :=
      Scene.applyToAllWatched_eq (Snapshot.wellIndexed_of_ofJson hg) (hwatch player hplayer) _
    rw [scene_of_player hplayer]
    rcases resolveAll e.rules ids cache with ⟨⟨modifiers, result⟩, left⟩
    cases result with
    | error fault => rfl
    | ok _ => simp only [happly]

/-- The data of a game with a city whose purchased plots are 3, 5 and 3, of which the map lacks plot
5. -/
def homestead : Json :=
  .object [
    (.text "local_player_id", .int 0),
    (.text "map", .object [
      (.text "plots", .array [
        .object [(.text "index", .int 3), (.text "x", .int 0), (.text "y", .int 0)],
        .object [(.text "index", .int 4), (.text "x", .int 1), (.text "y", .int 0)]])]),
    (.text "players", .array [
      .object [
        (.text "id", .int 0),
        (.text "cities", .array [
          .object [(.text "id", .int 1), (.text "name", .text "Home"), (.text "owner", .int 0),
            (.text "purchased_plots", .array [.int 3, .int 5, .int 3])]])]])]

/-- `SETTLE` attaches to all cities of the player a modifier that gives 5 of a yield for every plot
of the city. -/
def farming : Engine where
  rules :=
    { modifiers :=
        [⟨some "SETTLE", some "TO_CITIES", none, none, false, false, false⟩,
         ⟨some "FARM", some "TO_PLOTS", none, none, false, false, false⟩]
      modifierTypes :=
        [⟨some "TO_CITIES", some "COLLECTION_PLAYER_CITIES", some "EFFECT_ATTACH_MODIFIERS"⟩,
         ⟨some "TO_PLOTS", some "COLLECTION_CITY_PLOT_YIELDS", some "EFFECT_PLOT_ADJUST_YIELD"⟩]
      modifierArguments :=
        [⟨some "SETTLE", { name := some "ModifierId", value := some "FARM" }⟩,
         ⟨some "FARM", { name := some "YieldType", value := some "YIELD_FOOD" }⟩,
         ⟨some "FARM", { name := some "Amount", value := some "5" }⟩]
      yieldTypes := ["YIELD_FOOD"] }
  settings := {}
  baselines := ∅

/-- A watch that stops at plots that their city has not purchased, and at units. -/
def watchPurchases (_ : Modifier) : Subject → Application Unit
  | .plot c p => if p.index ∈ c.purchasedPlots then pure () else throw .tooDeep
  | .unit _ => throw .tooDeep
  | .city _ | .player _ | .empty _ => pure ()

/-- The city of `homestead` has purchased plot 3 twice and plot 5, which is not on the map: `SETTLE`
gives 10 `YIELD_FOOD`, and `watchPurchases` makes no difference. -/
theorem farming_purchased_plots :
    ∃ g, Snapshot.ofJson homestead = .ok g ∧
      (farming.previewIds g [some "SETTLE"] (.ofRules farming.rules)).1.yields
        = [("YIELD_FOOD", 10)] ∧
      farming.runWatched watchPurchases g [some "SETTLE"] (.ofRules farming.rules)
        = farming.run g [some "SETTLE"] (.ofRules farming.rules) := by
  obtain ⟨g, hg, hyields, hunits⟩ : ∃ g, Snapshot.ofJson homestead = .ok g ∧
      (farming.previewIds g [some "SETTLE"] (.ofRules farming.rules)).1.yields
        = [("YIELD_FOOD", 10)] ∧
      ∀ player, g.player? g.localPlayerId = some player → player.units = [] := by
    refine ⟨_, rfl, by decide +kernel, ?_⟩
    rintro _ ⟨⟩
    rfl
  have howned := (subjects_owned_and_selected farming hg [some "SETTLE"] (.ofRules farming.rules)
    (RuleCache.faithful_ofRules farming.rules)).1
  refine ⟨g, hg, hyields, howned watchPurchases fun player hplayer m subject howns => ?_⟩
  cases howns with
  | player | city => rfl
  | unit hunit =>
    rw [hunits player hplayer] at hunit
    cases hunit
  | plot _ hpurchased => exact if_pos hpurchased

end Engine

end PolicyForecast
