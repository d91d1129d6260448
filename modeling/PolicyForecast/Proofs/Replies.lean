import PolicyForecast.Proofs.Confinement

/-!
# What a cache replies

A cache answers a look-up from what it has kept, rightly or not, and makes and keeps it otherwise.
In both cases it gives the same reply when it is asked again, and an answer that it keeps changes no
other reply. So a computation that asks for no modifiers has on a cache the record that it has under
the replies of that cache, and these remain the same all the way: no assumption is needed on what
the cache has kept. Main statement: `Evaluation.Confined.run_eq_given`.
-/

namespace PolicyForecast

variable {α : Type}

/-- What a cache replies to each request, when it is the next one. -/
def RuleCache.replies (cache : RuleCache) (rules : Rules) : Answers :=
  fun q => (cache.serve rules q).1

namespace RuleCache

variable {cache : RuleCache} {rules : Rules}

/-- The reply to a `lookUp` is the kept answer, or that of the cache's rules. -/
lemma replies_lookUp (table : MemoTable) (key : Option String) :
    cache.replies rules (.lookUp table key)
      = ((cache.answers table).get? key).getD (cache.rules.lookUp table key) := by
  show (cache.lookUp table key).1 = _
  unfold lookUp
  cases (cache.answers table).get? key with
  | some answer => rfl
  | none => rfl

/-- Keeping an answer of the cache's rules changes no reply. -/
lemma agreeOnFacts_keep (table : MemoTable) (key : Option String)
    (hnew : (cache.answers table).get? key = none) :
    ((cache.keep table key (cache.rules.lookUp table key)).replies rules).AgreeOnFacts
      (cache.replies rules) := by
  intro q hq
  cases q with
  | modifier id => exact hq.elim
  | lookUp table' key' =>
    rw [replies_lookUp, replies_lookUp]
    unfold keep
    simp only
    by_cases htable : table' = table
    · subst htable
      rw [if_pos rfl, OrderedMap.get?_insert]
      by_cases hkey : key' = key
      · subst hkey
        rw [if_pos (beq_self_eq_true key'), hnew]
        rfl
      · rw [if_neg (by simpa using hkey)]
    · rw [if_neg htable]
  | district | constructible | unitDomain | unit | adjacency | adjacencyMembers | warehouse
  | maintenances => rfl

/-- `serve` of a request for a fact changes no reply. -/
lemma agreeOnFacts_serve (cache : RuleCache) (rules : Rules) {q : Request} (hq : q.IsFact) :
    ((cache.serve rules q).2.replies rules).AgreeOnFacts (cache.replies rules) := by
  cases q with
  | modifier id => exact hq.elim
  | lookUp table key =>
    show ((cache.lookUp table key).2.replies rules).AgreeOnFacts _
    unfold lookUp
    cases hkept : (cache.answers table).get? key with
    | some answer => exact fun _ _ => rfl
    | none => exact agreeOnFacts_keep table key hkept
  | district | constructible | unitDomain | unit | adjacency | adjacencyMembers | warehouse
  | maintenances => exact fun _ _ => rfl

end RuleCache

variable {notes : Event → Prop}

/-- `run` of a `Confined` computation is `given` the replies of the cache. -/
lemma Consulting.Confined.run_eq_given {x : Consulting α} (h : x.Confined notes) (rules : Rules)
    (cache : RuleCache) : (x.run rules cache).1 = x.given (cache.replies rules) := by
  induction x generalizing cache with
  | done a => rfl
  | note e rest ih => simp only [run, given, ih h.2]
  | ask q next ih =>
    -- the answer is a reply of the cache, and the cache that it leaves replies as before
    simp only [run, given]
    rw [ih _ (h.2 _)]
    exact (h.2 _).given_congr (cache.agreeOnFacts_serve rules h.1)

/-- `run` of a `Confined` computation is `given` the replies of the cache. -/
theorem Evaluation.Confined.run_eq_given {x : Evaluation α} (h : x.Confined notes) (rules : Rules)
    (cache : RuleCache) : (x.run rules cache).1 = x.given (cache.replies rules) := by
  have hrun := Consulting.Confined.run_eq_given (x := x.outcome) h rules cache
  unfold Evaluation.run Evaluation.given
  rw [← hrun]

end PolicyForecast
