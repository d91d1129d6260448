import PolicyForecast.Proofs.ChannelSums
import PolicyForecast.Proofs.Independence

/-!
# Totals by yield type

The total of a yield type depends only on what the channels have for that type. Contributions to
other types therefore leave it as it is, wherever they come among the others (`Agree.addAll`,
`agree_addAll_of_not_mem`, `Agree.total_eq`).

A preview lists the yield types that are known or contributed to (`mem_types_addAll`). It comes to
its yields unless the total of one of these has no integer (`exists_finalize_ok_iff`), and then
gives each type its rounded total (`lookup_of_finalize_ok`).

Main statement: contributions that are inserted among others keep a preview from its yields only if
the total of one of their own types has no integer, and leave the yields of all other types as they
were (`Engine.outcome_of_inserts`).
-/

namespace PolicyForecast

variable {type : String}

/-! ## What contributions do to one type -/

namespace Delta

variable {d d' : Delta} {additions : List Addition}

/-- Every channel has the same for a type. -/
def Agree (type : String) (d d' : Delta) : Prop :=
  ∀ c, (d.channel c).get? type = (d'.channel c).get? type

lemma Agree.addAll (h : Agree type d d') (additions : List Addition) :
    Agree type (d.addAll additions) (d'.addAll additions) := by
  intro c
  rw [get?_channel_addAll, get?_channel_addAll, h c]

/-- `addAll` of additions to other types. -/
lemma agree_addAll_of_not_mem (d : Delta) (h : ∀ a ∈ additions, type ∉ yieldTypes a.types) :
    Agree type (d.addAll additions) d := by
  intro c
  have hnothing : additions.flatMap (·.valuesFor c type) = [] := by
    refine flatMap_valuesFor_eq_nil.2 fun hmem => ?_
    obtain ⟨a, ha, htype⟩ := List.mem_flatMap.1 hmem
    exact h a ha (Addition.mem_typesIn.1 htype).2
  rw [get?_channel_addAll, hnothing]
  rfl

/-- `total` of a type reads what `Agree` compares and the standing yield. -/
lemma Agree.total_eq (h : Agree type d d') {standing standing' : Baselines}
    (hstanding : standing.getD type {} = standing'.getD type {}) (applyPercent : Bool) :
    d.total standing applyPercent type = d'.total standing' applyPercent type := by
  have hamount : d.amount.getD type 0.0 = d'.amount.getD type 0.0 :=
    congrArg (Option.getD · 0.0) (h .amount)
  have hpercent : d.percent.get? type = d'.percent.get? type := h .percent
  have hrest : d.noMultiplier.get? type = d'.noMultiplier.get? type := h .noMultiplier
  unfold total
  rw [hstanding, hamount, hpercent, hrest]

/-! ## The types of a preview -/

lemma distinct_addAll (additions : List Addition) : (addAll {} additions).Distinct := by
  intro c
  rw [keys_channel_addAll, channel_empty]
  exact nodup_listedWith List.nodup_nil _

/-- `types` are the known ones and those of the additions. -/
lemma mem_types_addAll {known : List String} : type ∈ (addAll {} additions).types known ↔
    type ∈ known ∨ ∃ a ∈ additions, type ∈ yieldTypes a.types := by
  have hchannel (c : Channel) : type ∈ ((addAll {} additions).channel c).keys ↔
      ∃ a ∈ additions, a.channel = c ∧ type ∈ yieldTypes a.types := by
    rw [keys_channel_addAll, channel_empty, mem_listedWith, List.mem_flatMap]
    simp [OrderedMap.keys, EmptyCollection.emptyCollection, Addition.mem_typesIn]
  simp only [mem_types, hchannel]
  refine or_congr_right ⟨?_, ?_⟩
  · rintro ⟨c, a, ha, -, htype⟩
    exact ⟨a, ha, htype⟩
  · rintro ⟨a, ha, htype⟩
    exact ⟨a.channel, a, ha, rfl, htype⟩

end Delta

/-! ## Rounding all totals -/

section

variable {ε β : Type} {f : String → Except ε β} {keys : List String}

lemma exists_mapM_ok_iff :
    (∃ entries, (keys.mapM fun k => return (k, ← f k) : Except ε _) = .ok entries) ↔
      ∀ k ∈ keys, ∃ b, f k = .ok b := by
  rw [exists_mapM_ok]
  refine forall₂_congr fun k _ => ?_
  cases f k with
  | error fault => exact ⟨nofun, nofun⟩
  | ok b => exact ⟨fun _ => ⟨b, rfl⟩, fun _ => ⟨(k, b), rfl⟩⟩

/-- `mapM` over keys lists them in order, each with `f` of it. -/
lemma entries_of_mapM_ok {entries : List (String × β)}
    (h : (keys.mapM fun k => return (k, ← f k) : Except ε _) = .ok entries) :
    entries.map Prod.fst = keys ∧ ∀ key b, (key, b) ∈ entries → f key = .ok b := by
  induction keys generalizing entries with
  | nil =>
    obtain rfl : [] = entries := Except.ok.inj h
    exact ⟨rfl, nofun⟩
  | cons k rest ih =>
    rw [List.mapM_cons] at h
    obtain ⟨entry, hentry, h⟩ := Except.exists_of_bind_ok h
    obtain ⟨entries', hrest, h⟩ := Except.exists_of_bind_ok h
    obtain ⟨b, hb, hpair⟩ := Except.exists_of_bind_ok hentry
    obtain rfl : (k, b) = entry := Except.ok.inj hpair
    obtain rfl : (k, b) :: entries' = entries := Except.ok.inj h
    obtain ⟨hkeys, hvalues⟩ := ih hrest
    refine ⟨congrArg (k :: ·) hkeys, fun key c hmem => ?_⟩
    rcases List.mem_cons.1 hmem with heq | hmem
    · obtain ⟨rfl, rfl⟩ := Prod.mk.inj heq
      exact hb
    · exact hvalues key c hmem

/-- `lookup` after `mapM` over keys is `f` of the key. -/
lemma lookup_of_mapM_ok {entries : List (String × β)}
    (h : (keys.mapM fun k => return (k, ← f k) : Except ε _) = .ok entries) (key : String) :
    entries.lookup key = if key ∈ keys then (f key).toOption else none := by
  obtain ⟨hkeys, hvalues⟩ := entries_of_mapM_ok h
  cases hlookup : entries.lookup key with
  | none =>
    rw [if_neg]
    rw [← hkeys, List.mem_map]
    rintro ⟨entry, hentry, rfl⟩
    exact bne_iff_ne.1 (List.lookup_eq_none_iff.1 hlookup entry hentry) rfl
  | some b =>
    obtain ⟨before, after, rfl, -⟩ := List.lookup_eq_some_iff.1 hlookup
    have hmem : (key, b) ∈ before ++ (key, b) :: after := by simp
    rw [if_pos (hkeys ▸ List.mem_map_of_mem hmem), hvalues key b hmem]
    rfl

end

namespace Delta

variable {d : Delta} {standing : Baselines} {known : List String} {applyPercent : Bool}

/-- `finalize` succeeds iff `roundHalfUp` does on the `total` of every type. -/
lemma exists_finalize_ok_iff (hd : d.Distinct) :
    (∃ yields, d.finalize standing known applyPercent = .ok yields) ↔
      ∀ type ∈ d.types known, ∃ n, roundHalfUp (d.total standing applyPercent type) = .ok n := by
  simp only [finalize_eq hd, mapError_eq_ok_iff]
  rw [exists_mapM_ok_iff]
  exact forall_congr' fun type => imp_congr_left List.mem_eraseDups

/-- `finalize` has `roundHalfUp` of the `total` for each of its types. -/
lemma lookup_of_finalize_ok (hd : d.Distinct) {yields : List (String × Int)}
    (h : d.finalize standing known applyPercent = .ok yields) (type : String) :
    yields.lookup type = if type ∈ d.types known
      then (roundHalfUp (d.total standing applyPercent type)).toOption else none := by
  rw [finalize_eq hd, mapError_eq_ok_iff] at h
  rw [lookup_of_mapM_ok h]
  exact if_congr List.mem_eraseDups rfl rfl

end Delta

/-! ## What previews come to -/

lemma exists_error_iff {ε α : Type} {x : Except ε α} :
    (∃ fault, x = .error fault) ↔ ¬ ∃ a, x = .ok a := by
  cases x <;> simp

/-- A record has a contribution to a yield type. -/
def Recorded.ContributesTo {ε α : Type} (x : Recorded ε α) (type : String) : Prop :=
  ∃ a ∈ x.additions, type ∈ yieldTypes a.types

instance {ε α : Type} (x : Recorded ε α) (type : String) : Decidable (x.ContributesTo type) :=
  inferInstanceAs (Decidable (∃ a ∈ x.additions, type ∈ yieldTypes a.types))

namespace Engine

/-- The total of a yield type that recorded contributions come to, before rounding. -/
def total (e : Engine) (record : Recorded Fault Unit) (type : String) : Float :=
  (Delta.addAll {} record.additions).total e.baselines e.settings.applyPlayerPercentToAmount type

/-- The yields that a record comes to, or the fault that stops the preview. -/
def outcome (e : Engine) (record : Recorded Fault Unit) : Except Fault (List (String × Int)) :=
  record.result.bind fun _ => e.totals record.events

/-- The preview of a tradition is stopped by a fault. -/
def Stops (e : Engine) (g : Snapshot) (t : String) (cache : RuleCache) : Prop :=
  ∃ fault, e.outcome (e.run g (e.rules.traditionModifierIds t) cache).1.2 = .error fault

instance (e : Engine) (g : Snapshot) (t : String) (cache : RuleCache) :
    Decidable (e.Stops g t cache) :=
  decidable_of_iff
    ((e.outcome (e.run g (e.rules.traditionModifierIds t) cache).1.2).toBool = false) (by
      unfold Stops
      cases e.outcome (e.run g (e.rules.traditionModifierIds t) cache).1.2 <;> simp [Except.toBool])

variable {e : Engine} {g : Snapshot} {record record' added : Recorded Fault Unit}

/-- The yields of `answer` are those of `outcome`, or none. -/
lemma yields_answer (e : Engine) (modifiers : List Modifier) (record : Recorded Fault Unit) :
    (e.answer modifiers record).yields = (e.outcome record).toOption.getD [] := by
  unfold answer outcome
  cases record.result.bind fun _ => e.totals record.events with
  | error fault => rfl
  | ok yields => rfl

lemma yields_preview (e : Engine) (g : Snapshot) {t : String} (ht : t ≠ "") (cache : RuleCache) :
    (e.preview g (some t) cache).1.yields
      = (e.outcome (e.run g (e.rules.traditionModifierIds t) cache).1.2).toOption.getD [] := by
  rw [e.preview_of_ne g ht]
  exact e.yields_answer _ _

/-- `outcome` of a record that ends well is `finalize` of its additions. -/
lemma outcome_eq_ok_iff (h : record.result = .ok ()) {yields : List (String × Int)} :
    e.outcome record = .ok yields ↔
      (Delta.addAll {} record.additions).finalize e.baselines e.rules.yieldTypes
        e.settings.applyPlayerPercentToAmount = .ok yields := by
  unfold outcome
  rw [h]
  rfl

/-- `outcome` of a record that ends well fails iff `roundHalfUp` does on the `total` of a type. -/
lemma exists_outcome_ok_iff (h : record.result = .ok ()) :
    (∃ yields, e.outcome record = .ok yields) ↔
      ∀ type, (type ∈ e.rules.yieldTypes ∨ record.ContributesTo type) →
        ∃ n, roundHalfUp (e.total record type) = .ok n := by
  rw [exists_congr fun yields => outcome_eq_ok_iff h,
    Delta.exists_finalize_ok_iff (Delta.distinct_addAll _)]
  exact forall_congr' fun type => imp_congr_left Delta.mem_types_addAll

/-- `outcome` has `roundHalfUp` of the `total` for the types that are known or that the record
`ContributesTo`, and no others. -/
lemma lookup_of_outcome_ok (h : record.result = .ok ()) {yields : List (String × Int)}
    (hyields : e.outcome record = .ok yields) (type : String) :
    ((type ∈ e.rules.yieldTypes ∨ record.ContributesTo type) →
      yields.lookup type = (roundHalfUp (e.total record type)).toOption) ∧
    (¬ (type ∈ e.rules.yieldTypes ∨ record.ContributesTo type) → yields.lookup type = none) := by
  have hfinalize := (outcome_eq_ok_iff h).1 hyields
  rw [Delta.lookup_of_finalize_ok (Delta.distinct_addAll _) hfinalize]
  have hmem : type ∈ (Delta.addAll {} record.additions).types e.rules.yieldTypes ↔
      type ∈ e.rules.yieldTypes ∨ record.ContributesTo type := Delta.mem_types_addAll
  exact ⟨fun hlisted => if_pos (hmem.2 hlisted), fun hother => if_neg (hother ∘ hmem.1)⟩

end Engine

/-- One record has the contributions of another one, and somewhere among them those of a third. -/
def Recorded.Inserts {ε α : Type} (added record record' : Recorded ε α) : Prop :=
  ∃ before after, record.additions = before ++ after ∧
    record'.additions = before ++ (added.additions ++ after)

lemma Recorded.Inserts.contributesTo_iff {ε α : Type} {added record record' : Recorded ε α}
    (h : added.Inserts record record') {type : String} :
    record'.ContributesTo type ↔ record.ContributesTo type ∨ added.ContributesTo type := by
  obtain ⟨before, after, hrecord, hrecord'⟩ := h
  simp only [ContributesTo, hrecord, hrecord', List.mem_append, or_and_right, exists_or]
  rw [or_assoc]
  exact or_congr_right or_comm

namespace Engine

variable {e : Engine} {g : Snapshot} {record record' added : Recorded Fault Unit}

/-- `total` of a type that `added` does not contribute to. -/
lemma total_of_inserts (h : added.Inserts record record') {type : String}
    (hother : ¬ added.ContributesTo type) : e.total record' type = e.total record type := by
  obtain ⟨before, after, hrecord, hrecord'⟩ := h
  have hnone : ∀ a ∈ added.additions, type ∉ yieldTypes a.types :=
    fun a ha htype => hother ⟨a, ha, htype⟩
  unfold total
  rw [hrecord, hrecord', Delta.addAll_append, Delta.addAll_append, Delta.addAll_append]
  exact ((Delta.agree_addAll_of_not_mem _ hnone).addAll after).total_eq rfl _

/-- Where `added.Inserts record record'`, `outcome record'` fails iff `roundHalfUp` does on a type
that `added` contributes to; the yields of other types are those of `record`. -/
lemma outcome_of_inserts (h : added.Inserts record record') (hrecord : record.result = .ok ())
    (hrecord' : record'.result = .ok ()) {yields : List (String × Int)}
    (hyields : e.outcome record = .ok yields) :
    ((∃ yields', e.outcome record' = .ok yields') ↔
      ∀ type, added.ContributesTo type → ∃ n, roundHalfUp (e.total record' type) = .ok n) ∧
    ∀ yields', e.outcome record' = .ok yields' → ∀ type, ¬ added.ContributesTo type →
      yields'.lookup type = yields.lookup type := by
  have hrounds := (exists_outcome_ok_iff hrecord).1 ⟨yields, hyields⟩
  refine ⟨?_, fun yields' hyields' type hother => ?_⟩
  · rw [exists_outcome_ok_iff hrecord']
    refine ⟨fun hall type htype => hall type (.inr (h.contributesTo_iff.2 (.inr htype))), ?_⟩
    intro hadded type htype
    by_cases hown : added.ContributesTo type
    · exact hadded type hown
    · -- the total of another type is the one that was rounded before
      rw [total_of_inserts h hown]
      rw [h.contributesTo_iff, or_iff_left hown] at htype
      exact hrounds type htype
  · obtain ⟨hlisted, hunlisted⟩ := lookup_of_outcome_ok hrecord hyields type
    obtain ⟨hlisted', hunlisted'⟩ := lookup_of_outcome_ok hrecord' hyields' type
    rw [h.contributesTo_iff, or_iff_left hother, total_of_inserts h hother] at hlisted'
    rw [h.contributesTo_iff, or_iff_left hother] at hunlisted'
    by_cases htype : type ∈ e.rules.yieldTypes ∨ record.ContributesTo type
    · rw [hlisted htype, hlisted' htype]
    · rw [hunlisted htype, hunlisted' htype]

end Engine

end PolicyForecast
