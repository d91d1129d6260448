import PolicyForecast.Proofs.Finalization

/-!
# Every channel is a plain ordered sum

Contributions go to three channels by texts that name types, one text possibly naming a type more
than once. Whatever the texts are and however contributions to the channels alternate, a channel in
the end lists the types of its own contributions where they first come, and has for each of them the
sum of its own values for that type, added up in the order of the contributions
(`Delta.get?_channel_addAll`). Sums of doubles depend on the order of their terms; but contributions
that share no sum may change places.

Main statement: `Delta.channels_are_ordered_sums`.
-/

namespace PolicyForecast

variable {type : String} {types : List String} {value : Float}

/-! ## Contributions seen from one sum -/

namespace Addition

/-- The types in which a contribution goes to a channel, each as often as it is named. -/
def typesIn (a : Addition) (c : Channel) : List String :=
  if a.channel = c then yieldTypes a.types else []

/-- What a contribution adds to the sum of a type in a channel, once for each time it names it. -/
def valuesFor (a : Addition) (c : Channel) (type : String) : List Float :=
  .replicate ((a.typesIn c).count type) a.value

variable {a b : Addition} {c : Channel}

lemma mem_typesIn : type ∈ a.typesIn c ↔ a.channel = c ∧ type ∈ yieldTypes a.types := by
  unfold typesIn
  split
  next h => simp [h]
  next h => simp [h]

lemma valuesFor_eq_nil : a.valuesFor c type = [] ↔ type ∉ a.typesIn c := by
  rw [valuesFor, List.replicate_eq_nil_iff, List.count_eq_zero]

/-- Two contributions share no sum if they go to different channels or name no type in common. -/
def Apart (a b : Addition) : Prop :=
  a.channel ≠ b.channel ∨ List.Disjoint (yieldTypes a.types) (yieldTypes b.types)

/-- Of two additions that are `Apart`, one has no `valuesFor` a given channel and type. -/
lemma Apart.valuesFor_eq_nil (h : a.Apart b) (c : Channel) (type : String) :
    a.valuesFor c type = [] ∨ b.valuesFor c type = [] := by
  rw [Addition.valuesFor_eq_nil, Addition.valuesFor_eq_nil, ← not_and_or]
  rintro ⟨ha, hb⟩
  obtain ⟨hac, ha⟩ := mem_typesIn.1 ha
  obtain ⟨hbc, hb⟩ := mem_typesIn.1 hb
  rcases h with hchannels | hdisjoint
  · exact hchannels (hac.trans hbc.symm)
  · exact hdisjoint ha hb

end Addition

/-- A sum with one more term; a sum that is not there yet starts from zero. -/
def plusTerm (sum : Option Float) (term : Float) : Option Float :=
  some (sum.getD 0.0 + term)

lemma foldl_plusTerm_some (total : Float) (terms : List Float) :
    terms.foldl plusTerm (some total) = some (terms.foldl (· + ·) total) := by
  induction terms generalizing total with
  | nil => rfl
  | cons term rest ih => exact ih (total + term)

/-- `plusTerm` over terms, from nothing, is their sum from zero if there are any. -/
lemma foldl_plusTerm_none (terms : List Float) :
    terms.foldl plusTerm none = if terms = [] then none else some (terms.foldl (· + ·) 0.0) := by
  cases terms with
  | nil => rfl
  | cons term rest =>
    rw [if_neg (List.cons_ne_nil term rest)]
    exact foldl_plusTerm_some (0.0 + term) rest

/-! ## The sums of a channel -/

namespace Sums

variable {sums : Sums}

lemma get?_add (sums : Sums) (value : Float) (other : String) :
    (sums.add value other).get? type
      = if type = other then plusTerm (sums.get? type) value else sums.get? type := by
  unfold add
  rw [OrderedMap.get?_insert]
  by_cases h : type = other
  · subst h
    rw [if_pos (beq_self_eq_true type), if_pos rfl]
    rfl
  · rw [if_neg (by simpa using h), if_neg h]

/-- `add` over types adds the value to a type as often as it is among them. -/
lemma get?_foldl_add (sums : Sums) (value : Float) (types : List String) :
    (types.foldl (add · value) sums).get? type
      = (List.replicate (types.count type) value).foldl plusTerm (sums.get? type) := by
  induction types generalizing sums with
  | nil => rfl
  | cons other rest ih =>
    rw [List.foldl_cons, ih, get?_add]
    by_cases h : type = other
    · subst h
      rw [if_pos rfl, List.count_cons_self, List.replicate_succ, List.foldl_cons]
    · rw [if_neg h, List.count_cons_of_ne (Ne.symm h)]

/-- `add` over types lists the new ones after the keys. -/
lemma keys_foldl_add (sums : Sums) (value : Float) (types : List String) :
    (types.foldl (add · value) sums).keys = listedWith sums.keys types := by
  induction types generalizing sums with
  | nil => rfl
  | cons other rest ih =>
    rw [List.foldl_cons, ih, add, OrderedMap.keys_insert]
    rfl

end Sums

/-! ## Channels after contributions -/

namespace Delta

variable {c : Channel}

lemma channel_add_self (d : Delta) (a : Addition) :
    (d.add a).channel a.channel
      = (yieldTypes a.types).foldl (Sums.add · a.value) (d.channel a.channel) := by
  obtain ⟨channel, types, value⟩ := a
  cases channel <;> rfl

/-- `add` adds `valuesFor` to the sum of each type. -/
lemma get?_channel_add (d : Delta) (a : Addition) :
    ((d.add a).channel c).get? type
      = (a.valuesFor c type).foldl plusTerm ((d.channel c).get? type) := by
  unfold Addition.valuesFor Addition.typesIn
  by_cases h : a.channel = c
  · subst h
    rw [channel_add_self, Sums.get?_foldl_add, if_pos rfl]
  · rw [channel_add_of_ne d a (Ne.symm h), if_neg h]
    rfl

/-- `add` lists `typesIn` after the keys of each channel. -/
lemma keys_channel_add (d : Delta) (a : Addition) :
    ((d.add a).channel c).keys = listedWith (d.channel c).keys (a.typesIn c) := by
  unfold Addition.typesIn
  by_cases h : a.channel = c
  · subst h
    rw [channel_add_self, Sums.keys_foldl_add, if_pos rfl]
  · rw [channel_add_of_ne d a (Ne.symm h), if_neg h]
    rfl

/-- `addAll` adds all `valuesFor` in order. -/
lemma get?_channel_addAll (d : Delta) (additions : List Addition) :
    ((d.addAll additions).channel c).get? type
      = (additions.flatMap (·.valuesFor c type)).foldl plusTerm ((d.channel c).get? type) := by
  induction additions generalizing d with
  | nil => rfl
  | cons a rest ih =>
    rw [addAll_cons, ih, get?_channel_add, List.flatMap_cons, List.foldl_append]

/-- `addAll` lists all `typesIn` in order. -/
lemma keys_channel_addAll (d : Delta) (additions : List Addition) :
    ((d.addAll additions).channel c).keys
      = listedWith (d.channel c).keys (additions.flatMap (·.typesIn c)) := by
  induction additions generalizing d with
  | nil => rfl
  | cons a rest ih =>
    have happend : listedWith (d.channel c).keys (a.typesIn c ++ rest.flatMap (·.typesIn c))
        = listedWith (listedWith (d.channel c).keys (a.typesIn c)) (rest.flatMap (·.typesIn c)) :=
      List.foldl_append
    rw [addAll_cons, ih, keys_channel_add, List.flatMap_cons, happend]

lemma channel_empty (c : Channel) : ({} : Delta).channel c = ∅ := by
  cases c <;> rfl

/-- There are no `valuesFor` a type iff it is not among the `typesIn`. -/
lemma flatMap_valuesFor_eq_nil {additions : List Addition} :
    additions.flatMap (·.valuesFor c type) = [] ↔ type ∉ additions.flatMap (·.typesIn c) := by
  rw [List.flatMap_eq_nil_iff, List.mem_flatMap]
  constructor
  · rintro h ⟨a, ha, htype⟩
    exact Addition.valuesFor_eq_nil.1 (h a ha) htype
  · intro h a ha
    exact Addition.valuesFor_eq_nil.2 fun htype => h ⟨a, ha, htype⟩

/-- In `addAll {} additions`, the keys of a channel are its `typesIn`, in order of first appearance,
and the value of a type is the sum of its `valuesFor`, in order and from zero. Neighbours in
`additions` that are `Apart` may change places. -/
theorem channels_are_ordered_sums (additions : List Addition) :
    (∀ c, ((addAll {} additions).channel c).keys
        = (additions.flatMap (·.typesIn c)).eraseDups) ∧
    (∀ c type, ((addAll {} additions).channel c).get? type
        = if type ∈ additions.flatMap (·.typesIn c)
          then some ((additions.flatMap (·.valuesFor c type)).foldl (· + ·) 0.0) else none) ∧
    ∀ before a b after, additions = before ++ a :: b :: after → a.Apart b → ∀ c type,
      ((addAll {} (before ++ b :: a :: after)).channel c).get? type
        = ((addAll {} additions).channel c).get? type := by
  refine ⟨fun c => ?_, fun c type => ?_, ?_⟩
  · rw [keys_channel_addAll, channel_empty, listedWith_eq]
    show [] ++ List.eraseDups (List.removeAll _ []) = _
    rw [List.removeAll_nil, List.nil_append]
  · rw [get?_channel_addAll, channel_empty, OrderedMap.get?_empty, foldl_plusTerm_none]
    by_cases htype : type ∈ additions.flatMap (·.typesIn c)
    · rw [if_pos htype, if_neg fun hnil => flatMap_valuesFor_eq_nil.1 hnil htype]
    · rw [if_neg htype, if_pos (flatMap_valuesFor_eq_nil.2 htype)]
  · rintro before a b after rfl happart c type
    -- one of the two adds nothing here, so the terms come in the same order
    have hterms : b.valuesFor c type ++ a.valuesFor c type
        = a.valuesFor c type ++ b.valuesFor c type := by
      rcases happart.valuesFor_eq_nil c type with hnil | hnil
      · rw [hnil, List.append_nil, List.nil_append]
      · rw [hnil, List.append_nil, List.nil_append]
    rw [get?_channel_addAll, get?_channel_addAll]
    simp only [List.flatMap_append, List.flatMap_cons]
    rw [← List.append_assoc (b.valuesFor c type), hterms, List.append_assoc]

/-- An amount of 2 for a text that names `YIELD_FOOD` twice, `YIELD_GOLD` once and a blank item. -/
def feast : Addition := ⟨.amount, some "YIELD_FOOD, ,YIELD_GOLD, YIELD_FOOD ", 2⟩

/-- 10 percent of `YIELD_FOOD`. -/
def fertility : Addition := ⟨.percent, some "YIELD_FOOD", 10⟩

/-- `feast` names `YIELD_FOOD` twice, so that it adds `2 + 2`; `fertility` may come before it or
after. -/
theorem feast_and_fertility :
    let after := addAll {} [feast, fertility]
    after.amount.keys = ["YIELD_FOOD", "YIELD_GOLD"] ∧
      after.amount.get? "YIELD_FOOD" = some (0.0 + 2 + 2) ∧
      feast.Apart fertility ∧ ∀ c type, ((addAll {} [fertility, feast]).channel c).get? type
        = (after.channel c).get? type := by
  intro after
  obtain ⟨hkeys, hsums, hexchange⟩ := channels_are_ordered_sums [feast, fertility]
  have happart : feast.Apart fertility := .inl nofun
  refine ⟨(hkeys .amount).trans (by decide), ?_, happart, ?_⟩
  · exact (hsums .amount "YIELD_FOOD").trans (if_pos (by decide))
  · exact hexchange [] feast fertility [] rfl happart

end Delta

end PolicyForecast
