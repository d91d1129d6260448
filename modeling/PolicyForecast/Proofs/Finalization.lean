import Mathlib.Data.List.Nodup
import PolicyForecast.Proofs.Sequences
import PolicyForecast.Yield.Total

/-!
# Three passes and one type at a time

The totals of all types are worked out together, in three passes over one map. Here they are read
type by type: a pass touches a type at most once and finds a total there, so that after the passes
every type has what the channels have for it, and nothing that they have for other types
(`Delta.total`). Main statement: `Delta.finalize_eq`.
-/

namespace PolicyForecast

variable {type : String} {types others : List String}

/-! ## Lists without repetitions -/

lemma listedWith_eq (types others : List String) :
    listedWith types others = types ++ (others.removeAll types).eraseDups := by
  induction others generalizing types with
  | nil => exact (List.append_nil types).symm
  | cons t rest ih =>
    show listedWith (if types.contains t then types else types ++ [t]) rest = _
    rw [List.cons_removeAll]
    by_cases ht : types.contains t = true
    · rw [if_pos ht, if_neg (by rw [ht]; simp), ih]
    · have hnew : types.contains t = false := by simpa using ht
      have hremoved : rest.removeAll (types ++ [t])
          = (rest.removeAll types).filter fun other => !other == t := by
        unfold List.removeAll
        rw [List.filter_filter]
        refine List.filter_congr fun other _ => ?_
        by_cases hother : other = t
        · simp [hother]
        · simp [hother]
      rw [if_neg ht, if_pos hnew, ih, List.eraseDups_cons, hremoved, List.append_assoc]
      rfl

lemma mem_listedWith : type ∈ listedWith types others ↔ type ∈ types ∨ type ∈ others := by
  rw [listedWith_eq, List.mem_append, List.mem_eraseDups, List.removeAll, List.mem_filter]
  by_cases h : type ∈ types <;> simp [h]

lemma nodup_listedWith (h : types.Nodup) (others : List String) :
    (listedWith types others).Nodup := by
  induction others generalizing types with
  | nil => exact h
  | cons t rest ih =>
    show (listedWith (if types.contains t then types else types ++ [t]) rest).Nodup
    split
    · exact ih h
    next hnew =>
      rw [List.contains_iff_mem] at hnew
      exact ih (List.concat_eq_append ▸ h.concat hnew)

lemma nodup_eraseDups (types : List String) : types.eraseDups.Nodup := by
  have h := nodup_listedWith List.nodup_nil types
  rwa [listedWith_eq, List.removeAll_nil, List.nil_append] at h

lemma eraseDups_of_nodup (h : types.Nodup) : types.eraseDups = types := by
  induction types with
  | nil => rfl
  | cons t rest ih =>
    obtain ⟨hnew, hrest⟩ := List.nodup_cons.1 h
    have hkept : rest.filter (fun other => !other == t) = rest := by
      rw [List.filter_eq_self]
      intro other hother
      have hne : other ≠ t := fun heq => hnew (heq ▸ hother)
      simp [hne]
    rw [List.eraseDups_cons, hkept, ih hrest]

/-- `listedWith` adds the types that are not listed yet. -/
lemma eraseDups_listedWith (types others : List String) :
    (listedWith types others).eraseDups
      = types.eraseDups ++ (others.removeAll types).eraseDups := by
  have hremoved : (others.removeAll types).eraseDups.removeAll types
      = (others.removeAll types).eraseDups := by
    unfold List.removeAll
    rw [List.filter_eq_self]
    intro other hother
    exact (List.mem_filter.1 (List.mem_eraseDups.1 hother)).2
  rw [listedWith_eq, List.eraseDups_append, hremoved, eraseDups_of_nodup (nodup_eraseDups _)]

/-! ## Maps by their keys -/

namespace OrderedMap

variable {υ : Type} {m : OrderedMap String υ}

lemma keys_foldl_insert (m : OrderedMap String υ) (pairs : List (String × υ)) :
    (pairs.foldl (fun m p => m.insert p.1 p.2) m).keys
      = listedWith m.keys (pairs.map Prod.fst) := by
  induction pairs generalizing m with
  | nil => rfl
  | cons p rest ih =>
    rw [List.foldl_cons, ih, keys_insert]
    rfl

/-- The keys of `ofList` are those of the pairs, without repetitions. -/
lemma keys_ofList (pairs : List (String × υ)) :
    (ofList pairs).keys = (pairs.map Prod.fst).eraseDups := by
  rw [ofList, keys_foldl_insert, listedWith_eq]
  show [] ++ ((pairs.map Prod.fst).removeAll []).eraseDups = _
  rw [List.removeAll_nil, List.nil_append]

lemma isSome_get?_iff_mem_keys : (m.get? type).isSome = true ↔ type ∈ m.keys := by
  unfold get? keys
  rw [List.lookup_isSome_iff, List.mem_map]
  exact exists_congr fun entry => and_congr_right fun _ => beq_iff_eq.trans eq_comm

/-- The entries of a map whose keys are distinct, as a function of the keys. -/
lemma entries_eq_map {f : String → υ} (hkeys : m.keys.Nodup)
    (h : ∀ type ∈ m.keys, m.get? type = some (f type)) :
    m.entries = m.keys.map fun type => (type, f type) := by
  have hentry : ∀ entry ∈ m.entries, entry = (entry.1, f entry.1) := by
    intro (key, value) hmem
    have hvalue : m.get? key = some value := lookup_of_mem hkeys hmem
    rw [h key (List.mem_map_of_mem hmem)] at hvalue
    rw [Option.some.inj hvalue]
  calc m.entries = m.entries.map id := (List.map_id _).symm
    _ = m.entries.map fun entry => (entry.1, f entry.1) := List.map_congr_left hentry
    _ = m.keys.map fun type => (type, f type) := by rw [keys, List.map_map]; rfl

lemma get?_ofList_map (f : String → υ) {keys : List String} (h : type ∈ keys) :
    (ofList (keys.map fun type => (type, f type))).get? type = some (f type) := by
  -- the pairs with the key are all the same one
  have hsame : ∀ pair ∈ (keys.map fun type => (type, f type)).filter (type == ·.1),
      pair.2 = f type := by
    intro pair hpair
    obtain ⟨hmem, hkey⟩ := List.mem_filter.1 hpair
    obtain ⟨key, -, rfl⟩ := List.mem_map.1 hmem
    rw [eq_of_beq hkey]
  have hmem : (type, f type) ∈ (keys.map fun type => (type, f type)).filter (type == ·.1) :=
    List.mem_filter.2 ⟨List.mem_map_of_mem h, beq_self_eq_true type⟩
  have hne := List.ne_nil_of_mem hmem
  rw [get?_ofList, List.getLast?_eq_some_getLast hne, Option.map_some,
    hsame _ (List.getLast_mem hne)]

end OrderedMap

/-! ## A pass over the totals -/

/-- A total and what is added to it, if anything is. -/
def plusAny (total : Float) (added : Option Float) : Float :=
  added.elim total (total + ·)

namespace Sums

variable {totals : Sums} {raises : List (String × Float)}

/-- `raise` of a type with a total. -/
lemma raise_of_get? {total : Float} (h : totals.get? type = some total) (value : Float) :
    totals.raise type value = .ok (totals.insert type (total + value)) := by
  unfold raise
  rw [h]

/-- `raiseAll` over distinct types with totals keeps the keys and adds to each total the value for
its type. -/
lemma raiseAll_spec (hraises : (raises.map Prod.fst).Nodup)
    (hmem : ∀ type ∈ raises.map Prod.fst, type ∈ totals.keys) :
    ∃ raised, totals.raiseAll raises = .ok raised ∧ raised.keys = totals.keys ∧
      ∀ type, raised.get? type = (totals.get? type).map (plusAny · (raises.lookup type)) := by
  induction raises generalizing totals with
  | nil => exact ⟨totals, rfl, rfl, fun type => Option.map_id'.symm⟩
  | cons raise rest ih =>
    obtain ⟨first, value⟩ := raise
    rw [List.map_cons, List.nodup_cons] at hraises
    rw [List.map_cons, List.forall_mem_cons] at hmem
    obtain ⟨total, htotal⟩ :=
      Option.isSome_iff_exists.1 (OrderedMap.isSome_get?_iff_mem_keys.2 hmem.1)
    have hkeys : (totals.insert first (total + value)).keys = totals.keys := by
      rw [OrderedMap.keys_insert, if_pos (List.contains_iff_mem.2 hmem.1)]
    obtain ⟨raised, hraised, hraisedKeys, hget⟩ := ih hraises.2 (hkeys.symm ▸ hmem.2)
    refine ⟨raised, ?_, hraisedKeys.trans hkeys, fun type => ?_⟩
    · unfold raiseAll
      rw [List.foldlM_cons, raise_of_get? htotal]
      exact hraised
    rw [hget, OrderedMap.get?_insert, List.lookup_cons]
    by_cases heq : type = first
    · -- the rest of the pass does not come back to it
      subst heq
      rw [beq_self_eq_true, if_pos rfl, lookup_of_not_mem hraises.1, htotal]
      rfl
    · rw [beq_false_of_ne heq, if_neg Bool.false_ne_true]

end Sums

/-! ## The passes of a preview -/

namespace Delta

variable {d : Delta} {standing : Baselines} {known : List String} {applyPercent : Bool}

/-- The total of one yield type before rounding. -/
def total (d : Delta) (standing : Baselines) (applyPercent : Bool) (type : String) : Float :=
  let flat := d.amount.getD type 0.0
  let base := standing.getD type {}
  let sum := if applyPercent then flat * (1.0 + base.percent / 100.0) else flat
  let sum :=
    match d.percent.get? type with
    | some percent => sum + (base.amount + flat) * (percent / 100.0)
    | none => sum
  match d.noMultiplier.get? type with
  | some amount => sum + amount
  | none => sum

/-- Every channel has at most one sum for a type. -/
def Distinct (d : Delta) : Prop :=
  ∀ c, (d.channel c).keys.Nodup

/-- `total` is the sum of the flat amount, the `share` of the percentage and the amount without
multiplier, in this order. -/
lemma total_eq : d.total standing applyPercent type
    = plusAny (plusAny (d.flat standing applyPercent type)
        ((d.percent.get? type).map (d.share standing type))) (d.noMultiplier.get? type) := by
  unfold total
  cases d.percent.get? type <;> cases d.noMultiplier.get? type <;> rfl

lemma mem_types : type ∈ d.types known ↔ type ∈ known ∨ ∃ c, type ∈ (d.channel c).keys := by
  have hchannels : (∃ c, type ∈ (d.channel c).keys) ↔
      type ∈ d.amount.keys ∨ type ∈ d.percent.keys ∨ type ∈ d.noMultiplier.keys := by
    constructor
    · rintro ⟨_ | _ | _, h⟩
      · exact .inl h
      · exact .inr (.inl h)
      · exact .inr (.inr h)
    · rintro (h | h | h)
      · exact ⟨.amount, h⟩
      · exact ⟨.percent, h⟩
      · exact ⟨.noMultiplier, h⟩
  rw [types, mem_listedWith, hchannels, List.mem_append, List.mem_append, or_assoc]

/-- `totals` has no fault, and its entries are the types with their `total`. -/
lemma totals_spec (hd : d.Distinct) : ∃ totals,
    d.totals standing known applyPercent = .ok totals ∧
      totals.entries
        = (d.types known).eraseDups.map fun type => (type, d.total standing applyPercent type) := by
  have hflatKeys : (OrderedMap.ofList ((d.types known).map fun type =>
      (type, d.flat standing applyPercent type))).keys = (d.types known).eraseDups := by
    rw [OrderedMap.keys_ofList, List.map_map]
    exact congrArg List.eraseDups (List.map_id _)
  have hlisted : ∀ c, ∀ type ∈ (d.channel c).keys, type ∈ (d.types known).eraseDups :=
    fun c type h => List.mem_eraseDups.2 (mem_types.2 (.inr ⟨c, h⟩))
  have hshareKeys : (d.percent.entries.map fun p => (p.1, d.share standing p.1 p.2)).map Prod.fst
      = d.percent.keys := by
    rw [List.map_map]
    rfl
  -- the pass of the shares
  obtain ⟨shared, hshared, hsharedKeys, hsharedGet⟩ := Sums.raiseAll_spec
    (hshareKeys.symm ▸ hd .percent) (hshareKeys.symm ▸ hflatKeys.symm ▸ hlisted .percent)
  -- the pass of what no percentage touches
  obtain ⟨totals, htotals, htotalsKeys, htotalsGet⟩ := Sums.raiseAll_spec
    (hd .noMultiplier) ((hsharedKeys.trans hflatKeys).symm ▸ hlisted .noMultiplier)
  have hkeys := (htotalsKeys.trans hsharedKeys).trans hflatKeys
  refine ⟨totals, ?_, ?_⟩
  · unfold Delta.totals
    dsimp only
    rw [hshared]
    exact htotals
  rw [← hkeys]
  refine OrderedMap.entries_eq_map (hkeys ▸ nodup_eraseDups _) fun type htype => ?_
  rw [hkeys, List.mem_eraseDups] at htype
  rw [htotalsGet, hsharedGet, OrderedMap.get?_ofList_map _ htype,
    lookup_map_value (d.share standing)]
  exact congrArg some total_eq.symm

/-- `finalize` is `roundHalfUp` of the `total` of each type. -/
theorem finalize_eq (hd : d.Distinct) : d.finalize standing known applyPercent
    = ((d.types known).eraseDups.mapM fun type =>
        return (type, ← roundHalfUp (d.total standing applyPercent type))).mapError
          Fault.number := by
  obtain ⟨totals, htotals, hentries⟩ := totals_spec hd
  unfold finalize
  rw [htotals]
  show (rounded totals.entries).mapError Fault.number = _
  rw [hentries, rounded, List.mapM_map]
  rfl

/-- A fault of `finalize` is a number fault. -/
lemma exists_number_of_finalize_error (hd : d.Distinct) {fault : Fault}
    (h : d.finalize standing known applyPercent = .error fault) :
    ∃ number : NumberFault, fault = .number number := by
  rw [finalize_eq hd] at h
  exact exists_of_mapError_eq_error h

end Delta

end PolicyForecast
