import PolicyForecast.Proofs.Selection
import PolicyForecast.Preview.Savings

/-!
# What groups of units say

The groups of some units are those of their types, in the order in which the types first appear. A
group counts the units of its type, adds up what they cost in the order of the units, and says what
the rules say of the type: the domain and the tags (`UnitGroup.StandsFor`). A group that a modifier
concerns is therefore one whose units it concerns one by one. The units can be grouped if the
maintenance of each has a double. Main statements: `UnitGroup.ofUnits_of_priced`,
`UnitGroup.ofUnits_of_unpriced`.
-/

namespace PolicyForecast

lemma Quantity.eq_tooLarge_of_toFloat? {q : Quantity} {fault : NumberFault}
    (h : q.toFloat? = .error fault) : fault = .tooLarge := by
  cases q with
  | real x => cases h
  | whole n => exact Exact.eq_tooLarge_of_ofInt? h

lemma eraseDups_concat {α : Type} [BEq α] [LawfulBEq α] (types : List α) (type : α) :
    (types ++ [type]).eraseDups
      = if types.eraseDups.contains type then types.eraseDups else types.eraseDups ++ [type] := by
  rw [List.eraseDups_append, List.removeAll]
  by_cases h : type ∈ types
  · have hlisted : type ∈ types.eraseDups := List.mem_eraseDups.2 h
    simp [h, hlisted]
  · have hnew : type ∉ types.eraseDups := fun hmem => h (List.mem_eraseDups.1 hmem)
    simp [h, hnew, List.eraseDups_cons]

namespace UnitGroup

variable {answers : Answers} {g : UnitGroup} {u : GameUnit} {units : List GameUnit}
  {type : Option String}

/-- The maintenance of a unit has a double. -/
def Priced (u : GameUnit) : Prop :=
  ∃ cost, u.maintenance.toFloat? = .ok cost

/-- The units of one type. -/
def ofType (units : List GameUnit) (type : Option String) : List GameUnit :=
  units.filter (·.unitType == type)

/-- What units cost, added up in their order from zero. -/
def totalCost (units : List GameUnit) : Except NumberFault Float :=
  units.foldlM (fun total u => (total + ·) <$> u.maintenance.toFloat?) 0.0

/-- A group is that of the units of a type, and says of the type what the answers say. -/
structure StandsFor (answers : Answers) (units : List GameUnit) (type : Option String)
    (g : UnitGroup) : Prop where
  unitType : g.unitType = type
  domain : g.domain = answers (.unitDomain type)
  tags : g.tags = answers (.lookUp .tagsOfType type)
  count : g.count = (ofType units type).length
  maintenance : ∃ cost, totalCost (ofType units type) = .ok cost ∧ g.maintenance = .real cost

/-- `isTargetOf` of a group is that of its type without units. -/
lemma StandsFor.isTargetOf_eq (h : g.StandsFor answers units type) (m : Modifier) :
    g.isTargetOf m = ((none type).given answers).2.isTargetOf m := by
  have hdomain : ((none type).given answers).2.domain = g.domain := h.domain.symm
  have htags : ((none type).given answers).2.tags = g.tags := h.tags.symm
  rw [isTargetOf, isTargetOf, hdomain, htags]

/-! ## One unit more -/

lemma ofType_concat_self (units : List GameUnit) (u : GameUnit) :
    ofType (units ++ [u]) u.unitType = ofType units u.unitType ++ [u] := by
  simp [ofType]

lemma ofType_concat_of_ne (units : List GameUnit) (h : type ≠ u.unitType) :
    ofType (units ++ [u]) type = ofType units type := by
  simp [ofType, Ne.symm h]

lemma standsFor_none (h : type ∉ units.map GameUnit.unitType) :
    ((none type).given answers).2.StandsFor answers units type := by
  have hnone : ofType units type = [] := by
    refine List.filter_eq_nil_iff.2 fun u hu htype => h ?_
    rw [← eq_of_beq htype]
    exact List.mem_map_of_mem hu
  refine ⟨rfl, rfl, rfl, ?_, 0.0, ?_, rfl⟩
  · rw [hnone]
    rfl
  · rw [hnone]
    rfl

lemma StandsFor.other (h : g.StandsFor answers units type) (hne : type ≠ u.unitType) :
    g.StandsFor answers (units ++ [u]) type := by
  obtain ⟨htype, hdomain, htags, hcount, hmaintenance⟩ := h
  rw [← ofType_concat_of_ne units hne] at hcount hmaintenance
  exact ⟨htype, hdomain, htags, hcount, hmaintenance⟩

/-- `add` of a unit of the type, whose maintenance has a double, to the group that `StandsFor`
it. -/
lemma StandsFor.add (h : g.StandsFor answers units u.unitType) {price : Float}
    (hprice : u.maintenance.toFloat? = .ok price) :
    ∃ g', g.add u = .ok g' ∧ g'.StandsFor answers (units ++ [u]) u.unitType := by
  obtain ⟨htype, hdomain, htags, hcount, cost, hcost, hmaintenance⟩ := h
  have hadd :
      g.add u = .ok { g with count := g.count + 1, maintenance := .real (cost + price) } := by
    rw [UnitGroup.add, hmaintenance, hprice]
    rfl
  have htotal : totalCost (ofType (units ++ [u]) u.unitType) = .ok (cost + price) := by
    have hconcat : totalCost (ofType units u.unitType ++ [u])
        = totalCost (ofType units u.unitType) >>= fun total =>
          [u].foldlM (fun total u => (total + ·) <$> u.maintenance.toFloat?) total :=
      List.foldlM_append
    rw [ofType_concat_self, hconcat, hcost]
    show [u].foldlM (fun total u => (total + ·) <$> u.maintenance.toFloat?) cost = _
    rw [List.foldlM_cons, hprice]
    rfl
  refine ⟨_, hadd, htype, hdomain, htags, ?_, _, htotal, rfl⟩
  rw [ofType_concat_self, List.length_append, ← hcount]
  rfl

/-! ## All units -/

variable {groups : OrderedMap (Option String) UnitGroup}

/-- The groups of some units by type. -/
structure Grouping (answers : Answers) (units : List GameUnit)
    (groups : OrderedMap (Option String) UnitGroup) : Prop where
  keys : groups.keys = (units.map GameUnit.unitType).eraseDups
  nodup : groups.keys.Nodup
  facts : ∀ type g, groups.get? type = some g → g.StandsFor answers units type

lemma grouping_empty (answers : Answers) : Grouping answers [] ∅ where
  keys := rfl
  nodup := List.nodup_nil
  facts _ _ hfound := nomatch hfound

lemma Grouping.find (h : Grouping answers units groups) (type : Option String) :
    ((UnitGroup.find groups type).given answers).2.StandsFor answers units type := by
  unfold UnitGroup.find
  cases hfound : groups.get? type with
  | some g => exact h.facts type g hfound
  | none =>
    refine standsFor_none fun hmem => ?_
    -- a type of some unit is a key, and keys are found
    rw [← List.mem_eraseDups, ← h.keys] at hmem
    obtain ⟨entry, hentry, rfl⟩ := List.mem_map.1 hmem
    have hsome := lookup_of_mem h.nodup hentry
    rw [OrderedMap.get?, hsome] at hfound
    cases hfound

lemma result_addTo (answers : Answers) (groups : OrderedMap (Option String) UnitGroup)
    (u : GameUnit) :
    ((addTo groups u).given answers).result =
      ((((UnitGroup.find groups u.unitType).given answers).2.add u).mapError .number).map
        (groups.insert u.unitType) := by
  have hfind : ((addTo groups u).given answers).result =
      ((Evaluation.ofNumber (((UnitGroup.find groups u.unitType).given answers).2.add u)
        >>= fun group => pure (groups.insert u.unitType group)).given answers).result := by
    show ((Evaluation.ofConsulting (UnitGroup.find groups u.unitType) >>= _).given answers).result
      = _
    rw [Evaluation.given_bind, Evaluation.given_ofConsulting, Recorded.result_bind]
    rfl
  rw [hfind]
  cases ((UnitGroup.find groups u.unitType).given answers).2.add u <;> rfl

/-- `addTo` of a unit that is not `Priced` is `tooLarge`. -/
lemma Grouping.addTo_of_unpriced (h : Grouping answers units groups) {fault : NumberFault}
    (hfault : u.maintenance.toFloat? = .error fault) :
    ((addTo groups u).given answers).result = .error (.number .tooLarge) := by
  obtain ⟨cost, -, hcost⟩ := (h.find u.unitType).maintenance
  have hadd : ((UnitGroup.find groups u.unitType).given answers).2.add u = .error .tooLarge := by
    rw [add, hcost, hfault, Quantity.eq_tooLarge_of_toFloat? hfault]
    rfl
  rw [result_addTo, hadd]
  rfl

/-- `addTo` of a unit that is `Priced` keeps `Grouping`. -/
lemma Grouping.addTo_of_priced (h : Grouping answers units groups) (hpriced : Priced u) :
    ∃ groups', ((addTo groups u).given answers).result = .ok groups' ∧
      Grouping answers (units ++ [u]) groups' := by
  obtain ⟨price, hprice⟩ := hpriced
  obtain ⟨g, hadd, hg⟩ := (h.find u.unitType).add hprice
  refine ⟨groups.insert u.unitType g, by rw [result_addTo, hadd]; rfl, ?_, ?_, ?_⟩
  · rw [OrderedMap.keys_insert, h.keys, List.map_append, List.map_singleton, eraseDups_concat]
  · exact OrderedMap.nodup_keys_insert h.nodup _ _
  · intro type g' hfound
    rw [OrderedMap.get?_insert] at hfound
    split at hfound
    next hsame =>
      obtain rfl := eq_of_beq hsame
      exact Option.some.inj hfound ▸ hg
    next hother => exact (h.facts type g' hfound).other (by simpa using hother)

lemma result_foldlM_cons (answers : Answers) (groups : OrderedMap (Option String) UnitGroup)
    (u : GameUnit) (units : List GameUnit) :
    (((u :: units).foldlM addTo groups : Evaluation _).given answers).result =
      ((addTo groups u).given answers).result >>= fun groups' =>
        ((units.foldlM addTo groups' : Evaluation _).given answers).result := by
  rw [List.foldlM_cons, Evaluation.given_bind, Recorded.result_bind]

lemma Grouping.foldlM_of_priced {more : List GameUnit} (h : Grouping answers units groups)
    (hpriced : ∀ u ∈ more, Priced u) :
    ∃ groups', ((more.foldlM addTo groups : Evaluation _).given answers).result = .ok groups' ∧
      Grouping answers (units ++ more) groups' := by
  induction more generalizing units groups with
  | nil => exact ⟨groups, rfl, by rwa [List.append_nil]⟩
  | cons u rest ih =>
    rw [List.forall_mem_cons] at hpriced
    obtain ⟨groups', hadded, hgrouping⟩ := h.addTo_of_priced hpriced.1
    obtain ⟨groups'', hrest, hall⟩ := ih hgrouping hpriced.2
    rw [List.append_assoc] at hall
    refine ⟨groups'', ?_, hall⟩
    rw [result_foldlM_cons, hadded]
    exact hrest

lemma Grouping.foldlM_of_unpriced {more : List GameUnit} (h : Grouping answers units groups)
    (hunpriced : ∃ u ∈ more, ¬ Priced u) :
    ((more.foldlM addTo groups : Evaluation _).given answers).result
      = .error (.number .tooLarge) := by
  induction more generalizing units groups with
  | nil => simp at hunpriced
  | cons u rest ih =>
    rw [result_foldlM_cons]
    cases hprice : u.maintenance.toFloat? with
    | error fault =>
      rw [h.addTo_of_unpriced hprice]
      rfl
    | ok price =>
      obtain ⟨groups', hadded, hgrouping⟩ := h.addTo_of_priced ⟨price, hprice⟩
      obtain ⟨u', hmem, hu'⟩ := hunpriced
      rcases List.mem_cons.1 hmem with rfl | hrest
      · exact absurd ⟨price, hprice⟩ hu'
      · rw [hadded]
        exact ih hgrouping ⟨u', hrest, hu'⟩

lemma result_ofUnits (answers : Answers) (units : List GameUnit) :
    ((ofUnits units).given answers).result =
      ((units.foldlM addTo ∅ : Evaluation _).given answers).result.map OrderedMap.values := by
  rw [ofUnits, Evaluation.given_bind, Recorded.result_bind]
  cases ((units.foldlM addTo ∅ : Evaluation _).given answers).result <;> rfl

/-- The groups, in the order of their types. -/
lemma Grouping.values (h : Grouping answers units groups) :
    List.Forall₂ (StandsFor answers units) (units.map GameUnit.unitType).eraseDups
      groups.values := by
  rw [← h.keys, OrderedMap.keys, OrderedMap.values, List.forall₂_map_left_iff,
    List.forall₂_map_right_iff, List.forall₂_same]
  exact fun entry hentry => h.facts _ _ (lookup_of_mem h.nodup hentry)

/-- Some group `isTargetOf` a modifier iff some unit is. -/
lemma Grouping.exists_isTargetOf_iff (h : Grouping answers units groups) (m : Modifier) :
    (∃ g ∈ groups.values, g.isTargetOf m = true) ↔
      ∃ u ∈ units, ((single u).given answers).2.isTargetOf m = true := by
  have hmem (type : Option String) : type ∈ groups.keys ↔ type ∈ units.map GameUnit.unitType := by
    rw [h.keys, List.mem_eraseDups]
  have hfacts {entry} (hentry : entry ∈ groups.entries) :
      entry.2.StandsFor answers units entry.1 := h.facts _ _ (lookup_of_mem h.nodup hentry)
  constructor
  · rintro ⟨g, hg, htarget⟩
    obtain ⟨⟨type, _⟩, hentry, rfl⟩ := List.mem_map.1 hg
    obtain ⟨u, hu, rfl⟩ := List.mem_map.1 ((hmem type).1 (List.mem_map_of_mem hentry))
    exact ⟨u, hu, ((hfacts hentry).isTargetOf_eq m).symm.trans htarget⟩
  · rintro ⟨u, hu, htarget⟩
    obtain ⟨⟨_, g⟩, hentry, rfl⟩ := List.mem_map.1 ((hmem u.unitType).2 (List.mem_map_of_mem hu))
    exact ⟨g, List.mem_map_of_mem hentry, ((hfacts hentry).isTargetOf_eq m).trans htarget⟩

/-- `ofUnits` of units that are all `Priced`: a group that `StandsFor` each type, and some group
`isTargetOf` a modifier iff some unit is. -/
theorem ofUnits_of_priced (answers : Answers) (hpriced : ∀ u ∈ units, Priced u) :
    ∃ groups, ((ofUnits units).given answers).result = .ok groups ∧
      List.Forall₂ (StandsFor answers units) (units.map GameUnit.unitType).eraseDups groups ∧
      ∀ m : Modifier, (∃ g ∈ groups, g.isTargetOf m = true) ↔
        ∃ u ∈ units, ((single u).given answers).2.isTargetOf m = true := by
  obtain ⟨groups, hgroups, hgrouping⟩ := (grouping_empty answers).foldlM_of_priced hpriced
  exact ⟨groups.values, by rw [result_ofUnits, hgroups]; rfl, hgrouping.values,
    hgrouping.exists_isTargetOf_iff⟩

/-- `ofUnits` is `tooLarge` if a unit is not `Priced`. -/
theorem ofUnits_of_unpriced (answers : Answers) (hunpriced : ∃ u ∈ units, ¬ Priced u) :
    ((ofUnits units).given answers).result = .error (.number .tooLarge) := by
  rw [result_ofUnits, (grouping_empty answers).foldlM_of_unpriced hunpriced]
  rfl

end UnitGroup

end PolicyForecast
