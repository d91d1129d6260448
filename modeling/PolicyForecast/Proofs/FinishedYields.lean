import PolicyForecast.Proofs.Rounding
import PolicyForecast.Proofs.Totals

/-!
# Yields type by type

A preview works out the totals of all types in three passes, and rounds them. What it says of one
type is nevertheless decided by what the channels have for this type and by its standing yield: the
passes give it its own total, and only a total that is infinite or not a number keeps a preview from
its yields. Main statement: `Delta.finalize_by_type`.
-/

namespace PolicyForecast

namespace Delta

variable {d : Delta} {standing : Baselines} {known : List String} {applyPercent : Bool}

instance : Decidable d.Distinct :=
  decidable_of_iff (d.amount.keys.Nodup ∧ d.percent.keys.Nodup ∧ d.noMultiplier.keys.Nodup)
    ⟨fun ⟨hamount, hpercent, hrest⟩ c => by cases c <;> assumption,
      fun hd => ⟨hd .amount, hd .percent, hd .noMultiplier⟩⟩

/-- The entries of `finalize`: the types in order, each with `roundHalfUp` of its `total`. -/
lemma entries_of_finalize_ok (hd : d.Distinct) {yields : List (String × Int)}
    (h : d.finalize standing known applyPercent = .ok yields) :
    yields.map Prod.fst = (d.types known).eraseDups ∧ ∀ type n, (type, n) ∈ yields →
      roundHalfUp (d.total standing applyPercent type) = .ok n := by
  rw [finalize_eq hd, mapError_eq_ok_iff] at h
  exact entries_of_mapM_ok h

/-- `finalize` fails iff a `total` is infinite or not a number. -/
lemma exists_finalize_error_iff (hd : d.Distinct) :
    (∃ fault, d.finalize standing known applyPercent = .error fault) ↔
      ∃ type ∈ d.types known, (d.total standing applyPercent type).isNaN = true ∨
        (d.total standing applyPercent type).isInf = true := by
  rw [exists_error_iff, exists_finalize_ok_iff hd]
  simp only [exists_roundHalfUp_ok_iff, not_forall, not_not, exists_prop]

/-- `totals` has no fault if the channels are `Distinct`. `finalize` lists the known types and then
those of the channels, each with `roundHalfUp` of its `total`, which depends only on what `Agree`
compares and on the standing yield. It fails iff a `total` is infinite or not a number. -/
theorem finalize_by_type (hd : d.Distinct) :
    (∃ totals, d.totals standing known applyPercent = .ok totals) ∧
    (∀ yields, d.finalize standing known applyPercent = .ok yields →
      yields.map Prod.fst = known.eraseDups
        ++ ((d.amount.keys ++ d.percent.keys ++ d.noMultiplier.keys).removeAll known).eraseDups ∧
      (∀ type n, (type, n) ∈ yields →
        roundHalfUp (d.total standing applyPercent type) = .ok n) ∧
      ∀ (d' : Delta) (standing' : Baselines) (known' : List String) (yields' : List (String × Int)),
        d'.Distinct → d'.finalize standing' known' applyPercent = .ok yields' →
        ∀ type, Agree type d d' → standing.getD type {} = standing'.getD type {} →
          ∀ n n', (type, n) ∈ yields → (type, n') ∈ yields' → n = n') ∧
    ((∃ fault, d.finalize standing known applyPercent = .error fault) ↔
      ∃ type, (type ∈ known ∨ ∃ c, type ∈ (d.channel c).keys) ∧
        ((d.total standing applyPercent type).isNaN = true ∨
          (d.total standing applyPercent type).isInf = true)) := by
  refine ⟨?_, fun yields hyields => ?_, ?_⟩
  · obtain ⟨totals, htotals, -⟩ := totals_spec hd
    exact ⟨totals, htotals⟩
  · obtain ⟨hkeys, hvalues⟩ := entries_of_finalize_ok hd hyields
    refine ⟨hkeys.trans (eraseDups_listedWith known _), hvalues, ?_⟩
    intro d' standing' known' yields' hd' hyields' type hagree hstanding n n' hn hn'
    -- both are rounded from the same total
    have hvalue := hvalues type n hn
    have hvalue' := (entries_of_finalize_ok hd' hyields').2 type n' hn'
    rw [hagree.total_eq hstanding, hvalue'] at hvalue
    exact (Except.ok.inj hvalue).symm
  · rw [exists_finalize_error_iff hd]
    exact exists_congr fun type => and_congr_left' mem_types

/-- A delta with food and gold, percentages of food and culture, and gold that is not multiplied. -/
def harvest : Delta where
  amount := ⟨[("YIELD_FOOD", 3), ("YIELD_GOLD", 1.5)]⟩
  percent := ⟨[("YIELD_FOOD", 50), ("YIELD_CULTURE", 25)]⟩
  noMultiplier := ⟨[("YIELD_GOLD", -4)]⟩

/-- A delta with the food of `harvest` and its percentage, and with happiness. -/
def forage : Delta where
  amount := ⟨[("YIELD_HAPPINESS", 7), ("YIELD_FOOD", 3)]⟩
  percent := ⟨[("YIELD_FOOD", 50)]⟩

/-- Standing food of 10, to which 20 percent apply. -/
def granary : Baselines :=
  ⟨[("YIELD_FOOD", { amount := 10, percent := 20 })]⟩

/-- `harvest` and `forage` `Agree` on `YIELD_FOOD`, of which both give 10 over `granary`. -/
theorem harvest_and_forage :
    harvest.Distinct ∧ forage.Distinct ∧ Agree "YIELD_FOOD" harvest forage ∧
    harvest.finalize granary ["YIELD_SCIENCE", "YIELD_FOOD", "YIELD_SCIENCE"] true
      = .ok [("YIELD_SCIENCE", 0), ("YIELD_FOOD", 10), ("YIELD_GOLD", -2), ("YIELD_CULTURE", 0)] ∧
    (forage.finalize granary [] true).toBool = true ∧
    ∀ yields, forage.finalize granary [] true = .ok yields →
      ∀ n, ("YIELD_FOOD", n) ∈ yields → n = 10 := by
  have hharvest : harvest.finalize granary ["YIELD_SCIENCE", "YIELD_FOOD", "YIELD_SCIENCE"] true
      = .ok [("YIELD_SCIENCE", 0), ("YIELD_FOOD", 10), ("YIELD_GOLD", -2),
          ("YIELD_CULTURE", 0)] := by
    rw [finalize_eq (by decide), mapError_eq_ok_iff]
    decide +kernel
  have hagree : Agree "YIELD_FOOD" harvest forage := by
    intro c
    cases c <;> rfl
  refine ⟨by decide, by decide, hagree, hharvest, by decide +kernel, ?_⟩
  intro yields hyields n hn
  obtain ⟨-, hfinished, -⟩ := finalize_by_type (d := harvest) (by decide)
  have halone := (hfinished _ hharvest).2.2 forage granary [] yields (by decide) hyields
  exact (halone "YIELD_FOOD" hagree rfl 10 n (by simp) hn).symm

end Delta

end PolicyForecast
