import PolicyForecast.Table.Inference

/-!
# The library that tables are stored in

The types that this version finds for the values of other tables, the integers that it represents
and its casts make up a `TableStore`.
-/

namespace PolicyForecast

namespace Cell

variable {type : ColumnType} {cell : Cell}

theorem cast_null (type : ColumnType) : Cell.null.cast type = .null := by
  cases type <;> rfl

theorem cast_of_isOf (h : isOf type cell = true) : cell.cast type = cell := by
  unfold isOf at h
  split at h
  · rfl
  · rfl
  · rfl
  · exact if_pos h
  · cases h

end Cell

theorem IntegerRange.isSome_of?_of_word {n : Int} (h : word.contains n = true) :
    (of? n).isSome = true :=
  List.find?_isSome.2 ⟨.word, by simp, h⟩

theorem ColumnType.castsWhole_of_isPlain {own type : ColumnType} (hown : own.isPlain = true)
    (htype : type.isPlain = true) (h : type = .flag → own ≠ .text) :
    own.castsWhole type = true := by
  unfold castsWhole
  split
  · cases htype
  · cases htype
  · cases hown
  · exact absurd rfl (h rfl)
  · rfl
  · cases hown
  · rfl

/-- The library with the casts, the types and the limits of this version. -/
instance TableStore.standard : TableStore where
  represents n := (IntegerRange.of? n).isSome
  inferred := Table.inferred
  casts := ColumnType.castsWhole
  cast type cell := cell.cast type
  lowercase s := String.ofList (Text.lower s.toList)
  constantHeight := 1
  represents_of_word := IntegerRange.isSome_of?_of_word
  casts_of_isPlain := ColumnType.castsWhole_of_isPlain
  cast_null := Cell.cast_null
  cast_of_isOf := Cell.cast_of_isOf
  cast_flag_integer _ := rfl
  lowercase_eq_iff _ := by
    rw [← String.toList_inj, String.toList_ofList]
  constantHeight_eq_one := rfl

end PolicyForecast
