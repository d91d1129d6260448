import PolicyForecast.Proofs.Sequences
import PolicyForecast.Table.Coercion

/-!
# What a known table is cast to

The values of a table are first all brought to the types of their columns and then all stored, and
at the end integers beyond 64 bits are found. As far as the table that comes of it goes, every cell
may be taken on its own: `Cell.cast?` says what a value is cast to in a column, and a table is cast
when each row is an object and each of its values is (`Table.toOption_ofJson`).

Which fault a table has depends on the order. It is out of range, rather than unreadable, where the
first value that cannot be brought to its type is too large for any representation, or where all
values can and the first that cannot be stored is an integer that the store does not represent
(`Table.ofJson_eq_outOfRange`). Of the store no more is used than that it represents integers of 64
bits.
-/

namespace PolicyForecast

namespace Cell

variable {type : ColumnType} {value : Json}

/-! ## One value -/

/-- The cell that a value is cast to in a column, if there is one: its text, the integer of 64 bits
or the double that it stands for, or its flag. -/
def cast? (type : ColumnType) : Json → Option Cell
  | .null => some .null
  | value =>
    match type with
    | .text => if value.isWritable then (textOf? value).map .text else none
    | .integer _ =>
      ((integerOf value).toOption.filter fun n => IntegerRange.word.contains n).map .integer
    | .real => (realOf value).toOption.map .real
    | .flag => some (.flag (flagOf value))
    | .list _ | .record _ | .untyped => some .null

/-- A value brought to the type of its column and stored. -/
def taken [TableStore] (type : ColumnType) (value : Json) : Except TableFault Cell :=
  coerce type value >>= stored

/-- A value that can be brought to the type of its column. -/
def Reads (type : ColumnType) (value : Json) : Prop :=
  ∃ cell, coerce type value = .ok cell

/-- A value that can also be stored. -/
def Stores [TableStore] (type : ColumnType) (value : Json) : Prop :=
  ∃ cell, taken type value = .ok cell

/-- A number that its column has no representation for: an integer beyond the largest double in a
column of doubles, or an infinite double in a column of integers. -/
inductive TooLarge : ColumnType → Json → Prop where
  | integer {n : Int} (h : (Float.ofInt n).isInf = true) : TooLarge .real (.int n)
  | infinity {range : IntegerRange} {x : Float} {sign : Float.Model.UnpackedFloat.Sign}
      (h : unpacked x = .infinity sign) : TooLarge (.integer range) (.float x)

/-- A value for an integer that is not represented. -/
def Oversized [TableStore] (type : ColumnType) (value : Json) : Prop :=
  ∃ n, coerce type value = .ok (some (.integer n)) ∧ TableStore.represents n = false

lemma coerce_of_ne_null (h : value ≠ .null) :
    coerce type value = match type with
      | .text => if value.isWritable then .ok ((textOf? value).map .text) else .error .unreadable
      | .integer _ => (integerOf value).map fun n => some (.integer n)
      | .real => (realOf value).map fun x => some (.real x)
      | .flag => .ok (some (.flag (flagOf value)))
      | .list _ | .record _ | .untyped => .ok (some .null) := by
  cases value <;> first | rfl | exact absurd rfl h

lemma cast?_of_ne_null (h : value ≠ .null) :
    cast? type value = match type with
      | .text => if value.isWritable then (textOf? value).map .text else none
      | .integer _ =>
        ((integerOf value).toOption.filter fun n => IntegerRange.word.contains n).map .integer
      | .real => (realOf value).toOption.map .real
      | .flag => some (.flag (flagOf value))
      | .list _ | .record _ | .untyped => some .null := by
  cases value <;> first | rfl | exact absurd rfl h

lemma stored_integer [TableStore] (n : Int) :
    stored (some (.integer n))
      = if TableStore.represents n then .ok (.integer n) else .error .outOfRange := rfl

/-- `cast?` is `taken` if the cell `fits` into 64 bits. -/
lemma cast?_eq [TableStore] : cast? type value = (taken type value).toOption.filter fits := by
  by_cases hnull : value = .null
  · subst hnull
    rfl
  unfold taken
  rw [cast?_of_ne_null hnull, coerce_of_ne_null hnull]
  cases type with
  | text => cases value.isWritable <;> cases textOf? value <;> rfl
  | integer range =>
    cases integerOf value with
    | error fault => rfl
    | ok n =>
      show ((some n).filter fun n => IntegerRange.word.contains n).map integer
        = (stored (some (.integer n))).toOption.filter fits
      rw [Option.filter_some, stored_integer]
      by_cases hword : IntegerRange.word.contains n = true
      · rw [if_pos hword, if_pos (TableStore.represents_of_word hword)]
        exact (if_pos hword).symm
      · -- an integer beyond 64 bits is not stored, or does not fit after it is
        rw [if_neg hword]
        cases TableStore.represents n with
        | false => rfl
        | true => exact (if_neg hword).symm
  | real => cases realOf value <;> rfl
  | flag => rfl
  | list item => rfl
  | record fields => rfl
  | untyped => rfl

/-! ## Numbers out of range -/

lemma integerOf_eq_outOfRange :
    integerOf value = .error .outOfRange
      ↔ ∃ x sign, value = .float x ∧ unpacked x = .infinity sign := by
  cases value with
  | float x =>
    show (Exact.trunc? x).mapError tableFault = _ ↔ _
    unfold Exact.trunc?
    constructor
    · intro h
      cases hx : unpacked x with
      | infinity sign => exact ⟨x, sign, rfl, hx⟩
      | _ =>
        rw [hx] at h
        cases h
    · rintro ⟨_, sign, ⟨⟩, hx⟩
      rw [hx]
      rfl
  | text s => cases h : Text.integer? s <;> simp [integerOf, h]
  | _ => simp [integerOf]

lemma realOf_eq_outOfRange :
    realOf value = .error .outOfRange ↔ ∃ n, value = .int n ∧ (Float.ofInt n).isInf = true := by
  cases value with
  | int n =>
    show (Exact.ofInt? n).mapError tableFault = _ ↔ _
    unfold Exact.ofInt?
    by_cases h : (Float.ofInt n).isInf = true <;> simp [h, Except.mapError, tableFault]
  | text s => cases h : Text.float? s <;> simp [realOf, h]
  | _ => simp [realOf]

/-- `coerce` is `outOfRange` iff the value is `TooLarge`. -/
lemma coerce_eq_outOfRange : coerce type value = .error .outOfRange ↔ TooLarge type value := by
  by_cases hnull : value = .null
  · subst hnull
    exact ⟨nofun, nofun⟩
  rw [coerce_of_ne_null hnull]
  cases type with
  | integer range =>
    show (integerOf value).map _ = _ ↔ _
    rw [map_eq_error_iff, integerOf_eq_outOfRange]
    constructor
    · rintro ⟨x, sign, rfl, hx⟩
      exact .infinity hx
    · rintro (_ | hx)
      exact ⟨_, _, rfl, hx⟩
  | real =>
    show (realOf value).map _ = _ ↔ _
    rw [map_eq_error_iff, realOf_eq_outOfRange]
    constructor
    · rintro ⟨n, rfl, hn⟩
      exact .integer hn
    · rintro (hn | _)
      exact ⟨_, rfl, hn⟩
  | text =>
    refine ⟨fun h => ?_, nofun⟩
    dsimp only at h
    split at h <;> cases h
  | flag => exact ⟨nofun, nofun⟩
  | list item => exact ⟨nofun, nofun⟩
  | record fields => exact ⟨nofun, nofun⟩
  | untyped => exact ⟨nofun, nofun⟩

lemma taken_of_coerce [TableStore] {cell : Option Cell} (h : coerce type value = .ok cell) :
    taken type value = stored cell := by
  unfold taken
  rw [h]
  rfl

/-- `taken` of a value that `Reads` is `outOfRange` iff the value is `Oversized`. -/
lemma taken_eq_outOfRange [TableStore] (h : Reads type value) :
    taken type value = .error .outOfRange ↔ Oversized type value := by
  obtain ⟨cell, hcell⟩ := h
  unfold Oversized
  rw [taken_of_coerce hcell, hcell]
  rcases cell with _ | cell
  · exact ⟨nofun, fun ⟨n, hn, _⟩ => nomatch hn⟩
  cases cell with
  | integer n => cases hrange : TableStore.represents n <;> simp [stored_integer, hrange]
  | _ => simp [stored]

lemma Stores.reads [TableStore] (h : Stores type value) : Reads type value := by
  obtain ⟨cell, hcell⟩ := h
  unfold taken at hcell
  unfold Reads
  cases hread : coerce type value with
  | error fault =>
    rw [hread] at hcell
    cases hcell
  | ok read => exact ⟨read, rfl⟩

end Cell

namespace Table

variable {β : Type} {columns : List Column} {value : Json}

/-! ## The cells of a table -/

/-- The value of a column among the fields of a row; an absent field is null. -/
def valueIn (fields : List (FieldName × Json)) (c : Column) : Json :=
  (fields.lookup (.text c.name)).getD .null

/-- What a row has in its columns, each with the type of its column; a row that is no object has one
gap instead. -/
def entriesOf (columns : List Column) : Json → List (Option (ColumnType × Json))
  | .object fields => columns.map fun c => some (c.type, valueIn fields c)
  | _ => [none]

/-- What rows have in their columns, row by row. -/
def entries (columns : List Column) (rows : List Json) : List (Option (ColumnType × Json)) :=
  rows.flatMap (entriesOf columns)

/-- An entry is no gap, and its value has a property in its column. -/
def At (P : ColumnType → Json → Prop) (entry : Option (ColumnType × Json)) : Prop :=
  ∃ cell ∈ entry, P cell.1 cell.2

/-- The row that a value is cast to: an object of which each column's value is cast. -/
def castRow? (columns : List Column) : Json → Option (List Cell)
  | .object fields => columns.mapM fun c => Cell.cast? c.type (valueIn fields c)
  | _ => none

/-- The table that a value is cast to, if it lists rows that are all cast. -/
def cast? (columns : List Column) (value : Json) : Option Table := do
  let rows ← (listedRows value).toOption
  let cast ← rows.mapM (castRow? columns)
  return ⟨columns, cast⟩

/-- Values of which the first that cannot be brought to its type is too large, or which all can be
while the first that cannot be stored is an integer that is not represented. -/
inductive Overflows [TableStore] (columns : List Column) (value : Json) : Prop where
  | reading {rows : List Json} (hrows : listedRows value = .ok rows)
      (hstops : StopsAt (At Cell.Reads) (At Cell.TooLarge) (entries columns rows))
  | storing {rows : List Json} (hrows : listedRows value = .ok rows)
      (hreads : ∀ entry ∈ entries columns rows, At Cell.Reads entry)
      (hstops : StopsAt (At Cell.Stores) (At Cell.Oversized) (entries columns rows))

/-! ## One pass over the cells -/

/-- A row of which each value is worked on with the type of its column. -/
def rowBy (step : ColumnType → Json → Except TableFault β) (columns : List Column) :
    Json → Except TableFault (List β)
  | .object fields => columns.mapM fun c => step c.type (valueIn fields c)
  | _ => .error .unreadable

section Pass

variable {step : ColumnType → Json → Except TableFault β} {row : Json} {rows : List Json}

@[simp] lemma at_none {P : ColumnType → Json → Prop} : ¬ At P none := nofun

@[simp] lemma at_some {P : ColumnType → Json → Prop} {type : ColumnType} {value : Json} :
    At P (some (type, value)) ↔ P type value := by
  constructor
  · rintro ⟨_, ⟨⟩, h⟩
    exact h
  · exact fun h => ⟨_, rfl, h⟩

lemma exists_rowBy_ok :
    (∃ cells, rowBy step columns row = .ok cells)
      ↔ ∀ entry ∈ entriesOf columns row, At (fun t v => ∃ b, step t v = .ok b) entry := by
  cases row with
  | object fields =>
    simp only [rowBy, exists_mapM_ok]
    simp [entriesOf]
  | _ => simp [rowBy, entriesOf]

lemma rowBy_eq_outOfRange :
    rowBy step columns row = .error .outOfRange
      ↔ StopsAt (At fun t v => ∃ b, step t v = .ok b) (At fun t v => step t v = .error .outOfRange)
        (entriesOf columns row) := by
  cases row with
  | object fields =>
    show columns.mapM _ = _ ↔ _
    rw [mapM_eq_error_iff, entriesOf, stopsAt_map]
    simp
  | _ => simp [rowBy, entriesOf]

/-- A pass over rows succeeds iff `step` does on every entry. -/
lemma exists_pass_ok :
    (∃ cells, rows.mapM (rowBy step columns) = .ok cells)
      ↔ ∀ entry ∈ entries columns rows, At (fun t v => ∃ b, step t v = .ok b) entry := by
  rw [exists_mapM_ok]
  simp only [exists_rowBy_ok, entries, List.forall_mem_flatMap]

/-- A pass over rows is `outOfRange` iff the first entry on which `step` fails is. -/
lemma pass_eq_outOfRange :
    rows.mapM (rowBy step columns) = .error .outOfRange
      ↔ StopsAt (At fun t v => ∃ b, step t v = .ok b) (At fun t v => step t v = .error .outOfRange)
        (entries columns rows) := by
  rw [mapM_eq_error_iff, entries, stopsAt_flatMap]
  simp only [exists_rowBy_ok, rowBy_eq_outOfRange]

end Pass

/-! ## Both passes -/

lemma coerceRow_eq : coerceRow columns = rowBy Cell.coerce columns := by
  funext row
  cases row <;> rfl

section Store

variable [TableStore]

/-- `stored` after `coerceRow` is `taken`, row by row. -/
lemma mapM_stored {rows : List Json} {coerced : List (List (Option Cell))}
    (h : rows.mapM (coerceRow columns) = .ok coerced) :
    coerced.mapM (·.mapM Cell.stored) = rows.mapM (rowBy Cell.taken columns) := by
  rw [← mapM_bind_of_ok h]
  refine mapM_congr fun row hrow => ?_
  obtain ⟨cells, hcells⟩ := exists_mapM_ok.1 ⟨coerced, h⟩ row hrow
  rw [hcells]
  rw [coerceRow_eq] at hcells
  -- a row that was read is an object
  cases row with
  | object fields => exact (mapM_bind_of_ok hcells).symm
  | _ => cases hcells

/-- `ofJson` is a pass of `coerce`, a pass of `taken` and the check that all cells `fits`. -/
lemma ofJson_of_listed {rows : List Json} (hrows : listedRows value = .ok rows) :
    ofJson columns value = (do
      let _ ← rows.mapM (rowBy Cell.coerce columns)
      let cells ← rows.mapM (rowBy Cell.taken columns)
      if cells.all (·.all Cell.fits) then .ok ⟨columns, cells⟩ else .error .unreadable) := by
  unfold ofJson
  rw [hrows, ← coerceRow_eq]
  show (rows.mapM (coerceRow columns) >>= _) = (rows.mapM (coerceRow columns) >>= _)
  cases h : rows.mapM (coerceRow columns) with
  | error fault => rfl
  | ok coerced =>
    rw [← mapM_stored h]
    rfl

lemma ofJson_of_not_listed {fault : TableFault} (hrows : listedRows value = .error fault) :
    ofJson columns value = .error .unreadable := by
  have hfault : fault = .unreadable := by
    unfold listedRows at hrows
    split at hrows <;> cases hrows
    rfl
  unfold ofJson
  rw [hrows, hfault]
  rfl

/-- If the pass of `taken` succeeds, so does that of `coerce`. -/
lemma exists_coerced_of_taken {rows : List Json} {cells : List (List Cell)}
    (h : rows.mapM (rowBy Cell.taken columns) = .ok cells) :
    ∃ coerced, rows.mapM (rowBy Cell.coerce columns) = .ok coerced := by
  rw [exists_pass_ok]
  intro entry hentry
  obtain ⟨cell, hcell, hstores⟩ := exists_pass_ok.1 ⟨cells, h⟩ entry hentry
  exact ⟨cell, hcell, Cell.Stores.reads hstores⟩

lemma castRow?_eq (row : Json) :
    castRow? columns row = (rowBy Cell.taken columns row).toOption.filter (·.all Cell.fits) := by
  cases row with
  | object fields =>
    show (columns.mapM fun c => Cell.cast? c.type (valueIn fields c)) = _
    simp only [Cell.cast?_eq]
    rw [mapM_filter, ← toOption_mapM]
    rfl
  | _ => rfl

/-- The table of `ofJson`, if there is one, is that of `cast?`. -/
lemma toOption_ofJson (columns : List Column) (value : Json) :
    (ofJson columns value).toOption = cast? columns value := by
  unfold cast?
  cases hrows : listedRows value with
  | error fault =>
    rw [ofJson_of_not_listed hrows]
    rfl
  | ok rows =>
    have hcast : rows.mapM (castRow? columns)
        = (rows.mapM (rowBy Cell.taken columns)).toOption.filter (·.all (·.all Cell.fits)) := by
      rw [funext castRow?_eq, mapM_filter, ← toOption_mapM]
    show _ = rows.mapM (castRow? columns) >>= _
    rw [ofJson_of_listed hrows, hcast]
    cases htaken : rows.mapM (rowBy Cell.taken columns) with
    | error fault => cases rows.mapM (rowBy Cell.coerce columns) <;> rfl
    | ok cells =>
      obtain ⟨coerced, hcoerced⟩ := exists_coerced_of_taken htaken
      rw [hcoerced]
      show Except.toOption (if _ then _ else _) = (some cells).filter _ >>= _
      rw [Option.filter_some]
      by_cases hfits : cells.all (·.all Cell.fits) = true
      · rw [if_pos hfits, if_pos hfits]
        rfl
      · rw [if_neg hfits, if_neg hfits]
        rfl

/-- `Overflows`: the pass of `coerce` is `outOfRange`, or else that of `taken` is. -/
lemma overflows_iff {rows : List Json} (hrows : listedRows value = .ok rows) :
    Overflows columns value
      ↔ rows.mapM (rowBy Cell.coerce columns) = .error .outOfRange ∨
        (∃ coerced, rows.mapM (rowBy Cell.coerce columns) = .ok coerced) ∧
          rows.mapM (rowBy Cell.taken columns) = .error .outOfRange := by
  have hreading : rows.mapM (rowBy Cell.coerce columns) = .error .outOfRange
      ↔ StopsAt (At Cell.Reads) (At Cell.TooLarge) (entries columns rows) := by
    simp only [pass_eq_outOfRange, Cell.coerce_eq_outOfRange]
    rfl
  -- where all values are read, storing is all that can fail in the second pass
  have hstoring (hreads : ∀ entry ∈ entries columns rows, At Cell.Reads entry) :
      rows.mapM (rowBy Cell.taken columns) = .error .outOfRange
        ↔ StopsAt (At Cell.Stores) (At Cell.Oversized) (entries columns rows) := by
    rw [pass_eq_outOfRange]
    refine stopsAt_congr (fun _ _ => Iff.rfl) fun entry hentry => ?_
    obtain ⟨⟨type, value⟩, rfl, hread⟩ := hreads entry hentry
    rw [at_some, at_some]
    exact Cell.taken_eq_outOfRange hread
  rw [exists_pass_ok, hreading]
  constructor
  · rintro (⟨hlisted, hstops⟩ | ⟨hlisted, hreads, hstops⟩)
    all_goals obtain rfl := Except.ok.inj (hrows.symm.trans hlisted)
    · exact .inl hstops
    · exact .inr ⟨hreads, (hstoring hreads).2 hstops⟩
  · rintro (hstops | ⟨hreads, hstops⟩)
    · exact .reading hrows hstops
    · exact .storing hrows hreads ((hstoring hreads).1 hstops)

/-- `ofJson` is `outOfRange` iff the values `Overflows`. -/
lemma ofJson_eq_outOfRange :
    ofJson columns value = .error .outOfRange ↔ Overflows columns value := by
  cases hrows : listedRows value with
  | error fault =>
    rw [ofJson_of_not_listed hrows]
    refine ⟨nofun, fun h => ?_⟩
    cases h with
    | reading hlisted => cases hrows.symm.trans hlisted
    | storing hlisted => cases hrows.symm.trans hlisted
  | ok rows =>
    rw [ofJson_of_listed hrows, overflows_iff hrows]
    cases rows.mapM (rowBy Cell.coerce columns) with
    | error fault =>
      show Except.error fault = .error .outOfRange ↔ _
      simp
    | ok coerced =>
      cases rows.mapM (rowBy Cell.taken columns) with
      | error fault =>
        show Except.error fault = .error .outOfRange ↔ _
        simp
      | ok cells =>
        show (if _ then _ else _) = Except.error TableFault.outOfRange ↔ _
        split <;> simp

end Store

end Table

end PolicyForecast
