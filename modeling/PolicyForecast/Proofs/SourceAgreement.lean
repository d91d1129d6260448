import PolicyForecast.Proofs.TableLoading
import PolicyForecast.Proofs.WrittenLists
import PolicyForecast.Table.Database

/-!
# The same rows from a data file and from an engine

A data file lists the rows of a table as objects, an engine gives its columns. `Frame.Shows` says
that a frame has the cells of given rows in columns of their own types. Each source brings its cells
to the known columns in a way of its own, and the ways differ in two points. A data file strips the
text of a flag before it asks whether it says yes, an engine does not. And a frame without a known
column is a table with one row, however many rows there are.

Main statement: rows of values that suit their columns are taken over from a data file, and the
table is the one of a frame that shows them if no flag is spelled as a yes with blanks around it
and, where the frame has no known column, there is one row; otherwise it is not
(`Database.sources_agree_iff`).
-/

namespace PolicyForecast

namespace Text

variable {c : Char} {cs : List Char}

/-! ## Words for yes have no blanks -/

lemma toLower_of_isBlank (h : isBlank c = true) : c.toLower = c := by
  have hrange : ¬ (65 ≤ c.toNat ∧ c.toNat ≤ 90) := by
    intro hupper
    simp only [isBlank, inRanges, blankRanges, List.any_cons, List.any_nil, Bool.or_eq_true,
      Bool.and_eq_true, decide_eq_true_eq, Bool.false_eq_true, or_false] at h
    omega
  unfold Char.toLower
  rw [dif_neg]
  intro hupper
  exact hrange hupper

lemma eq_one_of_toLower (h : c.toLower = '1') : c = '1' := by
  unfold Char.toLower at h
  split at h
  next hupper =>
    -- the lower case of a letter is a letter
    have hval : c.val + ('a'.val - 'A'.val) = '1'.val := congrArg Char.val h
    simp only [ge_iff_le, UInt32.le_iff_toNat_le] at hupper
    have hnat := congrArg UInt32.toNat hval
    simp at hnat hupper
    omega
  next => exact h

lemma strip_of_not_blank (h : ∀ c ∈ cs, isBlank c = false) : strip cs = cs :=
  trimmed_iff.1 ⟨fun c hc => h c (List.mem_of_mem_head? hc),
    fun c hc => h c (List.mem_of_mem_getLast? hc)⟩

/-- A text that `saysTrue` has no blanks to `strip`. -/
lemma strip_of_saysTrue (h : saysTrue cs = true) : strip cs = cs := by
  refine strip_of_not_blank fun c hc => ?_
  unfold saysTrue at h
  rw [Bool.or_eq_true, beq_iff_eq, beq_iff_eq] at h
  by_contra hblank
  rw [Bool.not_eq_false] at hblank
  -- a blank in the text would be a letter of `true`, since it is its own lower case, or `1`
  have hletters : ['t', 'r', 'u', 'e', '1'].any isBlank = false := by decide
  have hmem : c ∈ ['t', 'r', 'u', 'e', '1'] := by
    rcases h with hlower | hone
    · have hmem : c.toLower ∈ lower cs := List.mem_map_of_mem hc
      rw [hlower, toLower_of_isBlank hblank] at hmem
      exact List.mem_append_left ['1'] hmem
    · rw [hone] at hc
      exact List.mem_append_right ['t', 'r', 'u', 'e'] hc
  exact List.any_eq_false.1 hletters c hmem hblank

/-- `isTrue`, which strips, and `saysTrue` differ exactly on a yes with blanks around it. -/
lemma isTrue_eq_saysTrue_iff (s : String) :
    isTrue s = saysTrue s.toList ↔ (isTrue s = true → strip s.toList = s.toList) := by
  constructor
  · intro hsame htrue
    rw [hsame] at htrue
    exact strip_of_saysTrue htrue
  · intro hstrip
    rw [Bool.eq_iff_iff]
    constructor
    · intro htrue
      unfold isTrue at htrue
      rw [hstrip htrue] at htrue
      exact htrue
    · intro hsays
      unfold isTrue
      rw [strip_of_saysTrue hsays]
      exact hsays

end Text

namespace Cell

variable {own type : ColumnType} {value : Json}

/-! ## One value from both sources -/

/-- The cell that an engine gives for a value. -/
def ofValue : Json → Cell
  | .bool b => .flag b
  | .int n => .integer n
  | .float x => .real x
  | .text s => .text s
  | _ => .null

/-- A value as it may stand in a column: null or a value of the column's type; a flag may also be a
number or spelled out. -/
inductive Suits : ColumnType → Json → Prop where
  | null {type : ColumnType} : Suits type .null
  | text {s : String} : Suits .text (.text s)
  | integer {n : Int} (h : IntegerRange.word.contains n = true) : Suits (.integer .word) (.int n)
  | real {x : Float} : Suits .real (.float x)
  | flag {b : Bool} : Suits .flag (.bool b)
  | number {n : Int} : Suits .flag (.int n)
  | word {s : String} : Suits .flag (.text s)

/-- A value in a column of its type, where `yes` tells which texts are a yes. -/
def normal (yes : String → Bool) : ColumnType → Json → Cell
  | .flag, .text s => .flag (yes s)
  | .flag, .int n => .flag (n != 0)
  | _, value => ofValue value

/-- The cell that a data file comes to: blanks at the ends of a flag's text make no difference. -/
abbrev ofStripped : ColumnType → Json → Cell :=
  normal Text.isTrue

/-- The cell that a frame comes to: a flag's text is taken as it stands. -/
abbrev ofUnstripped : ColumnType → Json → Cell :=
  normal fun s => Text.saysTrue s.toList

lemma normal_null (yes : String → Bool) (type : ColumnType) : normal yes type .null = .null := by
  cases type <;> rfl

lemma Suits.flag_of_text (h : Suits .text value) : Suits .flag value := by
  cases h with
  | null => exact .null
  | text => exact .word

lemma Suits.isOf_text (h : Suits .text value) :
    ofValue value ≠ .null → isOf .text (ofValue value) = true := by
  cases h with
  | null => exact fun hne => absurd rfl hne
  | text => exact fun _ => rfl

lemma Suits.cast?_eq (h : Suits type value) : cast? type value = some (ofStripped type value) := by
  cases h with
  | null => exact congrArg some (normal_null _ type).symm
  | text => rfl
  | @integer n hword =>
    show ((some n).filter fun n => IntegerRange.word.contains n).map Cell.integer
      = some (Cell.integer n)
    rw [Option.filter_some, hword]
    rfl
  | real => rfl
  | flag => rfl
  | number => rfl
  | word => rfl

/-- `ofStripped` and `ofUnstripped` differ exactly on a flag that is a yes with blanks around it. -/
lemma ofStripped_eq_iff :
    ofStripped type value = ofUnstripped type value
      ↔ ∀ s, type = .flag → value = .text s →
          Text.isTrue s = true → Text.strip s.toList = s.toList := by
  by_cases hword : ∃ s, type = .flag ∧ value = .text s
  · obtain ⟨s, rfl, rfl⟩ := hword
    show Cell.flag (Text.isTrue s) = .flag (Text.saysTrue s.toList) ↔ _
    rw [Cell.flag.injEq, Text.isTrue_eq_saysTrue_iff]
    simp
  · have hsame : ofStripped type value = ofUnstripped type value := by
      unfold ofStripped ofUnstripped normal
      split
      next s => exact absurd ⟨s, rfl, rfl⟩ hword
      next => rfl
      next => rfl
    refine iff_of_true hsame fun s htype hvalue => ?_
    exact absurd ⟨s, htype, hvalue⟩ hword

section Store

variable [TableStore]

/-- `flagOfWord` of a text is whether it `saysTrue`. -/
lemma flagOfWord_text (s : String) : flagOfWord (.text s) = .flag (Text.saysTrue s.toList) := by
  have hone : Text.lower s.toList = ['1'] ↔ s.toList = ['1'] := by
    constructor
    · intro h
      obtain ⟨c, hc, hlower⟩ := List.map_eq_singleton_iff.1 h
      rw [hc, Text.eq_one_of_toLower hlower]
    · intro h
      rw [h]
      rfl
  have htrue : TableStore.lowercase s = "true" ↔ Text.lower s.toList = ['t', 'r', 'u', 'e'] :=
    TableStore.lowercase_eq_iff (by decide)
  have hdigit : TableStore.lowercase s = "1" ↔ Text.lower s.toList = ['1'] :=
    TableStore.lowercase_eq_iff (by decide)
  show Cell.flag (Text.yesWords.contains (TableStore.lowercase s)) = _
  rw [Cell.flag.injEq, Bool.eq_iff_iff, List.contains_iff_mem, Text.yesWords, List.mem_pair, htrue,
    hdigit]
  unfold Text.saysTrue
  rw [Bool.or_eq_true, beq_iff_eq, beq_iff_eq, hone]

/-- `flagOfWord` of a text or null is `ofUnstripped`. -/
lemma Suits.flagOfWord_ofValue (h : Suits .flag value)
    (hown : ofValue value ≠ .null → isOf .text (ofValue value) = true) :
    flagOfWord (ofValue value) = ofUnstripped .flag value := by
  cases h with
  | null => rfl
  | word => exact flagOfWord_text _
  | flag | number => cases hown nofun

/-- `TableStore.cast` of the cell of a value that `Suits` its column is `ofUnstripped`. -/
lemma Suits.cast_ofValue (h : Suits type value)
    (hown : ofValue value ≠ .null → isOf own (ofValue value) = true)
    (hword : type = .flag → own ≠ .text) :
    TableStore.cast type (ofValue value) = ofUnstripped type value := by
  cases h with
  | null => rw [ofUnstripped, normal_null]; exact TableStore.cast_null type
  | text => exact TableStore.cast_of_isOf rfl
  | integer hrange => exact TableStore.cast_of_isOf hrange
  | real => exact TableStore.cast_of_isOf rfl
  | flag => exact TableStore.cast_of_isOf rfl
  | number => exact TableStore.cast_flag_integer _
  | word =>
    -- a text stands in a column of texts only
    have htext := hown nofun
    cases own with
    | text => exact absurd rfl (hword rfl)
    | _ => cases htext

end Store

end Cell

/-! ## Rows and columns -/

/-- A frame shows rows in columns: their values suit the columns, and the frame has the cells of
each column in a column of their own type, or has no such column while all the values are null. -/
structure Frame.Shows (f : Frame) (columns : List Column) (rows : List (List (FieldName × Json))) :
    Prop where
  suited : ∀ c ∈ columns, ∀ row ∈ rows, Cell.Suits c.type (Table.valueIn row c)
  present : ∀ c ∈ columns, ∀ own cells, f.column? c.name = some (own, cells) →
    cells = rows.map fun row => Cell.ofValue (Table.valueIn row c)
  typed : ∀ c ∈ columns, ∀ own cells, f.column? c.name = some (own, cells) →
    own.type.isPlain = true ∧ ∀ cell ∈ cells, cell ≠ .null → Cell.isOf own.type cell = true
  absent : ∀ c ∈ columns, f.column? c.name = none → ∀ row ∈ rows, Table.valueIn row c = .null

/-- A frame has none of some columns. -/
def Frame.Lacks (f : Frame) (columns : List Column) : Prop :=
  ∀ c ∈ columns, f.column? c.name = none

lemma Schema.isPlain_of_columns? {name : String} {columns : List Column}
    (h : Schema.columns? name = some columns) : ∀ c ∈ columns, c.type.isPlain = true := by
  have hplain : ∀ entry ∈ Schema.tables, ∀ c ∈ entry.2, c.type.isPlain = true := by decide
  obtain ⟨before, after, htables, -⟩ := List.lookup_eq_some_iff.1 h
  exact hplain (name, columns) (htables ▸ List.mem_append_right before List.mem_cons_self)

section Rows

variable {f : Frame} {columns : List Column} {rows : List (List (FieldName × Json))}

/-- `cast?` of the rows that a frame `Shows` is `ofStripped`, cell by cell. -/
lemma Frame.Shows.cast?_eq (h : f.Shows columns rows) :
    Table.cast? columns (.array (rows.map .object))
      = some ⟨columns, rows.map fun row =>
          columns.map fun c => Cell.ofStripped c.type (Table.valueIn row c)⟩ := by
  have hrows : (rows.map .object).mapM (Table.castRow? columns)
      = some (rows.map fun row =>
          columns.map fun c => Cell.ofStripped c.type (Table.valueIn row c)) := by
    rw [List.mapM_map]
    refine mapM_eq_some_map fun row hrow => ?_
    exact mapM_eq_some_map fun c hc => (h.suited c hc row hrow).cast?_eq
  show (rows.map .object).mapM (Table.castRow? columns) >>= _ = _
  rw [hrows]
  rfl

lemma Frame.transpose_map {α β : Type} (cs : List β) (rows : List α) (g : β → α → Cell) :
    transpose rows.length (cs.map fun c => rows.map (g c))
      = rows.map fun row => cs.map fun c => g c row := by
  refine List.ext_getElem (by simp [Frame.transpose]) fun i hleft hright => ?_
  have hi : i < rows.length := by simpa using hright
  simp [Frame.transpose, List.getElem?_eq_getElem hi]

section Store

variable [TableStore]

/-- `castCells?` between plain types, texts to flags apart. -/
lemma Frame.castCells?_of_ne {own type : ColumnType} {cells : List Cell}
    (hown : own.isPlain = true) (htype : type.isPlain = true) (hword : type = .flag → own ≠ .text) :
    castCells? own type cells = some (cells.map (TableStore.cast type)) := by
  unfold castCells?
  split
  next => exact absurd rfl (hword rfl)
  next => exact if_pos (TableStore.casts_of_isPlain hown htype hword)

/-- `castCells?` of a column of a frame that `Shows` rows is `ofUnstripped`, cell by cell. -/
lemma Frame.Shows.castCells?_eq (h : f.Shows columns rows) {c own : Column} {cells : List Cell}
    (hc : c ∈ columns) (hplain : c.type.isPlain = true)
    (hcolumn : f.column? c.name = some (own, cells)) :
    castCells? own.type c.type cells
      = some (rows.map fun row => Cell.ofUnstripped c.type (Table.valueIn row c)) := by
  obtain ⟨hown, hcells⟩ := h.typed c hc own cells hcolumn
  rw [h.present c hc own cells hcolumn, List.forall_mem_map] at hcells
  rw [h.present c hc own cells hcolumn]
  by_cases hword : own.type = .text ∧ c.type = .flag
  · -- texts are compared with the words for yes
    obtain ⟨htext, hflag⟩ := hword
    rw [htext, hflag]
    show some ((rows.map _).map Cell.flagOfWord) = _
    rw [List.map_map]
    refine congrArg some (List.map_congr_left fun row hrow => ?_)
    exact (hflag ▸ h.suited c hc row hrow).flagOfWord_ofValue (htext ▸ hcells row hrow)
  · have hne : c.type = .flag → own.type ≠ .text := fun hflag htext => hword ⟨htext, hflag⟩
    rw [castCells?_of_ne hown hplain hne, List.map_map]
    refine congrArg some (List.map_congr_left fun row hrow => ?_)
    exact (h.suited c hc row hrow).cast_ofValue (hcells row hrow) hne

/-- `toTable?` of a frame that `Shows` rows is `ofUnstripped`, cell by cell, unless it `Lacks` the
columns. -/
lemma Frame.Shows.toTable?_eq (h : f.Shows columns rows)
    (hplain : ∀ c ∈ columns, c.type.isPlain = true) (hsome : ¬ f.Lacks columns) :
    f.toTable? columns
      = some ⟨columns, rows.map fun row =>
          columns.map fun c => Cell.ofUnstripped c.type (Table.valueIn row c)⟩ := by
  have hheight : f.height columns = rows.length := by
    unfold Frame.height
    split
    next hnone => exact absurd (List.filterMap_eq_nil_iff.1 hnone) hsome
    next own cells rest hcells =>
      -- the first known column that the frame has is as long as there are rows
      obtain ⟨c, hc, hcolumn⟩ := List.mem_filterMap.1 (hcells ▸ List.mem_cons_self)
      rw [h.present c hc own cells hcolumn, List.length_map]
  have hcast : columns.mapM (f.castColumn? rows.length) = some (columns.map fun c =>
      rows.map fun row => Cell.ofUnstripped c.type (Table.valueIn row c)) := by
    refine mapM_eq_some_map fun c hc => ?_
    unfold Frame.castColumn?
    rcases hcolumn : f.column? c.name with _ | ⟨own, cells⟩
    · -- a column that the frame does not have is null in all rows
      have hnull : (rows.map fun row => Cell.ofUnstripped c.type (Table.valueIn row c))
          = rows.map fun _ => Cell.null := by
        refine List.map_congr_left fun row hrow => ?_
        rw [h.absent c hc hcolumn row hrow]
        exact Cell.normal_null _ c.type
      rw [hnull, List.map_const']
    · exact h.castCells?_eq hc (hplain c hc) hcolumn
  unfold Frame.toTable?
  dsimp only
  rw [hheight, hcast]
  exact congrArg (fun cells => some (Table.mk columns cells)) (Frame.transpose_map columns rows _)

/-- `toTable?` of a frame that `Lacks` the columns is one row of nulls. -/
lemma Frame.Lacks.toTable?_eq (h : f.Lacks columns) :
    f.toTable? columns = some ⟨columns, [columns.map fun _ => .null]⟩ := by
  have hheight : f.height columns = 1 := by
    unfold Frame.height
    rw [List.filterMap_eq_nil_iff.2 h]
    exact TableStore.constantHeight_eq_one
  have hcast : columns.mapM (f.castColumn? 1)
      = some (columns.map fun _ => [()].map fun _ => Cell.null) := by
    refine mapM_eq_some_map fun c hc => ?_
    unfold Frame.castColumn?
    rw [h c hc]
    rfl
  unfold Frame.toTable?
  dsimp only
  rw [hheight, hcast]
  exact congrArg (fun cells => some (Table.mk columns cells))
    (Frame.transpose_map columns [()] fun _ _ => .null)

end Store

/-- `ofStripped_eq_iff` for all cells of all rows. -/
lemma strippedRows_eq_iff :
    (rows.map fun row => columns.map fun c => Cell.ofStripped c.type (Table.valueIn row c))
        = (rows.map fun row =>
            columns.map fun c => Cell.ofUnstripped c.type (Table.valueIn row c))
      ↔ ∀ c ∈ columns, c.type = .flag → ∀ row ∈ rows, ∀ s, Table.valueIn row c = .text s →
          Text.isTrue s = true → Text.strip s.toList = s.toList := by
  simp only [List.map_inj_left, Cell.ofStripped_eq_iff]
  constructor
  · intro h c hc htype row hrow s hvalue
    exact h row hrow c hc s htype hvalue
  · intro h row hrow c hc s htype hvalue
    exact h c hc htype row hrow s hvalue

/-- Rows that a frame without the columns `Shows` are rows of nulls. -/
lemma Frame.Shows.rows_eq_of_lacks (h : f.Shows columns rows) (hlacks : f.Lacks columns) :
    (rows.map fun row => columns.map fun c => Cell.ofStripped c.type (Table.valueIn row c))
      = List.replicate rows.length (columns.map fun _ => Cell.null) := by
  rw [← List.map_const']
  refine List.map_congr_left fun row hrow => List.map_congr_left fun c hc => ?_
  rw [h.absent c hc (hlacks c hc) row hrow]
  exact Cell.normal_null _ c.type

end Rows

namespace Database

variable {name : String} {columns : List Column} {value : Json} {table : Table} {f : Frame}

section Store

variable [TableStore]

/-- `ofJson` of one table that is cast. -/
lemma ofJson_of_cast? (hcolumns : Schema.columns? name = some columns)
    (hcast : cast? name value = some table) :
    ∃ db, ofJson [(name, value)] = .ok db ∧ db.failed = [] ∧ db.table name = table := by
  have htable : (tableOfJson name value).toOption = some table := by
    rw [toOption_tableOfJson hcolumns, hcast]
  have hrange : ∀ entry ∈ [(name, value)], tableOfJson entry.1 entry.2 ≠ .error .outOfRange := by
    intro entry hentry hout
    obtain rfl := List.mem_singleton.1 hentry
    rw [hout] at htable
    cases htable
  have hfailed : failedNames [(name, value)] = [] := by
    simp [failedNames, htable]
  refine ⟨_, ofJson_of_not_outOfRange hrange, hfailed, ?_⟩
  rw [table_taken (by simp) (List.mem_singleton_self _) hcolumns, hcast]
  rfl

/-- `ofFrames?` of one frame that is cast. -/
lemma ofFrames?_of_toTable? (hcolumns : Schema.columns? name = some columns)
    (htable : f.toTable? columns = some table) :
    ∃ db, ofFrames? [(name, f)] = some db ∧ db.table name = table := by
  have hcast : tableOfFrame? name f = some table := by
    unfold tableOfFrame?
    rw [hcolumns]
    exact htable
  refine ⟨complete [(name, table)] [], ?_, ?_⟩
  · unfold ofFrames?
    simp [hcast]
  · rw [table_complete _ _ hcolumns]
    simp

/-- Where `f.Shows columns rows`, `ofJson` of the rows and `ofFrames?` of the frame give the same
table iff no flag is a text that `isTrue` and has blanks around it, and there is one row if the
frame `Lacks` the columns. -/
theorem sources_agree_iff (name : String) (columns : List Column)
    (rows : List (List (FieldName × Json))) (f : Frame)
    (hcolumns : Schema.columns? name = some columns) (hshows : f.Shows columns rows) :
    ∃ db db', ofJson [(name, .array (rows.map .object))] = .ok db ∧ db.failed = [] ∧
      ofFrames? [(name, f)] = some db' ∧
      (db.table name = db'.table name ↔
        (f.Lacks columns → rows.length = 1) ∧
        ∀ c ∈ columns, c.type = .flag → ∀ row ∈ rows, ∀ s, Table.valueIn row c = .text s →
          Text.isTrue s = true → Text.strip s.toList = s.toList) := by
  have hcast : cast? name (.array (rows.map .object)) = some ⟨columns, rows.map fun row =>
      columns.map fun c => Cell.ofStripped c.type (Table.valueIn row c)⟩ := by
    unfold cast?
    rw [hcolumns]
    exact hshows.cast?_eq
  have hplain := Schema.isPlain_of_columns? hcolumns
  obtain ⟨db, hload, hfailed, htable⟩ := ofJson_of_cast? hcolumns hcast
  by_cases hlacks : f.Lacks columns
  · -- rows of nulls on one side, one such row on the other
    have hnulls : ∀ c ∈ columns, ∀ row ∈ rows, Table.valueIn row c = .null :=
      fun c hc => hshows.absent c hc (hlacks c hc)
    obtain ⟨db', hload', htable'⟩ := ofFrames?_of_toTable? hcolumns hlacks.toTable?_eq
    refine ⟨db, db', hload, hfailed, hload', ?_⟩
    rw [htable, htable', hshows.rows_eq_of_lacks hlacks, Table.mk.injEq]
    constructor
    · rintro ⟨-, hrows⟩
      have hlength := congrArg List.length hrows
      rw [List.length_replicate] at hlength
      refine ⟨fun _ => hlength, fun c hc htype row hrow s hvalue => ?_⟩
      rw [hnulls c hc row hrow] at hvalue
      cases hvalue
    · rintro ⟨hone, -⟩
      rw [hone hlacks]
      exact ⟨rfl, rfl⟩
  · obtain ⟨db', hload', htable'⟩ :=
      ofFrames?_of_toTable? hcolumns (hshows.toTable?_eq hplain hlacks)
    refine ⟨db, db', hload, hfailed, hload', ?_⟩
    rw [htable, htable', Table.mk.injEq, strippedRows_eq_iff]
    constructor
    · rintro ⟨-, hflags⟩
      exact ⟨fun habsent => absurd habsent hlacks, hflags⟩
    · rintro ⟨-, hflags⟩
      exact ⟨rfl, hflags⟩

end Store

/-- A requirement with a flag that is spelled out. -/
def requirementRow (id flag : Json) : List (FieldName × Json) :=
  [(.text "RequirementId", id), (.text "Inverse", flag)]

/-- A frame of requirements without their types. -/
def requirementFrame (ids flags : List Cell) : Frame :=
  ⟨[(⟨"RequirementId", .text⟩, ids), (⟨"Inverse", .text⟩, flags)]⟩

/-- The columns of requirements. -/
def requirementColumns : List Column :=
  [⟨"RequirementId", .text⟩, ⟨"RequirementType", .text⟩, ⟨"Inverse", .flag⟩]

lemma shows_requirementFrame (rows : List (Json × Json))
    (hids : ∀ row ∈ rows, Cell.Suits .text row.1) (hflags : ∀ row ∈ rows, Cell.Suits .text row.2) :
    (requirementFrame (rows.map fun row => .ofValue row.1)
      (rows.map fun row => .ofValue row.2)).Shows requirementColumns
        (rows.map fun row => requirementRow row.1 row.2) where
  suited := by
    simp only [requirementColumns, List.forall_mem_cons, List.forall_mem_map, List.not_mem_nil]
    exact ⟨hids, fun _ _ => .null, fun row hrow => (hflags row hrow).flag_of_text, nofun⟩
  present := by
    simp only [requirementColumns, List.forall_mem_cons, List.map_map, List.not_mem_nil]
    refine ⟨?_, nofun, ?_, nofun⟩
    · rintro _ _ ⟨⟩
      rfl
    · rintro _ _ ⟨⟩
      rfl
  typed := by
    simp only [requirementColumns, List.forall_mem_cons, List.not_mem_nil]
    refine ⟨?_, nofun, ?_, nofun⟩
    · rintro _ _ ⟨⟩
      exact ⟨rfl, List.forall_mem_map.2 fun row hrow => (hids row hrow).isOf_text⟩
    · rintro _ _ ⟨⟩
      exact ⟨rfl, List.forall_mem_map.2 fun row hrow => (hflags row hrow).isOf_text⟩
  absent := by
    simp only [requirementColumns, List.forall_mem_cons, List.forall_mem_map, List.not_mem_nil]
    exact ⟨nofun, fun _ _ _ => rfl, nofun, nofun⟩

/-- The flags `TRUE`, `0` and null are the same in `ofJson` and in `ofFrames?`. -/
theorem plain_flags_agree :
    ∃ db db', ofJson [("Requirements", .array
        [.object (requirementRow (.text "REQ_A") (.text "TRUE")),
         .object (requirementRow (.text "REQ_B") (.text "0")),
         .object (requirementRow (.text "REQ_C") .null)])] = .ok db ∧
      ofFrames? [("Requirements",
        requirementFrame [.text "REQ_A", .text "REQ_B", .text "REQ_C"]
          [.text "TRUE", .text "0", .null])] = some db' ∧
      db.table "Requirements" = db'.table "Requirements" := by
  let rows : List (Json × Json) :=
    [(.text "REQ_A", .text "TRUE"), (.text "REQ_B", .text "0"), (.text "REQ_C", .null)]
  have hids : ∀ row ∈ rows, Cell.Suits .text row.1 := by
    simp only [rows, List.forall_mem_cons, List.not_mem_nil]
    exact ⟨.text, .text, .text, nofun⟩
  have hflags : ∀ row ∈ rows, Cell.Suits .text row.2 := by
    simp only [rows, List.forall_mem_cons, List.not_mem_nil]
    exact ⟨.text, .text, .null, nofun⟩
  have hshows := shows_requirementFrame rows hids hflags
  obtain ⟨db, db', hload, -, hload', hagree⟩ :=
    sources_agree_iff "Requirements" requirementColumns _ _ rfl hshows
  refine ⟨db, db', hload, hload', hagree.2 ⟨fun hlacks => ?_, ?_⟩⟩
  · cases hlacks ⟨"RequirementId", .text⟩ (.head _)
  · simp only [requirementColumns, List.forall_mem_cons, List.forall_mem_map, List.not_mem_nil]
    refine ⟨nofun, nofun, fun _ row hrow s hvalue => ?_, nofun⟩
    have hword : row.2 = .text s := hvalue
    have hplain : ∀ row ∈ rows, ∀ s, row.2 = .text s → Text.strip s.toList = s.toList := by
      simp only [rows, List.forall_mem_cons, List.not_mem_nil]
      refine ⟨?_, ?_, nofun, nofun⟩
      · rintro _ ⟨⟩
        decide
      · rintro _ ⟨⟩
        decide
    exact fun _ => hplain row hrow s hword

/-- The flag ` true ` is yes in `ofJson` and no in `ofFrames?`. -/
theorem blank_flag_disagrees :
    (requirementFrame [.text "REQ_A"] [.text " true "]).Shows requirementColumns
        [requirementRow (.text "REQ_A") (.text " true ")] ∧
      ∃ db db', ofJson [("Requirements",
          .array [.object (requirementRow (.text "REQ_A") (.text " true "))])] = .ok db ∧
        ofFrames? [("Requirements", requirementFrame [.text "REQ_A"] [.text " true "])] = some db' ∧
        (db.table "Requirements").rows = [[.text "REQ_A", .null, .flag true]] ∧
        (db'.table "Requirements").rows = [[.text "REQ_A", .null, .flag false]] := by
  refine ⟨shows_requirementFrame [(.text "REQ_A", .text " true ")] ?_ ?_, ?_⟩
  · simpa using Cell.Suits.text
  · simpa using Cell.Suits.text
  have hcast : cast? "Requirements"
      (.array [.object (requirementRow (.text "REQ_A") (.text " true "))])
      = some ⟨requirementColumns, [[.text "REQ_A", .null, .flag true]]⟩ := rfl
  obtain ⟨db, hload, -, htable⟩ := ofJson_of_cast? rfl hcast
  refine ⟨db, _, hload, rfl, ?_, rfl⟩
  rw [htable]

end Database

end PolicyForecast
