import Mathlib.Data.List.Nodup
import PolicyForecast.Proofs.TableCasts
import PolicyForecast.Table.Database
import PolicyForecast.Table.Standard

/-!
# Which tables a load takes over

The tables of a data file are taken over one by one. One that cannot be cast to its columns is left
out and its name kept, and this has no influence on the others: a table that is taken over depends
on nothing but its own rows (`Database.table_taken`). Only a table whose values overflow stops the
whole load.

Main statement: a load of known tables is refused exactly when the values of one overflow. Otherwise
the failed names are, in order, those of the tables that are not cast; these tables are empty, and
each other one is as if it were loaded alone (`Database.ofJson_exact`).
-/

namespace PolicyForecast

namespace Database

variable {tables : List (String × Json)} {name : String} {columns : List Column} {value : Json}

/-! ## One known table -/

/-- The table that a value is cast to under the name of a known table. -/
def cast? (name : String) (value : Json) : Option Table :=
  (Schema.columns? name).bind fun columns => Table.cast? columns value

/-- Values that overflow the columns of a known table. -/
def Overflows [TableStore] (name : String) (value : Json) : Prop :=
  ∃ columns, Schema.columns? name = some columns ∧ Table.Overflows columns value

lemma exists_columns (h : name ∈ Schema.tableNames) :
    ∃ columns, Schema.columns? name = some columns := by
  obtain ⟨⟨known, columns⟩, hmem, rfl⟩ := List.mem_map.1 h
  cases hlookup : Schema.columns? known with
  | some found => exact ⟨found, rfl⟩
  | none =>
    have hne := List.lookup_eq_none_iff.1 hlookup _ hmem
    simp at hne

section Store

variable [TableStore]

lemma tableOfJson_of_known (h : Schema.columns? name = some columns) :
    tableOfJson name value = Table.ofJson columns value := by
  unfold tableOfJson
  rw [h]

lemma toOption_tableOfJson (h : Schema.columns? name = some columns) :
    (tableOfJson name value).toOption = cast? name value := by
  unfold cast?
  rw [tableOfJson_of_known h, h, Table.toOption_ofJson]
  rfl

lemma tableOfJson_eq_outOfRange (h : name ∈ Schema.tableNames) :
    tableOfJson name value = .error .outOfRange ↔ Overflows name value := by
  obtain ⟨columns, hcolumns⟩ := exists_columns h
  unfold Overflows
  rw [tableOfJson_of_known hcolumns, Table.ofJson_eq_outOfRange, hcolumns]
  simp

/-! ## All tables -/

/-- The tables of a data file that are taken over. -/
def takenTables (tables : List (String × Json)) : List (String × Table) :=
  tables.filterMap fun entry => (tableOfJson entry.1 entry.2).toOption.map (entry.1, ·)

/-- The names of the tables that are not. -/
def failedNames (tables : List (String × Json)) : List String :=
  (tables.filter fun entry => (tableOfJson entry.1 entry.2).toOption.isNone).map Prod.fst

/-- `takeOver` is `outOfRange` if a table is. -/
lemma takeOver_of_outOfRange
    (h : ∃ entry ∈ tables, tableOfJson entry.1 entry.2 = .error .outOfRange) :
    takeOver tables = .error .outOfRange := by
  induction tables with
  | nil => simp at h
  | cons entry rest ih =>
    obtain ⟨name, value⟩ := entry
    rw [List.exists_mem_cons_iff] at h
    unfold takeOver
    rcases hentry : tableOfJson name value with (_ | _) | table
    · rw [ih (h.resolve_left fun hout => by rw [hentry] at hout; cases hout)]
      rfl
    · rfl
    · rw [ih (h.resolve_left fun hout => by rw [hentry] at hout; cases hout)]
      rfl

/-- `takeOver` is `takenTables` and `failedNames` if no table is `outOfRange`. -/
lemma takeOver_of_not_outOfRange
    (h : ∀ entry ∈ tables, tableOfJson entry.1 entry.2 ≠ .error .outOfRange) :
    takeOver tables = .ok (takenTables tables, failedNames tables) := by
  induction tables with
  | nil => rfl
  | cons entry rest ih =>
    obtain ⟨name, value⟩ := entry
    rw [List.forall_mem_cons] at h
    unfold takeOver takenTables failedNames
    rw [ih h.2, List.filterMap_cons, List.filter_cons]
    rcases hentry : tableOfJson name value with (_ | _) | table
    · rfl
    · exact absurd hentry h.1
    · rfl

lemma ofJson_of_outOfRange
    (h : ∃ entry ∈ tables, tableOfJson entry.1 entry.2 = .error .outOfRange) :
    ofJson tables = .error .outOfRange := by
  unfold ofJson
  rw [takeOver_of_outOfRange h]
  rfl

lemma ofJson_of_not_outOfRange
    (h : ∀ entry ∈ tables, tableOfJson entry.1 entry.2 ≠ .error .outOfRange) :
    ofJson tables = .ok (complete (takenTables tables) (failedNames tables)) := by
  unfold ofJson
  rw [takeOver_of_not_outOfRange h]
  rfl

/-- `failedNames` are those of the tables without a `cast?`. -/
lemma failedNames_eq (hknown : ∀ entry ∈ tables, entry.1 ∈ Schema.tableNames) :
    failedNames tables
      = (tables.filter fun entry => (cast? entry.1 entry.2).isNone).map Prod.fst := by
  refine congrArg (List.map Prod.fst) (List.filter_congr fun entry hentry => ?_)
  obtain ⟨columns, hcolumns⟩ := exists_columns (hknown entry hentry)
  rw [toOption_tableOfJson hcolumns]

lemma mem_failedNames (hknown : ∀ entry ∈ tables, entry.1 ∈ Schema.tableNames) :
    name ∈ failedNames tables ↔ ∃ value, (name, value) ∈ tables ∧ cast? name value = none := by
  simp [failedNames_eq hknown]

end Store

/-! ## Tables of the database -/

/-- A known table of `complete` is the given one, or else empty. -/
lemma table_complete (given : List (String × Table)) (failed : List String)
    (h : Schema.columns? name = some columns) :
    (complete given failed).table name
      = (given.lookup name).getD (Table.withColumns columns) := by
  have hlookup : Schema.tables.lookup name = some columns := h
  unfold Database.table complete
  dsimp only
  rw [List.lookup_append,
    lookup_map_value fun known columns => (given.lookup known).getD (Table.withColumns columns),
    hlookup]
  rfl

lemma table_complete_of_lookup_none {given : List (String × Table)} (failed : List String)
    (h : given.lookup name = none) : (complete given failed).table name = empty.table name := by
  cases hcolumns : Schema.columns? name with
  | some columns =>
    unfold empty
    rw [table_complete _ _ hcolumns, table_complete _ _ hcolumns, h]
    rfl
  | none =>
    have hlookup : Schema.tables.lookup name = none := hcolumns
    have hother :
        (given.filter fun entry => (Schema.columns? entry.1).isNone).lookup name = none := by
      rw [List.lookup_eq_none_iff] at h ⊢
      exact fun entry hentry => h entry (List.mem_of_mem_filter hentry)
    unfold Database.table empty complete
    dsimp only
    rw [List.lookup_append, List.lookup_append, hother,
      lookup_map_value fun known columns => (given.lookup known).getD (Table.withColumns columns),
      lookup_map_value fun known columns =>
        (([] : List (String × Table)).lookup known).getD (Table.withColumns columns), hlookup]
    rfl

section Store

variable [TableStore]

lemma sublist_names_takenTables (tables : List (String × Json)) :
    ((takenTables tables).map Prod.fst).Sublist (tables.map Prod.fst) := by
  induction tables with
  | nil => exact .slnil
  | cons entry rest ih =>
    unfold takenTables
    rw [List.filterMap_cons]
    cases (tableOfJson entry.1 entry.2).toOption with
    | none => exact ih.cons entry.1
    | some table => exact ih.cons_cons entry.1

lemma lookup_takenTables_of_not_mem (h : name ∉ tables.map Prod.fst) :
    (takenTables tables).lookup name = none :=
  lookup_of_not_mem fun htaken => h ((sublist_names_takenTables tables).subset htaken)

/-- `takenTables` under a name is `tableOfJson` of the value of that name. -/
lemma lookup_takenTables (hnames : (tables.map Prod.fst).Nodup) (h : (name, value) ∈ tables) :
    (takenTables tables).lookup name = (tableOfJson name value).toOption := by
  cases htable : (tableOfJson name value).toOption with
  | some table =>
    refine lookup_of_mem (hnames.sublist (sublist_names_takenTables tables)) ?_
    exact List.mem_filterMap.2 ⟨(name, value), h, by rw [htable]; rfl⟩
  | none =>
    refine lookup_of_not_mem fun htaken => ?_
    obtain ⟨⟨taken, table⟩, hmem, rfl⟩ := List.mem_map.1 htaken
    obtain ⟨entry, hentry, hmap⟩ := List.mem_filterMap.1 hmem
    obtain ⟨_, hother, hpair⟩ := Option.map_eq_some_iff.1 hmap
    have hname : entry.1 = taken := congrArg Prod.fst hpair
    -- no other entry has the name
    rw [List.inj_on_of_nodup_map hnames hentry h hname, htable] at hother
    cases hother

/-- A known table of `takenTables` is its `cast?`, or else empty. -/
lemma table_taken (hnames : (tables.map Prod.fst).Nodup) (h : (name, value) ∈ tables)
    (hcolumns : Schema.columns? name = some columns) (failed : List String) :
    (complete (takenTables tables) failed).table name
      = (cast? name value).getD (Table.withColumns columns) := by
  rw [table_complete _ _ hcolumns, lookup_takenTables hnames h, toOption_tableOfJson hcolumns]

/-- `ofJson` of known tables is `outOfRange` iff one of them `Overflows`. Otherwise `failed` lists
those without a `cast?`, which have no rows; each other table is its `cast?`, as when it is loaded
alone, and the tables that are not given are those of `empty`. -/
theorem ofJson_exact (tables : List (String × Json))
    (hknown : ∀ entry ∈ tables, entry.1 ∈ Schema.tableNames)
    (hnames : (tables.map Prod.fst).Nodup) :
    (ofJson tables = .error .outOfRange ↔ ∃ entry ∈ tables, Overflows entry.1 entry.2) ∧
    ((∀ entry ∈ tables, ¬ Overflows entry.1 entry.2) → ∃ db, ofJson tables = .ok db ∧
      db.failed = (tables.filter fun entry => (cast? entry.1 entry.2).isNone).map Prod.fst ∧
      (∀ name ∈ db.failed, (db.table name).rows = []) ∧
      (∀ entry ∈ tables, entry.1 ∉ db.failed → cast? entry.1 entry.2 = some (db.table entry.1) ∧
        ∃ alone, ofJson [entry] = .ok alone ∧ db.table entry.1 = alone.table entry.1) ∧
      ∀ name, name ∉ tables.map Prod.fst → db.table name = empty.table name) := by
  have hoverflows : ∀ entry ∈ tables,
      (tableOfJson entry.1 entry.2 = .error .outOfRange ↔ Overflows entry.1 entry.2) :=
    fun entry hentry => tableOfJson_eq_outOfRange (hknown entry hentry)
  refine ⟨⟨fun hload => ?_, fun ⟨entry, hentry, hover⟩ => ?_⟩, fun hfits => ?_⟩
  · by_contra hnone
    rw [ofJson_of_not_outOfRange fun entry hentry hout =>
      hnone ⟨entry, hentry, (hoverflows entry hentry).1 hout⟩] at hload
    cases hload
  · exact ofJson_of_outOfRange ⟨entry, hentry, (hoverflows entry hentry).2 hover⟩
  have hrange : ∀ entry ∈ tables, tableOfJson entry.1 entry.2 ≠ .error .outOfRange :=
    fun entry hentry hout => hfits entry hentry ((hoverflows entry hentry).1 hout)
  refine ⟨_, ofJson_of_not_outOfRange hrange, failedNames_eq hknown, fun name hname => ?_,
    fun entry hentry hcast => ?_, fun name hname => ?_⟩
  · obtain ⟨value, hentry, hcast⟩ := (mem_failedNames hknown).1 hname
    obtain ⟨columns, hcolumns⟩ := exists_columns (hknown _ hentry)
    rw [table_taken hnames hentry hcolumns, hcast]
    rfl
  · obtain ⟨columns, hcolumns⟩ := exists_columns (hknown entry hentry)
    obtain ⟨table, htable⟩ : ∃ table, cast? entry.1 entry.2 = some table := by
      rw [← Option.ne_none_iff_exists']
      exact fun hnone => hcast ((mem_failedNames hknown).2 ⟨_, hentry, hnone⟩)
    have halone : ∀ single ∈ [entry], tableOfJson single.1 single.2 ≠ .error .outOfRange := by
      intro single hsingle
      obtain rfl := List.mem_singleton.1 hsingle
      exact hrange single hentry
    refine ⟨?_, _, ofJson_of_not_outOfRange halone, ?_⟩
    · rw [table_taken hnames hentry hcolumns, htable]
      rfl
    · rw [table_taken hnames hentry hcolumns,
        table_taken (by simp) (List.mem_singleton_self entry) hcolumns]
  · exact table_complete_of_lookup_none _ (lookup_takenTables_of_not_mem hname)

end Store

/-- `TypeTags` with one row. -/
def tagging : String × Json :=
  ("TypeTags", .array [.object [(.text "Type", .text "A"), (.text "Tag", .text "B")]])

/-- `Adjacency_YieldChanges` with the text `two` for `TilesRequired`, and `tagging`. -/
def misspelled : List (String × Json) :=
  [("Adjacency_YieldChanges",
    .array [.object [(.text "ID", .text "A"), (.text "TilesRequired", .text "two")]]), tagging]

/-- The adjacencies of `misspelled`, with the text `two` for a number, are in `failed`, and
`TypeTags` is as when `tagging` is loaded alone. -/
theorem misspelled_table_left_empty :
    (∀ entry ∈ misspelled, entry.1 ∈ Schema.tableNames) ∧ (misspelled.map Prod.fst).Nodup ∧
      (∀ entry ∈ misspelled, ¬ Overflows entry.1 entry.2) ∧
      ∃ db, ofJson misspelled = .ok db ∧ db.failed = ["Adjacency_YieldChanges"] ∧
        (db.table "Adjacency_YieldChanges").rows = [] ∧
        ∃ alone, ofJson [tagging] = .ok alone ∧ db.table "TypeTags" = alone.table "TypeTags" := by
  have hknown : ∀ entry ∈ misspelled, entry.1 ∈ Schema.tableNames := by
    have hnames : ∀ name ∈ misspelled.map Prod.fst, name ∈ Schema.tableNames := by decide
    exact fun entry hentry => hnames _ (List.mem_map_of_mem hentry)
  have hnames : (misspelled.map Prod.fst).Nodup := by decide
  obtain ⟨hrefused, hload⟩ := ofJson_exact misspelled hknown hnames
  have hfits : ∀ entry ∈ misspelled, ¬ Overflows entry.1 entry.2 := by
    intro entry hentry hover
    have hok : (ofJson misspelled).toBool = true := by decide +kernel
    rw [hrefused.2 ⟨entry, hentry, hover⟩] at hok
    cases hok
  have hnotCast : (misspelled.filter fun entry => (cast? entry.1 entry.2).isNone).map Prod.fst
      = ["Adjacency_YieldChanges"] := by
    decide +kernel
  obtain ⟨db, hdb, hfailed, hempty, hothers, -⟩ := hload hfits
  rw [hnotCast] at hfailed
  rw [hfailed] at hempty hothers
  exact ⟨hknown, hnames, hfits, db, hdb, hfailed, hempty _ (by decide),
    (hothers tagging (by simp [misspelled]) (by decide)).2⟩

/-- `Adjacency_YieldChanges` with a `YieldChange` of `10 ^ 400`, and `tagging`. -/
def exorbitant : List (String × Json) :=
  [("Adjacency_YieldChanges",
    .array [.object [(.text "ID", .text "A"), (.text "YieldChange", .int (Int.pow 10 400))]]),
   tagging]

/-- The `YieldChange` of `10 ^ 400` makes `ofJson exorbitant` end in `outOfRange`, although
`tagging` alone is loaded. -/
theorem exorbitant_change_stops_load :
    (∀ name ∈ exorbitant.map Prod.fst, name ∈ Schema.tableNames) ∧
      (exorbitant.map Prod.fst).Nodup ∧ ofJson exorbitant = .error .outOfRange ∧
      ∃ alone, ofJson [tagging] = .ok alone ∧ alone.failed = [] := by
  have hlarge : Cell.TooLarge .real (.int (Int.pow 10 400)) := .integer (by decide +kernel)
  have hoverflows : Overflows "Adjacency_YieldChanges"
      (.array [.object
        [(.text "ID", .text "A"), (.text "YieldChange", .int (Int.pow 10 400))]]) := by
    -- the first two columns hold a text and null
    refine ⟨_, rfl, .reading rfl (.later ?_ (.later ?_ (.here ?_)))⟩
    · exact ⟨_, rfl, _, rfl⟩
    · exact ⟨_, rfl, _, rfl⟩
    · exact ⟨_, rfl, hlarge⟩
  refine ⟨by decide, by decide, ofJson_of_outOfRange ⟨_, List.mem_cons_self, ?_⟩, _, rfl, rfl⟩
  exact (tableOfJson_eq_outOfRange (by decide)).2 hoverflows

end Database

end PolicyForecast
