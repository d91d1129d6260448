import PolicyForecast.Proofs.FileLoading
import PolicyForecast.Proofs.Sequences

/-!
# Which tables a database lists as failed

A database holds every known table, empty where its source gave none. Whether such a table is one
that has no rules or one that could not be taken over is told by the list of failed tables alone. A
database `Distinguishes` the two for a request if that list has just the requested tables that were
not given.

Main statement: a load of known tables from a data file always distinguishes them. A load from an
engine lists no table as failed, so it distinguishes them only where the engine gave every table
that it was asked for (`Database.failed_tables_exact`).
-/

namespace PolicyForecast

namespace Json

variable {text : String} {cs rest : List Char} {value : Json} {fields : List (FieldName × Json)}

/-! ## Objects are read with distinct names -/

/-- A value that is an object has distinct names in it. -/
def NamesDistinct (value : Json) : Prop :=
  ∀ fields, value = .object fields → (fields.map Prod.fst).Nodup

lemma namesDistinct_ofPoints (points : List Text.CodePoint) : (ofPoints points).NamesDistinct := by
  intro fields hobject
  unfold ofPoints FieldName.toJson at hobject
  split at hobject <;> cases hobject

lemma namesDistinct_of_readMagnitude {negative : Bool}
    (h : readMagnitude negative cs = .ok (value, rest)) : value.NamesDistinct := by
  unfold readMagnitude at h
  intro fields hobject
  subst hobject
  split at h
  · cases h
  · dsimp only at h
    split at h
    · split at h <;> cases h
    · cases h

lemma namesDistinct_of_readScalar (h : readScalar cs = .ok (value, rest)) :
    value.NamesDistinct := by
  unfold readScalar at h
  dsimp only at h
  split at h
  next found hfound =>
    -- the value of a word
    obtain ⟨word, hword, hafter⟩ := List.exists_of_findSome?_eq_some hfound
    obtain ⟨after, -, hpair⟩ := Option.map_eq_some_iff.1 hafter
    have hvalue : word.2 = value := by
      rw [Except.ok.injEq] at h
      rw [h] at hpair
      exact congrArg Prod.fst hpair
    intro fields hobject
    rw [← hvalue] at hobject
    simp only [List.mem_cons, List.not_mem_nil, or_false] at hword
    rcases hword with rfl | rfl | rfl | rfl | rfl | rfl <;> cases hobject
  next =>
    split at h
    · exact namesDistinct_of_readMagnitude h
    · exact namesDistinct_of_readMagnitude h

lemma namesDistinct_of_readValue {fuel : Nat} (h : readValue fuel cs = .ok (value, rest)) :
    value.NamesDistinct := by
  unfold readValue at h
  split at h
  · cases h
  · -- a text
    obtain ⟨⟨points, after⟩, -, hpair⟩ := Except.exists_of_bind_ok h
    cases hpair
    exact namesDistinct_ofPoints points
  · split at h
    · cases h
      intro fields hobject
      cases hobject
    · obtain ⟨⟨items, after⟩, -, hpair⟩ := Except.exists_of_bind_ok h
      cases hpair
      intro fields hobject
      cases hobject
  · split at h
    · cases h
      intro fields hobject
      cases hobject
      exact List.nodup_nil
    · -- the fields of an object go through a map, in which a name that comes again replaces the
      -- first
      obtain ⟨⟨read, after⟩, -, hpair⟩ := Except.exists_of_bind_ok h
      cases hpair
      intro fields hobject
      cases hobject
      exact OrderedMap.nodup_keys_ofList read
  · exact namesDistinct_of_readScalar h

/-- `read` gives objects with distinct names. -/
lemma nodup_of_read (h : read text = .ok (.object fields)) : (fields.map Prod.fst).Nodup := by
  unfold read at h
  obtain ⟨⟨value, rest⟩, hvalue, h⟩ := Except.exists_of_bind_ok h
  dsimp only at h
  split at h
  · cases h
    exact namesDistinct_of_readValue hvalue fields rfl
  · cases h

/-- The object with the given fields. -/
def ofFields (fields : List (String × Json)) : Json :=
  .object (fields.map fun field => (.text field.1, field.2))

lemma namedFields?_ofFields (tables : List (String × Json)) :
    (ofFields tables).namedFields? = some tables := by
  show some ((tables.map fun field => _).map _) = some tables
  rw [List.map_map]
  exact congrArg some (List.map_id tables)

end Json

lemma DataFile.Holds.nodup {file : DataFile} {tables : List (String × Json)}
    (h : file.Holds (.ofFields tables)) : (tables.map Prod.fst).Nodup := by
  obtain ⟨text, -, hread⟩ := h
  have hfields := Json.nodup_of_read hread
  have hnames : (tables.map fun field => (FieldName.text field.1, field.2)).map Prod.fst
      = (tables.map Prod.fst).map FieldName.text := by
    simp
  rw [hnames] at hfields
  exact List.Nodup.of_map FieldName.text hfields

namespace Database

/-! ## Telling failed tables from empty ones -/

/-- A known table is the one that was given, or else empty with its columns. -/
def Holds (db : Database) (given : String → Option Table) : Prop :=
  ∀ name columns, Schema.columns? name = some columns →
    db.table name = (given name).getD (Table.withColumns columns)

/-- A database tells failed tables from empty ones: it lists as failed just the requested tables
that were not given, these are empty with their columns, and so are the known tables that were not
requested, which are not listed. -/
structure Distinguishes (db : Database) (requested : List String) (given : String → Option Table) :
    Prop where
  listed : ∀ name, name ∈ db.failed ↔ name ∈ requested ∧ given name = none
  failed : ∀ name ∈ db.failed, ∀ columns, Schema.columns? name = some columns →
    db.table name = Table.withColumns columns
  others : ∀ name columns, Schema.columns? name = some columns → name ∉ requested →
    db.table name = Table.withColumns columns ∧ name ∉ db.failed

variable {db : Database} {requested : List String} {given : String → Option Table}

/-- A database that `Holds` tables `Distinguishes` them if `failed` lists the requested ones that
were not given. -/
lemma Holds.distinguishes (h : db.Holds given)
    (hgiven : ∀ name, name ∉ requested → given name = none)
    (hlisted : ∀ name, name ∈ db.failed ↔ name ∈ requested ∧ given name = none) :
    db.Distinguishes requested given where
  listed := hlisted
  failed := by
    intro name hname columns hcolumns
    rw [h name columns hcolumns, ((hlisted name).1 hname).2]
    rfl
  others := by
    intro name columns hcolumns hname
    rw [h name columns hcolumns, hgiven name hname]
    exact ⟨rfl, fun hfailed => hname ((hlisted name).1 hfailed).1⟩

/-! ## From a data file -/

section DataFile

variable {source name : String} {file : DataFile} {tables : List (String × Json)} {value : Json}

/-- The table that a data file gives under a name: what its value is cast to. -/
def castIn? (tables : List (String × Json)) (name : String) : Option Table :=
  (tables.lookup name).bind (cast? name)

lemma castIn?_of_mem (hnames : (tables.map Prod.fst).Nodup) (h : (name, value) ∈ tables) :
    castIn? tables name = cast? name value := by
  unfold castIn?
  rw [lookup_of_mem hnames h]
  rfl

lemma castIn?_of_not_mem (h : name ∉ tables.map Prod.fst) : castIn? tables name = none := by
  unfold castIn?
  rw [lookup_of_not_mem h]
  rfl

section Store

variable [TableStore]

/-- The database of `ofFile` is `complete` with the tables that were taken over. -/
lemma eq_of_ofFile_ok (hfile : file.Lists tables) (h : ofFile source file = .ok db) :
    db = complete (takenTables tables) (failedNames tables) := by
  by_cases hrange : ∃ entry ∈ tables, tableOfJson entry.1 entry.2 = .error .outOfRange
  · rw [ofFile_of_lists hfile, ofJson_of_outOfRange hrange] at h
    cases h
  · have hfits : ∀ entry ∈ tables, tableOfJson entry.1 entry.2 ≠ .error .outOfRange :=
      fun entry hentry hout => hrange ⟨entry, hentry, hout⟩
    rw [ofFile_of_not_outOfRange hfile hfits] at h
    split at h
    · cases h
    · exact (Except.ok.inj h).symm

lemma holds_complete_taken (hnames : (tables.map Prod.fst).Nodup) (failed : List String) :
    (complete (takenTables tables) failed).Holds (castIn? tables) := by
  intro name columns hcolumns
  by_cases hname : name ∈ tables.map Prod.fst
  · obtain ⟨⟨_, value⟩, hentry, rfl⟩ := List.mem_map.1 hname
    rw [table_taken hnames hentry hcolumns, castIn?_of_mem hnames hentry]
  · rw [table_complete _ _ hcolumns, lookup_takenTables_of_not_mem hname, castIn?_of_not_mem hname]

lemma mem_failedNames_iff (hknown : ∀ entry ∈ tables, entry.1 ∈ Schema.tableNames)
    (hnames : (tables.map Prod.fst).Nodup) :
    name ∈ failedNames tables ↔ name ∈ tables.map Prod.fst ∧ castIn? tables name = none := by
  rw [mem_failedNames hknown]
  constructor
  · rintro ⟨value, hentry, hcast⟩
    rw [castIn?_of_mem hnames hentry]
    exact ⟨List.mem_map_of_mem hentry, hcast⟩
  · rintro ⟨hname, hcast⟩
    obtain ⟨⟨_, value⟩, hentry, rfl⟩ := List.mem_map.1 hname
    rw [castIn?_of_mem hnames hentry] at hcast
    exact ⟨value, hentry, hcast⟩

/-- The first half of `failed_tables_exact`. -/
lemma distinguishes_of_ofFile (hfile : file.Holds (.ofFields tables))
    (hknown : ∀ entry ∈ tables, entry.1 ∈ Schema.tableNames) (h : ofFile source file = .ok db) :
    db.Holds (castIn? tables) ∧ db.Distinguishes (tables.map Prod.fst) (castIn? tables) := by
  have hnames := hfile.nodup
  have hlists : file.Lists tables := ⟨_, hfile, Json.namedFields?_ofFields tables⟩
  rw [eq_of_ofFile_ok hlists h]
  have hholds := holds_complete_taken hnames (failedNames tables)
  refine ⟨hholds, hholds.distinguishes (fun name => castIn?_of_not_mem) fun name => ?_⟩
  exact mem_failedNames_iff hknown hnames

end Store

end DataFile

/-! ## From an engine -/

section Engine

variable {source name : String} {names : List String} {reads : List (String × Option Frame)}

/-- The frame that an engine gave for a table; where it was asked for it more than once, the
last. -/
def frameIn? (reads : List (String × Option Frame)) (name : String) : Option Frame :=
  reads.reverse.findSome? fun read => if name == read.1 then read.2 else none

/-- The table that an engine gave under a name: what the frame is cast to. -/
def readIn? [TableStore] (reads : List (String × Option Frame)) (name : String) : Option Table :=
  (frameIn? reads name).bind (tableOfFrame? name)

lemma get?_frames (reads : List (String × Option Frame)) (name : String) :
    (OrderedMap.ofList (reads.filterMap fun read => read.2.map (read.1, ·))).get? name
      = frameIn? reads name := by
  rw [OrderedMap.get?_ofList, List.filter_filterMap, List.getLast?_filterMap, List.map_findSome?]
  unfold frameIn?
  congr 1
  funext read
  show ((read.2.map (read.1, ·)).filter fun p => name == p.1).map Prod.snd = _
  cases read.2 with
  | none => simp
  | some frame => by_cases hname : name = read.1 <;> simp [hname]

section Store

variable [TableStore]

lemma readIn?_of_not_mem (h : name ∉ reads.map Prod.fst) : readIn? reads name = none := by
  have hframe : frameIn? reads name = none := by
    unfold frameIn?
    rw [List.findSome?_eq_none_iff]
    intro read hread
    rw [List.mem_reverse] at hread
    rw [if_neg]
    intro hname
    rw [eq_of_beq hname] at h
    exact h (List.mem_map_of_mem hread)
  unfold readIn?
  rw [hframe]
  rfl

/-- The database of `ofReads` `Holds` the tables of the last frames, and `failed` is empty. -/
lemma holds_of_ofReads (h : ofReads source reads = .ok db) :
    db.Holds (readIn? reads) ∧ db.failed = [] := by
  unfold ofReads at h
  dsimp only at h
  split at h
  · cases h
  cases hframes : ofFrames? (OrderedMap.ofList (reads.filterMap fun read =>
      read.2.map (read.1, ·))).entries with
  | none =>
    rw [hframes] at h
    cases h
  | some loaded =>
    rw [hframes] at h
    obtain rfl : loaded = db := Except.ok.inj h
    obtain ⟨tables, htables, hcomplete⟩ := Option.bind_eq_some_iff.1 hframes
    obtain rfl : complete tables [] = loaded := Option.some.inj hcomplete
    refine ⟨fun name columns hcolumns => ?_, rfl⟩
    rw [table_complete _ _ hcolumns, lookup_of_mapM htables, ← OrderedMap.get?, get?_frames]
    rfl

end Store

/-- An empty table makes no difference to `complete`. -/
lemma complete_concat_empty {columns : List Column} (given : List (String × Table))
    (failed : List String) (hcolumns : Schema.columns? name = some columns) :
    complete (given ++ [(name, Table.withColumns columns)]) failed = complete given failed := by
  have hnames : (Schema.tables.map Prod.fst).Nodup := by decide
  -- where the added table is looked up, it is the one that a missing table is anyway
  have hknown : ∀ entry ∈ Schema.tables,
      ((given ++ [(name, Table.withColumns columns)]).lookup entry.1).getD
          (Table.withColumns entry.2)
        = (given.lookup entry.1).getD (Table.withColumns entry.2) := by
    intro entry hentry
    rw [List.lookup_append]
    by_cases hname : entry.1 = name
    · have hentryColumns : Schema.columns? entry.1 = some entry.2 := lookup_of_mem hnames hentry
      rw [hname, hcolumns] at hentryColumns
      rw [hname, ← Option.some.inj hentryColumns]
      cases given.lookup name <;> simp
    · have hother : (entry.1 == name) = false := beq_eq_false_iff_ne.2 hname
      simp [List.lookup_cons, hother]
  have hrest : [(name, Table.withColumns columns)].filter
      (fun entry => (Schema.columns? entry.1).isNone) = [] := by
    simp [hcolumns]
  unfold complete
  rw [List.filter_append, hrest, List.append_nil]
  congr 2
  exact List.map_congr_left fun entry hentry => congrArg (entry.1, ·) (hknown entry hentry)

end Engine

/-! ## Both sources -/

section Store

variable [TableStore]

/-- The database of `ofFile` `Holds` the tables of `castIn?` and `Distinguishes` failed tables from
empty ones. The one of `ofReads` `Holds` those of `readIn?` and lists none as failed, so that it
`Distinguishes` them iff every requested table was read. -/
theorem failed_tables_exact (source : String) (db : Database) :
    (∀ (file : DataFile) (tables : List (String × Json)),
      file.Holds (.ofFields tables) → (∀ entry ∈ tables, entry.1 ∈ Schema.tableNames) →
      ofFile source file = .ok db →
      db.Holds (castIn? tables) ∧ db.Distinguishes (tables.map Prod.fst) (castIn? tables)) ∧
    ∀ (names : List String) (reads : List (String × Option Frame)),
      reads.map Prod.fst = requestedTables names → ofReads source reads = .ok db →
      db.Holds (readIn? reads) ∧ db.failed = [] ∧
        (db.Distinguishes (requestedTables names) (readIn? reads) ↔
          ∀ name ∈ requestedTables names, readIn? reads name ≠ none) := by
  refine ⟨fun file tables hfile hknown hload => distinguishes_of_ofFile hfile hknown hload, ?_⟩
  intro names reads hreads hload
  obtain ⟨hholds, hfailed⟩ := holds_of_ofReads hload
  refine ⟨hholds, hfailed, ?_, ?_⟩
  · intro hdistinguishes name hname hnone
    have hlisted : name ∈ db.failed := (hdistinguishes.listed name).2 ⟨hname, hnone⟩
    rw [hfailed] at hlisted
    cases hlisted
  · intro hgiven
    refine hholds.distinguishes (fun name hname => ?_) fun name => ?_
    · rw [← hreads] at hname
      exact readIn?_of_not_mem hname
    · rw [hfailed]
      refine ⟨nofun, fun ⟨hname, hnone⟩ => ?_⟩
      exact absurd hnone (hgiven name hname)

end Store

/-- A file with a row of `Units` that is no object, and no rows of `Yields`. -/
def halfReadable : String :=
  "\x7b\"Units\": [[]], \"Yields\": []\x7d"

/-- A frame with two rows of `Yields`. -/
def yieldsFrame : Frame :=
  ⟨[(⟨"YieldType", .text⟩, [.text "YIELD_FOOD", .text "YIELD_GOLD"])]⟩

/-- A frame with one row of `Modifiers`. -/
def modifierFrame : Frame :=
  ⟨[(⟨"ModifierId", .text⟩, [.text "MOD_A"])]⟩

/-- Reads that gave `Yields` and `Modifiers`. -/
def allRead : List (String × Option Frame) :=
  [("Yields", some yieldsFrame), ("Modifiers", some modifierFrame)]

/-- Both tables of `halfReadable` have no rows in the database, and only `Units`, which cannot be
cast, is in `failed`. The database of `allRead` has its rows and `Distinguishes` failed tables from
empty ones. -/
theorem uncast_table_listed :
    (∃ db, ofFile "rules" (some halfReadable.toUTF8) = .ok db ∧
      (db.table "Units").rows = [] ∧ "Units" ∈ db.failed ∧
      (db.table "Yields").rows = [] ∧ "Yields" ∉ db.failed) ∧
    ∃ db, ofReads "rules" allRead = .ok db ∧
      (db.table "Yields").rows = [[.text "YIELD_FOOD"], [.text "YIELD_GOLD"]] ∧
      db.Distinguishes ["Yields", "Modifiers"] (readIn? allRead) := by
  let tables : List (String × Json) := [("Units", .array [.array []]), ("Yields", .array [])]
  have hfile : DataFile.Holds (some halfReadable.toUTF8) (.ofFields tables) := by
    refine ⟨halfReadable, rfl, ?_⟩
    cbv
  have hknown : ∀ entry ∈ tables, entry.1 ∈ Schema.tableNames := by
    have hnames : ∀ name ∈ ["Units", "Yields"], name ∈ Schema.tableNames := by decide
    exact fun entry hentry => hnames _ (List.mem_map_of_mem hentry)
  have hunits : tableOfJson "Units" (.array [.array []]) = .error .unreadable := rfl
  have hyields : tableOfJson "Yields" (.array []) = .ok ⟨[⟨"YieldType", .text⟩], []⟩ := rfl
  have hload : ofFile "rules" (some halfReadable.toUTF8)
      = .ok (complete (takenTables tables) (failedNames tables)) := by
    refine LoadsTo.eq (.loaded ⟨_, hfile, Json.namedFields?_ofFields tables⟩ ?_ (.inr ?_))
    · simp [tables, hunits, hyields]
    · exact ⟨_, .tail _ (.head _), _, hyields⟩
  obtain ⟨hholds, hdistinguishes⟩ := (failed_tables_exact _ _).1 _ _ hfile hknown hload
  have huncast : castIn? tables "Units" = none := rfl
  have hcast : castIn? tables "Yields" = some ⟨[⟨"YieldType", .text⟩], []⟩ := rfl
  refine ⟨⟨_, hload, ?_, (hdistinguishes.listed _).2 ⟨.head _, huncast⟩, ?_, ?_⟩, _, rfl, rfl, ?_⟩
  · rw [hholds "Units" _ rfl, huncast]
    rfl
  · rw [hholds "Yields" _ rfl, hcast]
    rfl
  · rw [hdistinguishes.listed, hcast]
    rintro ⟨-, hnone⟩
    cases hnone
  · refine ((failed_tables_exact "rules" _).2 ["Yields", "Modifiers"] allRead rfl rfl).2.2.2 ?_
    -- both frames were read and cast
    have hyields : readIn? allRead "Yields" ≠ none := Option.some_ne_none _
    have hmodifiers : readIn? allRead "Modifiers" ≠ none := Option.some_ne_none _
    simp only [requestedTables, List.isEmpty_cons, Bool.false_eq_true, if_false,
      List.forall_mem_cons]
    exact ⟨hyields, hmodifiers, List.forall_mem_nil _⟩

/-- Reads that gave `Modifiers` and failed on `Requirements`. -/
def unread : List (String × Option Frame) :=
  [("Modifiers", some modifierFrame), ("Requirements", none)]

/-- Reads that gave `Modifiers`, and `Requirements` without rows. -/
def barren : List (String × Option Frame) :=
  [("Modifiers", some modifierFrame), ("Requirements", some ⟨[(⟨"RequirementId", .text⟩, [])]⟩)]

/-- `readIn? unread` has no `Requirements`, but they are not in `failed`, and the database is that
of `barren`, where they have no rows. -/
theorem unread_table_unlisted :
    unread.map Prod.fst = requestedTables ["Modifiers", "Requirements"] ∧
      readIn? unread "Requirements" = none ∧
      ∃ db, ofReads "rules" unread = .ok db ∧ "Requirements" ∉ db.failed ∧
        ofReads "rules" barren = .ok db ∧
        ¬ db.Distinguishes ["Modifiers", "Requirements"] (readIn? unread) := by
  have hunread : readIn? unread "Requirements" = none := rfl
  let columns : List Column :=
    [⟨"RequirementId", .text⟩, ⟨"RequirementType", .text⟩, ⟨"Inverse", .flag⟩]
  have hcolumns : Schema.columns? "Requirements" = some columns := rfl
  -- both engines gave the same modifiers, and the second an empty table besides
  obtain ⟨modifiers, hload, hbarren⟩ : ∃ modifiers,
      ofReads "rules" unread = .ok (complete [("Modifiers", modifiers)] []) ∧
      ofReads "rules" barren = .ok (complete
        ([("Modifiers", modifiers)] ++ [("Requirements", Table.withColumns columns)]) []) :=
    ⟨_, rfl, rfl⟩
  refine ⟨rfl, hunread, _, hload, nofun, ?_, ?_⟩
  · rw [hbarren, complete_concat_empty _ _ hcolumns]
  · intro hdistinguishes
    have hlisted := (hdistinguishes.listed "Requirements").2 ⟨by simp, hunread⟩
    cases hlisted

end Database

end PolicyForecast
