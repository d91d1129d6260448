import PolicyForecast.Proofs.AddedRules
import PolicyForecast.Proofs.TableLoading

/-!
# Rows under fresh ids

A database grows by rows that are appended to its tables (`Database.withRows`). Rows are *fresh* if
each of them has a key that is a text in no cell of the database, or no key at all; otherwise they
may hold anything, also ids of the database and references in cycles. Main statement: fresh rows do
not change the preview of any tradition, unless they are rows for the tradition itself
(`Engine.preview_withRows`).
-/

namespace PolicyForecast

namespace Database

/-- The tables that say something about traditions, modifiers and requirements, with the columns of
their keys. -/
def keyedTables : List (String × String) :=
  [("TraditionModifiers", "TraditionType"), ("Modifiers", "ModifierId"),
   ("DynamicModifiers", "ModifierType"), ("ModifierArguments", "ModifierId"),
   ("RequirementSets", "RequirementSetId"), ("RequirementSetRequirements", "RequirementSetId"),
   ("Requirements", "RequirementId"), ("RequirementArguments", "RequirementId")]

/-- The database with other rows in its tables. -/
def mapRows (db : Database) (rows : String → List (List Cell) → List (List Cell)) : Database :=
  { db with tables := db.tables.map fun (name, t) => (name, { t with rows := rows name t.rows }) }

/-- The database with further rows at the ends of its tables. -/
def withRows (db : Database) (added : String → List (List Cell)) : Database :=
  db.mapRows fun name rows => rows ++ added name

/-- The database with nothing but the further rows in its tables. -/
def onlyRows (db : Database) (added : String → List (List Cell)) : Database :=
  db.mapRows fun name _ => added name

/-- The key in a row of a table. -/
def key? (db : Database) (table : String) (cells : List Cell) : Option String :=
  (keyedTables.lookup table).bind (Row.text? ((db.table table).columnNames.zip cells))

/-- A cell of the database holds a text. -/
def Mentions (db : Database) (id : String) : Prop :=
  ∃ entry ∈ db.tables, ∃ cells ∈ entry.2.rows, ∃ cell ∈ cells, cell.text? = some id

instance (db : Database) (id : String) : Decidable (db.Mentions id) :=
  inferInstanceAs (Decidable (∃ entry ∈ db.tables, ∃ cells ∈ entry.2.rows, ∃ cell ∈ cells,
    cell.text? = some id))

/-- Rows for the keyed tables, of which each has a key that the database does not mention, if
any. -/
structure FreshRows (db : Database) (added : String → List (List Cell)) : Prop where
  keyed : ∀ table, keyedTables.lookup table = none → added table = []
  fresh : ∀ table, ∀ cells ∈ added table, ∀ id, db.key? table cells = some id → ¬ db.Mentions id

variable {db : Database} {added : String → List (List Cell)}

/-! ## Tables with further rows -/

lemma table_mapRows (db : Database) (rows : String → List (List Cell) → List (List Cell))
    (name : String) : (db.mapRows rows).table name
      = (db.tables.lookup name).elim {} fun t => { t with rows := rows name t.rows } := by
  unfold Database.table mapRows
  dsimp only
  rw [lookup_map_value fun table (t : Table) => (⟨t.columns, rows table t.rows⟩ : Table)]
  cases db.tables.lookup name <;> rfl

/-- The rows of `withRows` are those of the table and then those of `onlyRows`. -/
lemma namedRows_withRows (db : Database) (added : String → List (List Cell)) (name : String) :
    ((db.withRows added).table name).namedRows
      = (db.table name).namedRows ++ ((db.onlyRows added).table name).namedRows := by
  unfold withRows onlyRows
  rw [table_mapRows, table_mapRows]
  unfold Database.table
  cases db.tables.lookup name with
  | none => rfl
  | some t => exact List.map_append

lemma table_withRows_of_nil {name : String} (h : added name = []) :
    (db.withRows added).table name = db.table name := by
  unfold withRows
  rw [table_mapRows, h]
  unfold Database.table
  cases db.tables.lookup name with
  | none => rfl
  | some t =>
    show { t with rows := t.rows ++ [] } = t
    rw [List.append_nil]

/-- A row of `onlyRows` comes of cells in `added`. -/
lemma exists_of_mem_onlyRows {name : String} {row : Row}
    (h : row ∈ ((db.onlyRows added).table name).namedRows) :
    ∃ cells ∈ added name, row = (db.table name).columnNames.zip cells := by
  unfold onlyRows at h
  rw [table_mapRows] at h
  unfold Database.table
  cases hlookup : db.tables.lookup name with
  | none =>
    rw [hlookup] at h
    cases h
  | some t =>
    rw [hlookup] at h
    obtain ⟨cells, hcells, rfl⟩ := List.mem_map.1 h
    exact ⟨cells, hcells, rfl⟩

/-- `Mentions` holds of every text in a row. -/
lemma mentions_of_text? {name column id : String} {row : Row}
    (hrow : row ∈ (db.table name).namedRows) (hid : row.text? column = some id) :
    db.Mentions id := by
  obtain ⟨cells, hcells, rfl⟩ := List.mem_map.1 hrow
  -- the table is one of the database, since it has a row
  obtain ⟨t, hlookup⟩ : ∃ t, db.tables.lookup name = some t := by
    cases hlookup : db.tables.lookup name with
    | none =>
      unfold Database.table at hcells
      rw [hlookup] at hcells
      cases hcells
    | some t => exact ⟨t, rfl⟩
  have htable : db.table name = t := by
    unfold Database.table
    rw [hlookup]
    rfl
  obtain ⟨before, after, htables, -⟩ := List.lookup_eq_some_iff.1 hlookup
  have hentry : (name, t) ∈ db.tables := by
    rw [htables]
    exact List.mem_append_right before List.mem_cons_self
  -- the text is in the cell of the column
  unfold Row.text? Row.cell at hid
  cases hcell : ((db.table name).columnNames.zip cells).lookup column with
  | none =>
    rw [hcell] at hid
    cases hid
  | some cell =>
    rw [hcell] at hid
    obtain ⟨left, right, hzip, -⟩ := List.lookup_eq_some_iff.1 hcell
    have hmem : (column, cell) ∈ (db.table name).columnNames.zip cells := by
      rw [hzip]
      exact List.mem_append_right left List.mem_cons_self
    exact ⟨(name, t), hentry, cells, htable ▸ hcells, cell, (List.of_mem_zip hmem).2, hid⟩

/-! ## Rules with further rows -/

/-- The rules of a database refer to what the database `Mentions`. -/
lemma refersWithin (db : Database) : (Rules.ofDatabase db).RefersWithin db.Mentions := by
  have hcolumn {α : Type} {name column : String} {read : Row → α} {field : α → Option String}
      (hfield : ∀ row, field (read row) = row.text? column) :
      ∀ r ∈ (db.table name).namedRows.map read, ∀ k, field r = some k → db.Mentions k := by
    intro r hr k hk
    obtain ⟨row, hrow, rfl⟩ := List.mem_map.1 hr
    rw [hfield] at hk
    exact mentions_of_text? hrow hk
  exact {
    traditions := hcolumn fun _ => rfl
    types := hcolumn fun _ => rfl
    subjectSets := hcolumn fun _ => rfl
    ownerSets := hcolumn fun _ => rfl
    arguments := hcolumn fun _ => rfl
    requirements := hcolumn fun _ => rfl
    sets := hcolumn fun _ => rfl }

/-- The rules of `FreshRows` are `SilentOn` what the database `Mentions`. -/
lemma FreshRows.silentOn (h : db.FreshRows added) :
    (Rules.ofDatabase (db.onlyRows added)).SilentOn db.Mentions := by
  have hkeys {α : Type} {name column : String} {read : Row → α} {key : α → Option String}
      (hcolumn : keyedTables.lookup name = some column)
      (hkey : ∀ row, key (read row) = row.text? column) :
      Rules.KeysAvoid key db.Mentions
        (((db.onlyRows added).table name).namedRows.map read) := by
    intro r hr k hk
    obtain ⟨row, hrow, rfl⟩ := List.mem_map.1 hr
    obtain ⟨cells, hcells, rfl⟩ := exists_of_mem_onlyRows hrow
    rw [hkey] at hk
    refine h.fresh name cells hcells k ?_
    unfold key?
    rw [hcolumn]
    exact hk
  exact {
    modifiers := hkeys rfl fun _ => rfl
    modifierTypes := hkeys rfl fun _ => rfl
    modifierArguments := hkeys rfl fun _ => rfl
    requirementSets := hkeys rfl fun _ => rfl
    requirementLinks := hkeys rfl fun _ => rfl
    requirements := hkeys rfl fun _ => rfl
    requirementArguments := hkeys rfl fun _ => rfl }

/-- The rules of `withRows` are those of the database, `adding` those of the rows. -/
lemma FreshRows.ofDatabase_withRows (h : db.FreshRows added) :
    Rules.ofDatabase (db.withRows added)
      = (Rules.ofDatabase db).adding (Rules.ofDatabase (db.onlyRows added)) := by
  have hkeyed {α : Type} (name : String) (read : Row → α) :
      Rules.ofDatabase.records (db.withRows added) name read
        = Rules.ofDatabase.records db name read
          ++ Rules.ofDatabase.records (db.onlyRows added) name read := by
    unfold Rules.ofDatabase.records
    rw [namedRows_withRows, List.map_append]
  have hother {α : Type} {name : String} (hname : keyedTables.lookup name = none)
      (read : Row → α) :
      Rules.ofDatabase.records (db.withRows added) name read
        = Rules.ofDatabase.records db name read := by
    unfold Rules.ofDatabase.records
    rw [table_withRows_of_nil (h.keyed name hname)]
  have hyields : (db.withRows added).yieldTypes = db.yieldTypes := by
    unfold Database.yieldTypes
    rw [table_withRows_of_nil (h.keyed "Yields" rfl)]
  unfold Rules.adding Rules.ofDatabase
  rw [hyields]
  congr 1
  all_goals first | exact hkeyed _ _ | exact hother rfl _

end Database

namespace Engine

/-- Rows with `FreshRows`, none of them for the tradition `t`, leave the preview of `t` as it is. -/
theorem preview_withRows (db : Database) (added : String → List (List Cell))
    (hfresh : db.FreshRows added) (settings : Settings) (baselines : Baselines) (g : Snapshot)
    (t : String)
    (ht : ∀ cells ∈ added "TraditionModifiers", db.key? "TraditionModifiers" cells ≠ some t)
    (cache cache' : RuleCache) (hcache : cache.Faithful (.ofDatabase db))
    (hcache' : cache'.Faithful (.ofDatabase (db.withRows added))) :
    ((⟨.ofDatabase (db.withRows added), settings, baselines⟩ : Engine).preview g (some t) cache').1
      = ((⟨.ofDatabase db, settings, baselines⟩ : Engine).preview g (some t) cache).1 := by
  have htradition : ∀ r ∈ (Rules.ofDatabase (db.onlyRows added)).traditionModifiers,
      r.tradition ≠ some t := by
    intro r hr
    obtain ⟨row, hrow, rfl⟩ := List.mem_map.1 hr
    obtain ⟨cells, hcells, rfl⟩ := Database.exists_of_mem_onlyRows hrow
    have hcolumn : Database.keyedTables.lookup "TraditionModifiers" = some "TraditionType" := rfl
    have hkey := ht cells hcells
    unfold Database.key? at hkey
    rw [hcolumn] at hkey
    exact hkey
  rw [hfresh.ofDatabase_withRows] at hcache' ⊢
  exact preview_adding (e := ⟨.ofDatabase db, settings, baselines⟩) hfresh.silentOn
    db.refersWithin g t htradition hcache hcache'

end Engine

/-! ## A revolt -/

namespace Database

/-- `HOARD` gives the player 5 gold by `GRANT`. -/
def hoarding : Database :=
  complete
    [("TraditionModifiers",
      ⟨[⟨"TraditionType", .text⟩, ⟨"ModifierId", .text⟩], [[.text "HOARD", .text "GRANT"]]⟩),
     ("Modifiers",
      ⟨[⟨"ModifierId", .text⟩, ⟨"ModifierType", .text⟩, ⟨"OwnerRequirementSetId", .text⟩],
       [[.text "GRANT", .text "TYPE", .null]]⟩),
     ("DynamicModifiers",
      ⟨[⟨"ModifierType", .text⟩, ⟨"CollectionType", .text⟩, ⟨"EffectType", .text⟩],
       [[.text "TYPE", .text "COLLECTION_OWNER", .text "EFFECT_PLAYER_ADJUST_YIELD"]]⟩),
     ("ModifierArguments",
      ⟨[⟨"ModifierId", .text⟩, ⟨"Name", .text⟩, ⟨"Value", .text⟩],
       [[.text "GRANT", .text "YieldType", .text "YIELD_GOLD"],
        [.text "GRANT", .text "Amount", .text "5"]]⟩)]
    []

/-- Rows in which `REVOLT` brings `GRANT` and `LOOP`, which attaches itself and whose set `KNOT`
requires itself. -/
def revolt : List (String × List (List Cell)) :=
  [("TraditionModifiers",
    [[.text "REVOLT", .text "GRANT"], [.text "REVOLT", .text "LOOP"], [.null, .text "GRANT"]]),
   ("Modifiers", [[.text "LOOP", .text "ATTACH", .text "KNOT"]]),
   ("DynamicModifiers",
    [[.text "ATTACH", .text "COLLECTION_OWNER", .text "EFFECT_ATTACH_MODIFIERS"]]),
   ("ModifierArguments", [[.text "LOOP", .text "ModifierId", .text "LOOP"]]),
   ("RequirementSetRequirements", [[.text "KNOT", .text "AGAIN"]]),
   ("Requirements", [[.text "AGAIN", .text setIsMet, .flag false]]),
   ("RequirementArguments", [[.text "AGAIN", .text "RequirementSetId", .text "KNOT"]])]

lemma freshRows_revolt : hoarding.FreshRows fun name => (revolt.lookup name).getD [] where
  keyed name hname := by
    have hkeyed : ∀ entry ∈ revolt, keyedTables.lookup entry.1 ≠ none := by decide
    cases hrows : revolt.lookup name with
    | none => rfl
    | some rows =>
      obtain ⟨before, after, hrevolt, -⟩ := List.lookup_eq_some_iff.1 hrows
      exact absurd hname (hkeyed (name, rows) (by simp [hrevolt]))
  fresh name cells hcells id hid := by
    have hfresh : ∀ entry ∈ revolt, ∀ cells ∈ entry.2,
        (hoarding.key? entry.1 cells).all (fun id => !decide (hoarding.Mentions id)) = true := by
      decide +kernel
    cases hrows : revolt.lookup name with
    | none =>
      rw [hrows] at hcells
      cases hcells
    | some rows =>
      rw [hrows] at hcells
      obtain ⟨before, after, hrevolt, -⟩ := List.lookup_eq_some_iff.1 hrows
      have hall := hfresh (name, rows) (by simp [hrevolt]) cells hcells
      rw [hid] at hall
      simpa using hall

end Database

namespace Engine

/-- `revolt`, with a modifier that attaches itself and a set that requires itself, has `FreshRows`
over `hoarding` and leaves the preview of `HOARD` as it is. -/
theorem hoard_outlasts_revolt :
    let added := fun name => (Database.revolt.lookup name).getD []
    Database.hoarding.FreshRows added ∧
      (∀ cells ∈ added "TraditionModifiers",
        Database.hoarding.key? "TraditionModifiers" cells ≠ some "HOARD") ∧
      ((⟨.ofDatabase (Database.hoarding.withRows added), {}, ∅⟩ : Engine).preview .solitaire
          (some "HOARD") (.ofRules (.ofDatabase (Database.hoarding.withRows added)))).1
        = ((⟨.ofDatabase Database.hoarding, {}, ∅⟩ : Engine).preview .solitaire (some "HOARD")
          (.ofRules (.ofDatabase Database.hoarding))).1 := by
  intro added
  have hother : ∀ cells ∈ added "TraditionModifiers",
      Database.hoarding.key? "TraditionModifiers" cells ≠ some "HOARD" := by
    decide +kernel
  exact ⟨Database.freshRows_revolt, hother,
    preview_withRows Database.hoarding added Database.freshRows_revolt {} ∅ .solitaire "HOARD"
      hother _ _ (RuleCache.faithful_ofRules _) (RuleCache.faithful_ofRules _)⟩

end Engine

end PolicyForecast
