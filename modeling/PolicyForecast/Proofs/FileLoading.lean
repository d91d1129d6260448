import Mathlib.Tactic
import PolicyForecast.Proofs.TableLoading
import PolicyForecast.Table.Loading

/-!
# Which data files are loaded

Loading a data file goes through four stages: the file is read, its bytes are taken for a text, the
text is read as a value, and the tables of that value are taken over. `Database.LoadsTo` lists what
can come of each stage, and every file meets exactly one of its cases (`Database.ofFile_eq_iff`).

A load declares that it may find nothing to read, a value that is no object, or an object of which
no table can be taken over. Main statement: it is refused in a declared way exactly for these
reasons, and otherwise it gives a database, unless the bytes are no text, an integer has too many
digits, or a number is out of range (`Database.ofFile_exact`). The first of these three is a file
without a readable value as well, yet it is not refused as one
(`Database.undecodable_byte_undeclared`).
-/

namespace PolicyForecast

/-- The faults that a load declares. -/
inductive LoadFault.IsDeclared : LoadFault → Prop where
  | unreadable : IsDeclared .unreadable
  | notAnObject {source kind : String} : IsDeclared (.notAnObject source kind)
  | nothingLoaded {source : String} : IsDeclared (.nothingLoaded source)

/-! ## What a file holds -/

/-- The bytes of a data file, or none when it cannot be read. -/
abbrev DataFile := Option ByteArray

namespace DataFile

/-- The bytes of a file are those of a text. -/
def Spells (file : DataFile) (text : String) : Prop :=
  file = some text.toUTF8

/-- A file holds a value. -/
def Holds (file : DataFile) (value : Json) : Prop :=
  ∃ text, file.Spells text ∧ Json.read text = .ok value

/-- A file holds an object of tables. -/
def Lists (file : DataFile) (tables : List (String × Json)) : Prop :=
  ∃ value, file.Holds value ∧ value.namedFields? = some tables

/-- There is no file, its bytes are not UTF-8, or it `Spells` a text. -/
lemma spells_cases (file : DataFile) :
    file = none ∨ (∃ bytes, file = some bytes ∧ ¬ bytes.IsValidUTF8) ∨
      ∃ text, file.Spells text := by
  cases file with
  | none => exact .inl rfl
  | some bytes =>
    by_cases h : bytes.IsValidUTF8
    · exact .inr (.inr ⟨String.fromUTF8 bytes h, rfl⟩)
    · exact .inr (.inl ⟨bytes, rfl, h⟩)

end DataFile

namespace Database

variable {source text : String} {file : DataFile} {value : Json} {tables : List (String × Json)}
  {result : Except LoadFault Database}

section Store

variable [TableStore]

/-- What a load comes to, case by case. -/
inductive LoadsTo (source : String) (file : DataFile) : Except LoadFault Database → Prop where
  | missing (hfile : file = none) : LoadsTo source file (.error .unreadable)
  | notText {bytes : ByteArray} (hfile : file = some bytes) (hbytes : ¬ bytes.IsValidUTF8) :
      LoadsTo source file (.error .notText)
  | malformed {text : String} (hfile : file.Spells text)
      (hread : Json.read text = .error .malformed) : LoadsTo source file (.error .unreadable)
  | oversizedInteger {text : String} (hfile : file.Spells text)
      (hread : Json.read text = .error .oversizedInteger) :
      LoadsTo source file (.error .oversizedInteger)
  | notAnObject {value : Json} (hfile : file.Holds value) (hvalue : value.namedFields? = none) :
      LoadsTo source file (.error (.notAnObject source value.kindName))
  | outOfRange {tables : List (String × Json)} (hfile : file.Lists tables)
      (hrange : ∃ entry ∈ tables, tableOfJson entry.1 entry.2 = .error .outOfRange) :
      LoadsTo source file (.error .outOfRange)
  | nothing {tables : List (String × Json)} (hfile : file.Lists tables) (hne : tables ≠ [])
      (hfail : ∀ entry ∈ tables, tableOfJson entry.1 entry.2 = .error .unreadable) :
      LoadsTo source file (.error (.nothingLoaded source))
  | loaded {tables : List (String × Json)} (hfile : file.Lists tables)
      (hrange : ∀ entry ∈ tables, tableOfJson entry.1 entry.2 ≠ .error .outOfRange)
      (hsome : tables = [] ∨ ∃ entry ∈ tables, ∃ table, tableOfJson entry.1 entry.2 = .ok table) :
      LoadsTo source file (.ok (complete (takenTables tables) (failedNames tables)))

/-! ## The stages of a load -/

lemma ofFile_of_notText {bytes : ByteArray} (h : ¬ bytes.IsValidUTF8) :
    ofFile source (some bytes) = .error .notText := by
  have hnone : String.fromUTF8? bytes = none := by
    unfold String.fromUTF8?
    exact dif_neg h
  unfold ofFile
  dsimp only
  rw [hnone]

lemma ofFile_of_spells (h : file.Spells text) : ofFile source file = ofFileText source text := by
  have hsome : String.fromUTF8? text.toUTF8 = some text := by
    unfold String.fromUTF8?
    exact dif_pos text.isValidUTF8
  unfold ofFile
  rw [h]
  dsimp only
  rw [hsome]

lemma ofFile_of_holds (h : file.Holds value) : ofFile source file = ofFileValue source value := by
  obtain ⟨text, htext, hread⟩ := h
  rw [ofFile_of_spells htext]
  unfold ofFileText
  rw [hread]

lemma ofFile_of_lists (h : file.Lists tables) :
    ofFile source file = match ofJson tables with
      | .error _ => .error .outOfRange
      | .ok db =>
        if !tables.isEmpty && db.failed.length == tables.length then .error (.nothingLoaded source)
        else .ok db := by
  obtain ⟨value, hvalue, hfields⟩ := h
  rw [ofFile_of_holds hvalue]
  unfold ofFileValue
  rewrite [hfields]
  rfl

/-- `failedNames` has as many names as there are tables iff every table is `unreadable`. -/
lemma length_failedNames_eq_iff
    (hrange : ∀ entry ∈ tables, tableOfJson entry.1 entry.2 ≠ .error .outOfRange) :
    (failedNames tables).length = tables.length
      ↔ ∀ entry ∈ tables, tableOfJson entry.1 entry.2 = .error .unreadable := by
  unfold failedNames
  rw [List.length_map, List.length_filter_eq_length_iff]
  refine forall₂_congr fun entry hentry => ?_
  rcases htable : tableOfJson entry.1 entry.2 with (_ | _) | table
  · simp [Except.toOption]
  · exact absurd htable (hrange entry hentry)
  · simp [Except.toOption]

/-- `ofFile` where no table is `outOfRange`. -/
lemma ofFile_of_not_outOfRange (hfile : file.Lists tables)
    (hrange : ∀ entry ∈ tables, tableOfJson entry.1 entry.2 ≠ .error .outOfRange) :
    ofFile source file =
      if !tables.isEmpty && (failedNames tables).length == tables.length
      then .error (.nothingLoaded source)
      else .ok (complete (takenTables tables) (failedNames tables)) := by
  rw [ofFile_of_lists hfile, ofJson_of_not_outOfRange hrange]
  rfl

/-! ## Every file meets one case -/

lemma LoadsTo.eq (h : LoadsTo source file result) : ofFile source file = result := by
  cases h with
  | missing hfile =>
    rw [hfile]
    rfl
  | notText hfile hbytes =>
    rw [hfile]
    exact ofFile_of_notText hbytes
  | malformed hfile hread =>
    rw [ofFile_of_spells hfile]
    unfold ofFileText
    rw [hread]
  | oversizedInteger hfile hread =>
    rw [ofFile_of_spells hfile]
    unfold ofFileText
    rw [hread]
  | notAnObject hfile hvalue =>
    rw [ofFile_of_holds hfile]
    unfold ofFileValue
    rw [hvalue]
  | outOfRange hfile hrange => rw [ofFile_of_lists hfile, ofJson_of_outOfRange hrange]
  | @nothing tables hfile hne hfail =>
    have hrange : ∀ entry ∈ tables, tableOfJson entry.1 entry.2 ≠ .error .outOfRange := by
      intro entry hentry hout
      rw [hfail entry hentry] at hout
      cases hout
    -- as many names fail as there are tables, and there is one
    have hlength := (length_failedNames_eq_iff hrange).2 hfail
    rw [ofFile_of_not_outOfRange hfile hrange, if_pos (by simp [hne, hlength])]
  | @loaded tables hfile hrange hsome =>
    rw [ofFile_of_not_outOfRange hfile hrange, if_neg]
    intro hnothing
    rw [Bool.and_eq_true, beq_iff_eq, length_failedNames_eq_iff hrange] at hnothing
    obtain ⟨hne, hfail⟩ := hnothing
    obtain ⟨entry, hentry, table, htable⟩ := hsome.resolve_left (by simpa using hne)
    rw [hfail entry hentry] at htable
    cases htable

lemma exists_loadsTo_of_lists (hfile : file.Lists tables) :
    ∃ result, LoadsTo source file result := by
  by_cases hrange : ∃ entry ∈ tables, tableOfJson entry.1 entry.2 = .error .outOfRange
  · exact ⟨_, .outOfRange hfile hrange⟩
  have hfits : ∀ entry ∈ tables, tableOfJson entry.1 entry.2 ≠ .error .outOfRange :=
    fun entry hentry hout => hrange ⟨entry, hentry, hout⟩
  by_cases hsome : tables = [] ∨ ∃ entry ∈ tables, ∃ table, tableOfJson entry.1 entry.2 = .ok table
  · exact ⟨_, .loaded hfile hfits hsome⟩
  rw [not_or] at hsome
  refine ⟨_, .nothing hfile hsome.1 fun entry hentry => ?_⟩
  -- a table that neither is taken over nor goes out of range cannot be read
  rcases htable : tableOfJson entry.1 entry.2 with (_ | _) | table
  · rfl
  · exact absurd htable (hfits entry hentry)
  · exact absurd ⟨entry, hentry, table, htable⟩ hsome.2

lemma exists_loadsTo (source : String) (file : DataFile) :
    ∃ result, LoadsTo source file result := by
  rcases file.spells_cases with hnone | ⟨bytes, hbytes, hinvalid⟩ | ⟨text, htext⟩
  · exact ⟨_, .missing hnone⟩
  · exact ⟨_, .notText hbytes hinvalid⟩
  rcases hread : Json.read text with (_ | _) | value
  · exact ⟨_, .malformed htext hread⟩
  · exact ⟨_, .oversizedInteger htext hread⟩
  have hholds : file.Holds value := ⟨text, htext, hread⟩
  cases hfields : value.namedFields? with
  | none => exact ⟨_, .notAnObject hholds hfields⟩
  | some tables => exact exists_loadsTo_of_lists ⟨value, hholds, hfields⟩

/-- `LoadsTo` has one constructor for each way of `ofFile` to end. -/
lemma ofFile_eq_iff : ofFile source file = result ↔ LoadsTo source file result := by
  constructor
  · rintro rfl
    obtain ⟨result, hresult⟩ := exists_loadsTo source file
    rw [hresult.eq]
    exact hresult
  · exact LoadsTo.eq

/-- `ofFile` ends in a fault that `IsDeclared` iff there is no file, its text is malformed, its
value is no object, or it `Lists` tables and all are `unreadable`. It gives a database iff it
`Lists` tables, none is `outOfRange` and, if there are any, one is taken over; `empty` for the empty
object. The other faults are `notText`, `oversizedInteger` and `outOfRange`. -/
theorem ofFile_exact (source : String) (file : DataFile) :
    ((∃ fault, fault.IsDeclared ∧ ofFile source file = .error fault) ↔
      file = none ∨ (∃ text, file.Spells text ∧ Json.read text = .error .malformed) ∨
        (∃ value, file.Holds value ∧ value.namedFields? = none) ∨
        ∃ tables, file.Lists tables ∧ tables ≠ [] ∧
          ∀ entry ∈ tables, tableOfJson entry.1 entry.2 = .error .unreadable) ∧
    ((∃ db, ofFile source file = .ok db) ↔
      ∃ tables, file.Lists tables ∧
        (∀ entry ∈ tables, tableOfJson entry.1 entry.2 ≠ .error .outOfRange) ∧
        (tables = [] ∨ ∃ entry ∈ tables, ∃ table, tableOfJson entry.1 entry.2 = .ok table)) ∧
    (file.Lists [] → ofFile source file = .ok empty) ∧
    (ofFile source file = .error .notText ↔
      ∃ bytes, file = some bytes ∧ ¬ bytes.IsValidUTF8) ∧
    (ofFile source file = .error .oversizedInteger ↔
      ∃ text, file.Spells text ∧ Json.read text = .error .oversizedInteger) ∧
    (ofFile source file = .error .outOfRange ↔
      ∃ tables, file.Lists tables ∧
        ∃ entry ∈ tables, tableOfJson entry.1 entry.2 = .error .outOfRange) := by
  simp only [ofFile_eq_iff]
  refine ⟨⟨?_, ?_⟩, ⟨?_, ?_⟩, fun hfile => .loaded hfile nofun (.inl rfl), ⟨?_, ?_⟩, ⟨?_, ?_⟩,
    ?_, ?_⟩
  · rintro ⟨fault, hdeclared, hloads⟩
    cases hdeclared with
    | unreadable =>
      cases hloads with
      | missing hfile => exact .inl hfile
      | malformed hfile hread => exact .inr (.inl ⟨_, hfile, hread⟩)
    | notAnObject =>
      cases hloads with
      | notAnObject hfile hvalue => exact .inr (.inr (.inl ⟨_, hfile, hvalue⟩))
    | nothingLoaded =>
      cases hloads with
      | nothing hfile hne hfail => exact .inr (.inr (.inr ⟨_, hfile, hne, hfail⟩))
  · rintro (hfile | ⟨text, hfile, hread⟩ | ⟨value, hfile, hvalue⟩ | ⟨tables, hfile, hne, hfail⟩)
    · exact ⟨_, .unreadable, .missing hfile⟩
    · exact ⟨_, .unreadable, .malformed hfile hread⟩
    · exact ⟨_, .notAnObject, .notAnObject hfile hvalue⟩
    · exact ⟨_, .nothingLoaded, .nothing hfile hne hfail⟩
  · rintro ⟨db, hloads⟩
    cases hloads with
    | loaded hfile hrange hsome => exact ⟨_, hfile, hrange, hsome⟩
  · rintro ⟨tables, hfile, hrange, hsome⟩
    exact ⟨_, .loaded hfile hrange hsome⟩
  · intro hloads
    cases hloads with
    | notText hfile hbytes => exact ⟨_, hfile, hbytes⟩
  · rintro ⟨bytes, hfile, hbytes⟩
    exact .notText hfile hbytes
  · intro hloads
    cases hloads with
    | oversizedInteger hfile hread => exact ⟨_, hfile, hread⟩
  · rintro ⟨text, hfile, hread⟩
    exact .oversizedInteger hfile hread
  · intro hloads
    cases hloads with
    | outOfRange hfile hrange => exact ⟨_, hfile, hrange⟩
  · rintro ⟨tables, hfile, hrange⟩
    exact .outOfRange hfile hrange

end Store

/-- `ofFile` gives `empty` for the empty object, and a fault that `IsDeclared` where the only table
is `Units` with a row that is no object. -/
theorem misshapen_table_refused :
    ofFile "rules" (some "\x7b\x7d".toUTF8) = .ok empty ∧
      ∃ fault, fault.IsDeclared ∧
        ofFile "rules" (some "\x7b\"Units\": [[]]\x7d".toUTF8) = .error fault := by
  have hempty : DataFile.Lists (some "\x7b\x7d".toUTF8) [] := by
    refine ⟨.object [], ⟨_, rfl, ?_⟩, rfl⟩
    cbv
  have hunits : DataFile.Lists (some "\x7b\"Units\": [[]]\x7d".toUTF8)
      [("Units", .array [.array []])] := by
    refine ⟨.object [(.text "Units", .array [.array []])], ⟨_, rfl, ?_⟩, rfl⟩
    cbv
  have hfail : tableOfJson "Units" (.array [.array []]) = .error .unreadable := rfl
  refine ⟨(ofFile_exact "rules" _).2.2.1 hempty, (ofFile_exact "rules" _).1.2 ?_⟩
  exact .inr (.inr (.inr ⟨_, hunits, by simp, by simpa using hfail⟩))

/-- The byte `0xff` gives neither a database nor a fault that `IsDeclared`. -/
theorem undecodable_byte_undeclared :
    ¬ ((∃ db, ofFile "rules" (some ⟨#[0xff]⟩) = .ok db) ∨
      ∃ fault, fault.IsDeclared ∧ ofFile "rules" (some ⟨#[0xff]⟩) = .error fault) := by
  have hinvalid : ¬ (⟨#[0xff]⟩ : ByteArray).IsValidUTF8 := by decide
  have hload : ofFile "rules" (some ⟨#[0xff]⟩) = .error .notText := ofFile_of_notText hinvalid
  rw [hload]
  rintro (⟨db, hdb⟩ | ⟨fault, hdeclared, hfault⟩)
  · cases hdb
  · cases hfault
    cases hdeclared

end Database

end PolicyForecast
