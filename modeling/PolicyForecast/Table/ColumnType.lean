/-!
# Column types

What a column of a rule table holds. The known tables have columns of texts, integers, doubles and
flags; a table that is not known may also have columns of lists and of records. Two types have a
join where values of both can stand in one column, and the type without values is the unit of it.
-/

namespace PolicyForecast

/-- Which integers a column holds. -/
inductive IntegerRange where
  /-- Those of 64 bits. -/
  | word
  /-- Those of 64 bits without a sign. -/
  | unsignedWord
  /-- Those of 128 bits. -/
  | wide
  /-- Those of 128 bits without a sign. -/
  | unsignedWide
deriving DecidableEq, Repr, Inhabited

namespace IntegerRange

/-- Whether an integer lies in a range. -/
def contains : IntegerRange → Int → Bool
  | .word, n => -Int.pow 2 63 ≤ n && n < Int.pow 2 63
  | .unsignedWord, n => 0 ≤ n && n < Int.pow 2 64
  | .wide, n => -Int.pow 2 127 ≤ n && n < Int.pow 2 127
  | .unsignedWide, n => 0 ≤ n && n < Int.pow 2 128

/-- The range of an integer on its own; an integer beyond all of them has no representation. -/
def of? (n : Int) : Option IntegerRange :=
  [.word, .wide, .unsignedWide].find? (·.contains n)

/-- The range for integers of two ranges, in which integers of 128 bits without a sign need not lie.
The two ranges of 64 bits have none. -/
def join? : IntegerRange → IntegerRange → Option IntegerRange
  | .word, .word => some .word
  | .unsignedWord, .unsignedWord => some .unsignedWord
  | .word, .unsignedWord | .unsignedWord, .word => none
  | .unsignedWide, .unsignedWide | .unsignedWide, .unsignedWord | .unsignedWord, .unsignedWide =>
    some .unsignedWide
  | _, _ => some .wide

end IntegerRange

/-- What a column holds. -/
inductive ColumnType where
  | text
  | integer (range : IntegerRange)
  | real
  | flag
  | list (item : ColumnType)
  | record (fields : List (String × ColumnType))
  /-- Nothing but nulls. -/
  | untyped
deriving Inhabited

namespace ColumnType

mutual

/-- Whether two types are the same, with the fields of records in the same order. -/
def same : ColumnType → ColumnType → Bool
  | .text, .text | .real, .real | .flag, .flag | .untyped, .untyped => true
  | .integer a, .integer b => a == b
  | .list a, .list b => same a b
  | .record a, .record b => sameFields a b
  | _, _ => false

/-- Whether two records have the same fields. -/
def sameFields : List (String × ColumnType) → List (String × ColumnType) → Bool
  | [], [] => true
  | (a, t) :: rest, (b, u) :: others => a == b && same t u && sameFields rest others
  | _, _ => false

end

/-- The join of two types without parts, or of texts with any type. Flags are taken for numbers, and
all for texts. -/
def joinPlain? : ColumnType → ColumnType → Option ColumnType
  | .untyped, t | t, .untyped => some t
  | .text, _ | _, .text => some .text
  | .list _, _ | _, .list _ | .record _, _ | _, .record _ => none
  | .real, _ | _, .real => some .real
  | .integer a, .integer b => some ((a.join? b).elim .real .integer)
  | .integer a, .flag | .flag, .integer a => some (.integer a)
  | .flag, .flag => some .flag

/-- Whether values of a type have no parts. -/
def isPlain : ColumnType → Bool
  | .list _ | .record _ => false
  | _ => true

/-- Whether values of a type are lists. -/
def isList : ColumnType → Bool
  | .list _ => true
  | _ => false

/-- Whether a type is one of numbers. -/
def isNumeric : ColumnType → Bool
  | .integer _ | .real => true
  | _ => false

mutual

/-- The join of a type of numbers with another type; a record takes it into each field. -/
def joinNumeric? (number : ColumnType) : ColumnType → Option ColumnType
  | .record fields => (joinNumericFields? number fields).map .record
  | t => joinPlain? number t

/-- The join of a type of numbers with the fields of a record. -/
def joinNumericFields? (number : ColumnType) :
    List (String × ColumnType) → Option (List (String × ColumnType))
  | [] => some []
  | (name, t) :: rest => do
    let t ← joinNumeric? number t
    return (name, t) :: (← joinNumericFields? number rest)

end

/-- The fields that two records make up together, with those of the longer record first. -/
def arranged (a b joined : List (String × ColumnType)) : List (String × ColumnType) :=
  if a.length < b.length then
    b.filterMap (fun (name, _) => (joined.lookup name).map (name, ·))
      ++ joined.filter (fun (name, _) => (b.lookup name).isNone)
  else joined

mutual

/-- The join of two types: the narrowest that takes the values of both, if any does. Lists are
joined by their items, and records by the fields that either has. -/
def join? : ColumnType → ColumnType → Option ColumnType
  | .list a, .list b => (join? a b).map .list
  | .record a, .record b => (joinFields? a b).map fun joined => .record (arranged a b joined)
  | .record a, b => if b.isNumeric then joinNumeric? b (.record a) else joinPlain? (.record a) b
  | a, b => if a.isNumeric then joinNumeric? a b else joinPlain? a b

/-- The fields of two records. -/
def joinFields? :
    List (String × ColumnType) → List (String × ColumnType) → Option (List (String × ColumnType))
  | [], others => some others
  | (name, t) :: rest, others => do
    let t ← match others.lookup name with
      | some u => join? t u
      | none => some t
    return (name, t) :: (← joinFields? rest (others.filter (·.1 != name)))

end

/-- The join of any number of types, each of which is taken once, where it comes first. -/
def joinAll? (types : List ColumnType) : Option ColumnType :=
  (types.eraseDupsBy same).foldlM join? .untyped

/-- Whether values of a type hold nothing: nulls, and lists of nothing but nulls. -/
def isHollow : ColumnType → Bool
  | .untyped | .list .untyped => true
  | _ => false

/-- Whether a type has no values. -/
def isUntyped : ColumnType → Bool
  | .untyped => true
  | _ => false

/-- The type of a field in a record; a list that is read as a record has items for the fields. -/
def field (name : String) : ColumnType → ColumnType
  | .record fields => (fields.lookup name).getD .untyped
  | .list item => item
  | _ => .untyped

/-- The first type with values that hold something, or else the first with values. -/
def first (types : List ColumnType) : ColumnType :=
  ((types.find? (!·.isHollow)).or (types.find? (!·.isUntyped))).getD .untyped

/-- A type in which the fields without values have the first type that others give them, in so many
levels of records. The items of a list without any are those of the first list with some. -/
def completed : (levels : Nat) → ColumnType → List ColumnType → ColumnType
  | levels + 1, .record fields, others => .record <| fields.map fun (name, t) =>
    let parts := others.map (field name)
    (name, completed levels (if t.isUntyped then first parts else t) parts)
  | _, .list .untyped, others =>
    (others.find? fun t => t.isList && !t.isHollow).getD (.list .untyped)
  | _, t, _ => t

mutual

/-- How many levels of lists and records a type has. -/
def levels : ColumnType → Nat
  | .list item => levels item + 1
  | .record fields => levelsOf fields + 1
  | _ => 0

/-- How many levels of lists and records the fields of a record have. -/
def levelsOf : List (String × ColumnType) → Nat
  | [] => 0
  | (_, t) :: rest => max (levels t) (levelsOf rest)

end

/-- The type that leads values of several types: the first that holds something, completed by the
others. -/
def leading (types : List ColumnType) : ColumnType :=
  completed ((types.map levels).foldl max 0) (first types) types

mutual

/-- Whether the items of lists of one type can be made items of lists of another. Records can be
texts, and a record of one field takes plain items into that field. -/
def castsTo : ColumnType → ColumnType → Bool
  | .untyped, _ => true
  | .list a, .list b => castsTo a b
  | .record a, .record b => castsToFields a b
  | .record _, .text => true
  | .list _, _ | .record _, _ | _, .list _ => false
  | own, .record [(_, field)] => castsTo own field
  | _, .record _ => false
  | .text, .flag => false
  | _, _ => true

/-- Whether the fields that two records share can be made those of the second. -/
def castsToFields (own : List (String × ColumnType)) : List (String × ColumnType) → Bool
  | [] => true
  | (name, field) :: rest =>
    castsTo ((own.lookup name).getD .untyped) field && castsToFields own rest

end

end ColumnType

end PolicyForecast
