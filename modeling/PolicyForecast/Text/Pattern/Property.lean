import PolicyForecast.Text.Pattern
import PolicyForecast.Text.Script

/-!
# Properties of characters by name

A class can be given by the name of a property: a general category or a set of them, a script, or
one of a few properties that a character has or has not. In names, neither case nor blanks, hyphens
and low lines count, nor does `is` at the front.
-/

namespace PolicyForecast.Text.CharClass

/-- A name without what does not count in it. -/
def plainName (name : List Char) : String :=
  let lowered := name.map Char.toLower
  let rest := if lowered.take 2 == ['i', 's'] then lowered.drop 2 else lowered
  String.ofList (rest.filter fun c => c != ' ' && c != '_' && c != '-')

/-- The small and capital letters that are no letters by their category, among them those that are
set above or below the line. -/
def otherSmall : List (Nat × Nat) :=
  [(0xaa, 0xaa), (0xba, 0xba), (0x2b0, 0x2b8), (0x2c0, 0x2c1), (0x2e0, 0x2e4), (0x345, 0x345),
   (0x37a, 0x37a), (0x1d2c, 0x1d6a), (0x1d78, 0x1d78), (0x1d9b, 0x1dbf), (0x2071, 0x2071),
   (0x207f, 0x207f), (0x2090, 0x209c), (0x2170, 0x217f), (0x2c7c, 0x2c7d), (0xa69c, 0xa69d),
   (0xa770, 0xa770), (0xa7f8, 0xa7f9), (0xab5c, 0xab5f)] ++ enclosedLetters.2

/-- The hexadecimal digits of ASCII. -/
def hexDigit : List (Nat × Nat) :=
  [(0x30, 0x39), (0x41, 0x46), (0x61, 0x66)]

/-- The properties that a character has or has not, by their short and long names. -/
def properties : List (String × String × CharClass) :=
  [("alpha", "alphabetic", letter),
   ("upper", "uppercase",
    .either (.categories [.capitalLetter]) (.ranges ((0x2160, 0x216f) :: enclosedLetters.1))),
   ("lower", "lowercase", .either (.categories [.smallLetter]) (.ranges otherSmall)),
   ("space", "whitespace", space), ("wspace", "whitespace", space),
   ("ahex", "asciihexdigit", .ranges hexDigit),
   ("hex", "hexdigit",
    .ranges (hexDigit ++ [(0xff10, 0xff19), (0xff21, 0xff26), (0xff41, 0xff46)])),
   ("joinc", "joincontrol", .ranges [(0x200c, 0x200d)])]

/-- The categories, or all of ASCII, by a plain name. -/
def ofCategory? (name : String) : Option CharClass :=
  if name == "ascii" then some ascii else (Category.ofName? name).map .categories

/-- A script by a plain name. -/
def ofScript? (name : String) : Option CharClass :=
  (Script.ofName? name).map .ranges

/-- The class of the characters with a property. -/
def ofProperty? (name : List Char) : Option CharClass :=
  let name := plainName name
  let property := properties.find? fun (short, long, _) => name == short || name == long
  ((property.map (·.2.2)).or (ofCategory? name)).or (ofScript? name)

/-- The class of the characters for which a property has a value. -/
def ofValue? (property value : List Char) : Option CharClass :=
  match plainName property with
  | "gc" | "generalcategory" => ofCategory? (plainName value)
  | "sc" | "script" | "scx" | "scriptextensions" => ofScript? (plainName value)
  | _ => none

/-- Splits a text where a sign stands for the first time. -/
def splitAt? (sign : List Char) : List Char → Option (List Char × List Char)
  | [] => none
  | c :: rest =>
    if sign.isPrefixOf (c :: rest) then some ([], (c :: rest).drop sign.length)
    else (splitAt? sign rest).map fun (before, after) => (c :: before, after)

/-- The class that is described by a property, or by a property and its value with `=`, `:` or `!=`
between them. -/
def ofDescription? (text : List Char) : Option CharClass :=
  match splitAt? ['!', '='] text, splitAt? [':'] text, splitAt? ['='] text with
  | some (property, value), _, _ => (ofValue? property value).map .other
  | _, some (property, value), _ | _, _, some (property, value) => ofValue? property value
  | none, none, none => ofProperty? text

example : (ofDescription? "Lu".toList).map (·.holds 'É') = some true := by decide +kernel
example : (ofDescription? "script=Greek".toList).map (·.holds 'λ') = some true := by decide +kernel
example : (ofDescription? "gc!=Letter".toList).map (·.holds 'λ') = some false := by decide +kernel
example : (ofDescription? "nonsense".toList).isNone = true := by decide +kernel

end PolicyForecast.Text.CharClass
