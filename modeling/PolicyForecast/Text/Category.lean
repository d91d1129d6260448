import PolicyForecast.Text.Blank
import PolicyForecast.Text.Digit
import PolicyForecast.Text.Letter
import PolicyForecast.Text.Mark
import PolicyForecast.Text.Sign

/-!
# Categories of characters

Every character has one general category. Categories have a short name of two letters and a long
one; some sets of them have names, too.
-/

namespace PolicyForecast.Text

/-- The general category of a character. -/
inductive Category where
  | capitalLetter
  | smallLetter
  | titleLetter
  | modifierLetter
  | otherLetter
  | nonspacingMark
  | spacingMark
  | enclosingMark
  | decimalNumber
  | letterNumber
  | otherNumber
  | connectorPunctuation
  | dashPunctuation
  | openingPunctuation
  | closingPunctuation
  | initialPunctuation
  | finalPunctuation
  | otherPunctuation
  | mathSymbol
  | currencySymbol
  | modifierSymbol
  | otherSymbol
  | spaceSeparator
  | lineSeparator
  | paragraphSeparator
  | control
  | format
  | surrogate
  | privateUse
  | unassigned
deriving DecidableEq, Repr

namespace Category

/-- The ranges of code points of a category, apart from capital and small letters that alternate. No
character is a surrogate, and what no other category has is unassigned. -/
def ranges : Category → List (Nat × Nat)
  | capitalLetter => Letter.capital
  | smallLetter => Letter.small
  | titleLetter => Letter.title
  | modifierLetter => Letter.modifier
  | otherLetter => Letter.otherLow ++ Letter.otherHigh
  | nonspacingMark => Mark.nonspacing
  | spacingMark => Mark.spacing
  | enclosingMark => Mark.enclosing
  | decimalNumber => digitZeros.map fun z => (z, z + 9)
  | letterNumber => Sign.letterNumber
  | otherNumber => Sign.otherNumber
  | connectorPunctuation => Sign.connector
  | dashPunctuation => Sign.dash
  | openingPunctuation => Sign.opening
  | closingPunctuation => Sign.closing
  | initialPunctuation => Sign.initialQuote
  | finalPunctuation => Sign.finalQuote
  | otherPunctuation => Sign.otherPunctuation
  | mathSymbol => Sign.math
  | currencySymbol => Sign.currency
  | modifierSymbol => Sign.modifier
  | otherSymbol => Sign.otherSymbol
  | spaceSeparator => Sign.space
  | lineSeparator => Sign.line
  | paragraphSeparator => Sign.paragraph
  | control => Sign.control
  | format => Sign.format
  | privateUse => Sign.privateUse
  | surrogate | unassigned => []

/-- The ranges of which every second code point is of a category. -/
def alternating : Category → List (Nat × Nat)
  | capitalLetter => Letter.capitalAlternating
  | smallLetter => Letter.smallAlternating
  | _ => []

/-- Whether a code point is listed in a category. -/
def lists (k : Category) (n : Nat) : Bool :=
  inRanges k.ranges n || k.alternating.any fun r => r.1 ≤ n && n ≤ r.2 && (n - r.1) % 2 == 0

/-- All categories by their short and long names, without the joints of words. -/
def named : List (String × String × Category) :=
  [("lu", "uppercaseletter", capitalLetter), ("ll", "lowercaseletter", smallLetter),
   ("lt", "titlecaseletter", titleLetter), ("lm", "modifierletter", modifierLetter),
   ("lo", "otherletter", otherLetter), ("mn", "nonspacingmark", nonspacingMark),
   ("mc", "spacingmark", spacingMark), ("me", "enclosingmark", enclosingMark),
   ("nd", "decimalnumber", decimalNumber), ("nl", "letternumber", letterNumber),
   ("no", "othernumber", otherNumber), ("pc", "connectorpunctuation", connectorPunctuation),
   ("pd", "dashpunctuation", dashPunctuation), ("ps", "openpunctuation", openingPunctuation),
   ("pe", "closepunctuation", closingPunctuation), ("pi", "initialpunctuation", initialPunctuation),
   ("pf", "finalpunctuation", finalPunctuation), ("po", "otherpunctuation", otherPunctuation),
   ("sm", "mathsymbol", mathSymbol), ("sc", "currencysymbol", currencySymbol),
   ("sk", "modifiersymbol", modifierSymbol), ("so", "othersymbol", otherSymbol),
   ("zs", "spaceseparator", spaceSeparator), ("zl", "lineseparator", lineSeparator),
   ("zp", "paragraphseparator", paragraphSeparator), ("cc", "control", control),
   ("cf", "format", format), ("cs", "surrogate", surrogate), ("co", "privateuse", privateUse),
   ("cn", "unassigned", unassigned)]

/-- All categories. -/
def all : List Category :=
  named.map (·.2.2)

/-- The category of a character. -/
def ofChar (c : Char) : Category :=
  (all.find? (·.lists c.toNat)).getD unassigned

/-- The letters. -/
def letters : List Category :=
  [capitalLetter, smallLetter, titleLetter, modifierLetter, otherLetter]

/-- The marks. -/
def marks : List Category :=
  [nonspacingMark, spacingMark, enclosingMark]

/-- The numbers. -/
def numbers : List Category :=
  [decimalNumber, letterNumber, otherNumber]

/-- The sets of categories with names of their own, short and long. -/
def groups : List (String × String × List Category) :=
  [("l", "letter", letters), ("lc", "casedletter", [capitalLetter, smallLetter, titleLetter]),
   ("m", "mark", marks), ("m", "combiningmark", marks), ("n", "number", numbers),
   ("nd", "digit", [decimalNumber]), ("cc", "cntrl", [control]),
   ("p", "punctuation", [connectorPunctuation, dashPunctuation, openingPunctuation,
     closingPunctuation, initialPunctuation, finalPunctuation, otherPunctuation]),
   ("p", "punct", [connectorPunctuation, dashPunctuation, openingPunctuation,
     closingPunctuation, initialPunctuation, finalPunctuation, otherPunctuation]),
   ("s", "symbol", [mathSymbol, currencySymbol, modifierSymbol, otherSymbol]),
   ("z", "separator", [spaceSeparator, lineSeparator, paragraphSeparator]),
   ("c", "other", [control, format, surrogate, privateUse, unassigned]),
   ("any", "any", all), ("assigned", "assigned", all.filter (· != unassigned))]

/-- The categories that a name stands for. -/
def ofName? (name : String) : Option (List Category) :=
  ((named.find? fun (short, long, _) => name == short || name == long).map ([·.2.2])).or
    ((groups.find? fun (short, long, _) => name == short || name == long).map (·.2.2))

end Category

/-- Whether a character is a letter or a number. -/
def isLetterOrNumber (c : Char) : Bool :=
  (Category.letters ++ Category.numbers).contains (.ofChar c)

example : (['a', '中', '_', '—', '9'].map Category.ofChar) = [.smallLetter, .otherLetter,
    .connectorPunctuation, .dashPunctuation, .decimalNumber] := by decide +kernel

end PolicyForecast.Text
