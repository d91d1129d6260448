import PolicyForecast.Text.Case
import PolicyForecast.Text.Category

/-!
# Patterns of text

A pattern describes stretches of a text. It is matched against positions: from a position, a pattern
reaches every position at which a stretch that it describes can end. A pattern is found in a text
when it reaches any position from any other.
-/

namespace PolicyForecast.Text

/-- A class of characters. -/
inductive CharClass where
  | nothing
  /-- The characters with code points in one of the ranges. -/
  | ranges (ranges : List (Nat × Nat))
  | categories (categories : List Category)
  | both (a b : CharClass)
  | either (a b : CharClass)
  | other (a : CharClass)
  /-- The characters that are in a class in any case. -/
  | anyCase (a : CharClass)
deriving DecidableEq, Repr

namespace CharClass

/-- The class of the characters from one to another. -/
def range (first last : Char) : CharClass :=
  .ranges [(first.toNat, last.toNat)]

/-- The class of one character. -/
def single (c : Char) : CharClass :=
  range c c

/-- The class of all ASCII characters. -/
def ascii : CharClass :=
  .ranges [(0, 0x7f)]

/-- The decimal digits of all scripts. -/
def digit : CharClass :=
  .categories [.decimalNumber]

/-- The characters that separate words; the information separators do not. -/
def space : CharClass :=
  .both (.ranges blankRanges) (.other (.ranges [(0x1c, 0x1f)]))

/-- The letters of the Latin script in circles and boxes: capital ones, then small ones. -/
def enclosedLetters : List (Nat × Nat) × List (Nat × Nat) :=
  ([(0x24b6, 0x24cf), (0x1f130, 0x1f149), (0x1f150, 0x1f169), (0x1f170, 0x1f189)],
    [(0x24d0, 0x24e9)])

/-- The letters of all scripts. -/
def letter : CharClass :=
  .either (.categories (.letterNumber :: Category.letters))
    (.ranges (enclosedLetters.1 ++ enclosedLetters.2))

/-- The characters of words: letters, marks, digits, what connects words, and the two invisible
characters that join letters or keep them apart. -/
def word : CharClass :=
  .either letter
    (.either (.categories (.decimalNumber :: .connectorPunctuation :: Category.marks))
      (.ranges [(0x200c, 0x200d)]))

/-- Whether a character is in a class. -/
def holds : CharClass → Char → Bool
  | .nothing, _ => false
  | .ranges rs, c => inRanges rs c.toNat
  | .categories ks, c => ks.contains (.ofChar c)
  | .both a b, c => a.holds c && b.holds c
  | .either a b, c => a.holds c || b.holds c
  | .other a, c => !a.holds c
  | .anyCase a, c => (Case.variants c).any a.holds

/-- About how many ranges of code points a class consists of. -/
def extent : CharClass → Nat
  | .nothing => 0
  | .ranges rs => rs.length
  | .categories ks => (ks.map fun k => k.ranges.length).sum
  | .both a b => max a.extent b.extent
  | .either a b => a.extent + b.extent
  | .other a => a.extent + 1
  | .anyCase a => 2 * a.extent

end CharClass

/-- How the characters around a position are of words or not. -/
inductive WordEdge where
  | edge
  | noEdge
  | start
  | stop
  | noWordBefore
  | noWordAfter
deriving DecidableEq, Repr

/-- Whether an edge lies between characters of which it is known if they are of words. -/
def WordEdge.holds (before after : Bool) : WordEdge → Bool
  | .edge => before != after
  | .noEdge => before == after
  | .start => !before && after
  | .stop => before && !after
  | .noWordBefore => !before
  | .noWordAfter => !after

/-- A condition on the characters around a position. -/
inductive Anchor where
  | textStart
  | textEnd
  | lineStart
  | lineEnd
  /-- The start of a line where a carriage return ends lines, too. -/
  | returnStart
  /-- The end of a line where a carriage return ends lines, too. -/
  | returnEnd
  /-- An edge between characters of words and others, for the given characters of words. -/
  | words (kind : WordEdge) (members : CharClass)
deriving DecidableEq, Repr

/-- Whether a condition holds at a position. -/
def Anchor.holds (text : List Char) (i : Nat) (a : Anchor) : Bool :=
  let before := if i = 0 then none else text[i - 1]?
  let after := text[i]?
  match a with
  | .textStart => before.isNone
  | .textEnd => after.isNone
  | .lineStart => before.all (· == '\n')
  | .lineEnd => after.all (· == '\n')
  | .returnStart => before.all fun c => c == '\n' || (c == '\r' && after != some '\n')
  | .returnEnd => after.all fun c => c == '\r' || (c == '\n' && before != some '\r')
  | .words kind members => kind.holds (before.any members.holds) (after.any members.holds)

/-- A pattern of text. -/
inductive Pattern where
  | empty
  | char (c : CharClass)
  | anchor (a : Anchor)
  | both (first second : Pattern)
  | either (a b : Pattern)
  /-- A pattern so many times in a row, without a limit or at most so many times. -/
  | times (a : Pattern) (least : Nat) (most : Option Nat)
  /-- A pattern with a name. -/
  | named (name : String) (a : Pattern)
deriving DecidableEq, Repr

namespace Pattern

/-- The positions that a pattern reaches from a position of a text. Once every position of the text
had its turn, going on reaches no further ones. -/
def ends (text : List Char) : Pattern → Nat → List Nat
  | .empty, i => [i]
  | .char c, i => if text[i]?.any c.holds then [i + 1] else []
  | .anchor a, i => if a.holds text i then [i] else []
  | .both a b, i => ((ends text a i).flatMap (ends text b)).eraseDups
  | .either a b, i => (ends text a i ++ ends text b i).eraseDups
  | .times a least most, i =>
    let onward (reached : List Nat) := (reached.flatMap (ends text a)).eraseDups
    let further := (most.map (· - least)).getD (text.length + 1)
    Nat.repeat (fun reached => (reached ++ onward reached).eraseDups)
      (min further (text.length + 1)) (Nat.repeat onward least [i])
  | .named _ a, i => ends text a i

/-- Whether a pattern is found in a text. -/
def foundIn (p : Pattern) (text : List Char) : Bool :=
  (List.range (text.length + 1)).any fun i => !(p.ends text i).isEmpty

/-- The names within a pattern. -/
def names : Pattern → List String
  | .empty | .char _ | .anchor _ => []
  | .both a b | .either a b => a.names ++ b.names
  | .times a _ _ => a.names
  | .named name a => name :: a.names

/-- About how many ranges of code points a pattern consists of when repetitions are written out. -/
def extent : Pattern → Nat
  | .empty | .anchor _ => 1
  | .char c => max 1 c.extent
  | .both a b | .either a b => a.extent + b.extent
  | .times a least most => a.extent * max 1 (most.getD least)
  | .named _ a => a.extent

end Pattern

end PolicyForecast.Text
