/-!
# Blank characters

A character is blank when it has the bidirectional class of a space or separator or is listed as a
space separator: the ASCII controls from tab to carriage return, the four information separators,
the space, and the spaces of other scripts. The zero-width space is not blank.
-/

namespace PolicyForecast.Text

/-- The blank characters as ranges of code points, in increasing order. -/
def blankRanges : List (Nat × Nat) :=
  [(0x09, 0x0d), (0x1c, 0x20), (0x85, 0x85), (0xa0, 0xa0), (0x1680, 0x1680), (0x2000, 0x200a),
   (0x2028, 0x2029), (0x202f, 0x202f), (0x205f, 0x205f), (0x3000, 0x3000)]

/-- Whether a code point lies in one of the ranges. -/
def inRanges (ranges : List (Nat × Nat)) (n : Nat) : Bool :=
  ranges.any fun r => r.1 ≤ n && n ≤ r.2

/-- Whether a character is blank. -/
def isBlank (c : Char) : Bool :=
  inRanges blankRanges c.toNat

/-- Removes the characters of a class from both ends. -/
def stripWhere (p : Char → Bool) (cs : List Char) : List Char :=
  ((cs.dropWhile p).reverse.dropWhile p).reverse

/-- A text without the blanks at its ends. -/
def strip (cs : List Char) : List Char :=
  stripWhere isBlank cs

end PolicyForecast.Text
