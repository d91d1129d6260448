import PolicyForecast.Text.CodePoint
import PolicyForecast.Text.Printable

/-!
# Texts in quotes

A text is quoted with single quotes, unless it holds a single quote and no double quote; then with
double quotes. The backslash and the chosen quote are escaped, so are line feed, carriage return
and tab, and every other character that cannot be shown is written by its code point, as is an
unpaired surrogate.
-/

namespace PolicyForecast.Text

/-- The low `width` hexadecimal digits of a number, with leading zeros. -/
def hexDigits (width n : Nat) : List Char :=
  (List.range width).reverse.map fun i => Nat.digitChar (n / Nat.pow 16 i % 16)

/-- The escape of a character that cannot be shown, by the length its code point needs. -/
def escapeCode (n : Nat) : List Char :=
  if n < 0x100 then '\\' :: 'x' :: hexDigits 2 n
  else if n < 0x10000 then '\\' :: 'u' :: hexDigits 4 n
  else '\\' :: 'U' :: hexDigits 8 n

/-- How one character is written between quotes. -/
def quotedChar (quote c : Char) : List Char :=
  if c = quote ∨ c = '\\' then ['\\', c]
  else if c = '\n' then ['\\', 'n']
  else if c = '\r' then ['\\', 'r']
  else if c = '\t' then ['\\', 't']
  else if isPrintable c then [c]
  else escapeCode c.toNat

/-- The quote that a text is written with. -/
def quoteOf (cs : List Char) : Char :=
  if cs.contains '\'' && !cs.contains '"' then '"' else '\''

/-- A text between quotes. -/
def quoted (text : String) : String :=
  let cs := text.toList
  let q := quoteOf cs
  String.ofList (q :: (cs.flatMap (quotedChar q) ++ [q]))

/-- How one code point is written between quotes. -/
def quotedPoint (quote : Char) : CodePoint → List Char
  | .char c => quotedChar quote c
  | .surrogate unit => escapeCode unit

/-- Code points between quotes. -/
def quotedPoints (points : List CodePoint) : String :=
  let q := quoteOf (points.filterMap CodePoint.char?)
  String.ofList (q :: (points.flatMap (quotedPoint q) ++ [q]))

end PolicyForecast.Text
