import PolicyForecast.Number.Exact
import PolicyForecast.Text.Blank
import PolicyForecast.Text.Digit
import PolicyForecast.Text.Flag

/-!
# Numbers written in text

Two grammars are read here. The *free* one takes blanks at the ends, decimal digits of any script
and single underscores between digits. The *strict* one, of a database engine's casts, takes ASCII
digits and nothing around them. In both, a decimal number may carry a sign, a point with digits on
at least one side, and an exponent; infinities and "not a number" are spelled in letters of any
case. An integer of the free grammar has at most 4300 digits.
-/

namespace PolicyForecast.Text

/-! ## Runs of digits -/

/-- What counts as a digit, and whether an underscore may stand between two digits. -/
structure DigitRule where
  value? : Char → Option Nat
  underscores : Bool

/-- Digits of any script, with underscores. -/
def DigitRule.free : DigitRule := ⟨digitValue?, true⟩

/-- The ten ASCII digits. -/
def DigitRule.strict : DigitRule := ⟨asciiDigit?, false⟩

/-- The digits that continue a run, and the text after them. -/
def DigitRule.more (rule : DigitRule) : List Char → List Nat × List Char
  | [] => ([], [])
  | '_' :: rest =>
    match rest with
    | [] => ([], ['_'])
    | c :: rest' =>
      match rule.underscores, rule.value? c with
      | true, some d => let (ds, after) := rule.more rest'; (d :: ds, after)
      | _, _ => ([], '_' :: c :: rest')
  | c :: rest =>
    match rule.value? c with
    | some d => let (ds, after) := rule.more rest; (d :: ds, after)
    | none => ([], c :: rest)

/-- The longest run of digits at the start of a text, and the text after it. -/
def DigitRule.run (rule : DigitRule) : List Char → List Nat × List Char
  | [] => ([], [])
  | c :: rest =>
    match rule.value? c with
    | some d => let (ds, after) := rule.more rest; (d :: ds, after)
    | none => ([], c :: rest)

/-- The number that decimal digits spell. -/
def ofDigits (ds : List Nat) : Nat :=
  ds.foldl (fun n d => 10 * n + d) 0

/-- Splits off a sign; `true` is minus. -/
def splitSign : List Char → Bool × List Char
  | '-' :: rest => (true, rest)
  | '+' :: rest => (false, rest)
  | cs => (false, cs)

/-! ## Integers -/

/-- An integer that takes up the whole text. -/
def DigitRule.integer? (rule : DigitRule) (cs : List Char) : Option Int :=
  let (negative, body) := splitSign cs
  match rule.run body with
  | ([], _) => none
  | (ds, []) => some (if negative then -(ofDigits ds : Int) else ofDigits ds)
  | _ => none

/-! ## Decimal numbers -/

/-- A decimal number as it is spelled: `digits · 10^exponent`. -/
structure Spelled where
  digits : Nat
  exponent : Int

/-- The double nearest to a spelled number, infinite when it is too large. -/
def Spelled.toFloat (s : Spelled) : Float :=
  if s.exponent < 0 then Float.ofScientific s.digits true s.exponent.natAbs
  else Float.ofScientific s.digits false s.exponent.natAbs

/-- The exponent part at the start of a text: none, or a marker with a whole number. -/
def DigitRule.exponent? (rule : DigitRule) : List Char → Option Int
  | [] => some 0
  | c :: rest => if c = 'e' ∨ c = 'E' then rule.integer? rest else none

/-- A decimal number without sign that takes up the whole text. -/
def DigitRule.decimal? (rule : DigitRule) (cs : List Char) : Option Spelled :=
  let (whole, rest) := rule.run cs
  let (fraction, rest) :=
    match rest with
    | '.' :: rest => rule.run rest
    | rest => ([], rest)
  if whole.isEmpty && fraction.isEmpty then none
  else (rule.exponent? rest).map fun e => ⟨ofDigits (whole ++ fraction), e - fraction.length⟩

/-- A special value by its name. -/
def special? (cs : List Char) : Option Float :=
  match String.ofList (lower cs) with
  | "inf" | "infinity" => some (1.0 / 0.0)
  | "nan" => some (0.0 / 0.0)
  | _ => none

/-- A double that takes up the whole text. -/
def DigitRule.float? (rule : DigitRule) (cs : List Char) : Option Float :=
  let (negative, body) := splitSign cs
  let magnitude := special? body <|> (rule.decimal? body).map Spelled.toFloat
  magnitude.map fun x => if negative then -x else x

/-! ## The two grammars -/

/-- The blanks that may stand around a number; the information separators may not. -/
def isNumberBlank (c : Char) : Bool :=
  isBlank c && !inRanges [(0x1c, 0x1f)] c.toNat

/-- A double in the free grammar. -/
def float? (text : String) : Option Float :=
  DigitRule.free.float? (stripWhere isNumberBlank text.toList)

/-- The most digits that an integer may be spelled with. -/
def longestInteger : Nat := 4300

/-- An integer in the free grammar. -/
def integer? (text : String) : Option Int :=
  if longestInteger < text.toList.countP fun c => (digitValue? c).isSome then none
  else DigitRule.free.integer? (stripWhere isNumberBlank text.toList)

/-- A double in the strict grammar. -/
def strictFloat? (text : String) : Option Float :=
  DigitRule.strict.float? text.toList

/-- An integer in the strict grammar. -/
def strictInteger? (text : String) : Option Int :=
  DigitRule.strict.integer? text.toList

end PolicyForecast.Text
