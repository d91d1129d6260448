import PolicyForecast.Text.Pattern.Property

/-!
# Flags and escapes of patterns

How the characters of a pattern are understood depends on flags. After a backslash, letters stand
for characters, classes and anchors, and signs for themselves.
-/

namespace PolicyForecast.Text.Pattern

/-! ## Flags -/

/-- How the characters of a pattern are understood. -/
structure Flags where
  ignoreCase : Bool := false
  /-- Whether anchors hold at lines. -/
  lines : Bool := false
  /-- Whether a carriage return ends lines, too. -/
  returns : Bool := false
  pointIsAll : Bool := false
  /-- Whether blanks and comments do not count. -/
  spread : Bool := false
  /-- Whether classes are those of ASCII. -/
  ascii : Bool := false

namespace Flags

/-- Sets the flag with a letter, or takes it away. The letter `U` makes repetitions prefer short
stretches, which does not change whether a pattern is found. -/
def set? (flags : Flags) (on : Bool) : Char → Option Flags
  | 'i' => some { flags with ignoreCase := on }
  | 'm' => some { flags with lines := on }
  | 'R' => some { flags with returns := on }
  | 's' => some { flags with pointIsAll := on }
  | 'x' => some { flags with spread := on }
  | 'u' => some { flags with ascii := !on }
  | 'U' => some flags
  | _ => none

/-- Reads flags up to a colon or the end of a group; after a minus they are taken away. No letter is
given twice, and the minus is not the last. -/
def read? (flags : Flags) (seen : List Char) : List Char → Option (Flags × List Char)
  | [] => none
  | c :: rest =>
    if c == ':' || c == ')' then
      if seen.head? == some '-' then none else some (flags, c :: rest)
    else if seen.contains c then none
    else if c == '-' then read? flags ('-' :: seen) rest
    else do read? (← flags.set? (!seen.contains '-') c) (c :: seen) rest

/-- Reads over blanks and comments. -/
def skipBlanks (comment : Bool) : List Char → List Char
  | [] => []
  | c :: rest =>
    if comment then skipBlanks (c != '\n') rest
    else if c == '#' then skipBlanks true rest
    else if CharClass.space.holds c then skipBlanks false rest
    else c :: rest

/-- Reads over what does not count. -/
def skip (flags : Flags) (cs : List Char) : List Char :=
  if flags.spread then skipBlanks false cs else cs

/-- A class with the characters of either case if case is ignored. -/
def closed (flags : Flags) (c : CharClass) : CharClass :=
  if !flags.ignoreCase then c
  else if flags.ascii then .either c (.both (.anyCase c) .ascii)
  else .anyCase c

end Flags

/-! ## Escapes -/

/-- What a character or an escape stands for. -/
inductive Token where
  | char (c : Char)
  | set (c : CharClass)
  | anchor (a : Anchor)

/-- The character with a code in hexadecimal digits. -/
def codedChar? (digits : List Char) : Option Char := do
  if digits.isEmpty then none
  else
    let n ← digits.foldlM (fun n d => (hexValue? d).map (n * 16 + ·)) 0
    if h : n.isValidChar then some (Char.ofNatAux n h) else none

/-- Reads a code in braces or of so many digits. -/
def readCode? (flags : Flags) (digits : Nat) (cs : List Char) : Option (Char × List Char) :=
  let counts (c : Char) := !(flags.spread && CharClass.space.holds c)
  match flags.skip cs with
  | '\x7b' :: rest =>
    let code := rest.takeWhile (· != '\x7d')
    match rest.drop code.length with
    | '\x7d' :: after => (codedChar? (code.filter counts)).map (·, after)
    | _ => none
  | rest =>
    if rest.length < digits then none else (codedChar? (rest.take digits)).map (·, rest.drop digits)

/-- Reads the description of a property, in braces or of one letter. -/
def readProperty? (flags : Flags) (cs : List Char) : Option (CharClass × List Char) :=
  if flags.ascii then none
  else
    match flags.skip cs with
    | '\x7b' :: rest =>
      let text := rest.takeWhile (· != '\x7d')
      match rest.drop text.length with
      | '\x7d' :: after => (CharClass.ofDescription? text).map (·, after)
      | _ => none
    | c :: rest => (CharClass.ofProperty? [c]).map (·, rest)
    | [] => none

/-- The classes of ASCII characters that have names. -/
def asciiClasses : List (String × CharClass) :=
  let upper := .range 'A' 'Z'
  let lower := .range 'a' 'z'
  let figure := .range '0' '9'
  let letter := .either upper lower
  [("upper", upper), ("lower", lower), ("digit", figure), ("alpha", letter),
   ("alnum", .either letter figure), ("word", .either (.either letter figure) (.single '_')),
   ("ascii", .ascii), ("space", .either (.range '\t' '\r') (.single ' ')),
   ("blank", .either (.single '\t') (.single ' ')), ("graph", .range '!' '~'),
   ("print", .range ' ' '~'), ("cntrl", .either (.range '\x00' '\x1f') (.single '\x7f')),
   ("xdigit", .ranges CharClass.hexDigit),
   ("punct", .either (.either (.range '!' '/') (.range ':' '@'))
     (.either (.range '[' '\x60') (.range '\x7b' '~')))]

/-- A class of all scripts, or that of ASCII with the same name. -/
def scripted (flags : Flags) (name : String) (c : CharClass) : CharClass :=
  if flags.ascii then (asciiClasses.lookup name).getD c else c

/-- The characters of words. -/
def wordClass (flags : Flags) : CharClass :=
  scripted flags "word" .word

/-- The class that a letter stands for. Its complement is none of ASCII. -/
def letterClass? (flags : Flags) : Char → Option CharClass
  | 'd' => some (scripted flags "digit" .digit)
  | 'w' => some (wordClass flags)
  | 's' => some (scripted flags "space" .space)
  | 'D' => if flags.ascii then none else some (.other .digit)
  | 'W' => if flags.ascii then none else some (.other .word)
  | 'S' => if flags.ascii then none else some (.other .space)
  | _ => none

/-- The anchor that a letter or sign stands for. -/
def letterAnchor? (flags : Flags) : Char → Option Anchor
  | 'b' => some (.words .edge (wordClass flags))
  | 'B' => some (.words .noEdge (wordClass flags))
  | '<' => some (.words .start (wordClass flags))
  | '>' => some (.words .stop (wordClass flags))
  | 'A' => some .textStart
  | 'z' => some .textEnd
  | _ => none

/-- The edge of a word with a name. -/
def namedEdge? : String → Option WordEdge
  | "start" => some .start
  | "end" => some .stop
  | "start-half" => some .noWordBefore
  | "end-half" => some .noWordAfter
  | _ => none

/-- Reads the name of an edge of a word after its brace, if one stands there. -/
def readEdge? (flags : Flags) (cs : List Char) : Option (WordEdge × List Char) :=
  let inName (c : Char) := c.isAlpha || c == '-'
  match flags.skip cs with
  | [] => none
  | c :: rest =>
    if !inName c then some (.edge, '\x7b' :: cs)
    else
      let name := (c :: rest).takeWhile inName
      match flags.skip (rest.drop (name.length - 1)) with
      | '\x7d' :: after => (namedEdge? (String.ofList name)).map (·, after)
      | _ => none

/-- The character that a letter or sign stands for. -/
def escaped? : Char → Option Char
  | 'n' => some '\n'
  | 't' => some '\t'
  | 'r' => some '\r'
  | 'f' => some '\x0c'
  | 'v' => some '\x0b'
  | 'a' => some '\x07'
  | c => if c.toNat < 0x80 && !c.isAlphanum then some c else none

/-- Reads what stands after a backslash. -/
def readEscape? (flags : Flags) : List Char → Option (Token × List Char)
  | [] => none
  | 'x' :: rest => (readCode? flags 2 rest).map fun (c, rest) => (.char c, rest)
  | 'u' :: rest => (readCode? flags 4 rest).map fun (c, rest) => (.char c, rest)
  | 'U' :: rest => (readCode? flags 8 rest).map fun (c, rest) => (.char c, rest)
  | 'p' :: rest => (readProperty? flags rest).map fun (c, rest) => (.set c, rest)
  | 'P' :: rest => (readProperty? flags rest).map fun (c, rest) => (.set (.other c), rest)
  | 'b' :: '\x7b' :: rest =>
    (readEdge? flags rest).map fun (kind, rest) => (.anchor (.words kind (wordClass flags)), rest)
  | c :: rest =>
    (((letterAnchor? flags c).map Token.anchor).or
      (((letterClass? flags c).map .set).or ((escaped? c).map .char))).map (·, rest)

end PolicyForecast.Text.Pattern
