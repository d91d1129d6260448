import PolicyForecast.OrderedMap
import PolicyForecast.Text.Blank

/-!
# Settings files

A settings file has a line `NAME=VALUE` for each setting; a line `NAME` takes the value of a setting
away. A line may start with `export`, a name may stand in single quotes, and a comment runs from `#`
to the end of its line. A value in quotes may go on over several lines and holds escapes; any other
value ends with its line or before a comment that follows a blank. In a value `${NAME}` stands for
the value of an earlier line or of an environment variable, and `${NAME:-TEXT}` for the text where
there is neither; a name whose value was taken away stands for nothing. Lines of another form are
passed over, and so is a byte order mark at the start of the file.

Each reader returns what it read and the text after it.
-/

namespace PolicyForecast.SettingsFile

/-- The text with a line feed for each end of a line. -/
def lineFeeds : List Char → List Char
  | '\r' :: '\n' :: rest => '\n' :: lineFeeds rest
  | c :: rest => (if c = '\r' then '\n' else c) :: lineFeeds rest
  | [] => []

/-- Whether a character is a blank within a line. -/
def isInlineBlank (c : Char) : Bool :=
  Text.isBlank c && c != '\n'

/-- The text after the blanks of a line. -/
def skipBlanks (cs : List Char) : List Char :=
  cs.dropWhile isInlineBlank

/-- The text after the line that it starts in. -/
def skipLine (cs : List Char) : List Char :=
  (cs.dropWhile (· != '\n')).tail

/-- The text after the word `export`, where blanks follow it. -/
def skipExport (cs : List Char) : List Char :=
  let word := "export".toList
  let rest := cs.drop word.length
  if cs.take word.length == word && rest.head?.any isInlineBlank then skipBlanks rest else cs

/-- The character that an escape between quotes of a kind stands for. -/
def escaped? (quote c : Char) : Option Char :=
  if c = '\\' ∨ c = '\'' then some c
  else if quote = '\'' then none
  else
    match c with
    | '"' => some '"'
    | 'a' => some '\x07'
    | 'b' => some '\x08'
    | 'f' => some '\x0c'
    | 'n' => some '\n'
    | 'r' => some '\r'
    | 't' => some '\t'
    | 'v' => some '\x0b'
    | _ => none

/-- The text up to the closing quote; a backslash and the character after it close nothing. -/
def untilQuote (quote : Char) : List Char → Option (List Char × List Char)
  | [] => none
  | '\\' :: c :: rest => (untilQuote quote rest).map fun (s, after) => ('\\' :: c :: s, after)
  | c :: rest =>
    if c = quote then some ([], rest)
    else (untilQuote quote rest).map fun (s, after) => (c :: s, after)

/-- A quoted text with its escapes replaced. -/
def unescape (quote : Char) : List Char → List Char
  | '\\' :: c :: rest =>
    match escaped? quote c with
    | some e => e :: unescape quote rest
    | none => '\\' :: unescape quote (c :: rest)
  | c :: rest => c :: unescape quote rest
  | [] => []
termination_by cs => cs.length

/-- The text before a comment, which is a `#` after at least one blank. -/
def beforeComment : List Char → List Char
  | [] => []
  | c :: rest =>
    if Text.isBlank c && (rest.dropWhile Text.isBlank).head? == some '#' then []
    else c :: beforeComment rest

/-- The value after an equals sign, if its quotes are closed. Blanks around the value are not part
of it; where nothing but blanks stands before a comment, the value is empty. -/
def value? (cs : List Char) : Option (String × List Char) :=
  match skipBlanks cs with
  | '\'' :: rest => (untilQuote '\'' rest).map fun (s, after) => (.ofList (unescape '\'' s), after)
  | '"' :: rest => (untilQuote '"' rest).map fun (s, after) => (.ofList (unescape '"' s), after)
  | _ =>
    let line := cs.takeWhile (· != '\n')
    some (.ofList (Text.strip (beforeComment line)), cs.dropWhile (· != '\n'))

/-- A name, if there is one. -/
def name? (cs : List Char) : Option (String × List Char) :=
  match cs with
  | '\'' :: rest =>
    match rest.takeWhile (· != '\''), rest.dropWhile (· != '\'') with
    | c :: name, '\'' :: after => some (.ofList (c :: name), after)
    | _, _ => none
  | _ =>
    let inName (c : Char) := c != '=' && c != '#' && !Text.isBlank c
    match cs.takeWhile inName with
    | [] => none
    | name => some (.ofList name, cs.dropWhile inName)

/-- The text after the end of a line that has nothing more but blanks and a comment. -/
def finishLine? (cs : List Char) : Option (List Char) :=
  match skipBlanks cs with
  | [] => some []
  | '\n' :: rest => some rest
  | '#' :: rest => some (skipLine rest)
  | _ => none

/-- A name and the value that a line gives it, if it gives one. -/
abbrev Binding := String × Option String

/-- A binding, if its line ends after it, and the text after the line. -/
def finishBinding (binding : Binding) (cs : List Char) : Option Binding × List Char :=
  match finishLine? cs with
  | some rest => (some binding, rest)
  | none => (none, skipLine cs)

/-- The binding of a line, if the line has that form, and the text after it. -/
def line (cs : List Char) : Option Binding × List Char :=
  match name? (skipExport cs) with
  | none => (none, skipLine cs)
  | some (name, rest) =>
    match skipBlanks rest with
    | '=' :: rest =>
      match value? rest with
      | none => (none, skipLine rest)
      | some (value, rest) => finishBinding (name, some value) rest
    | rest => finishBinding (name, none) rest

/-- The bindings of the lines of a text, for at most as many lines as `fuel` says. -/
def lines : (fuel : Nat) → List Char → List Binding
  | 0, _ => []
  | fuel + 1, cs =>
    match cs.dropWhile Text.isBlank with
    | [] => []
    | start =>
      let (binding, rest) := line start
      binding.toList ++ lines fuel rest

/-- The reference at the start of a text, as a name and a default, and the text after it. -/
def reference? : List Char → Option ((String × String) × List Char)
  | '$' :: '\x7b' :: rest =>
    let inName (c : Char) := c != '\x7d' && c != ':'
    let name := String.ofList (rest.takeWhile inName)
    match rest.dropWhile inName with
    | '\x7d' :: after => some ((name, ""), after)
    | ':' :: '-' :: more =>
      match more.dropWhile (· != '\x7d') with
      | _ :: after => some ((name, .ofList (more.takeWhile (· != '\x7d'))), after)
      | [] => none
    | _ => none
  | _ => none

/-- What a reference stands for: nothing, if its name is known to have no value. -/
def resolve (known : OrderedMap String (Option String)) (name default : String) : String :=
  match known.get? name with
  | some value => value.getD ""
  | none => default

/-- A text with its references replaced, for at most as many characters as `fuel` says. -/
def expand (known : OrderedMap String (Option String)) : (fuel : Nat) → List Char → String
  | 0, _ | _, [] => ""
  | fuel + 1, c :: rest =>
    match reference? (c :: rest) with
    | some ((name, default), after) => resolve known name default ++ expand known fuel after
    | none => String.singleton c ++ expand known fuel rest

/-- Bindings with the references in their values replaced by what is known so far. -/
def expandAll (known : OrderedMap String (Option String)) : List Binding → List Binding
  | [] => []
  | (name, value) :: rest =>
    let value := value.map fun v => expand known v.length v.toList
    (name, value) :: expandAll (known.insert name value) rest

/-- The text after a byte order mark. -/
def skipMark : List Char → List Char
  | '\ufeff' :: rest => rest
  | cs => cs

/-- The bindings of a file, in order; every line takes at least one character. -/
def read (environment : List (String × String)) (text : String) : List Binding :=
  let exported := environment.map fun (name, value) => (name, some value)
  expandAll (.ofList exported) (lines text.length (lineFeeds (skipMark text.toList)))

example : read [] "A=1\nB = two # note\n# C=3\nexport 'D'=\"x\\ty\"" =
    [("A", some "1"), ("B", some "two"), ("D", some "x\ty")] := by decide +kernel

example : read [("X", "5")] "A=1\nB=$\x7bA\x7d$\x7bX\x7d$\x7bY:-z\x7d$\x7bY\x7d" =
    [("A", some "1"), ("B", some "15z")] := by decide +kernel

example : read [] "A=1\nA\nB=$\x7bA:-z\x7d|" = [("A", some "1"), ("A", none), ("B", some "|")] := by
  decide +kernel

example : read [] "A= # note\nB=#1\nC = x # 2" =
    [("A", some ""), ("B", some "#1"), ("C", some "x")] := by decide +kernel

example : read [] "A='x\r\ny'\r\nB=2\r" = [("A", some "x\ny"), ("B", some "2")] := by
  decide +kernel

example : read [] "A='c:\\\\' # note\nB='open\\'\nC=1" =
    [("A", some "c:\\"), ("C", some "1")] := by decide +kernel

end PolicyForecast.SettingsFile
