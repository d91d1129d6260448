import PolicyForecast.Text.Pattern.Bracket

/-!
# Reading patterns

A pattern is written as its characters. Some of them are special: the point stands for any character
but the end of a line, brackets enclose a class, parentheses a group, a bar separates alternatives,
`*`, `+`, `?` and counts in braces repeat what stands before them, and `^`, `$` and some escapes are
anchors and classes. A group may have a name or begin with flags, or consist of flags.

A question mark after a repetition makes it prefer short stretches. That does not change whether a
pattern is found, so it is read over. A pattern that is too large when its repetitions are written
out is none.
-/

namespace PolicyForecast.Text.Pattern

/-! ## Single steps -/

/-- The characters that the point stands for. -/
def pointClass (flags : Flags) : CharClass :=
  if flags.pointIsAll then .other .nothing
  else if flags.returns then .other (.either (.single '\n') (.single '\r'))
  else .other (.single '\n')

/-- Whether a character repeats what stands before it. -/
def isRepeater (c : Char) : Bool :=
  c == '*' || c == '+' || c == '?' || c == '\x7b'

/-- The anchor at the start of the text or of a line. -/
def startAnchor (flags : Flags) : Anchor :=
  if !flags.lines then .textStart else if flags.returns then .returnStart else .lineStart

/-- The anchor at the end of the text or of a line. -/
def endAnchor (flags : Flags) : Anchor :=
  if !flags.lines then .textEnd else if flags.returns then .returnEnd else .lineEnd

/-- Reads a character, a class or an anchor. -/
def readUnit? (flags : Flags) : List Char → Option (Pattern × List Char)
  | [] => none
  | '.' :: rest => if flags.ascii then none else some (.char (pointClass flags), rest)
  | '^' :: rest => some (.anchor (startAnchor flags), rest)
  | '$' :: rest => some (.anchor (endAnchor flags), rest)
  | '[' :: rest => do
    let (c, rest) ← readBracket? flags (rest.length + 2) rest
    return (.char c, rest)
  | '\\' :: rest => do
    match ← readEscape? flags rest with
    | (.anchor a, rest) => return (.anchor a, rest)
    | (.set c, rest) => return (.char (flags.closed c), rest)
    | (.char c, rest) => return (.char (flags.closed (.single c)), rest)
  | c :: rest => if isRepeater c then none else some (.char (flags.closed (.single c)), rest)

/-- Reads a count, which blanks may surround. -/
def readCount? (cs : List Char) : Option (Nat × List Char) :=
  let cs := cs.dropWhile CharClass.space.holds
  let ds := cs.takeWhile Char.isDigit
  let n := ds.foldl (fun n d => n * 10 + (d.toNat - 48)) 0
  if ds.isEmpty || Nat.pow 2 32 ≤ n then none
  else some (n, (cs.drop ds.length).dropWhile CharClass.space.holds)

/-- Reads the rest of counts in braces. -/
def readCounts? (flags : Flags) (cs : List Char) :
    Option ((Nat × Option Nat) × List Char) := do
  let (least, rest) ← readCount? cs
  match rest with
  | '\x7d' :: rest => some ((least, some least), rest)
  | ',' :: rest =>
    match flags.skip rest with
    | '\x7d' :: rest => some ((least, none), rest)
    | rest =>
      let (most, rest) ← readCount? rest
      match rest with
      | '\x7d' :: rest => if least ≤ most then some ((least, some most), rest) else none
      | _ => none
  | _ => none

/-- Reads how often something is repeated, if it is. -/
def readRepetition? (flags : Flags) : List Char → Option (Option (Nat × Option Nat) × List Char)
  | '*' :: rest => some (some (0, none), rest)
  | '+' :: rest => some (some (1, none), rest)
  | '?' :: rest => some (some (0, some 1), rest)
  | '\x7b' :: rest => (readCounts? flags rest).map fun (counts, rest) => (some counts, rest)
  | rest => some (none, rest)

/-- Reads all repetitions of a pattern. -/
def readRepetitions? (flags : Flags) : (fuel : Nat) → Pattern → List Char →
    Option (Pattern × List Char)
  | 0, _, _ => none
  | fuel + 1, p, cs => do
    match ← readRepetition? flags (flags.skip cs) with
    | (none, rest) => some (p, rest)
    | (some (least, most), rest) =>
      let rest := if rest.head? == some '?' then rest.drop 1 else rest
      readRepetitions? flags fuel (.times p least most) rest

/-! ## Groups -/

/-- How a group begins. -/
inductive GroupHead where
  /-- The group consists of flags, which hold from here on. -/
  | flags (flags : Flags)
  | group (flags : Flags) (name : Option String)

/-- Reads the name of a group up to its closing angle. -/
def readName? (cs : List Char) : Option (String × List Char) :=
  let name := cs.takeWhile (· != '>')
  match name, cs.drop name.length with
  | c :: more, '>' :: rest =>
    if (c == '_' || CharClass.letter.holds c)
        && more.all (fun c => ['_', '.', '[', ']'].contains c || isLetterOrNumber c) then
      some (String.ofList name, rest)
    else none
  | _, _ => none

/-- Reads the head of a group. -/
def readHead? (flags : Flags) : List Char → Option (GroupHead × List Char)
  | '?' :: 'P' :: '<' :: rest | '?' :: '<' :: rest =>
    (readName? rest).map fun (name, rest) => (.group flags (some name), rest)
  | '?' :: rest => do
    let (given, after) ← flags.read? [] rest
    match after with
    | ':' :: after => some (.group given none, after)
    | ')' :: after => if rest.head? == some ')' then none else some (.flags given, after)
    | _ => none
  | rest => some (.group flags none, rest)

/-- A group, with its name if it has one. -/
def grouped (name : Option String) (p : Pattern) : Pattern :=
  (name.map (.named · p)).getD p

/-! ## Patterns -/

/-- Reads up to the end of a group. What stands before the last bar and after it so far is given. -/
def readBranches? : (fuel : Nat) → Flags → Option Pattern → Pattern → List Char →
    Option (Pattern × List Char)
  | 0, _, _, _, _ => none
  | fuel + 1, flags, before, branch, cs =>
    let soFar := (before.map (.either · branch)).getD branch
    match flags.skip cs with
    | [] => some (soFar, [])
    | ')' :: rest => some (soFar, ')' :: rest)
    | '|' :: rest => readBranches? fuel flags (some soFar) .empty rest
    | '(' :: rest => do
      match ← readHead? flags (flags.skip rest) with
      | (.flags flags, rest) => readBranches? fuel flags before branch rest
      | (.group inner name, rest) =>
        match ← readBranches? fuel inner none .empty rest with
        | (group, ')' :: rest) =>
          let (p, rest) ← readRepetitions? flags (rest.length + 1) (grouped name group) rest
          readBranches? fuel flags before (.both branch p) rest
        | _ => none
    | cs => do
      let (p, rest) ← readUnit? flags cs
      let (p, rest) ← readRepetitions? flags (rest.length + 1) p rest
      readBranches? fuel flags before (.both branch p) rest

/-- The greatest extent of a pattern. -/
def greatestExtent : Nat :=
  327680

/-- The pattern that a text writes, if it writes one. No two groups have one name. -/
def read? (text : String) : Option Pattern :=
  match readBranches? (text.length + 1) {} none .empty text.toList with
  | some (p, []) => if p.names.Nodup ∧ p.extent ≤ greatestExtent then some p else none
  | _ => none

/-- Whether a text is written as a pattern that is found in another. -/
def describes (pattern text : String) : Bool :=
  (read? pattern).any (·.foundIn text.toList)

example : describes "^T[ay].*$" "Tag" = true := by decide +kernel
example : describes "^Ty|Ta$" "Tag" = false := by decide +kernel
example : describes "^(?i)yield(type|kind)$" "YieldType" = true := by decide +kernel
example : describes "^[A-Z]\\w\x7b2\x7d$" "Tag" = true := by decide +kernel
example : describes "^[A-Z&&[^S]]\\p\x7bLl\x7d+$" "Tag" = true := by decide +kernel
example : describes "^[A-Z--T]ag$" "Tag" = false := by decide +kernel
example : describes "^(?x) T a g $" "Tag" = true := by decide +kernel
example : describes "^\\bTag\\b\x7bend\x7d$" "Tag" = true := by decide +kernel
example : (read? "^[a$").isNone = true := by decide +kernel

end PolicyForecast.Text.Pattern
