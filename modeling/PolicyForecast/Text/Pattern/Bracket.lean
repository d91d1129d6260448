import PolicyForecast.Text.Pattern.Escape

/-!
# Classes in brackets

Brackets enclose the members of a class: characters, ranges, escapes, named classes of ASCII and
classes in brackets of their own. Two members side by side are one or the other; `&&` takes what is
on both sides, `--` what is on the left only and `~~` what is on one side only.
-/

namespace PolicyForecast.Text.Pattern

/-- How two classes make a third. -/
inductive ClassOperator where
  | both
  | leftOnly
  | oneOnly

/-- The class that two classes make. -/
def ClassOperator.combine (a b : CharClass) : ClassOperator → CharClass
  | .both => .both a b
  | .leftOnly => .both a (.other b)
  | .oneOnly => .either (.both a (.other b)) (.both b (.other a))

/-- A class of which the beginning was read: what stands before the last operator with that
operator, and the members after it. -/
structure OpenClass where
  before : Option (CharClass × ClassOperator) := none
  members : CharClass := .nothing

namespace OpenClass

/-- Takes up a member. -/
def add (c : OpenClass) (member : CharClass) : OpenClass :=
  match c.members with
  | .nothing => { c with members := member }
  | members => { c with members := .either members member }

/-- The class that was read so far. -/
def soFar (flags : Flags) (c : OpenClass) : CharClass :=
  match c.before with
  | none => c.members
  | some (before, operator) => operator.combine (flags.closed before) (flags.closed c.members)

/-- Takes up an operator. -/
def operate (flags : Flags) (c : OpenClass) (operator : ClassOperator) : OpenClass :=
  { before := some (c.soFar flags, operator) }

/-- The class when its bracket is closed. -/
def close (flags : Flags) (negated : Bool) (c : OpenClass) : CharClass :=
  let closed := flags.closed (c.soFar flags)
  if negated then .other closed else closed

end OpenClass

/-- Reads the rest of the name of a class of ASCII characters, after its bracket and colon. -/
def readAsciiClass? (cs : List Char) : Option (CharClass × List Char) := do
  let negated := cs.head? == some '^'
  let cs := if negated then cs.drop 1 else cs
  let name := cs.takeWhile (· != ':')
  let c ← asciiClasses.lookup (String.ofList name)
  match cs.drop name.length with
  | ':' :: ']' :: rest => some (if negated then .other c else c, rest)
  | _ => none

/-- Reads a character or an escape. -/
def readMember? (flags : Flags) : List Char → Option (Token × List Char)
  | [] => none
  | '\\' :: rest => readEscape? flags rest
  | c :: rest => some (.char c, rest)

/-- Reads a character, an escape or a range. -/
def readRange? (flags : Flags) (cs : List Char) : Option (CharClass × List Char) := do
  let (first, rest) ← readMember? flags cs
  match first, flags.skip rest with
  | .anchor _, _ | _, [] => none
  | .set c, '-' :: after =>
    match flags.skip after with
    | ']' :: _ | '-' :: _ => some (c, '-' :: after)
    | _ => none
  | .char c, '-' :: after =>
    match flags.skip after with
    | ']' :: _ | '-' :: _ => some (.single c, '-' :: after)
    | after => do
      match ← readMember? flags after with
      | (.char last, rest) => if c ≤ last then some (.range c last, rest) else none
      | _ => none
  | .set c, rest => some (c, rest)
  | .char c, rest => some (.single c, rest)

/-- Takes up the hyphens, or else the closing bracket, at the beginning of a class. -/
def readBeginning (flags : Flags) (cs : List Char) : OpenClass × List Char :=
  match cs with
  | '-' :: _ => ({ members := .single '-' }, cs.dropWhile (· == '-'))
  | ']' :: rest => ({ members := .single ']' }, flags.skip rest)
  | _ => ({}, cs)

mutual

/-- Reads the rest of a class, after its bracket. -/
def readBracket? (flags : Flags) : (fuel : Nat) → List Char → Option (CharClass × List Char)
  | 0, _ => none
  | fuel + 1, cs =>
    let cs := flags.skip cs
    let negated := cs.head? == some '^'
    let cs := if negated then flags.skip (cs.drop 1) else cs
    if negated && flags.ascii then none
    else
      let (c, rest) := readBeginning flags cs
      readMembers? flags fuel negated c rest

/-- Reads the rest of a class of which the beginning was read. -/
def readMembers? (flags : Flags) :
    (fuel : Nat) → Bool → OpenClass → List Char → Option (CharClass × List Char)
  | 0, _, _, _ => none
  | fuel + 1, negated, c, cs =>
    match flags.skip cs with
    | [] => none
    | ']' :: rest => some (c.close flags negated, rest)
    | '&' :: '&' :: rest => readMembers? flags fuel negated (c.operate flags .both) rest
    | '-' :: '-' :: rest => readMembers? flags fuel negated (c.operate flags .leftOnly) rest
    | '~' :: '~' :: rest => readMembers? flags fuel negated (c.operate flags .oneOnly) rest
    | '[' :: rest => do
      let named := if rest.head? == some ':' then readAsciiClass? (rest.drop 1) else none
      let (member, rest) ← match named with
        | some found => some found
        | none => readBracket? flags fuel rest
      readMembers? flags fuel negated (c.add member) rest
    | cs => do
      let (member, rest) ← readRange? flags cs
      readMembers? flags fuel negated (c.add member) rest

end

end PolicyForecast.Text.Pattern
