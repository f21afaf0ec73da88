import FirewallPolicy.Text.Numeral
import FirewallPolicy.Text.Utf8
import FirewallPolicy.Yaml.Cursor
import FirewallPolicy.Yaml.Token

/-!
# From text to tokens

Indentation opens and closes lists and mappings.  A scalar turns out to be the key of a mapping only
when a colon follows it on its line, so its place among the tokens is remembered until then, and the
token for the key is put in there.

Every loop is bounded by a number that exceeds that of the characters left.  It goes down by one
with each round, and a round takes a character at least.  What is read is gathered from the back:
the last token, or the last character, comes first.
-/

namespace FirewallPolicy.Yaml

open FirewallPolicy.Text (asciiDigit? digitBelow? ofDigits)

/-- A place among the tokens where a key may have begun. -/
structure KeyPlace where
  /-- How many tokens stand before it. -/
  position : Nat
  /-- Whether nothing but a key can stand there. -/
  required : Bool
  index : Nat
  line : Nat
  column : Nat

/-- The state of reading tokens. -/
structure Lexer where
  cursor : Cursor
  /-- The tokens so far, the last one first. -/
  tokens : List Token := []
  /-- How many tokens there are. -/
  count : Nat := 0
  /-- How many brackets are open. -/
  depth : Nat := 0
  /-- The column of the innermost indented list or mapping; -1 outside of all. -/
  indent : Int := -1
  /-- The columns of those around it. -/
  outer : List Int := []
  /-- Whether a key may begin here. -/
  keyAllowed : Bool := true
  /-- The place of a possible key for each number of open brackets. -/
  keys : List (Nat × KeyPlace) := []

/-- Reading tokens may fail. -/
abbrev Lex := Except YamlFault

namespace Lexer

/-- The lexer with a token at the end. -/
def emit (s : Lexer) (t : Token) : Lexer := { s with tokens := t :: s.tokens, count := s.count + 1 }

/-- The lexer with a token put in at a place. -/
def emitAt (s : Lexer) (position : Nat) (t : Token) : Lexer :=
  let after := s.count - position
  { s with tokens := s.tokens.take after ++ t :: s.tokens.drop after, count := s.count + 1 }

/-- The lexer further on. -/
def skip (s : Lexer) (n : Nat) : Lexer := { s with cursor := s.cursor.skip n }

/-- The column as a number that can be compared with an indentation. -/
def column (s : Lexer) : Int := s.cursor.column

/-! ## Indentation and keys -/

/-- Closes what is indented deeper than a column. -/
def unwind (s : Lexer) (column : Int) : Lexer :=
  if s.depth ≠ 0 then s else go s s.outer
where
  /-- Closes one after the other. -/
  go (s : Lexer) : List Int → Lexer
    | [] => s
    | i :: outer =>
      if column < s.indent then go { s.emit .blockEnd with indent := i, outer } outer else s

/-- Opens a list or a mapping at a column, if it is deeper. -/
def deepen (s : Lexer) (column : Int) : Option Lexer :=
  if s.indent < column then some { s with outer := s.indent :: s.outer, indent := column } else none

/-- The place of a possible key for the present brackets. -/
def keyHere? (s : Lexer) : Option KeyPlace := (s.keys.find? (·.1 == s.depth)).map (·.2)

/-- Forgets the place of a possible key for the present brackets. -/
def forgetKey (s : Lexer) : Lexer := { s with keys := s.keys.filter (·.1 != s.depth) }

/-- Gives up the place of a possible key, which may not be one where a key is required. -/
def dropKey (s : Lexer) : Lex Lexer :=
  match s.keyHere? with
  | some k => if k.required then throw .token else return s.forgetKey
  | none => return s

/-- Remembers this place as that of a possible key. -/
def saveKey (s : Lexer) : Lex Lexer := do
  if !s.keyAllowed then return s
  let required := s.depth == 0 && s.indent == s.column
  let s ← s.dropKey
  let c := s.cursor
  return { s with
    keys := (s.depth, ⟨s.count, required, c.index, c.line, c.column⟩) :: s.keys }

/-- The longest key that a colon may follow. -/
def keyLimit : Nat := 1024

/-- Whether a possible key is too far back: on another line, or too long. -/
def isStale (s : Lexer) (k : KeyPlace) : Bool :=
  k.line != s.cursor.line || decide (keyLimit < s.cursor.index - k.index)

/-- Gives up the places of possible keys that are too far back. -/
def dropStaleKeys (s : Lexer) : Lex Lexer :=
  if s.keys.any fun k => s.isStale k.2 && k.2.required then throw .token
  else return { s with keys := s.keys.filter fun k => !s.isStale k.2 }

/-! ## Blanks and comments -/

/-- Goes to the next token; behind the end of a line a key may begin. -/
def skipGap (s : Lexer) : Nat → Lexer
  | 0 => s
  | fuel + 1 =>
    let c := s.cursor.skipWhile (· == ' ')
    let c := if c.peek = '#' then c.skipWhile (!isBreak ·) else c
    if isBreak c.peek then
      let s := { s with cursor := c.lineBreak.2 }
      skipGap (if s.depth = 0 then { s with keyAllowed := true } else s) fuel
    else { s with cursor := c }

/-- Goes to the first token; a byte order mark may stand before it. -/
def skipByteOrderMark (s : Lexer) : Lexer :=
  if s.cursor.index = 0 ∧ s.cursor.peek = '\uFEFF' then s.skip 1 else s

/-- Goes behind the blanks and the comment at the end of a line, and behind that end. -/
def restOfLine (c : Cursor) : Lex Cursor :=
  let c := c.skipWhile (· == ' ')
  let c := if c.peek = '#' then c.skipWhile (!isBreak ·) else c
  if isBreakOrEnd c.peek then return c.lineBreak.2 else throw .token

/-! ## Directives -/

/-- Reads a number. -/
def number (c : Cursor) : Lex (Nat × Cursor) :=
  let n := c.span Text.isAsciiDigit
  if n = 0 then throw .token
  else return (ofDigits 10 ((c.take n).filterMap asciiDigit?), c.skip n)

/-- Whether a character may stand in a tag or its expansion. -/
def isUriChar (c : Char) : Bool := c.isAlphanum || "-;/?:@&=+$,_.!~*'()[]".toList.contains c

/-- Reads bytes written as percent signs and digits. -/
def uriBytes (c : Cursor) : Nat → Lex (List UInt8 × Cursor)
  | 0 => return ([], c)
  | fuel + 1 =>
    if c.peek = '%' then
      match digitBelow? 16 (c.peek 1), digitBelow? 16 (c.peek 2) with
      | some high, some low => do
        let (bytes, c) ← uriBytes (c.skip 3) fuel
        return (UInt8.ofNat (high * 16 + low) :: bytes, c)
      | _, _ => throw .token
    else return ([], c)

/-- Reads the pieces of a tag or its expansion. -/
def uriPieces (c : Cursor) (text : List Char) : Nat → Lex (List Char × Cursor)
  | 0 => throw .token
  | fuel + 1 =>
    let n := c.span isUriChar
    let text := (c.take n).reverseAux text
    let c := c.skip n
    if c.peek = '%' then do
      let (bytes, c) ← uriBytes c (fuel + 1)
      match Text.decodeUtf8 bytes with
      | (cs, none) => uriPieces c (cs.reverseAux text) fuel
      | (_, some _) => throw .token
    else if text.isEmpty then throw .token
    else return (text, c)

/-- Reads a tag or its expansion. -/
def uri (c : Cursor) (fuel : Nat) : Lex (String × Cursor) := do
  let (text, c) ← uriPieces c [] fuel
  return (String.ofList text.reverse, c)

/-- Reads the handle of a tag: a name between exclamation marks, or one exclamation mark. -/
def handle (c : Cursor) : Lex (String × Cursor) :=
  if c.peek ≠ '!' then throw .token
  else if c.peek 1 = ' ' then return ("!", c.skip 1)
  else
    let n := (c.skip 1).span isNameChar
    if c.peek (n + 1) = '!' then return (String.ofList (c.take (n + 2)), c.skip (n + 2))
    else throw .token

/-- Reads a directive. -/
def directive (c : Cursor) (fuel : Nat) : Lex (Directive × Cursor) := do
  let c := c.skip 1
  let n := c.span isNameChar
  let name := c.take n
  let c := c.skip n
  if n = 0 ∨ !isSpaceOrEnd c.peek then throw .token
  if name = "YAML".toList then
    let (major, c) ← number (c.skipWhile (· == ' '))
    if c.peek ≠ '.' then throw .token
    let (minor, c) ← number (c.skip 1)
    if !isSpaceOrEnd c.peek then throw .token
    return (.version major minor, ← restOfLine c)
  else if name = "TAG".toList then
    let (h, c) ← handle (c.skipWhile (· == ' '))
    if c.peek ≠ ' ' then throw .token
    let (expansion, c) ← uri (c.skipWhile (· == ' ')) fuel
    if !isSpaceOrEnd c.peek then throw .token
    return (.tag h expansion, ← restOfLine c)
  else return (.other, ← restOfLine (c.skipWhile (!isBreak ·)))

/-! ## Anchors and tags -/

/-- The characters that may follow a name without a gap. -/
def nameEnds : List Char := ['?', ':', ',', ']', '}', '%', '@', '\x60']

/-- Reads the name of an anchor or an alias. -/
def anchorName (c : Cursor) : Lex (String × Cursor) :=
  let c := c.skip 1
  let n := c.span isNameChar
  let after := c.skip n
  if n = 0 then throw .token
  else if isGapOrEnd after.peek || nameEnds.contains after.peek then
    return (String.ofList (c.take n), after)
  else throw .token

/-- Reads a tag. -/
def tagText (c : Cursor) (fuel : Nat) : Lex (TagText × Cursor) := do
  let (t, c) ← (
    if c.peek 1 = '<' then do
      let (suffix, c) ← uri (c.skip 2) fuel
      if c.peek ≠ '>' then throw .token
      return (⟨none, suffix⟩, c.skip 1)
    else if isGapOrEnd (c.peek 1) then return (⟨none, "!"⟩, c.skip 1)
    else do
      let word := ((c.skip 1).rest.takeWhile (!isSpaceOrEnd ·))
      let (h, c) ← if word.contains '!' then handle c else pure ("!", c.skip 1)
      let (suffix, c) ← uri c fuel
      return (⟨some h, suffix⟩, c) : Lex (TagText × Cursor))
  if isSpaceOrEnd c.peek then return (t, c) else throw .token

/-! ## Block scalars -/

/-- Reads the signs behind the mark of a block scalar: what happens to line ends at its end, and its
indentation. -/
def blockSigns (c : Cursor) : Lex (Option Bool × Option Nat × Cursor) :=
  let sign := fun (c : Cursor) =>
    if c.peek = '+' then (some true, c.skip 1)
    else if c.peek = '-' then (some false, c.skip 1)
    else (none, c)
  let digit := fun (c : Cursor) =>
    match asciiDigit? c.peek with
    | some n => if n < 10 then (some n, c.skip 1) else (none, c)
    | none => (none, c)
  let (chomping, c) := sign c
  let (increment, c) := digit c
  let (chomping, c) := if chomping.isNone ∧ increment.isSome then sign c else (chomping, c)
  if increment = some 0 ∨ !isSpaceOrEnd c.peek then throw .token
  else return (chomping, increment, c)

/-- Reads the empty lines in front of a block scalar, and the deepest column reached in them. -/
def blockLead (c : Cursor) (breaks : List Char) (deepest : Nat) : Nat → List Char × Nat × Cursor
  | 0 => (breaks.reverse, deepest, c)
  | fuel + 1 =>
    if c.peek = ' ' then
      let c := c.skip 1
      blockLead c breaks (max deepest c.column) fuel
    else if isBreak c.peek then
      let (b, c) := c.lineBreak
      blockLead c (b ++ breaks) deepest fuel
    else (breaks.reverse, deepest, c)

/-- Goes to the column of a block scalar, as far as there are blanks. -/
def toColumn (c : Cursor) (indent : Nat) : Nat → Cursor
  | 0 => c
  | fuel + 1 => if c.column < indent ∧ c.peek = ' ' then toColumn (c.skip 1) indent fuel else c

/-- Reads the empty lines inside a block scalar. -/
def blockBreaks (c : Cursor) (indent : Nat) (breaks : List Char) : Nat → List Char × Cursor
  | 0 => (breaks.reverse, c)
  | fuel + 1 =>
    let c := toColumn c indent (indent + 1)
    if isBreak c.peek then
      let (b, c) := c.lineBreak
      blockBreaks c indent (b ++ breaks) fuel
    else (breaks.reverse, c)

/-- Whether a line of a block scalar begins with a blank. -/
def beginsBlank (c : Cursor) : Bool := c.peek == ' ' || c.peek == '\t'

/-- Reads the lines of a block scalar: the text, the end of its last line and the empty lines
behind it.  The text is gathered from the back. -/
def blockLines (folded : Bool) (indent : Nat) (c : Cursor) (text breaks : List Char) :
    Nat → List Char × List Char × List Char × Cursor
  | 0 => (text, [], breaks, c)
  | fuel + 1 =>
    let blankStart := beginsBlank c
    let n := c.span (!isBreak ·)
    let text := (c.take n).reverseAux (breaks.reverseAux text)
    let (lineEnd, c) := (c.skip n).lineBreak
    let (breaks, c) := blockBreaks c indent [] fuel
    if c.column = indent ∧ c.peek ≠ theEnd then
      let joined :=
        if folded && lineEnd == ['\n'] && !blankStart && !beginsBlank c then
          if breaks.isEmpty then [' '] else []
        else lineEnd
      blockLines folded indent c (joined.reverseAux text) breaks fuel
    else (text, lineEnd, breaks, c)

/-- Reads a block scalar. -/
def blockScalar (folded : Bool) (parent : Int) (c : Cursor) (fuel : Nat) :
    Lex (String × Cursor) := do
  let (chomping, increment, c) ← blockSigns (c.skip 1)
  let c ← restOfLine c
  let least := (max 1 (parent + 1)).toNat
  let (indent, breaks, c) :=
    match increment with
    | none =>
      let (breaks, deepest, c) := blockLead c [] 0 fuel
      (max least deepest, breaks, c)
    | some n =>
      let indent := least + n - 1
      let (breaks, c) := blockBreaks c indent [] fuel
      (indent, breaks, c)
  let (text, lineEnd, breaks, c) :=
    if c.column = indent ∧ c.peek ≠ theEnd then blockLines folded indent c [] breaks fuel
    else ([], [], breaks, c)
  let tail := (if chomping = some false then [] else lineEnd) ++
    (if chomping = some true then breaks else [])
  return (String.ofList (Text.marked (text.reverseAux tail)), c)

/-! ## Quoted scalars -/

/-- The character for a letter behind a backslash. -/
def escape? : Char → Option Char
  | '0' => some (Char.ofNat 0)
  | 'a' => some '\x07'
  | 'b' => some '\x08'
  | 't' => some '\t'
  | '\t' => some '\t'
  | 'n' => some '\n'
  | 'v' => some '\x0b'
  | 'f' => some '\x0c'
  | 'r' => some '\r'
  | 'e' => some '\x1b'
  | ' ' => some ' '
  | '"' => some '"'
  | '\\' => some '\\'
  | '/' => some '/'
  | 'N' => some '\x85'
  | '_' => some '\xa0'
  | 'L' => some '\u2028'
  | 'P' => some '\u2029'
  | _ => none

/-- How many digits follow a letter behind a backslash. -/
def escapeDigits? : Char → Option Nat
  | 'x' => some 2
  | 'u' => some 4
  | 'U' => some 8
  | _ => none

/-- The number that some digits behind a backslash and a letter denote, if all of them are there. -/
def escapedDigits? (c : Cursor) (digits : Nat) : Option Nat :=
  let ds := (c.take digits).filterMap (digitBelow? 16)
  if ds.length < digits then none else some (ofDigits 16 ds)

/-- Reads a code point by its number, which may be that of a half. -/
def escapedNumber (c : Cursor) (digits : Nat) : Lex (List Char × Cursor) :=
  match escapedDigits? c digits with
  | none => throw .token
  | some n =>
    if 0x10FFFF < n then throw (.codePoint n) else return (Text.written n, c.skip digits)

/-- Reads the ends of empty lines inside quotes. -/
def quotedBreaks (c : Cursor) (breaks : List Char) : Nat → Lex (List Char × Cursor)
  | 0 => return (breaks.reverse, c)
  | fuel + 1 => do
    if c.atDocumentMark then throw .token
    let c := c.skipWhile fun x => x == ' ' || x == '\t'
    if isBreak c.peek then
      let (b, c) := c.lineBreak
      quotedBreaks c (b ++ breaks) fuel
    else return (breaks.reverse, c)

/-- Reads blanks inside quotes: a single line end counts as a blank. -/
def quotedGap (c : Cursor) (fuel : Nat) : Lex (List Char × Cursor) := do
  let n := c.span fun x => x == ' ' || x == '\t'
  let blanks := c.take n
  let c := c.skip n
  if c.peek = theEnd then throw .token
  if isBreak c.peek then
    let (lineEnd, c) := c.lineBreak
    let (breaks, c) ← quotedBreaks c [] fuel
    let joined := if lineEnd ≠ ['\n'] then lineEnd else if breaks.isEmpty then [' '] else []
    return (joined ++ breaks, c)
  else return (blanks, c)

/-- Reads what stands inside quotes, up to the closing one.  The text is gathered from the back. -/
def quotedText (double : Bool) (c : Cursor) (text : List Char) : Nat → Lex (List Char × Cursor)
  | 0 => throw .token
  | fuel + 1 => do
    let n := c.span fun x => !(isGapOrEnd x || x == '\'' || x == '"' || x == '\\')
    let text := (Text.marked (c.take n)).reverseAux text
    let c := c.skip n
    let x := c.peek
    if !double ∧ x = '\'' ∧ c.peek 1 = '\'' then
      quotedText double (c.skip 2) ('\'' :: text) fuel
    else if x = (if double then '"' else '\'') then return (text, c.skip 1)
    else if x = '\'' ∨ x = '"' ∨ (!double ∧ x = '\\') then
      quotedText double (c.skip 1) (x :: text) fuel
    else if x = '\\' then
      let y := c.peek 1
      match escape? y, escapeDigits? y with
      | some z, _ => quotedText double (c.skip 2) (z :: text) fuel
      | none, some digits =>
        let (point, c) ← escapedNumber (c.skip 2) digits
        quotedText double c (point.reverseAux text) fuel
      | none, none =>
        if isBreak y then
          let (breaks, c) ← quotedBreaks (c.skip 1).lineBreak.2 [] fuel
          quotedText double c (breaks.reverseAux text) fuel
        else throw .token
    else
      let (gap, c) ← quotedGap c fuel
      quotedText double c (gap.reverseAux text) fuel

/-- Reads a quoted scalar. -/
def quotedScalar (double : Bool) (c : Cursor) (fuel : Nat) : Lex (String × Cursor) := do
  let (text, c) ← quotedText double (c.skip 1) [] fuel
  return (String.ofList text.reverse, c)

/-! ## Plain scalars -/

/-- Whether a plain scalar ends before these characters. -/
def endsPlain (inFlow : Bool) (x y : Char) : Bool :=
  isGapOrEnd x || (x == ':' && (isGapOrEnd y || (inFlow && ",[]\x7b\x7d".toList.contains y))) ||
    (inFlow && ",?[]\x7b\x7d".toList.contains x)

/-- The characters of a plain scalar up to a gap. -/
def plainRun (inFlow : Bool) : List Char → List Char
  | [] => []
  | x :: rest =>
    if endsPlain inFlow x (rest.head?.getD theEnd) then [] else x :: plainRun inFlow rest

/-- Reads empty lines inside a plain scalar; none where a document begins or ends. -/
def plainBreaks (c : Cursor) (breaks : List Char) : Nat → Option (List Char) × Cursor
  | 0 => (some breaks.reverse, c)
  | fuel + 1 =>
    if c.peek = ' ' then plainBreaks (c.skip 1) breaks fuel
    else if isBreak c.peek then
      let (b, c) := c.lineBreak
      if c.atDocumentMark then (none, c) else plainBreaks c (b ++ breaks) fuel
    else (some breaks.reverse, c)

/-- Reads a gap inside a plain scalar: what it stands for, and whether it holds a line end. -/
def plainGap (c : Cursor) (fuel : Nat) : List Char × Bool × Cursor :=
  let n := c.span (· == ' ')
  let blanks := c.take n
  let c := c.skip n
  if isBreak c.peek then
    let (lineEnd, c) := c.lineBreak
    if c.atDocumentMark then ([], true, c)
    else match plainBreaks c [] fuel with
      | (none, c) => ([], true, c)
      | (some breaks, c) =>
        let joined := if lineEnd ≠ ['\n'] then lineEnd else if breaks.isEmpty then [' '] else []
        (joined ++ breaks, true, c)
  else (blanks, false, c)

/-- Reads a plain scalar, given the text so far from the back and the gap behind it.  The last part
of the result tells whether a key may begin behind the scalar. -/
def plainText (inFlow : Bool) (indent : Int) (c : Cursor) (text gap : List Char)
    (keyAllowed : Bool) : Nat → List Char × Cursor × Bool
  | 0 => (text, c, keyAllowed)
  | fuel + 1 =>
    let run := if c.peek = '#' then [] else plainRun inFlow c.rest
    if run.isEmpty then (text, c, keyAllowed)
    else
      let text := run.reverseAux (gap.reverseAux text)
      let (gap, broken, c) := plainGap (c.skip run.length) fuel
      if gap.isEmpty || c.peek == '#' || (!inFlow && decide ((c.column : Int) < indent)) then
        (text, c, broken)
      else plainText inFlow indent c text gap broken fuel

/-! ## Tokens -/

/-- The lexer behind a scalar or a name, which may be a key. -/
def emitNode (s : Lexer) (read : Cursor → Lex (Token × Cursor)) : Lex Lexer := do
  let s ← s.saveKey
  let (t, cursor) ← read s.cursor
  return { s.emit t with cursor, keyAllowed := false }

/-- The lexer behind an opening bracket. -/
def openFlow (s : Lexer) (t : Token) : Lex Lexer := do
  let s ← s.saveKey
  return { (s.emit t).skip 1 with depth := s.depth + 1, keyAllowed := true }

/-- The lexer behind a closing bracket. -/
def closeFlow (s : Lexer) (t : Token) : Lex Lexer := do
  let s ← s.dropKey
  if s.depth = 0 then throw .arrangement
  return { (s.emit t).skip 1 with depth := s.depth - 1, keyAllowed := false }

/-- The lexer behind a comma. -/
def flowComma (s : Lexer) : Lex Lexer := do
  let s ← s.dropKey
  return { (s.emit .flowEntry).skip 1 with keyAllowed := true }

/-- The lexer with a list or a mapping opened at this column, if it is deeper and not inside
brackets. -/
def openBlock (s : Lexer) (t : Token) : Lex Lexer :=
  if s.depth ≠ 0 then return s
  else if !s.keyAllowed then throw .token
  else match s.deepen s.column with
    | some s => return s.emit t
    | none => return s

/-- The lexer behind the dash of a list entry. -/
def blockDash (s : Lexer) : Lex Lexer := do
  let s ← s.openBlock .blockSequenceStart
  let s ← s.dropKey
  return { (s.emit .blockEntry).skip 1 with keyAllowed := true }

/-- The lexer behind the question mark of a key. -/
def keyMark (s : Lexer) : Lex Lexer := do
  let s ← s.openBlock .blockMappingStart
  let s ← s.dropKey
  return { (s.emit .key).skip 1 with keyAllowed := s.depth == 0 }

/-- The lexer behind the colon of a value.  If a key may have begun before, it did. -/
def valueMark (s : Lexer) : Lex Lexer := do
  let s ← (
    match s.keyHere? with
    | some k =>
      let s := s.forgetKey.emitAt k.position .key
      let s := if s.depth ≠ 0 then s else
        match s.deepen k.column with
        | some s => s.emitAt k.position .blockMappingStart
        | none => s
      return { s with keyAllowed := false }
    | none => do
      let s ← s.openBlock .blockMappingStart
      let s ← ({ s with keyAllowed := s.depth == 0 } : Lexer).dropKey
      return s : Lex Lexer)
  return (s.emit .value).skip 1

/-- The lexer behind the mark of a document. -/
def documentMark (s : Lexer) (t : Token) : Lex Lexer := do
  let s ← (s.unwind (-1)).dropKey
  return { (s.emit t).skip 3 with keyAllowed := false }

/-- The lexer behind a directive. -/
def directiveLine (s : Lexer) (fuel : Nat) : Lex Lexer := do
  let s ← (s.unwind (-1)).dropKey
  let (d, cursor) ← directive s.cursor fuel
  return { s.emit (.directive d) with cursor, keyAllowed := false }

/-- The lexer behind a block scalar. -/
def blockScalarHere (s : Lexer) (folded : Bool) (fuel : Nat) : Lex Lexer := do
  let s ← s.dropKey
  let (text, cursor) ← blockScalar folded s.indent s.cursor fuel
  return { s.emit (.scalar text false) with cursor, keyAllowed := true }

/-- The lexer behind a plain scalar. -/
def plainScalarHere (s : Lexer) (fuel : Nat) : Lex Lexer := do
  let s ← s.saveKey
  let (text, cursor, keyAllowed) :=
    plainText (s.depth != 0) (s.indent + 1) s.cursor [] [] false fuel
  return { s.emit (.scalar (String.ofList (Text.marked text.reverse)) true) with
    cursor, keyAllowed }

/-- Whether a plain scalar begins here. -/
def beginsPlain (s : Lexer) : Bool :=
  let x := s.cursor.peek
  !(isGapOrEnd x || "-?:,[]\x7b\x7d#&*!|>'\"%@`".toList.contains x) ||
    (!isGapOrEnd (s.cursor.peek 1) && (x == '-' || (s.depth == 0 && (x == '?' || x == ':'))))

/-- Reads one token at the cursor. -/
def tokenHere (s : Lexer) (fuel : Nat) : Lex Lexer :=
  let c := s.cursor
  let x := c.peek
  let inFlow := s.depth != 0
  let gapNext := isGapOrEnd (c.peek 1)
  let atLineStart := c.column == 0
  if x = '%' ∧ atLineStart then s.directiveLine fuel
  else if atLineStart ∧ c.atMark '-' then s.documentMark .documentStart
  else if atLineStart ∧ c.atMark '.' then s.documentMark .documentEnd
  else if x = '[' then s.openFlow .flowSequenceStart
  else if x = '{' then s.openFlow .flowMappingStart
  else if x = ']' then s.closeFlow .flowSequenceEnd
  else if x = '}' then s.closeFlow .flowMappingEnd
  else if x = ',' then s.flowComma
  else if x = '-' ∧ gapNext then s.blockDash
  else if x = '?' ∧ (inFlow ∨ gapNext) then s.keyMark
  else if x = ':' ∧ (inFlow ∨ gapNext) then s.valueMark
  else if x = '*' then s.emitNode fun c => return ((← anchorName c).map Token.alias id)
  else if x = '&' then s.emitNode fun c => return ((← anchorName c).map Token.anchor id)
  else if x = '!' then s.emitNode fun c => return ((← tagText c fuel).map Token.tag id)
  else if x = '|' ∧ !inFlow then s.blockScalarHere false fuel
  else if x = '>' ∧ !inFlow then s.blockScalarHere true fuel
  else if x = '\'' then
    s.emitNode fun c => return ((← quotedScalar false c fuel).map (Token.scalar · false) id)
  else if x = '"' then
    s.emitNode fun c => return ((← quotedScalar true c fuel).map (Token.scalar · false) id)
  else if s.beginsPlain then s.plainScalarHere fuel
  else throw .token

/-- How many tokens can be told before the next one is read: those in front of every place where a
key may have begun. -/
def settled (s : Lexer) : Nat :=
  ((s.keys.filter fun k => !s.isStale k.2).map (·.2.position)).foldl min s.count

/-- The tokens that can be told, and the fault of the next one. -/
def endAt (s : Lexer) (e : YamlFault) : List Token := s.tokens.reverse.take s.settled ++ [.bad e]

/-- Goes to the next token, closing what ends in front of it. -/
def approach (s : Lexer) (fuel : Nat) : Lex Lexer := do
  let s ← (s.skipByteOrderMark.skipGap fuel).dropStaleKeys
  return s.unwind s.column

/-- The lexer behind the last token of all. -/
def finish (s : Lexer) : Lex Lexer := return (← (s.unwind (-1)).dropKey).emit .streamEnd

/-- Reads what is left and gives all tokens, with the fault that ends them if there is one. -/
def run (s : Lexer) : Nat → List Token
  | 0 => s.endAt .token
  | fuel + 1 =>
    match s.approach fuel with
    | .error e => s.endAt e
    | .ok next =>
      if next.cursor.rest.isEmpty then
        match next.finish with
        | .error e => s.endAt e
        | .ok last => last.tokens.reverse
      else match next.tokenHere fuel with
        | .error e => s.endAt e
        | .ok next => run next fuel

end Lexer

/-- Whether a document may hold a character. -/
def isYamlChar (c : Char) : Bool :=
  let n := c.toNat
  c == '\t' || c == '\n' || c == '\r' || (decide (0x20 ≤ n) && decide (n ≤ 0x7E)) || c == '\x85' ||
    (decide (0xA0 ≤ n) && decide (n ≤ 0xD7FF)) || (decide (0xE000 ≤ n) && decide (n ≤ 0xFFFD)) ||
    decide (0x10000 ≤ n)

/-- The tokens of a text of which there are no bad characters. -/
def tokensOfGood (cs : List Char) : List Token :=
  Lexer.run { cursor := { rest := cs } } (cs.length + 2)

/-- The tokens of the beginning of a text that is bad further on.  Reading comes to the bad part,
unless it has gone wrong at an escape before. -/
def tokensOfFront (cs : List Char) : List Token :=
  match (tokensOfGood cs).getLast? with
  | some (.bad (.codePoint _)) => tokensOfGood cs
  | _ => [.bad .unprintable]

/-- How many characters come first, before any token is read. -/
def firstPiece : Nat := 8192

/-- How many characters come at a time after that. -/
def nextPiece : Nat := 4096

/-- How many characters have come when the piece that holds a certain one is due. -/
def pieceStart (n : Nat) : Nat := if n < firstPiece then 0 else n / nextPiece * nextPiece

/-- The tokens of a text, which may be only the beginning of a whole that cannot be decoded.  The
text comes in pieces, and a piece is refused when it is due. -/
def tokensOf (cs : List Char) (whole : Bool := true) : List Token :=
  let good := (cs.takeWhile isYamlChar).length
  if whole && good == cs.length then tokensOfGood cs else tokensOfFront (cs.take (pieceStart good))

end FirewallPolicy.Yaml
