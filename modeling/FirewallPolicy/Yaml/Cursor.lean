/-!
# Positions in a text

A cursor is what is left of a text together with how far it has come: characters, lines and columns.
Behind the end of the text it sees the character of number zero, which no document holds.
-/

namespace FirewallPolicy.Yaml

/-- The rest of a text and its place in the whole. -/
structure Cursor where
  rest : List Char
  index : Nat := 0
  line : Nat := 0
  column : Nat := 0

/-- The character behind the end of a text. -/
def theEnd : Char := Char.ofNat 0

/-- Whether a character ends a line. -/
def isBreak (c : Char) : Bool :=
  c == '\n' || c == '\r' || c == '\x85' || c == '\u2028' || c == '\u2029'

/-- Whether a character ends a line or stands behind the end. -/
def isBreakOrEnd (c : Char) : Bool := isBreak c || c == theEnd

/-- Whether a character ends a word: a blank, or one that ends a line. -/
def isSpaceOrEnd (c : Char) : Bool := isBreakOrEnd c || c == ' '

/-- Whether a character ends a token: a blank, a tab, or one that ends a line. -/
def isGapOrEnd (c : Char) : Bool := isSpaceOrEnd c || c == '\t'

/-- Whether a character is an ASCII letter, an ASCII digit, a minus sign or a low line. -/
def isNameChar (c : Char) : Bool := c.isAlphanum || c == '-' || c == '_'

namespace Cursor

/-- The character some places ahead. -/
def peek (c : Cursor) (ahead : Nat := 0) : Char := (c.rest[ahead]?).getD theEnd

/-- The next characters. -/
def take (c : Cursor) (n : Nat) : List Char := c.rest.take n

/-- The cursor behind the next character.  A byte order mark takes no column. -/
def next (c : Cursor) : Cursor :=
  match c.rest with
  | [] => c
  | x :: rest =>
    if isBreak x && !(x == '\r' && rest.head? == some '\n') then ⟨rest, c.index + 1, c.line + 1, 0⟩
    else if x = '\uFEFF' then { c with rest, index := c.index + 1 }
    else { c with rest, index := c.index + 1, column := c.column + 1 }

/-- The cursor behind some characters. -/
def skip (c : Cursor) : Nat → Cursor
  | 0 => c
  | n + 1 => c.next.skip n

/-- How many of the next characters are of a kind. -/
def span (c : Cursor) (p : Char → Bool) : Nat := (c.rest.takeWhile p).length

/-- The cursor behind the characters of a kind. -/
def skipWhile (c : Cursor) (p : Char → Bool) : Cursor := c.skip (c.span p)

/-- Reads the end of a line; most of them count as a line feed. -/
def lineBreak (c : Cursor) : List Char × Cursor :=
  let x := c.peek
  if x = '\r' ∧ c.peek 1 = '\n' then (['\n'], c.skip 2)
  else if x = '\r' ∨ x = '\n' ∨ x = '\x85' then (['\n'], c.skip 1)
  else if x = '\u2028' ∨ x = '\u2029' then ([x], c.skip 1)
  else ([], c)

/-- Whether a mark of a document stands here: three equal characters and a gap. -/
def atMark (c : Cursor) (x : Char) : Bool := c.take 3 == [x, x, x] && isGapOrEnd (c.peek 3)

/-- Whether a document begins or ends here. -/
def atDocumentMark (c : Cursor) : Bool := c.atMark '-' || c.atMark '.'

end Cursor

end FirewallPolicy.Yaml
