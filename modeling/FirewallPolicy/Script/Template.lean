import FirewallPolicy.Document.Value
import FirewallPolicy.Text.Blank
import FirewallPolicy.Text.Lines
import FirewallPolicy.Text.Split
import FirewallPolicy.Text.Word

/-!
# Templates

A template is text with tags: `{{ name }}` puts in a value, a `for` block repeats what it encloses
for each element of a value, and `{# ... #}` is a comment.  Where a block or a comment is alone on
its line, neither the blanks before it nor the line end behind it are part of the output; a minus
sign at a tag takes away all blanks on its side, and a plus sign leaves them alone.
-/

namespace FirewallPolicy.Template

open FirewallPolicy.Text (isBlank trimChars)

/-- Why a template gives no text. -/
inductive TemplateError where
  | undefined (name : String)
  /-- The template uses something that is no tag of this language. -/
  | malformed
  deriving DecidableEq, Repr

/-- The wording of an error. -/
def TemplateError.message : TemplateError → String
  | .undefined name => s!"'{name}' is undefined"
  | .malformed => "malformed template"

/-- The kinds of tags. -/
inductive TagKind where
  | output
  | block
  | comment
  deriving DecidableEq, Repr

/-- The character inside the closing bracket of a tag. -/
def TagKind.closingMark : TagKind → Char
  | .output => '}'
  | .block => '%'
  | .comment => '#'

/-- A piece of a template: text, or a tag with what it encloses. -/
inductive Lexeme where
  | data (cs : List Char)
  | tag (kind : TagKind) (inner : List Char)
  deriving DecidableEq, Repr

/-! ## Cutting a template into pieces -/

/-- The kind of the tag that opens here. -/
def opening? : List Char → Option TagKind
  | '{' :: '{' :: _ => some .output
  | '{' :: '%' :: _ => some .block
  | '{' :: '#' :: _ => some .comment
  | _ => none

/-- What stands before the tag's end and what stands behind it. -/
def closing? (mark : Char) : List Char → Option (List Char × List Char)
  | [] => none
  | [_] => none
  | c :: d :: rest =>
    if c = mark ∧ d = '}' then some ([], rest)
    else (closing? mark (d :: rest)).map fun (inner, rest) => (c :: inner, rest)

/-- A rest behind a closing is shorter than the text before it. -/
theorem length_of_closing? {mark : Char} {cs inner rest : List Char}
    (h : closing? mark cs = some (inner, rest)) : rest.length < cs.length := by
  induction cs generalizing inner with
  | nil => simp [closing?] at h
  | cons c cs ih =>
    cases cs with
    | nil => simp [closing?] at h
    | cons d ds =>
      simp only [closing?] at h
      split at h
      · simp only [Option.some.injEq, Prod.mk.injEq] at h
        obtain ⟨_, rfl⟩ := h
        simp only [List.length_cons]
        omega
      · obtain ⟨⟨i, r⟩, hi, he⟩ := Option.map_eq_some_iff.1 h
        simp only [Prod.mk.injEq] at he
        obtain ⟨_, rfl⟩ := he
        have := ih hi
        simp only [List.length_cons] at this ⊢
        omega

/-- A sign of a tag, which may stand at either end of it. -/
def isSign (c : Char) : Bool := c == '-' || c == '+'

/-- The sign at the start of a tag and the rest of the tag. -/
def takeSign (inner : List Char) : Option Char × List Char :=
  match inner with
  | c :: rest => if isSign c then (some c, rest) else (none, inner)
  | [] => (none, [])

/-- Text before a tag that takes away the blanks between the last line end and itself, if there is
nothing else between; at the start of the template or of a line, a line end is not needed. -/
def dropIndent (atLineStart : Bool) (data : List Char) : List Char :=
  let lastLine := (data.reverse.takeWhile (· != '\n')).reverse
  let before := (data.reverse.dropWhile (· != '\n')).reverse
  if (atLineStart || !before.isEmpty) && lastLine.all isBlank then before else data

/-- Text before a tag. -/
def beforeTag (kind : TagKind) (sign : Option Char) (atLineStart : Bool) (data : List Char) :
    List Char :=
  if sign = some '-' then (Text.dropBlanks data.reverse).reverse
  else if sign = some '+' ∨ kind = .output then data
  else dropIndent atLineStart data

/-- What a tag takes away from the text behind it: all blanks, or one line end, or nothing. -/
def taken (kind : TagKind) (sign : Option Char) (rest : List Char) : List Char :=
  if sign = some '-' then rest.takeWhile isBlank
  else if sign = some '+' ∨ kind = .output then []
  else match rest with
    | '\n' :: _ => ['\n']
    | _ => []

/-- A piece of text, if there is any. -/
def dataPiece (data : List Char) : List Lexeme := if data.isEmpty then [] else [.data data]

/-- Cuts a template into pieces, given the text since the last tag backwards. -/
def lexFrom (atLineStart : Bool) (data : List Char) (cs : List Char) :
    Except TemplateError (List Lexeme) :=
  match cs with
  | [] => .ok (dataPiece data.reverse)
  | c :: rest =>
    match opening? (c :: rest) with
    | none => lexFrom atLineStart (c :: data) rest
    | some kind =>
      match _h : closing? kind.closingMark (rest.drop 1) with
      | none => .error .malformed
      | some (inner, after) =>
        let (openSign, inner) := takeSign inner
        let (closeSign, inner) := takeSign inner.reverse
        let gone := taken kind closeSign after
        (lexFrom (gone.getLast? == some '\n') [] (after.drop gone.length)).map fun pieces =>
          dataPiece (beforeTag kind openSign atLineStart data.reverse) ++
            .tag kind inner.reverse :: pieces
termination_by cs.length
decreasing_by
  · simp
  · have := length_of_closing? _h
    simp only [List.length_drop, List.length_cons] at this ⊢
    omega

/-- Cuts a template into pieces. -/
def lex (source : List Char) : Except TemplateError (List Lexeme) :=
  lexFrom true [] (Text.unifyLineEnds source)

/-! ## Reading the tags -/

/-- A value of a template: a name, or how many elements the value of a name has. -/
inductive Term where
  | name (n : String)
  | length (of : Term)
  deriving DecidableEq, Repr

/-- A part of a template. -/
inductive Part where
  | text (s : String)
  | value (t : Term)
  /-- The parts of the body, once for each element. -/
  | each (name : String) (list : Term) (body : List Part)

/-- Reads a name: word characters of which the first is no digit. -/
def name? (cs : List Char) : Option String :=
  match cs with
  | [] => none
  | c :: _ =>
    if cs.all Text.isWordChar && !Text.isDigitLike c then some (String.ofList cs) else none

/-- Puts filters behind a term. -/
def filtered? (t : Term) : List (List Char) → Option Term
  | [] => some t
  | f :: fs =>
    if f = "length".toList ∨ f = "count".toList then filtered? (.length t) fs else none

/-- Reads a term: a name with filters behind bars. -/
def term? (cs : List Char) : Option Term :=
  match (Text.fieldsOf '|' cs).map trimChars with
  | n :: filters => (name? n).bind fun n => filtered? (.name n) filters
  | [] => none

/-- The words of a tag. -/
def words (cs : List Char) : List (List Char) :=
  (Text.fieldsOf ' ' (cs.map fun c => if isBlank c then ' ' else c)).filter (!·.isEmpty)

/-- A block that is still open: its name, what it runs over, and the parts before it. -/
structure Frame where
  name : String
  list : Term
  before : List Part

/-- Reads pieces into parts, given the parts so far and the open blocks. -/
def parseFrom (parts : List Part) (frames : List Frame) :
    List Lexeme → Except TemplateError (List Part)
  | [] => if frames.isEmpty then .ok parts else .error .malformed
  | .data cs :: rest => parseFrom (parts ++ [.text (String.ofList cs)]) frames rest
  | .tag .comment _ :: rest => parseFrom parts frames rest
  | .tag .output inner :: rest =>
    match term? inner with
    | some t => parseFrom (parts ++ [.value t]) frames rest
    | none => .error .malformed
  | .tag .block inner :: rest =>
    match words inner with
    | [['e', 'n', 'd', 'f', 'o', 'r']] =>
      match frames with
      | [] => .error .malformed
      | f :: frames => parseFrom (f.before ++ [.each f.name f.list parts]) frames rest
    | ['f', 'o', 'r'] :: v :: ['i', 'n'] :: list =>
      match name? v, term? (Text.joinWith ' ' list) with
      | some v, some t => parseFrom [] (⟨v, t, parts⟩ :: frames) rest
      | _, _ => .error .malformed
    | _ => .error .malformed

/-- Reads a template. -/
def parse (source : List Char) : Except TemplateError (List Part) :=
  lex source >>= parseFrom [] []

/-! ## Filling a template in -/

/-- What a name may stand for. -/
inductive Datum where
  | text (s : String)
  | lines (ls : List String)
  deriving DecidableEq, Repr

/-- How many elements a value has. -/
def Datum.size : Datum → Nat
  | .text s => (Text.points s.toList).length
  | .lines ls => ls.length

/-- The elements of a value; those of a text are its characters and halves. -/
def Datum.elements : Datum → List String
  | .text s => (Text.points s.toList).map fun n => String.ofList (Text.written n)
  | .lines ls => ls

/-- A value as it is put in. -/
def Datum.shown : Datum → String
  | .text s => s
  | .lines ls => (Value.list (ls.map Value.text)).shown

/-- The values of names; the first of a name counts. -/
abbrev Bindings := List (String × Datum)

/-- The value of a term. -/
def Term.value (b : Bindings) : Term → Except TemplateError Datum
  | .name n =>
    match b.find? (·.1 == n) with
    | some e => .ok e.2
    | none => .error (.undefined n)
  | .length t => (t.value b).map fun d => .text (toString d.size)

mutual

/-- Fills a part in. -/
def Part.render (b : Bindings) : Part → Except TemplateError String
  | .text s => .ok s
  | .value t => (t.value b).map Datum.shown
  | .each v list body => do
    let d ← list.value b
    let texts ← d.elements.mapM fun e => renderAll ((v, .text e) :: b) body
    return String.join texts

/-- Fills parts in, one after the other. -/
def renderAll (b : Bindings) : List Part → Except TemplateError String
  | [] => .ok ""
  | p :: ps => do
    let s ← p.render b
    let t ← renderAll b ps
    return s ++ t

end

/-- Fills a template in. -/
def render (source : String) (b : Bindings) : Except TemplateError String :=
  parse source.toList >>= renderAll b

end FirewallPolicy.Template
