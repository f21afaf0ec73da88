import FirewallPolicy.Country.Range
import FirewallPolicy.Text.Lines
import FirewallPolicy.Text.Utf8

/-!
# Files of country ranges

A file of ranges is text in UTF-8.  Where its last character is incomplete, the lines before the
last one still count; any other fault of the encoding is found before any line is looked at.

That is how the program goes about a file that it reads in one piece, which may have 8192 bytes.  Of
a longer file it looks at the lines of one piece before it reads the next, and it counts the
position of a fault from the beginning of its piece.  So a fault of the encoding in a later piece is
told at another position, and not at all where there is an error in a line before that piece.
Whether there is an error, and the ranges of a file without one, are the same.
-/

namespace FirewallPolicy.Country

open FirewallPolicy.Text (Utf8Error linesOf)

/-- Why the ranges of a file cannot be read. -/
inductive FileError where
  | encoding (cause : Utf8Error)
  | ranges (cause : RangeError)
  deriving DecidableEq, Repr

/-- The lines of a text that are sure to be whole, whatever follows.  A line that ends in a carriage
return at the end of the text may go on with a line feed. -/
def wholeLines (cs : List Char) : List (List Char) :=
  let lines := linesOf cs
  if cs.getLast? = some '\n' then lines else lines.dropLast

/-- The ranges of a text that breaks off, before the first error. -/
def rangesBefore (cs : List Char) : List Range × Option RangeError :=
  let (records, final) := Csv.recordsFrom {} (wholeLines cs)
  match rangesFrom 1 records, final with
  | (ranges, some e), _ => (ranges, some e)
  | (ranges, none), .error e => (ranges, some (.csv e))
  | (ranges, none), .ok _ => (ranges, none)

/-- The ranges of a file before the first error, and that error. -/
def readFile (bytes : List UInt8) : List Range × Option FileError :=
  match Text.decodeUtf8 bytes with
  | (cs, none) =>
    let (ranges, e) := readRanges (linesOf cs)
    (ranges, e.map .ranges)
  | (cs, some e) =>
    if e.fault = .unexpectedEnd then
      match rangesBefore cs with
      | (ranges, some e) => (ranges, some (.ranges e))
      | (ranges, none) => (ranges, some (.encoding { e with position := 0 }))
    else ([], some (.encoding e))

end FirewallPolicy.Country
