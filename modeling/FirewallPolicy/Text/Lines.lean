/-!
# Lines

A text is cut into lines behind `\n`, `\r\n` or a lone `\r`, and each line keeps its end.
-/

namespace FirewallPolicy.Text

/-- The lines of a text with their ends; the last one may have none. -/
def linesOf : List Char → List (List Char)
  | [] => []
  | '\r' :: '\n' :: cs => ['\r', '\n'] :: linesOf cs
  | c :: cs =>
    if c = '\n' ∨ c = '\r' then [c] :: linesOf cs
    else match linesOf cs with
      | [] => [[c]]
      | line :: lines => (c :: line) :: lines

/-- The text with every line end written as `\n`. -/
def unifyLineEnds : List Char → List Char
  | [] => []
  | '\r' :: '\n' :: cs => '\n' :: unifyLineEnds cs
  | c :: cs => (if c = '\r' then '\n' else c) :: unifyLineEnds cs

end FirewallPolicy.Text
