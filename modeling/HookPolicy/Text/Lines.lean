/-!
# Lines

A file read as text has one line end, the newline. A list of requirements is cut at every character
that any script uses to end a line.
-/

namespace HookPolicy.Text

/-- Carriage returns, alone or before a newline, become newlines. -/
def unifyLineEnds (out : List Char) : List Char → List Char
  | [] => out.reverse
  | '\r' :: '\n' :: rest => unifyLineEnds ('\n' :: out) rest
  | '\r' :: rest => unifyLineEnds ('\n' :: out) rest
  | c :: rest => unifyLineEnds (c :: out) rest

def isLineEnd (c : Char) : Bool :=
  let n := c.toNat
  (0x0A ≤ n && n ≤ 0x0D) || (0x1C ≤ n && n ≤ 0x1E) || n == 0x85 || n == 0x2028 || n == 0x2029

def linesFrom (line : List Char) (found : List (List Char)) : List Char → List (List Char)
  | [] => (if line.isEmpty then found else line.reverse :: found).reverse
  | '\r' :: '\n' :: rest => linesFrom [] (line.reverse :: found) rest
  | c :: rest =>
    if isLineEnd c then linesFrom [] (line.reverse :: found) rest
    else linesFrom (c :: line) found rest

/-- The lines of a text without their ends; a line end closes a line and opens none. -/
def lines (cs : List Char) : List (List Char) := linesFrom [] [] cs

end HookPolicy.Text
