import HookPolicy.Text.Class
import HookPolicy.Text.Pieces

/-!
# Whole numbers in texts

`readInt` takes digits of every script with single underscores between them, blanks around and a
sign. `readPlainInt` takes ASCII digits only and a point followed by zeros, and bounds the length.
-/

namespace HookPolicy

open Text

/-- Whether digits fill the text, single underscores only between two of them. -/
def digitsFill (isDigit : Char → Bool) (afterDigit : Bool) : List Char → Bool
  | [] => afterDigit
  | c :: rest =>
    if c == '_' then afterDigit && digitsFill isDigit false rest
    else isDigit c && digitsFill isDigit true rest

def splitSign : List Char → Bool × List Char
  | '-' :: rest => (true, rest)
  | '+' :: rest => (false, rest)
  | cs => (false, cs)

def signed (negative : Bool) (n : Nat) : Int := if negative then -(n : Int) else n

/-- Whole numbers with more digits are not read. -/
def intDigitLimit : Nat := 4300

def readInt (cs : List Char) : Option Int :=
  let (negative, body) := splitSign (trim cs)
  let ds := body.filter (· != '_')
  if digitsFill isDigit false body && ds.length ≤ intDigitLimit then
    some (signed negative (numberOf 10 digitValue? ds))
  else none

inductive PlainIntFault
  | malformed
  | tooLong
  deriving DecidableEq, Repr

/-- The text without a point at its end and the zeros behind it. -/
def dropPointZeros (cs : List Char) : List Char :=
  match splitAtLast '.' cs with
  | some (before, after) => if after.all (· == '0') then before else cs
  | none => cs

def readPlainInt (cs : List Char) : Except PlainIntFault Int :=
  let cs := trimBy isSpace cs
  if cs.length > intDigitLimit then .error .tooLong
  else
    let (negative, body) := splitSign cs
    let body := dropPointZeros body
    if digitsFill isAsciiDigit false body then
      .ok (signed negative (numberOf 10 digitValue? (body.filter (· != '_'))))
    else .error .malformed

end HookPolicy
