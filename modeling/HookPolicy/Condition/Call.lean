import HookPolicy.Text.Pieces
import HookPolicy.Text.Quoted

/-!
# Calls in conditions

A condition is a list of calls, written one after the other with two ampersands between them. The
strict reader `parse` refuses every part that is not one call; `find` looks for a call inside a part.
-/

namespace HookPolicy.Condition

structure Call where
  name : String
  arg : String
  deriving DecidableEq, Repr

def isQuote (c : Char) : Bool := c == '"' || c == '\x27'

/-- The argument between any two quotes before a closing bracket, and what follows the bracket. -/
def argument? : List Char → Option (List Char × List Char)
  | [] => none
  | q :: cs =>
    if !isQuote q then none
    else match cs.takeWhile (!isQuote ·), cs.dropWhile (!isQuote ·) with
      | [], _ => none
      | arg, _ :: ')' :: rest => some (arg, rest)
      | _, _ => none

def Call.ofChars (name arg : List Char) : Call := ⟨String.ofList name, String.ofList arg⟩

/-- Reads a text as one call. -/
def Call.ofText? (cs : List Char) : Option Call :=
  match cs.takeWhile Text.isWord, cs.dropWhile Text.isWord with
  | [], _ => none
  | name, '(' :: rest =>
    match argument? rest with
    | some (arg, []) => some (.ofChars name arg)
    | _ => none
  | _, _ => none

/-- Finds the first call after the word characters already seen, which are stored last first. -/
def findAfter (word : List Char) : List Char → Option Call
  | [] => none
  | c :: cs =>
    if Text.isWord c then findAfter (c :: word) cs
    else match if c == '(' && !word.isEmpty then argument? cs else none with
      | some (arg, _) => some (.ofChars word.reverse arg)
      | none => findAfter [] cs

/-- The first call inside a text. -/
def find (cs : List Char) : Option Call := findAfter [] cs

/-- The parts of a condition without the blanks around them. -/
def parts (condition : String) : List (List Char) :=
  (Text.splitAtPair '&' [] condition.toList).map Text.trim

/-- A part that is no call. -/
structure BadPart where
  text : List Char
  deriving DecidableEq, Repr

def BadPart.message (p : BadPart) : String :=
  "Unparsable condition part: " ++ String.ofList (Text.quoted p.text)

def parseParts : List (List Char) → Except BadPart (List Call)
  | [] => .ok []
  | p :: rest =>
    match Call.ofText? p, parseParts rest with
    | none, _ => .error ⟨p⟩
    | some c, .ok more => .ok (c :: more)
    | some _, .error e => .error e

/-- Reads a condition strictly: every part must be one call. -/
def parse (condition : String) : Except BadPart (List Call) := parseParts (parts condition)

end HookPolicy.Condition
