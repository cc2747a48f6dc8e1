import HookPolicy.Text.Class
import HookPolicy.Text.CaseRuns
import HookPolicy.Text.SigmaSpans

/-!
# Upper and lower case

`lowerChar` sends a character to one character. `upper` and `lower` follow the full rules: a
capital may expand to several letters, and a capital sigma at the end of a word becomes `ς`.
-/

namespace HookPolicy.Text

def runAt (runs : Array (Nat × Nat × Nat × Int)) (n lo hi : Nat) : Option Nat :=
  if _h : lo < hi then
    let mid := (lo + hi) / 2
    match runs[mid]? with
    | none => none
    | some (a, b, step, delta) =>
      if n < a then runAt runs n lo mid
      else if b < n then runAt runs n (mid + 1) hi
      else if (n - a) % step == 0 then some (Int.toNat (n + delta)) else none
  else none
termination_by hi - lo

def shiftBy (runs : Array (Nat × Nat × Nat × Int)) (c : Char) : Char :=
  match runAt runs c.toNat 0 runs.size with
  | some n => Char.ofNat n
  | none => c

def isAsciiUpper (c : Char) : Bool := 'A' ≤ c && c ≤ 'Z'

def isAsciiLower (c : Char) : Bool := 'a' ≤ c && c ≤ 'z'

def asciiLower (c : Char) : Char := if isAsciiUpper c then Char.ofNat (c.toNat + 32) else c

def asciiUpper (c : Char) : Char := if isAsciiLower c then Char.ofNat (c.toNat - 32) else c

/-- The lower case of one character as one character. -/
def lowerChar (c : Char) : Char :=
  if c.toNat < 128 then asciiLower c else shiftBy lowerRuns c

/-- The upper case of one character, which may be several characters. -/
def upperChar (c : Char) : List Char :=
  if c.toNat < 128 then [asciiUpper c]
  else match upperExpansions.find? (·.1 == c.toNat) with
    | some (_, ns) => ns.map Char.ofNat
    | none => [shiftBy upperRuns c]

def hasCase (c : Char) : Bool := lowerChar c != c || upperChar c != [c]

def upper (cs : List Char) : List Char := cs.flatMap upperChar

def isCasedLetter (c : Char) : Bool :=
  if c.toNat < 128 then isAsciiLetter c else inSpans casedSpans c.toNat

/-- Characters that casing looks through, such as an apostrophe inside a word. -/
def isCaseNeutral (c : Char) : Bool :=
  if c.toNat < 128 then c == '\x27' || c == '.' || c == ':' || c == '^' || c.toNat == 0x60
  else inSpans ignorableSpans c.toNat

def nextIsCased (cs : List Char) : Bool :=
  match cs.dropWhile isCaseNeutral with
  | c :: _ => isCasedLetter c
  | [] => false

/-- The lower case of a text that follows the reversed text `before`. -/
def lowerAfter (before : List Char) (out : List Char) : List Char → List Char
  | [] => out.reverse
  | c :: rest =>
    let low :=
      if c == 'Σ' then
        if nextIsCased before && !nextIsCased rest then ['ς'] else ['σ']
      else if c == 'İ' then ['\u0307', 'i']
      else [lowerChar c]
    lowerAfter (c :: before) (low ++ out) rest

def lower (cs : List Char) : List Char := lowerAfter [] [] cs

end HookPolicy.Text
