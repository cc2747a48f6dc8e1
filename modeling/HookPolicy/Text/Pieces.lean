import HookPolicy.Text.Class

/-!
# Cutting texts

Trimming, splitting at separators, and looking for one text inside another. All functions work on
lists of characters.
-/

namespace HookPolicy.Text

def trimBy (p : Char → Bool) (cs : List Char) : List Char :=
  ((cs.dropWhile p).reverse.dropWhile p).reverse

/-- The text without its leading and trailing blanks. -/
def trim (cs : List Char) : List Char := trimBy isBlank cs

def trimmed (s : String) : String := String.ofList (trim s.toList)

/-- The pieces between the separators; there is always at least one. -/
def splitAt (sep : Char) (cs : List Char) : List (List Char) :=
  cs.foldr (fun c pieces =>
    if c == sep then [] :: pieces
    else match pieces with
      | piece :: more => (c :: piece) :: more
      | [] => [[c]]) [[]]

/-- The pieces between adjacent pairs of the separator, found from the left. -/
def splitAtPair (sep : Char) (piece : List Char) : List Char → List (List Char)
  | a :: b :: rest =>
    if a == sep && b == sep then piece.reverse :: splitAtPair sep [] rest
    else splitAtPair sep (a :: piece) (b :: rest)
  | [a] => [(a :: piece).reverse]
  | [] => [piece.reverse]

def joinWith (sep : List Char) : List (List Char) → List Char
  | [] => []
  | piece :: more => piece ++ more.flatMap (sep ++ ·)

/-- What is left of the text once the given beginning is taken off. -/
def rest? : List Char → List Char → Option (List Char)
  | [], cs => some cs
  | _ :: _, [] => none
  | a :: as, c :: cs => if a == c then rest? as cs else none

def startsWith (start cs : List Char) : Bool := (rest? start cs).isSome

def endsWith (ending cs : List Char) : Bool := startsWith ending.reverse cs.reverse

/-- Whether the first text occurs inside the second. -/
def occursIn (part : List Char) : List Char → Bool
  | [] => startsWith part []
  | c :: cs => startsWith part (c :: cs) || occursIn part cs

def replaceChar (c : Char) (new : List Char) (cs : List Char) : List Char :=
  cs.flatMap fun d => if d == c then new else [d]

/-- The number read from a list of digits in the given base. -/
def numberOf (base : Nat) (value? : Char → Option Nat) (cs : List Char) : Nat :=
  cs.foldl (fun n c => n * base + (value? c).getD 0) 0

/-- The last index of a character, counted from the end: the text after it and before it. -/
def splitAtLast (sep : Char) (cs : List Char) : Option (List Char × List Char) :=
  let back := cs.reverse
  let after := back.takeWhile (· != sep)
  match back.dropWhile (· != sep) with
  | [] => none
  | _ :: before => some (before.reverse, after.reverse)

end HookPolicy.Text
