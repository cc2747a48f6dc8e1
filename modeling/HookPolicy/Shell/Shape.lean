import HookPolicy.Text.Pieces

/-!
# Shapes of dangerous text

A shape is a list of steps, each of which takes some characters. A text shows the shape when the
steps fit one after the other somewhere in it.
-/

namespace HookPolicy.Shell

inductive Step
  | text (cs : List Char)
  | one (p : Char → Bool)
  | many (p : Char → Bool)
  | maybe (cs : List Char)

/-- Takes any number of characters of a class, then goes on. -/
def manyThen (p : Char → Bool) (next : List Char → Bool) : List Char → Bool
  | [] => next []
  | c :: cs => next (c :: cs) || (p c && manyThen p next cs)

def textThen (w : List Char) (next : List Char → Bool) (cs : List Char) : Bool :=
  match Text.rest? w cs with
  | some rest => next rest
  | none => false

def Step.thenFits (next : List Char → Bool) : Step → List Char → Bool
  | .text w, cs => textThen w next cs
  | .one p, cs =>
    match cs with
    | c :: rest => p c && next rest
    | [] => false
  | .many p, cs => manyThen p next cs
  | .maybe w, cs => textThen w next cs || next cs

def fits : List Step → List Char → Bool
  | [], _ => true
  | step :: steps, cs => step.thenFits (fits steps) cs

/-- Whether the steps fit somewhere in the text. -/
def shows (steps : List Step) : List Char → Bool
  | [] => fits steps []
  | c :: cs => fits steps (c :: cs) || shows steps cs

def lit (s : String) : Step := .text s.toList

/-- Anything on the same line. -/
def line : Step := .many (· != '\n')

def blanks : Step := .many Text.isBlank

def blank : Step := .one Text.isBlank

def oneOf (s : String) : Step := .one s.toList.contains

end HookPolicy.Shell
