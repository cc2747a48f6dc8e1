import HookPolicy.Text.Case
import HookPolicy.Text.Pieces

/-!
# Paths

A path has a number of slashes in front, none to two, and parts, none of which is empty or a single
dot. `cancel` lets each `..` take away the part before it.
-/

namespace HookPolicy

structure Path where
  slashes : Nat
  parts : List String
  deriving DecidableEq, Repr

namespace Path

def leadingSlashes (cs : List Char) : Nat :=
  match cs with
  | '/' :: '/' :: '/' :: _ => 1
  | '/' :: '/' :: _ => 2
  | '/' :: _ => 1
  | _ => 0

def ofChars (cs : List Char) : Path :=
  ⟨leadingSlashes cs, ((Text.splitAt '/' cs).filter fun p => !p.isEmpty && p != ['.']).map String.ofList⟩

def ofString (s : String) : Path := ofChars s.toList

def isAbsolute (p : Path) : Bool := p.slashes > 0

def slashText (n : Nat) : String := String.ofList (List.replicate n '/')

def toString (p : Path) : String :=
  if p.slashes == 0 && p.parts.isEmpty then "." else slashText p.slashes ++ "/".intercalate p.parts

instance : ToString Path := ⟨toString⟩

/-- The second path seen from the first; an absolute one stands alone. -/
def join (p q : Path) : Path := if q.isAbsolute then q else ⟨p.slashes, p.parts ++ q.parts⟩

def parent (p : Path) : Path := ⟨p.slashes, p.parts.dropLast⟩

def name (p : Path) : String := p.parts.getLast?.getD ""

/-- The last dot of the name and what follows it, unless the dot comes first or last. -/
def suffix (p : Path) : String :=
  match Text.splitAtLast '.' p.name.toList with
  | some (before, after) =>
    if before.isEmpty || after.isEmpty then "" else String.ofList ('.' :: after)
  | none => ""

/-- The parts, last first, once each `..` has taken away the part before it. Above the root there is
nothing to take away; above a relative path the `..` stays. -/
def cancelOnto (rooted : Bool) (stack : List String) : List String → List String
  | [] => stack
  | p :: rest =>
    if p != ".." then cancelOnto rooted (p :: stack) rest
    else match stack with
      | [] => cancelOnto rooted (if rooted then [] else [".."]) rest
      | q :: below => cancelOnto rooted (if q == ".." then ".." :: q :: below else below) rest

def cancel (p : Path) : Path := ⟨p.slashes, (cancelOnto p.isAbsolute [] p.parts).reverse⟩

/-- The path seen from a directory, without `..`. -/
def absolute (cwd p : Path) : Path := (cwd.join p).cancel

end Path

end HookPolicy
