import HookPolicy.Condition.Call
import HookPolicy.Condition.Manifest

/-!
# Conditions on the world

A condition holds when every check that it calls holds. A part without a call counts as satisfied,
and so does a call of an unknown check; both leave a remark.
-/

namespace HookPolicy.Condition

inductive Check
  | envSet
  | fileExists
  | hasDependency
  deriving DecidableEq, Repr

namespace Check

def name : Check → String
  | .envSet => "env_set"
  | .fileExists => "file_exists"
  | .hasDependency => "has_dependency"

/-- All checks, in the order of their names. -/
def all : List Check := [.envSet, .fileExists, .hasDependency]

def ofName? (s : String) : Option Check := all.find? (·.name == s)

/-- What a check says about the world, seen from a directory. -/
def run (w : World) (dir : Path) (arg : String) : Check → Except CheckFault Bool
  | .envSet => .ok (w.env.textOf arg != "")
  | .fileExists =>
    let p := dir.join (Path.ofString arg)
    match w.finds p with
    | .ok b => .ok b
    | .error _ => .error (.nameTooLong p.toString)
  | .hasDependency => declares w dir arg

end Check

def unknownText (name : String) : String := "Unknown condition function: " ++ name

/-- What an evaluation has passed over. -/
inductive Remark
  | noCall (part : List Char)
  | unknown (name : String)
  deriving DecidableEq, Repr

def Remark.message : Remark → String
  | .noCall part => "Ignoring unparsable condition part: " ++ String.ofList (Text.quoted part)
  | .unknown name => "Unknown condition function " ++ name ++ " treated as true"

/-- What an evaluation says, and the remarks it leaves. -/
structure Finding where
  remarks : List Remark
  result : Except CheckFault Bool

def Finding.after (f : Finding) (r : Remark) : Finding := { f with remarks := r :: f.remarks }

/-- Runs the checks of the parts from left to right, up to the first that does not hold. -/
def evalParts (w : World) (dir : Path) : List (List Char) → Finding
  | [] => ⟨[], .ok true⟩
  | p :: rest =>
    match find p with
    | none => if p.isEmpty then evalParts w dir rest else (evalParts w dir rest).after (.noCall p)
    | some call =>
      match Check.ofName? call.name with
      | none => (evalParts w dir rest).after (.unknown call.name)
      | some check =>
        match check.run w dir call.arg with
        | .ok true => evalParts w dir rest
        | other => ⟨[], other⟩

/-- Evaluates a condition in a directory; an empty name stands for the working directory. -/
def eval (w : World) (cwd : String) (condition : String) : Finding :=
  let dir := if cwd == "" then w.dir else Path.ofString cwd
  evalParts w dir (parts condition)

end HookPolicy.Condition
