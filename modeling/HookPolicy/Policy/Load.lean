import HookPolicy.Json.Reader
import HookPolicy.Policy.Check
import HookPolicy.World

/-!
# Loading policies

A policy is loaded from a file that holds one object. When the object is no policy, the error names
the hooks that are at fault.
-/

namespace HookPolicy

namespace Policy

/-- The variable that names the policy file. -/
def placeVariable : String := Context.variableName "HOOKS_CONFIG"

def defaultPlace (home : String) : Path :=
  (Path.ofString home).join (Path.ofString ".hookwarden/hooks/hooks.json")

/-- The place of the policy file: the given one, or that of the environment, or the default. -/
def place (w : World) (given : String) : Path :=
  if given != "" then Path.ofString given
  else
    let named := w.env.textOf placeVariable
    if named != "" then Path.ofString named else defaultPlace w.home

end Policy

/-- Why a policy file gives no policy. -/
inductive LoadError
  | absent (file : Path)
  | directory (file : Path)
  | malformed (file : Path) (reason : String)
  | notRecord (file : Path)
  | invalid (file : Path) (labels : List String) (defects : List Defect)
  | nameTooLong (file : Path)
  | linkLoop (file : Path)
  | notText (issue : Utf8.Issue)
  | tooLarge (e : Json.ReadError)
  deriving DecidableEq, Repr

namespace LoadError

/-- How many defects a document has, as messages tell it. -/
def countText (defects : List Defect) : String :=
  let n := defects.length
  Decimal.natText n ++ (if n == 1 then " validation error" else " validation errors") ++
    " for HooksConfig"

def labelClause (labels : List String) : String :=
  if labels.isEmpty then "" else " (failing hooks: " ++ ", ".intercalate labels ++ ")"

def message : LoadError → String
  | .absent file => "Hooks config not found: " ++ file.toString
  | .directory file =>
    "Failed to read hooks config " ++ file.toString ++ ": [Errno 21] Is a directory: " ++
      Text.quote file.toString
  | .malformed file reason => "Failed to read hooks config " ++ file.toString ++ ": " ++ reason
  | .notRecord file => "Hooks config must be a JSON object: " ++ file.toString
  | .invalid file labels defects =>
    "Invalid hooks config " ++ file.toString ++ labelClause labels ++ ": " ++ countText defects
  | .nameTooLong file => "[Errno 36] File name too long: " ++ Text.quote file.toString
  | .linkLoop file => "Symlink loop from " ++ Text.quote file.toString
  | .notText issue => issue.message
  | .tooLarge e => e.message []

/-- Whether the error is one that a faulty policy file is expected to give. -/
def isExpected : LoadError → Bool
  | .nameTooLong _ => false
  | .linkLoop _ => false
  | .notText _ => false
  | .tooLarge _ => false
  | _ => true

end LoadError

namespace Policy

/-- Names a definition by its event and its id, or by its number when it has no id. -/
def labelOf (event : String) (index : Nat) (definition : Json) : String :=
  let id := definition.field "id"
  event ++ "/" ++ (if id.isTruthy then id.display else "#" ++ Decimal.natText index)

/-- The label of the definition that a defect lies in. -/
def defectLabel? (document : Json) (d : Defect) : Option String :=
  match d.place with
  | .key "hooks" :: .key event :: .index n :: _ =>
    let definitions := (((document.field "hooks").field event).items?).getD []
    definitions[n]?.map (labelOf event n)
  | _ => none

/-- The labels of all definitions with defects, each once. -/
def labels (document : Json) (ds : List Defect) : List String :=
  (ds.filterMap (defectLabel? document)).eraseDups

/-- Reads a document as a policy. -/
def ofDocument (file : Path) (document : Json) : Except LoadError Policy :=
  match document with
  | .object _ =>
    match checkPolicy document with
    | .good p => .ok p
    | .bad ds => .error (.invalid file (labels document ds) ds)
  | _ => .error (.notRecord file)

/-- Reads the bytes of a file as a policy. -/
def ofBytes (file : Path) (bytes : List UInt8) : Except LoadError Policy :=
  match Utf8.decode bytes with
  | .error issue => .error (.notText issue)
  | .ok cs =>
    let cs := Text.unifyLineEnds [] cs
    match Json.readChars cs with
    | .ok document => ofDocument file document
    | .error (.malformed fault offset) =>
      .error (.malformed file ((Json.ReadError.malformed fault offset).message cs))
    | .error e => .error (.tooLarge e)

def load (w : World) (file : Path) : Except LoadError Policy :=
  match w.find file with
  | .ok (_, .file bytes _) => ofBytes file bytes
  | .ok (_, .directory) => .error (.directory file)
  | .error .nameTooLong => .error (.nameTooLong file)
  | .error _ => .error (.absent file)

end Policy

end HookPolicy
