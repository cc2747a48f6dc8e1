import HookPolicy.Json.Reader
import HookPolicy.Toml.Reader
import HookPolicy.World

/-!
# Declared dependencies

A project declares its dependencies in up to three files of its directory: a package document, a
settings document, and a list of requirements. A file that is absent or malformed declares none.
-/

namespace HookPolicy.Condition

/-- Why a check gives no answer. -/
inductive CheckFault
  | nameTooLong (path : String)
  | notText (bytes : List UInt8) (issue : Utf8.Issue)
  | document (e : Json.ReadError)
  | settingsTooDeep
  | settingsDigits (count : Nat)
  | notTable (kind : String) (wanted : String)
  | notList (kind : String)
  | notRequirement (kind : String)
  deriving DecidableEq, Repr

namespace CheckFault

def message : CheckFault → String
  | .nameTooLong path => "[Errno 36] File name too long: " ++ Text.quote path
  | .notText _ issue => issue.message
  | .document e => e.message []
  | .settingsTooDeep => "maximum recursion depth exceeded"
  | .settingsDigits count => (Json.ReadError.tooManyDigits count).message []
  | .notTable kind wanted => "'" ++ kind ++ "' object has no attribute '" ++ wanted ++ "'"
  | .notList kind => "'" ++ kind ++ "' object is not iterable"
  | .notRequirement kind => "expected string or bytes-like object, got '" ++ kind ++ "'"

/-- The class of a fault, by which log lines name it. -/
def label : CheckFault → String
  | .nameTooLong _ => "OSError"
  | .notText _ _ => "UnicodeDecodeError"
  | .document (.tooDeep _) => "RecursionError"
  | .document _ => "ValueError"
  | .settingsTooDeep => "RecursionError"
  | .settingsDigits _ => "ValueError"
  | .notTable _ _ => "AttributeError"
  | .notList _ => "TypeError"
  | .notRequirement _ => "TypeError"

/-- The fault with its details, as log lines show it. -/
def inspect (f : CheckFault) : String :=
  let details := match f with
    | .nameTooLong _ => "36, 'File name too long'"
    | .notText bytes issue =>
      "'utf-8', " ++ String.ofList (Text.quotedBytes bytes) ++ ", " ++
        Decimal.natText issue.offset ++ ", " ++ Decimal.natText (issue.offset + issue.length) ++
        ", '" ++ issue.fault.message ++ "'"
    | f => Text.quote f.message
  f.label ++ "(" ++ details ++ ")"

end CheckFault

/-- The text of a file of the project, unless there is no such file. -/
def fileText? (w : World) (p : Path) : Except CheckFault (Option (List Char)) :=
  match w.find p with
  | .ok (_, .file bytes _) =>
    match Utf8.decode bytes with
    | .ok cs => .ok (some (Text.unifyLineEnds [] cs))
    | .error issue => .error (.notText bytes issue)
  | .error .nameTooLong => .error (.nameTooLong p.toString)
  | _ => .ok none

def inDir (dir : Path) (name : String) : Path := dir.join (Path.ofString name)

/-! Package documents -/

def sectionNames (document : Json) (name : String) : List String :=
  match document.field name with
  | .object fields => fields.map (·.1)
  | _ => []

/-- The names that a package document declares, as they are written. -/
def packageNames (w : World) (dir : Path) : Except CheckFault (List String) :=
  match fileText? w (inDir dir "package.json") with
  | .error e => .error e
  | .ok none => .ok []
  | .ok (some cs) =>
    match Json.readChars cs with
    | .ok document =>
      .ok (sectionNames document "dependencies" ++ sectionNames document "devDependencies")
    | .error (.malformed _ _) => .ok []
    | .error e => .error (.document e)

/-! Requirements -/

def isSeparator (c : Char) : Bool := c == '-' || c == '_' || c == '.'

/-- Every run of separators becomes one hyphen. -/
def joinSeparators (after : Bool) : List Char → List Char
  | [] => []
  | c :: cs =>
    if isSeparator c then
      if after then joinSeparators true cs else '-' :: joinSeparators true cs
    else c :: joinSeparators false cs

/-- The form in which names of distributions are compared. -/
def normalName (cs : List Char) : List Char := Text.lower (joinSeparators false cs)

def isNameChar (c : Char) : Bool := Text.isAsciiAlnum c || isSeparator c

/-- The normal form of the name that a requirement starts with. -/
def requirementName? (requirement : List Char) : Option (List Char) :=
  match requirement.dropWhile Text.isBlank with
  | c :: cs =>
    if Text.isAsciiAlnum c then some (normalName (c :: cs.takeWhile isNameChar)) else none
  | [] => none

/-- Whether a line of a list of requirements holds one. Comments and options do not. -/
def isRequirementLine (line : List Char) : Bool :=
  match line.dropWhile Text.isBlank with
  | c :: _ => c != '#' && c != '-'
  | [] => true

def listedNames (w : World) (dir : Path) : Except CheckFault (List (List Char)) :=
  match fileText? w (inDir dir "requirements.txt") with
  | .error e => .error e
  | .ok none => .ok []
  | .ok (some cs) =>
    .ok (((Text.lines cs).filter isRequirementLine).filterMap requirementName?)

/-! Settings documents -/

/-- The items of a list of requirements; a text gives its characters and a table its names. -/
def itemsOf : Toml → Except CheckFault (List Toml)
  | .array items => .ok items
  | .string s => .ok (s.toList.map fun c => .string c.toString)
  | .table fields => .ok (fields.map fun f => .string f.1)
  | v => .error (.notList v.kind)

def itemsOfAll : List Toml → Except CheckFault (List Toml)
  | [] => .ok []
  | v :: rest =>
    match itemsOf v, itemsOfAll rest with
    | .ok items, .ok more => .ok (items ++ more)
    | .error e, _ => .error e
    | _, .error e => .error e

def namesOfItems : List Toml → Except CheckFault (List (List Char))
  | [] => .ok []
  | .string s :: rest =>
    (namesOfItems rest).map fun names => (requirementName? s.toList).toList ++ names
  | v :: _ => .error (.notRequirement v.kind)

/-- What a project section requires, first always and then on demand. -/
def requirementItems (project : Toml) : Except CheckFault (List Toml) :=
  match project with
  | .table fields =>
    match itemsOf ((fields.lookup "dependencies").getD (.array [])) with
    | .error e => .error e
    | .ok items =>
      match (fields.lookup "optional-dependencies").getD (.table []) with
      | .table groups => (itemsOfAll (groups.map (·.2))).map (items ++ ·)
      | v => .error (.notTable v.kind "values")
  | v => .error (.notTable v.kind "get")

def settingsNames (w : World) (dir : Path) : Except CheckFault (List (List Char)) :=
  match fileText? w (inDir dir "pyproject.toml") with
  | .error e => .error e
  | .ok none => .ok []
  | .ok (some cs) =>
    match Toml.read cs with
    | .ok fields =>
      match requirementItems ((fields.lookup "project").getD (.table [])) with
      | .ok items => namesOfItems items
      | .error e => .error e
    | .error .malformed => .ok []
    | .error .tooDeep => .error .settingsTooDeep
    | .error (.tooManyDigits count) => .error (.settingsDigits count)

/-- Whether a project declares a dependency: a package by its very name, a distribution by any
spelling of its name. -/
def declares (w : World) (dir : Path) (name : String) : Except CheckFault Bool :=
  match packageNames w dir with
  | .error e => .error e
  | .ok names =>
    if names.contains name then .ok true
    else match settingsNames w dir, listedNames w dir with
      | .ok settings, .ok listed =>
        let wanted := normalName name.toList
        .ok (settings.contains wanted || listed.contains wanted)
      | .error e, _ => .error e
      | _, .error e => .error e

end HookPolicy.Condition
