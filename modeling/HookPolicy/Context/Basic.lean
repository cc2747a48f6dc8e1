import HookPolicy.Check.Basic
import HookPolicy.Policy.Dump
import HookPolicy.Json.Writer

/-!
# Contexts

A context records one operation of the host: the tool, what it was given, and how it ended. Its wire
form lists every field under its wire name and then whatever else the host said.
-/

namespace HookPolicy

inductive Source
  | stdin
  | env
  | args
  | test
  deriving DecidableEq, Repr

namespace Source

def word : Source → String
  | .stdin => "stdin"
  | .env => "env"
  | .args => "args"
  | .test => "test"

def ofWord? (s : String) : Option Source :=
  [Source.stdin, .env, .args, .test].find? (·.word == s)

end Source

structure Context where
  timestamp : Timestamp
  source : Option Source
  tool : Option String
  command : Option String
  path : Option String
  content : Option String
  exitCode : Option Int
  success : Option Bool
  cwd : String
  sessionId : Option String
  params : Option Fields
  extras : Fields

/-- What fills the fields that nobody gives: the clock and the working directory. -/
structure Setting where
  now : Timestamp
  cwd : String

namespace Context

/-- Names of the fields: on the wire and inside. -/
def fieldNames : List (String × String) :=
  [("timestamp", "timestamp"), ("source", "source"), ("tool", "tool"), ("command", "command"),
   ("path", "path"), ("content", "content"), ("exitCode", "exit_code"), ("success", "success"),
   ("cwd", "cwd"), ("sessionId", "session_id"), ("params", "params")]

/-- The name inside for a name on the wire; any other name stands for itself. -/
def innerName (name : String) : String := (fieldNames.lookup name).getD name

/-- The key under which a field is given: its wire name wins over its inner name. -/
def givenKey (fields : Fields) (wire inner : String) : String :=
  if fields.has wire then wire else inner

def checkField {α : Type} (fields : Fields) (wire inner : String) (default : α)
    (check : Json → Checked α) : Checked α :=
  match fields.get? (givenKey fields wire inner) with
  | some v => (check v).under (.key wire)
  | none => .good default

def usedKeys (fields : Fields) : List String :=
  fieldNames.map fun (wire, inner) => givenKey fields wire inner

/-- What is given besides the fields. -/
def extrasOf (fields : Fields) : Fields :=
  let used := usedKeys fields
  fields.filter fun f => !used.contains f.1

/-- Reads fields as a context. -/
def check (s : Setting) (fields : Fields) : Checked Context :=
  (fun timestamp source tool command path content exitCode success cwd sessionId params =>
    Context.mk timestamp source tool command path content exitCode success cwd sessionId params
      (extrasOf fields)) <$>
    checkField fields "timestamp" "timestamp" s.now checkTime <*>
    checkField fields "source" "source" none (checkOptional (checkWord Source.ofWord?)) <*>
    checkField fields "tool" "tool" none (checkOptional checkText) <*>
    checkField fields "command" "command" none (checkOptional checkText) <*>
    checkField fields "path" "path" none (checkOptional checkText) <*>
    checkField fields "content" "content" none (checkOptional checkText) <*>
    checkField fields "exitCode" "exit_code" none (checkOptional checkInt) <*>
    checkField fields "success" "success" none (checkOptional checkBool) <*>
    checkField fields "cwd" "cwd" s.cwd checkText <*>
    checkField fields "sessionId" "session_id" none (checkOptional checkText) <*>
    checkField fields "params" "params" none (checkOptional checkObject)

def ofInt (n : Option Int) : Json :=
  match n with
  | some n => .int n
  | none => .null

def ofBool (b : Option Bool) : Json :=
  match b with
  | some b => .bool b
  | none => .null

def ofFields (fields : Option Fields) : Json :=
  match fields with
  | some fields => .object fields
  | none => .null

/-- Every field under its wire name, then the extras. -/
def wireFields (c : Context) : Fields :=
  [("timestamp", .string c.timestamp.write), ("source", .ofOption (c.source.map Source.word)),
   ("tool", .ofOption c.tool), ("command", .ofOption c.command), ("path", .ofOption c.path),
   ("content", .ofOption c.content), ("exitCode", ofInt c.exitCode),
   ("success", ofBool c.success), ("cwd", .string c.cwd), ("sessionId", .ofOption c.sessionId),
   ("params", (ofFields c.params).finite)] ++ finiteFields c.extras

def wire (c : Context) : Json := .object c.wireFields

def serialize (c : Context) : String := Json.writeIndented c.wire

/-- What the names of all environment variables of this program start with. -/
def variableName (name : String) : String := "HOOKWARDEN_" ++ name

def boolText (b : Bool) : String := if b then "true" else "false"

/-- The environment variables that tell a handler about the operation: one for each field that is
not null, and one for the whole context. -/
def exported (c : Context) : List (String × String) :=
  let texts : List (String × Option String) :=
    [("TOOL", c.tool), ("COMMAND", c.command), ("PATH", c.path), ("CONTENT", c.content),
     ("EXIT_CODE", c.exitCode.map fun n => String.ofList (Decimal.intChars n)),
     ("SUCCESS", c.success.map boolText), ("SESSION_ID", c.sessionId),
     ("TIMESTAMP", some c.timestamp.write), ("SOURCE", c.source.map Source.word),
     ("CWD", some c.cwd), ("PARAMS", c.params.map fun p => Json.write (.object p)),
     ("CONTEXT", some (Json.write c.wire))]
  texts.filterMap fun (name, text) => text.map fun t => (variableName name, t)

/-- The fields of the context that a test starts from. -/
def testFields : Fields :=
  [("source", .string "test"), ("tool", .string "Bash"), ("command", .string "echo \"test\""),
   ("path", .null), ("content", .null), ("exit_code", .int 0), ("success", .bool true)]

def checkTest (s : Setting) (overrides : Fields) : Checked Context :=
  check s (testFields.setAll overrides)

end Context

end HookPolicy
