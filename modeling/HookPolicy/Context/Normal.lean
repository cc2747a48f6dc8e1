import HookPolicy.Context.Basic
import HookPolicy.Files.Path

/-!
# Normal form of a context

Tool, command and path lose the blanks around them, a relative path is resolved against the working
directory, and a tool is written with one capital in front unless it is known under another name.
-/

namespace HookPolicy.Context

def trimField (fields : Fields) (name : String) : Fields :=
  match fields.get? name with
  | some (.string s) => fields.set name (.string (Text.trimmed s))
  | _ => fields

def toolNames : List (String × String) :=
  [("Bash", "Bash"), ("Shell", "Bash"), ("Write", "Write"), ("Edit", "Edit"), ("Read", "Read"),
   ("Multiedit", "MultiEdit"), ("Webfetch", "WebFetch")]

/-- One capital in front and small letters behind. -/
def capitalized (s : String) : String :=
  match s.toList with
  | [] => ""
  | c :: cs => String.ofList (Text.upperChar c ++ Text.lower cs)

def canonicalTool (s : String) : String :=
  let s := capitalized s
  (toolNames.lookup s).getD s

/-- The directory that a relative path starts from, itself seen from the process. -/
def baseDir (processDir : String) (fields : Fields) : String :=
  match fields.get? "cwd" with
  | some (.string s) => if s == "" then processDir else s
  | _ => processDir

def absolutePath (processDir base path : String) : String :=
  let dir := (Path.ofString processDir).join (Path.ofString base)
  toString (dir.absolute (Path.ofString path))

def resolveField (processDir : String) (fields : Fields) : Fields :=
  match fields.get? "path" with
  | some (.string p) =>
    if p == "" || p.startsWith "/" then fields
    else fields.set "path" (.string (absolutePath processDir (baseDir processDir fields) p))
  | _ => fields

def nameField (fields : Fields) : Fields :=
  match fields.get? "tool" with
  | some (.string t) => if t == "" then fields else fields.set "tool" (.string (canonicalTool t))
  | _ => fields

def normalFields (processDir : String) (fields : Fields) : Fields :=
  let trimmed := ["tool", "command", "path"].foldl trimField fields
  nameField (resolveField processDir trimmed)

/-- The fields under their inner names, then the extras. The clock and the source are left out. -/
def innerFields (c : Context) : Fields :=
  Fields.setAll
    [("tool", .ofOption c.tool), ("command", .ofOption c.command), ("path", .ofOption c.path),
     ("content", .ofOption c.content), ("exit_code", ofInt c.exitCode),
     ("success", ofBool c.success), ("cwd", .string c.cwd), ("session_id", .ofOption c.sessionId),
     ("params", ofFields c.params)] c.extras

/-- The normal form of a context. An extra under the inner name of a field takes its place. -/
def normalize (processDir : String) (c : Context) : Checked Context :=
  (fun n => { n with source := c.source }) <$>
    check ⟨c.timestamp, processDir⟩ (normalFields processDir c.innerFields)

end HookPolicy.Context
