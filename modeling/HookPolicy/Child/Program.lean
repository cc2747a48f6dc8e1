import HookPolicy.Text.Quoted
import HookPolicy.World

/-!
# Programs to start

How a handler is started depends on the suffix of its file: some suffixes name an interpreter, and a
file without one is started itself. Starting can fail in the ways in which a system refuses it.
-/

namespace HookPolicy.Child

inductive Interpreter
  | python
  | node
  | bash
  deriving DecidableEq, Repr

/-- Interpreters by suffix, in lower case. -/
def interpreters : List (String × Interpreter) :=
  [(".py", .python), (".js", .node), (".mjs", .node), (".cjs", .node), (".sh", .bash)]

def interpreter? (program : Path) : Option Interpreter :=
  interpreters.lookup (String.ofList (Text.lower program.suffix.toList))

/-- The name under which an interpreter is looked for. -/
def Interpreter.name (python : String) : Interpreter → String
  | .python => python
  | .node => "node"
  | .bash => "bash"

/-- The words that start a handler. -/
def words (python : String) (program : Path) : List String :=
  ((interpreter? program).map (·.name python)).toList ++ [program.toString]

/-- Why the system does not start a program. -/
inductive Refusal
  | absent
  | tooLong
  | badFormat
  | denied
  | notDirectory
  | tooManyLinks
  deriving DecidableEq, Repr

namespace Refusal

def number : Refusal → Nat
  | .absent => 2
  | .tooLong => 7
  | .badFormat => 8
  | .denied => 13
  | .notDirectory => 20
  | .tooManyLinks => 40

def text : Refusal → String
  | .absent => "No such file or directory"
  | .tooLong => "Argument list too long"
  | .badFormat => "Exec format error"
  | .denied => "Permission denied"
  | .notDirectory => "Not a directory"
  | .tooManyLinks => "Too many levels of symbolic links"

/-- The refusal with the program it is about. -/
def message (r : Refusal) (program : String) : String :=
  "[Errno " ++ Decimal.natText r.number ++ "] " ++ r.text ++ ": " ++ Text.quote program

end Refusal

/-- The line that names the interpreter of a script, without its mark. -/
def interpreterLine? (bytes : List UInt8) : Option (List String) :=
  match bytes with
  | 35 :: 33 :: rest =>
    let line := Utf8.decodeLossy (rest.takeWhile (· != 10))
    some (((Text.splitAt ' ' line).filter (!·.isEmpty)).map String.ofList)
  | _ => none

/-- Whether a program is looked for on the search path, where no handler lies. -/
def isBareName (program : Path) : Bool := !program.isAbsolute && program.parts.length == 1

/-- What a file holds that can be started as it is. -/
def startable (w : World) (program : Path) : Except Refusal (List UInt8) :=
  if isBareName program then .error .absent
  else match w.find program with
  | .ok (_, .file bytes true) => .ok bytes
  | .ok _ => .error .denied
  | .error .notDirectory => .error .notDirectory
  | .error .tooManyLinks => .error .tooManyLinks
  | .error _ => .error .absent

end HookPolicy.Child
