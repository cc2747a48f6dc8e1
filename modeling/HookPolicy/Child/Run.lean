import HookPolicy.Dispatch.Run
import HookPolicy.Child.Program
import HookPolicy.Shell.Run

/-!
# Running children

A command line is run by the shell, a handler by its interpreter. A child sees the environment of
its parent, and a handler sees the variables of its operation laid over it. A child that is still
running at its time limit is stopped, and what it has printed is lost.
-/

namespace HookPolicy.Child

/-- The environment of a handler. -/
def childEnv (env exported : Env) : Env := env.overlay exported

/-- Longer words and variables are refused by the system; in bytes, with their end mark. -/
def wordLimit : Nat := 131072

def isTooLong (s : String) : Bool := s.utf8ByteSize + 1 > wordLimit

def variableTooLong (v : String × String) : Bool := isTooLong (v.1 ++ "=" ++ v.2)

def holdsNul (s : String) : Bool := s.toList.contains '\x00'

def nulFault : RunFault := .unexpected "ValueError" "embedded null byte"

def timeoutText (label : String) (limit : Nat) : String :=
  label ++ " timed out after " ++ Decimal.natText limit ++ " ms"

/-- How a child ends that runs a script. -/
def runScript (label : String) (dialect : Shell.Dialect) (limit : Nat) (w : World)
    (text : List Char) : FileTree × Except RunFault Outcome :=
  let late : RunFault := .timeout (timeoutText label limit) ""
  if limit == 0 then (w.tree, .error late)
  else match Shell.run dialect limit w text with
    | (tree, some o) => (tree, .ok o)
    | (tree, none) => (tree, .error late)

def runCommand (w : World) (line : String) (limit : Nat) : FileTree × Except RunFault Outcome :=
  if holdsNul line then (w.tree, .error nulFault)
  else if isTooLong line then
    (w.tree, .error (.notStarted ("Failed to start command: " ++
      Refusal.message .tooLong "/bin/sh")))
  else runScript "Command" .plain limit w line.toList

def failedStart (program : String) (r : Refusal) : RunFault :=
  .notStarted ("Failed to start " ++ program ++ ": " ++ r.message program)

/-- Runs a script with the shell that looks for it by its name. -/
def runBash (w : World) (program : Path) (limit : Nat) : FileTree × Except RunFault Outcome :=
  let file := program.toString
  let failed (why : String) (code : Int) : FileTree × Except RunFault Outcome :=
    (w.tree, .ok ⟨code, "", why ++ "\n"⟩)
  if !Shell.reachesPrograms w.env then (w.tree, .error (failedStart "bash" .absent))
  else match w.find program with
    | .ok (_, .file bytes _) =>
      runScript "Handler" (.bourneAgain file) limit w (Utf8.decodeLossy bytes)
    | .ok (_, .directory) => failed (file ++ ": " ++ file ++ ": Is a directory") 126
    | .error .notDirectory => failed ("bash: " ++ file ++ ": Not a directory") 126
    | .error .tooManyLinks => failed ("bash: " ++ file ++ ": " ++ Shell.loopText) 126
    | .error _ => failed ("bash: " ++ file ++ ": No such file or directory") 127

/-- The shell that the first line of a script asks for. -/
def dialectOf? (env : Env) (file : String) : List String → Option Shell.Dialect
  | ["/bin/sh"] => some { Shell.Dialect.plain with name := file }
  | ["/usr/bin/env", "sh"] =>
    if Shell.reachesPrograms env then some { Shell.Dialect.plain with name := file } else none
  | ["/bin/bash"] => some (.bourneAgain file)
  | ["/usr/bin/env", "bash"] =>
    if Shell.reachesPrograms env then some (.bourneAgain file) else none
  | _ => none

/-- Runs a file that says itself how it is to be run. -/
def runFile (w : World) (program : Path) (limit : Nat) : FileTree × Except RunFault Outcome :=
  let file := program.toString
  match startable w program with
  | .error r => (w.tree, .error (failedStart file r))
  | .ok bytes => match interpreterLine? bytes with
    | none => (w.tree, .error (failedStart file .badFormat))
    | some line => match dialectOf? w.env file line with
      | none => (w.tree, .error (failedStart file .absent))
      | some dialect => runScript "Handler" dialect limit w (Utf8.decodeLossy bytes)

/-- Runs a handler. The only interpreter at hand is the shell. -/
def runHandler (python : String) (w : World) (program : Path) (exported : Env) (limit : Nat) :
    FileTree × Except RunFault Outcome :=
  let child := { w with env := childEnv w.env exported }
  if exported.any (fun v => holdsNul v.2) then (w.tree, .error nulFault)
  else
    let starter := ((words python program).head?).getD ""
    if child.env.any variableTooLong then (w.tree, .error (failedStart starter .tooLong))
    else match interpreter? program with
      | some .bash => runBash child program limit
      | some i => (w.tree, .error (failedStart (i.name python) .absent))
      | none => runFile child program limit

/-- Runs programs in the world itself. -/
def children (python : String) : Runner Unit where
  start call w _ :=
    let (tree, result) := match call with
      | .command line limit => runCommand w line limit
      | .handler program exported limit => runHandler python w program exported limit
    (result, { w with tree }, ())

end HookPolicy.Child
