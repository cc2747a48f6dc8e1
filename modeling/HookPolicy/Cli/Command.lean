import HookPolicy.Cli.Arguments
import HookPolicy.Context.Gather

/-!
# Commands

The command line names one of two commands: to run the hooks of an event, or to lint a policy. What
it says about the operation is handed on as arguments from which a context is gathered.
-/

namespace HookPolicy.Cli

/-- What a command line says about an operation. -/
structure Operation where
  tool : Option String := none
  command : Option String := none
  path : Option String := none
  content : Option String := none
  sessionId : Option String := none
  exitCode : Option String := none
  success : Option String := none
  params : Option String := none
  deriving DecidableEq, Repr

namespace Operation

/-- The options with their values, in a fixed order. -/
def options (o : Operation) : List (String × Option String) :=
  [("--command", o.command), ("--path", o.path), ("--content", o.content),
   ("--session-id", o.sessionId), ("--exit-code", o.exitCode), ("--success", o.success),
   ("--params", o.params)]

/-- The arguments that a context is gathered from: the tool, then the options that are given. -/
def args (o : Operation) : List String :=
  (o.tool.filter (· != "")).toList ++
    o.options.flatMap fun (name, value) => match value with
      | some v => [name, v]
      | none => []

end Operation

structure RunOptions where
  event : String
  operation : Operation
  policyFile : Option String
  readsInput : Bool
  wait : Option Int
  asDocument : Bool
  /-- Whether a value of the operation was lost. -/
  incomplete : Bool
  deriving DecidableEq, Repr

inductive Command
  | run (o : RunOptions)
  | validate (policyFile : Option String)
  deriving DecidableEq, Repr

structure Invocation where
  verbose : Bool
  logDocuments : Bool
  command : Command
  deriving DecidableEq, Repr

def helpFlags : List Flag := [⟨"-h", .help⟩, ⟨"--help", .help⟩]

def textFlag (name : String) : Flag := ⟨name, .value fun _ => true⟩

def mainGrammar : Grammar :=
  ⟨helpFlags ++ [⟨"--verbose", .switch⟩, ⟨"--log-json", .switch⟩], [.rest]⟩

def operationNames : List String := ({} : Operation).options.map (·.1)

def runGrammar : Grammar :=
  ⟨helpFlags ++ operationNames.map textFlag ++ [textFlag "--config", ⟨"--no-stdin", .switch⟩,
    ⟨"--stdin-timeout", .value fun s => (readInt s.toList).isSome⟩, ⟨"--json", .switch⟩],
   [.one, .atMostOne]⟩

def validateGrammar : Grammar := ⟨helpFlags ++ [textFlag "--config"], []⟩

def operationOf (f : Found) : Operation where
  tool := (f.place 1).head?
  command := f.value? "--command"
  path := f.value? "--path"
  content := f.value? "--content"
  sessionId := f.value? "--session-id"
  exitCode := f.value? "--exit-code"
  success := f.value? "--success"
  params := f.value? "--params"

def runOptionsOf (f : Found) : RunOptions where
  event := ((f.place 0).head?).getD ""
  operation := operationOf f
  policyFile := f.value? "--config"
  readsInput := !f.has "--no-stdin"
  wait := (f.value? "--stdin-timeout").bind fun s => readInt s.toList
  asDocument := f.has "--json"
  incomplete := operationNames.any f.hasLost

/-- Reads the arguments of the named command. -/
def commandOf (name : String) (args : List String) : Except Stop (Command × List String) :=
  if name == "run" then
    (runGrammar.read args).map fun f => (.run (runOptionsOf f), f.extras)
  else if name == "validate" then
    (validateGrammar.read args).map fun f => (.validate (f.value? "--config"), f.extras)
  else .error .usage

/-- Reads a whole command line. Arguments that nothing takes are refused last. -/
def Invocation.ofArgs (args : List String) : Except Stop Invocation :=
  match mainGrammar.read args with
  | .error e => .error e
  | .ok found =>
    match found.place 0 with
    | [] => .error .usage
    | name :: rest =>
      match commandOf name rest with
      | .error e => .error e
      | .ok (command, extras) =>
        if found.extras.isEmpty && extras.isEmpty then
          .ok ⟨found.has "--verbose", found.has "--log-json", command⟩
        else .error .usage

end HookPolicy.Cli
