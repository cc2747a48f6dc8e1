import HookPolicy.Shell.Format
import HookPolicy.Shell.Script
import HookPolicy.World

/-!
# A shell at work

The state of a running shell: the world it changes, its variables, what it has printed, and how much
time has passed. Time passes only while a program sleeps.
-/

namespace HookPolicy.Shell

/-- How a shell ends before its script does. -/
inductive Ending
  | exit (status : Nat)
  | signal (number : Nat)
  | deadline
  deriving DecidableEq, Repr

/-- What differs between shells. -/
structure Dialect where
  /-- The name by which the shell was started. -/
  name : String
  /-- What stands between the name and a fault. -/
  lineMark : String
  notFound : String
  /-- What `echo` writes. -/
  echo : List String → List UInt8
  /-- What is wrong with an exit status that is no number. -/
  badStatus : String → String
  /-- Whether an exit status may be below zero. -/
  signedStatus : Bool

namespace Dialect

/-- The shell that runs command lines. -/
def plain : Dialect where
  name := "/bin/sh"
  lineMark := ": 1: "
  notFound := ": not found"
  echo := Shell.echo
  badStatus s := "Illegal number: " ++ s
  signedStatus := false

/-- The shell that runs handler scripts. -/
def bourneAgain (file : String) : Dialect where
  name := file
  lineMark := ": line 1: "
  notFound := ": command not found"
  echo := echoWithOptions
  badStatus s := s ++ ": numeric argument required"
  signedStatus := true

def named (d : Dialect) (name : String) : Dialect := { d with name }

end Dialect

inductive Sink
  | out
  | err
  | pipe
  | file (parts : List String)
  | nowhere
  deriving DecidableEq, Repr

structure Streams where
  input : List UInt8 := []
  out : Sink := .out
  err : Sink := .err

structure Machine where
  dialect : Dialect
  world : World
  deadline : Nat
  /-- How many shells stand above this one. -/
  depth : Nat := 0
  locals : Env := []
  args : List String := []
  streams : Streams := {}
  status : Nat := 0
  elapsed : Nat := 0
  /-- When the last program in the background ends. -/
  behind : Nat := 0
  out : List UInt8 := []
  err : List UInt8 := []
  piped : List UInt8 := []
  ended : Option Ending := none

namespace Machine

/-- The number of the shell's own process. -/
def processId (m : Machine) : String := Decimal.natText (4242 + m.depth)

def withStatus (m : Machine) (status : Nat) : Machine := { m with status }

def appendFile (w : World) (parts : List String) (bytes : List UInt8) : World :=
  match w.tree.at? parts with
  | some (.file old executable) =>
    { w with tree := w.tree.put parts (.file (old ++ bytes) executable) }
  | some _ => w
  | none => { w with tree := w.tree.put parts (.file bytes false) }

def write (m : Machine) (sink : Sink) (bytes : List UInt8) : Machine :=
  match sink with
  | .out => { m with out := m.out ++ bytes }
  | .err => { m with err := m.err ++ bytes }
  | .pipe => { m with piped := m.piped ++ bytes }
  | .file parts => { m with world := appendFile m.world parts bytes }
  | .nowhere => m

def print (m : Machine) (bytes : List UInt8) : Machine := m.write m.streams.out bytes

/-- Tells of a fault in the words of a program. -/
def complain (m : Machine) (text : String) (status : Nat) : Machine :=
  (m.write m.streams.err (Utf8.encode (text ++ "\n"))).withStatus status

/-- Tells of a fault in the words of the shell. -/
def complainHere (m : Machine) (text : String) (status : Nat) : Machine :=
  m.complain (m.dialect.name ++ m.dialect.lineMark ++ text) status

def finish (m : Machine) (e : Ending) : Machine := { m with ended := some e }

/-- Lets time pass up to a moment, at most to the deadline. -/
def waitUntil (m : Machine) (moment : Nat) : Machine :=
  if moment ≥ m.deadline then { m with elapsed := m.deadline, ended := some .deadline }
  else { m with elapsed := max m.elapsed moment }

def valueOf (m : Machine) (name : String) : Option String :=
  ((m.locals.lookup name).or (m.world.env.lookup name)).or
    (if name == "PWD" then some m.world.cwd else none)

def assign (m : Machine) (name value : String) : Machine :=
  if (m.world.env.lookup name).isSome then
    { m with world := { m.world with env := m.world.env.set name value } }
  else { m with locals := Env.set m.locals name value }

def parameter (m : Machine) (name : List Char) : Option String :=
  match name with
  | ['?'] => some (Decimal.natText m.status)
  | ['$'] => some m.processId
  | ['#'] => some (Decimal.natText m.args.length)
  | ['@'] => some (" ".intercalate m.args)
  | ['*'] => some (" ".intercalate m.args)
  | ['!'] => some ""
  | ['-'] => some ""
  | ['0'] => some m.dialect.name
  | [d] => if Text.isAsciiDigit d then m.args[(Text.digitValue? d).getD 0 - 1]?
    else m.valueOf (String.ofList name)
  | name => m.valueOf (String.ofList name)

/-- Runs something in a copy of the shell. Its variables and its end are its own. -/
def inCopy (m : Machine) (run : Machine → Machine) : Machine :=
  let after := run m
  let (status, ended) := match after.ended with
    | some (.exit n) => (n, none)
    | ended => (after.status, ended)
  { m with
    world := { m.world with tree := after.world.tree }
    status := status
    ended := ended
    elapsed := after.elapsed
    behind := after.behind
    out := after.out
    err := after.err
    piped := after.piped }

/-- Runs something in a copy of the shell and gives what it printed. -/
def capture (m : Machine) (run : Machine → Machine) : List UInt8 × Machine :=
  let inner := { m with piped := [], streams := { m.streams with out := .pipe } }
  let after := inner.inCopy run
  (after.piped, { after with piped := m.piped, streams := m.streams })

/-- What a shell says of a child that a signal ended. -/
def signalText (n : Nat) : String :=
  (([(9, "Killed"), (15, "Terminated"), (11, "Segmentation fault"), (6, "Aborted")].lookup n).map
    (· ++ "\n")).getD ""

/-- Runs something in a new shell, which a signal ends alone. -/
def inChild (m : Machine) (dialect : Dialect) (args : List String) (run : Machine → Machine) :
    Machine :=
  let after := m.inCopy fun m =>
    run { m with locals := [], args, depth := m.depth + 1, dialect }
  match after.ended with
  | some (.signal n) =>
    let told := after.write m.streams.err (Utf8.encode (signalText n))
    { told with status := 128 + n, ended := none }
  | _ => after

/-- Runs something beside the shell. The deadline of the shell does not end it early. -/
def inBackground (m : Machine) (run : Machine → Machine) : Machine :=
  let after := m.inCopy fun m => run { m with streams := { m.streams with input := [] } }
  { after with
    status := 0
    ended := none
    elapsed := m.elapsed
    behind := max after.behind after.elapsed }

end Machine

/-- Fields that a word gives, and the one still being put together. -/
structure FieldList where
  done : List String := []
  current : Option (List Char) := none

namespace FieldList

def add (f : FieldList) (cs : List Char) : FieldList :=
  { f with current := some (f.current.getD [] ++ cs) }

def close (f : FieldList) : FieldList :=
  match f.current with
  | some cs => ⟨f.done ++ [String.ofList cs], none⟩
  | none => f

/-- Adds a value that is split at blanks. -/
def addSplit (f : FieldList) (cs : List Char) : FieldList :=
  cs.foldl (fun f c => if isBlankChar c || c == '\n' then f.close else f.add [c]) f

def texts (f : FieldList) : List String := f.close.done

end FieldList

/-- The text without the line ends at its end. -/
def dropLastLines (cs : List Char) : List Char := (cs.reverse.dropWhile (· == '\n')).reverse

end HookPolicy.Shell
