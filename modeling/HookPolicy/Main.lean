import HookPolicy.Child.Run
import HookPolicy.Cli.Reach

/-!
# The command line program

Reads what a command may look at, carries the command out, and writes what it changed and printed.
-/

namespace HookPolicy.Main

def usageText : String :=
  "usage: hookwarden [-h] [--verbose] [--log-json] \x7brun,validate\x7d ..."

/-- Reads a whole file, if there is one. -/
def bytes? (file : String) : IO (Option ByteArray) := do
  try
    return some (← IO.FS.readBinFile file)
  catch _ => return none

/-- What lies at a place. A file counts as executable if it names its interpreter. -/
def entryAt? (file : String) : IO (Option FileEntry) := do
  match ← bytes? file with
  | some content =>
    let content := content.toList
    return some (.file content (Child.interpreterLine? content).isSome)
  | none =>
    let here ← IO.currentDir
    return if ← (here / file).isDir then some .directory else none

/-- Adds what lies at the places to the world. -/
def withPlaces (w : World) (places : List Path) : IO World :=
  places.foldlM (fun w p => do
    let p := (w.dir.join p).cancel
    match ← entryAt? p.toString with
    | some e => return { w with tree := w.tree.put p.parts e }
    | none => return w) w

def environment : IO Env := do
  let content := ((← bytes? "/proc/self/environ").getD ByteArray.empty).toList
  let texts := Text.splitAt '\x00' (Utf8.decodeLossy content)
  return texts.filterMap fun cs => match cs.dropWhile (· != '=') with
    | _ :: value => some (String.ofList (cs.takeWhile (· != '=')), String.ofList value)
    | [] => none

/-- The time at which this process started. -/
def clock : IO Timestamp := do
  let here ← IO.currentDir
  let time := (← (here / "/proc/self").metadata).modified
  return Timestamp.ofSeconds time.sec (time.nsec.toNat / 1000)

def inputOf (wanted : Bool) : IO Context.Input := do
  let stdin ← IO.getStdin
  if !wanted || (← stdin.isTty) then return .none
  match ← bytes? "/dev/stdin" with
  | some content => return .text (String.ofList (Utf8.decodeLossy content.toList))
  | none => return .none

def wantsInput : Cli.Command → Bool
  | .run o => o.readsInput
  | .validate _ => false

/-- Writes the files that are new or changed. -/
def save (before after : FileTree) : IO Unit :=
  after.entries.forM fun (parts, e) => do
    let file := (Path.mk 1 parts).toString
    match e, before.at? parts with
    | .directory, none => IO.FS.createDirAll file
    | .file content _, some (.file old _) =>
      if content != old then IO.FS.writeBinFile file (ByteArray.mk content.toArray)
    | .file content _, _ => IO.FS.writeBinFile file (ByteArray.mk content.toArray)
    | _, _ => return ()

def faultText : Cli.Fault → String
  | .level e => e.message
  | .event (.build (.load e)) => e.message
  | .event (.build .nulInPath) => "embedded null byte"
  | .event (.build (.nameTooLong p)) => "File name too long: " ++ p.toString
  | .event (.refusal _) => "The operation cannot be read."
  | .lint e => e.message
  | .incomplete => "An option has lost its value."

def carryOut (i : Cli.Invocation) : IO UInt32 := do
  let env ← environment
  let here := (← IO.currentDir).toString
  let w : World := ⟨⟨[]⟩, here, env, ← clock, env.textOf "HOME"⟩
  let w ← withPlaces w [Path.ofString here, Path.ofString "/usr/bin"]
  let input ← inputOf (wantsInput i.command)
  let w ← withPlaces w [i.command.policyPlace w]
  let w ← withPlaces w (i.command.places w input)
  let (result, after) := (i.carryOut (Child.children "python3") input).run ⟨w, (), [], []⟩
  save w.tree after.world.tree
  match result with
  | .ok p =>
    IO.print p.out
    IO.eprint p.err
    return p.exit.toUInt32
  | .error f =>
    IO.eprintln (faultText f)
    return 1

end HookPolicy.Main

def main (args : List String) : IO UInt32 := do
  match HookPolicy.Cli.Invocation.ofArgs args with
  | .ok i => HookPolicy.Main.carryOut i
  | .error .help =>
    IO.println HookPolicy.Main.usageText
    return 0
  | .error .usage =>
    IO.eprintln HookPolicy.Main.usageText
    return 2
