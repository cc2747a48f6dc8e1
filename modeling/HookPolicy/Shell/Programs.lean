import HookPolicy.Shell.Machine

/-!
# Programs the shell can start

The small programs that scripts use: they print, look at files and change them, sleep, and send
signals. Some are part of the shell; the others are there only if the search path leads to them.
-/

namespace HookPolicy.Shell

open Machine

def signals : List (String × Nat) :=
  [("HUP", 1), ("INT", 2), ("QUIT", 3), ("ILL", 4), ("TRAP", 5), ("ABRT", 6), ("BUS", 7),
   ("FPE", 8), ("KILL", 9), ("USR1", 10), ("SEGV", 11), ("USR2", 12), ("PIPE", 13), ("ALRM", 14),
   ("TERM", 15)]

def number? (s : String) : Option Nat :=
  let ds := s.toList
  if !ds.isEmpty && ds.all Text.isAsciiDigit then some (countOf ds) else none

def signalOf? (s : String) : Option Nat := (number? s).or (signals.lookup s)

/-- Sends a signal to the shell itself, or to nobody. -/
def sendSignal (m : Machine) (signal : Nat) (target : String) : Machine :=
  if target != m.processId && target != "0" then m.complainHere "kill: No such process\n" 1
  else if signal == 0 then m.withStatus 0
  else m.finish (.signal signal)

def kill (m : Machine) (args : List String) : Machine :=
  match args with
  | [target] => sendSignal m 15 target
  | ["-s", name, target] => match signalOf? name with
    | some n => sendSignal m n target
    | none => m.complainHere ("kill: invalid signal number or name: " ++ name) 2
  | [option, target] =>
    let name := String.ofList (option.toList.drop 1)
    match signalOf? name with
    | some n => sendSignal m n target
    | none => m.complainHere ("kill: Illegal option -" ++ name) 2
  | _ => m.complainHere "kill: usage" 2

/-- The exit status that a text states. -/
def statusOf? (signed : Bool) (s : String) : Option Nat :=
  match s.toList with
  | '-' :: ds => if signed then (number? (String.ofList ds)).map fun n => (-(n : Int) % 256).toNat
    else none
  | _ => (number? s).map (· % 256)

def leave (m : Machine) (args : List String) : Machine :=
  match args with
  | [] => m.finish (.exit m.status)
  | s :: _ => match statusOf? m.dialect.signedStatus s with
    | some n => m.finish (.exit n)
    | none => (m.complainHere ("exit: " ++ m.dialect.badStatus s) 2).finish (.exit 2)

/-- A time in milliseconds, from a number of seconds or of a larger unit. -/
def duration? (s : String) : Option Nat :=
  let (cs, unit) := match s.toList.reverse with
    | 's' :: back => (back.reverse, 1)
    | 'm' :: back => (back.reverse, 60)
    | 'h' :: back => (back.reverse, 3600)
    | 'd' :: back => (back.reverse, 86400)
    | back => (back.reverse, 1)
  let whole := cs.takeWhile Text.isAsciiDigit
  match cs.drop whole.length with
  | [] => if whole.isEmpty then none else some (countOf whole * 1000 * unit)
  | '.' :: places =>
    if (whole.isEmpty && places.isEmpty) || !places.all Text.isAsciiDigit then none
    else some ((countOf whole * 1000 + countOf ((places ++ ['0', '0', '0']).take 3)) * unit)
  | _ => none

def sleep (m : Machine) (args : List String) : Machine :=
  match args, args.mapM duration? with
  | [], _ => m.complain "sleep: missing operand\nTry \x27sleep --help\x27 for more information." 1
  | _, some times => (m.withStatus 0).waitUntil (times.foldl (· + ·) m.elapsed)
  | s :: _, none => m.complain ("sleep: invalid time interval \x27" ++ s ++
      "\x27\nTry \x27sleep --help\x27 for more information.") 1

def absentText : String := "No such file or directory"

def loopText : String := "Too many levels of symbolic links"

def cat (m : Machine) (files : List String) : Machine :=
  match files with
  | [] => (m.print m.streams.input).withStatus 0
  | files => files.foldl (fun m file =>
      if file == "-" then m.print m.streams.input
      else match m.world.find (Path.ofString file) with
        | .ok (_, .file bytes _) => m.print bytes
        | .ok (_, .directory) => m.complain ("cat: " ++ file ++ ": Is a directory") 1
        | .error .notDirectory => m.complain ("cat: " ++ file ++ ": Not a directory") 1
        | .error .tooManyLinks => m.complain ("cat: " ++ file ++ ": " ++ loopText) 1
        | .error _ => m.complain ("cat: " ++ file ++ ": " ++ absentText) 1) (m.withStatus 0)

/-- The place of something that may be made: its directory has to be there. -/
def placeFor? (w : World) (file : String) : Option (List String) :=
  let parts := (w.dir.join (Path.ofString file)).parts
  (w.tree.walk FileTree.linkLimit [] parts).toOption.map List.reverse

/-- The place of a link itself. -/
def linkPlace? (w : World) (file : String) : Option (List String) :=
  let p := w.dir.join (Path.ofString file)
  (placeFor? w p.parent.toString).bind fun dir =>
    match w.tree.at? (dir ++ [p.name]) with
    | some (.link _) => some (dir ++ [p.name])
    | _ => none

def withoutEntry (m : Machine) (parts : List String) : Machine :=
  { m with world := { m.world with tree := ⟨m.world.tree.entries.filter (·.1 != parts)⟩ } }

def touch (m : Machine) (files : List String) : Machine :=
  files.foldl (fun m file =>
    match placeFor? m.world file with
    | some parts => { m with world := appendFile m.world parts [] }
    | none => m.complain ("touch: cannot touch \x27" ++ file ++ "\x27: " ++ absentText) 1)
    (m.withStatus 0)

def makeDirectory (m : Machine) (args : List String) : Machine :=
  let deep := args.contains "-p"
  (args.filter (· != "-p")).foldl (fun m dir =>
    let p := m.world.resolve (Path.ofString dir)
    let made : Machine :=
      { m with world := { m.world with tree := m.world.tree.put p.parts .directory } }
    match m.world.find p with
    | .ok _ => if deep then m
      else m.complain ("mkdir: cannot create directory \x27" ++ dir ++ "\x27: File exists") 1
    | .error _ =>
      if deep || (placeFor? m.world dir).isSome then made
      else m.complain ("mkdir: cannot create directory \x27" ++ dir ++ "\x27: " ++ absentText) 1)
    (m.withStatus 0)

def remove (m : Machine) (args : List String) : Machine :=
  let options := args.filter (·.startsWith "-")
  let forced := options.any (·.toList.contains 'f')
  let deep := options.any fun o => o.toList.contains 'r' || o.toList.contains 'R'
  (args.filter (!·.startsWith "-")).foldl (fun m file =>
    let fault (why : String) : Machine :=
      m.complain ("rm: cannot remove \x27" ++ file ++ "\x27: " ++ why) 1
    match linkPlace? m.world file, m.world.find (Path.ofString file) with
    | some parts, _ => withoutEntry m parts
    | none, .ok (parts, .directory) =>
      if deep then { m with world := { m.world with
        tree := ⟨m.world.tree.entries.filter fun e => e.1.take parts.length != parts⟩ } }
      else fault "Is a directory"
    | none, .ok (parts, _) => withoutEntry m parts
    | none, .error _ => if forced then m else fault absentText) (m.withStatus 0)

def changeDirectory (m : Machine) (args : List String) : Machine :=
  let dir := args.head?.getD ((m.valueOf "HOME").getD "")
  match m.world.find (Path.ofString dir) with
  | .ok (parts, .directory) =>
    { m with world := { m.world with cwd := (Path.mk 1 parts).toString }, status := 0 }
  | _ => m.complainHere ("cd: can\x27t cd to " ++ dir) 2

def isFile (w : World) (s : String) : Bool :=
  match w.find (Path.ofString s) with
  | .ok (_, .file _ _) => true
  | _ => false

def isDirectory (w : World) (s : String) : Bool :=
  match w.find (Path.ofString s) with
  | .ok (_, .directory) => true
  | _ => false

def hasContent (w : World) (s : String) : Bool :=
  match w.find (Path.ofString s) with
  | .ok (_, .file bytes _) => !bytes.isEmpty
  | .ok _ => true
  | _ => false

def mayExecute (w : World) (s : String) : Bool :=
  match w.find (Path.ofString s) with
  | .ok (_, .file _ executable) => executable
  | .ok _ => true
  | _ => false

def compare? (op : String) (a b : String) : Option Bool :=
  if op == "=" || op == "==" then some (a == b)
  else if op == "!=" then some (a != b)
  else match integer? a, integer? b with
    | some x, some y =>
      [("-eq", decide (x = y)), ("-ne", decide (x ≠ y)), ("-lt", decide (x < y)),
       ("-le", decide (x ≤ y)), ("-gt", decide (y < x)), ("-ge", decide (y ≤ x))].lookup op
    | _, _ => none

/-- Whether a condition on texts and files holds. -/
def test? (w : World) : List String → Option Bool
  | [] => some false
  | [s] => some (s != "")
  | "!" :: rest => (test? w rest).map (!·)
  | [op, s] =>
    [("-n", s != ""), ("-z", s == ""), ("-e", isFile w s || isDirectory w s), ("-f", isFile w s),
     ("-d", isDirectory w s), ("-s", hasContent w s), ("-r", isFile w s || isDirectory w s),
     ("-w", isFile w s || isDirectory w s), ("-x", mayExecute w s), ("-t", false)].lookup op
  | [a, op, b] => compare? op a b
  | _ => none

def testCommand (m : Machine) (args : List String) : Machine :=
  match test? m.world args with
  | some true => m.withStatus 0
  | some false => m.withStatus 1
  | none => m.complainHere ("test: " ++ args.head?.getD "" ++ ": unexpected operator") 2

def printfCommand (m : Machine) (args : List String) : Machine :=
  match args with
  | [] => m.complainHere "printf: usage: printf format [arg ...]" 2
  | format :: args =>
    let p := printf format args
    let status := if p.ended then 2 else 1
    p.faults.foldl (fun m text => m.complainHere ("printf: " ++ text) status)
      ((m.print p.out).withStatus 0)

/-- The name and the value of an assignment. -/
def cutAssignment (s : String) : String × Option String :=
  let name := s.toList.takeWhile (· != '=')
  match s.toList.drop name.length with
  | _ :: value => (String.ofList name, some (String.ofList value))
  | [] => (s, none)

def exportNames (m : Machine) (args : List String) : Machine :=
  args.foldl (fun m arg =>
    let (name, value?) := cutAssignment arg
    match value?.or (m.valueOf name) with
    | some value => { m with world := { m.world with env := m.world.env.set name value } }
    | none => m) (m.withStatus 0)

def unset (m : Machine) (names : List String) : Machine :=
  let keep (env : Env) : Env := env.filter fun v => !names.contains v.1
  { m with locals := keep m.locals, world := { m.world with env := keep m.world.env },
           status := 0 }

/-- A word for each name but the last, which takes the rest of the line. -/
def spread : List String → List Char → List (String × List Char)
  | [], _ => []
  | [name], cs => [(name, Text.trimBy isBlankChar cs)]
  | name :: names, cs =>
    let cs := cs.dropWhile isBlankChar
    let word := cs.takeWhile (!isBlankChar ·)
    (name, word) :: spread names (cs.drop word.length)

/-- Reads a line into variables. -/
def readLine (m : Machine) (args : List String) : Machine :=
  let line := m.streams.input.takeWhile (· != 10)
  let rest := m.streams.input.drop line.length
  let m := (spread (args.filter (· != "-r")) (Utf8.decodeLossy line)).foldl
    (fun m (name, cs) => m.assign name (String.ofList cs)) m
  { m.withStatus (if rest.isEmpty then 1 else 0) with
    streams := { m.streams with input := rest.drop 1 } }

/-- Programs that are part of the shell. -/
def builtins : List (String × (Machine → List String → Machine)) :=
  [(":", fun m _ => m.withStatus 0), ("true", fun m _ => m.withStatus 0),
   ("false", fun m _ => m.withStatus 1),
   ("echo", fun m args => (m.print (m.dialect.echo args)).withStatus 0),
   ("printf", printfCommand), ("exit", leave), ("kill", kill),
   ("wait", fun m _ => (m.withStatus 0).waitUntil (max m.elapsed m.behind)),
   ("test", testCommand),
   ("[", fun m args => if args.getLast? == some "]" then testCommand m args.dropLast
     else m.complainHere "[: missing ]" 2),
   ("cd", changeDirectory),
   ("pwd", fun m _ => (m.print (Utf8.encode (m.world.cwd ++ "\n"))).withStatus 0),
   ("export", exportNames), ("unset", unset), ("read", readLine), ("trap", fun m _ => m.withStatus 0),
   ("set", fun m _ => m.withStatus 0), ("umask", fun m _ => m.withStatus 0)]

/-- Programs that the search path or a full name has to lead to. -/
def externals : List (String × (Machine → List String → Machine)) :=
  [("cat", cat), ("sleep", sleep), ("touch", touch), ("mkdir", makeDirectory), ("rm", remove),
   ("true", fun m _ => m.withStatus 0), ("false", fun m _ => m.withStatus 1),
   ("echo", fun m args => (m.print (echoWithOptions args)).withStatus 0), ("printf", printfCommand),
   ("test", testCommand)]

/-- Directories in which programs are found. -/
def programDirs : List String := ["/bin", "/usr/bin"]

def reachesPrograms (env : Env) : Bool :=
  (Text.splitAt ':' (env.textOf "PATH").toList).any fun dir =>
    programDirs.contains (String.ofList dir)

/-- The name of a program that is called by its place. -/
def baseName (name : String) : String :=
  match programDirs.findSome? fun dir => Text.rest? (dir ++ "/").toList name.toList with
  | some rest => String.ofList rest
  | none => name

def external? (env : Env) (name : String) : Option (Machine → List String → Machine) :=
  if baseName name == name && !reachesPrograms env then none else externals.lookup (baseName name)

end HookPolicy.Shell
