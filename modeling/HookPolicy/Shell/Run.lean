import HookPolicy.Dispatch.Basic
import HookPolicy.Shell.Programs

/-!
# Running shell scripts

Scripts are run by recursion on fuel, since loops need not end. A script that runs out of fuel is
taken to run past its deadline.
-/

namespace HookPolicy.Shell

/-- The name and the value of a word that assigns, if it is one. -/
def assignment? (bits : Word) : Option (List Char × Word) :=
  let name := bits.takeWhile fun b => match b with
    | .plain c => isNameChar c
    | _ => false
  match name, bits.drop name.length with
  | .plain c :: _, .plain '=' :: value =>
    if isNameStart c then (plainText? name).map (·, value) else none
  | _, _ => none

/-- The words in front that assign, and the words after them. -/
def cutAssignments : List Word → List (List Char × Word) × List Word
  | [] => ([], [])
  | word :: rest =>
    match assignment? word with
    | some a =>
      let (more, words) := cutAssignments rest
      (a :: more, words)
    | none => ([], word :: rest)

def hasCommand (bits : Word) : Bool :=
  bits.any fun b => match b with
    | .expand (.command _) _ => true
    | _ => false

/-- What a text in braces stands for, as far as it names a parameter: its value or its length, or
another text in place of one that is missing. -/
def bracedText (m : Machine) (text : List Char) : List Char :=
  match text with
  | '#' :: name@(_ :: _) =>
    Decimal.digits ((m.parameter name).getD "").length
  | text =>
    let name := text.takeWhile isNameChar
    let name := if name.isEmpty then text.take 1 else name
    let value := m.parameter name
    let filled := value.filter (· != "")
    match text.drop name.length with
    | ':' :: '-' :: other => (filled.map (·.toList)).getD other
    | '-' :: other => (value.map (·.toList)).getD other
    | ':' :: '+' :: other => if filled.isSome then other else []
    | '+' :: other => if value.isSome then other else []
    | _ => (value.getD "").toList

def openOutput (m : Machine) (append : Bool) (file : String) : Option (Sink × Machine) :=
  if file == "/dev/null" then some (.nowhere, m)
  else match placeFor? m.world file with
    | none => none
    | some parts =>
      let w := if append then m.world
        else { m.world with tree := m.world.tree.put parts (.file [] false) }
      some (.file parts, { m with world := w })

def setSink (m : Machine) (descriptor : Nat) (sink : Sink) : Machine :=
  if descriptor == 1 then { m with streams := { m.streams with out := sink } }
  else if descriptor == 2 then { m with streams := { m.streams with err := sink } }
  else m

def sinkOf (m : Machine) (target : String) : Sink :=
  if target == "1" then m.streams.out else if target == "2" then m.streams.err else .nowhere

/-- Redirects one stream. The result says whether that was possible. -/
def redirect (m : Machine) (r : Redirect) (target : String) : Bool × Machine :=
  match r.direction with
  | .sameAs =>
    if (number? target).any (2 < ·) then
      (false, m.complainHere (target ++ ": Bad file descriptor") 2)
    else (true, setSink m r.descriptor (sinkOf m target))
  | .input =>
    if target == "/dev/null" then (true, { m with streams := { m.streams with input := [] } })
    else match m.world.find (Path.ofString target) with
      | .ok (_, .file bytes _) => (true, { m with streams := { m.streams with input := bytes } })
      | _ => (false, m.complainHere ("cannot open " ++ target ++ ": No such file") 2)
  | direction =>
    match openOutput m (direction == .append) target with
    | some (sink, m) => (true, setSink m r.descriptor sink)
    | none =>
      (false, m.complainHere ("cannot create " ++ target ++ ": Directory nonexistent") 2)

def isShell (name : String) : Bool := ["sh", "bash"].contains (baseName name)

mutual

/-- The value of an expansion. -/
def expand (fuel : Nat) (e : Expansion) (m : Machine) : List Char × Machine :=
  match fuel with
  | 0 => ([], m)
  | fuel + 1 => match e with
    | .parameter name => (((m.parameter name).getD "").toList, m)
    | .braced text => (bracedText m text, m)
    | .command text =>
      let (bytes, m) := m.capture (evalText fuel text)
      (dropLastLines (Utf8.decodeLossy bytes), m)

def fieldsOf (fuel : Nat) (bits : Word) (m : Machine) : FieldList × Machine :=
  match fuel with
  | 0 => ({}, m)
  | fuel + 1 => bits.foldl (fun (f, m) b => match b with
    | .plain c => (f.add [c], m)
    | .quoted c => (f.add [c], m)
    | .quote => (f.add [], m)
    | .expand e quoted =>
      let (text, m) := expand fuel e m
      (if quoted then f.add text else f.addSplit text, m)) ({}, m)

/-- The text of a word that is not split. -/
def wordText (fuel : Nat) (bits : Word) (m : Machine) : String × Machine :=
  match fuel with
  | 0 => ("", m)
  | fuel + 1 =>
    let (f, m) := fieldsOf fuel bits m
    (" ".intercalate f.texts, m)

def allFields (fuel : Nat) (words : List Word) (m : Machine) : List String × Machine :=
  match fuel with
  | 0 => ([], m)
  | fuel + 1 => words.foldl (fun (texts, m) bits =>
    let (f, m) := fieldsOf fuel bits m
    (texts ++ f.texts, m)) ([], m)

def applyRedirects (fuel : Nat) (rs : List Redirect) (m : Machine) : Bool × Machine :=
  match fuel with
  | 0 => (false, m)
  | fuel + 1 => rs.foldl (fun (ok, m) r =>
    if !ok then (false, m)
    else
      let (target, m) := wordText fuel r.target m
      redirect m r target) (true, m)

/-- Runs something under redirections, which end with it. -/
def under (fuel : Nat) (rs : List Redirect) (s : Script) (copied : Bool) (m : Machine) : Machine :=
  match fuel with
  | 0 => m.finish .deadline
  | fuel + 1 =>
    let (ok, inner) := applyRedirects fuel rs m
    let after := if !ok then inner
      else if copied then inner.inCopy (eval fuel s)
      else eval fuel s inner
    { after with streams := m.streams }

def assignAll (fuel : Nat) (assigns : List (List Char × Word)) (exported : Bool) (m : Machine) :
    Machine :=
  match fuel with
  | 0 => m
  | fuel + 1 => assigns.foldl (fun m (name, bits) =>
    let (value, m) := wordText fuel bits m
    let name := String.ofList name
    if exported then { m with world := { m.world with env := m.world.env.set name value } }
    else m.assign name value) m

/-- Starts a program with its arguments. -/
def start (fuel : Nat) (name : String) (args : List String) (m : Machine) : Machine :=
  match fuel with
  | 0 => m.finish .deadline
  | fuel + 1 =>
    if name == "exec" then match args with
      | [] => m.withStatus 0
      | program :: args =>
        let known := (builtins.lookup program).isSome || (external? m.world.env program).isSome ||
          isShell program
        let after := if known then start fuel program args m
          else m.complainHere ("exec: " ++ program ++ ": not found") 127
        if after.ended.isSome then after else after.finish (.exit after.status)
    else if name == "command" then match args with
      | [] => m.withStatus 0
      | program :: args => start fuel program args m
    else if name == "eval" then evalText fuel (" ".intercalate args).toList m
    else if isShell name then match args with
      | "-c" :: text :: args =>
        m.inChild (m.dialect.named (args.head?.getD name)) (args.drop 1) (evalText fuel text.toList)
      | file :: args => match m.world.find (Path.ofString file) with
        | .ok (_, .file bytes _) =>
          m.inChild (m.dialect.named file) args (evalText fuel (Utf8.decodeLossy bytes))
        | _ => m.complainHere (file ++ ": " ++ absentText) 127
      | [] => m.inChild (m.dialect.named name) []
          (evalText fuel (Utf8.decodeLossy m.streams.input))
    else match (builtins.lookup name).or (external? m.world.env name) with
      | some program => program m args
      | none =>
        if !name.contains '/' then m.complainHere (name ++ m.dialect.notFound) 127
        else match m.world.find (Path.ofString name) with
          | .ok (_, .file bytes true) =>
            m.inChild (m.dialect.named name) args (evalText fuel (Utf8.decodeLossy bytes))
          | .ok _ => m.complainHere (name ++ ": Permission denied") 126
          | .error _ => m.complainHere (name ++ ": not found") 127

def evalSimple (fuel : Nat) (words : List Word) (rs : List Redirect) (m : Machine) : Machine :=
  match fuel with
  | 0 => m.finish .deadline
  | fuel + 1 =>
    let (assigns, words) := cutAssignments words
    let (fields, ready) := allFields fuel words m
    let (ok, inner) := applyRedirects fuel rs ready
    if !ok || inner.ended.isSome then { inner with streams := m.streams }
    else match fields with
      | [] =>
        let after := assignAll fuel assigns false inner
        let status := if assigns.any (hasCommand ·.2) then after.status else 0
        { after with streams := m.streams, status }
      | ["exec"] => assignAll fuel assigns false (inner.withStatus 0)
      | name :: args =>
        let after := start fuel name args (assignAll fuel assigns true inner)
        let restored := if assigns.isEmpty then after.world
          else { after.world with env := m.world.env }
        { after with streams := m.streams, world := restored }

/-- Runs a script, unless the shell has ended. -/
def eval (fuel : Nat) (s : Script) (m : Machine) : Machine :=
  match fuel with
  | 0 => m.finish .deadline
  | fuel + 1 =>
    if m.ended.isSome then m
    else match s with
      | .nothing => m
      | .simple words rs => evalSimple fuel words rs m
      | .negate s =>
        let m := eval fuel s m
        m.withStatus (if m.status == 0 then 1 else 0)
      | .pipe first second =>
        let (bytes, after) := m.capture (eval fuel first)
        if after.ended.isSome then after
        else
          let last := { after with elapsed := m.elapsed }.inCopy fun m =>
            eval fuel second { m with streams := { m.streams with input := bytes } }
          { last with elapsed := max after.elapsed last.elapsed }
      | .both first second =>
        let m := eval fuel first m
        if m.status == 0 then eval fuel second m else m
      | .either first second =>
        let m := eval fuel first m
        if m.status == 0 then m else eval fuel second m
      | .sequence first second => eval fuel second (eval fuel first m)
      | .background s => m.inBackground (eval fuel s)
      | .subshell s rs => under fuel rs s true m
      | .group s rs => under fuel rs s false m
      | .choose condition yes no =>
        let m := eval fuel condition m
        if m.status == 0 then eval fuel yes m else eval fuel no (m.withStatus 0)
      | .loop untilHolds condition body =>
        let m := eval fuel condition m
        if (m.status == 0) != untilHolds then
          eval fuel (.loop untilHolds condition body) (eval fuel body m)
        else m.withStatus 0
      | .each name words body =>
        let (values, m) := allFields fuel words m
        values.foldl (fun m value => eval fuel body (m.assign (String.ofList name) value)) m

/-- Runs the script that a text holds. -/
def evalText (fuel : Nat) (cs : List Char) (m : Machine) : Machine :=
  match fuel with
  | 0 => m.finish .deadline
  | fuel + 1 => match script cs with
    | .ok s => eval fuel s (m.withStatus 0)
    | .error e => (m.complainHere ("Syntax error: " ++ e.message) 2).finish (.exit 2)

end

/-- How many nested steps a script may take. -/
def stepLimit : Nat := 5000

def Machine.code (m : Machine) : Int :=
  match m.ended with
  | some (.exit n) => n
  | some (.signal n) => -n
  | _ => m.status

/-- Runs a script to its end, and gives what it changed and how it ended; nothing if it was still
running at its deadline. Programs in the background count as running. -/
def run (dialect : Dialect) (deadline : Nat) (w : World) (text : List Char) :
    FileTree × Option Outcome :=
  let m := evalText stepLimit text { dialect, world := w, deadline }
  let lost := m.ended == some .deadline || m.deadline ≤ m.behind
  (m.world.tree, if lost then none
    else some ⟨m.code, String.ofList (Utf8.decodeLossy m.out),
      String.ofList (Utf8.decodeLossy m.err)⟩)

end HookPolicy.Shell
