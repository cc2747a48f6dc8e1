import HookPolicy.Context.Normal
import HookPolicy.Json.Reader
import HookPolicy.Number.Fixed

/-!
# Gathering a context

A context is gathered from a document on standard input, from environment variables and from
arguments. The first of them that gives a field a value other than null decides it.
-/

namespace HookPolicy.Context

/-- Why gathering stops without a context. -/
inductive ReadFault
  | document (e : Json.ReadError)
  | infiniteNumber
  | waitTooLong
  deriving DecidableEq, Repr

/-- What can be had from standard input: nothing to read from, a stream that never delivers, one
that fails, or a text. -/
inductive Input
  | none
  | silent
  | failing (reason : String)
  | text (s : String)

def intOf (v : Json) : Except ReadFault Json :=
  match v with
  | .bool b => .ok (.int (if b then 1 else 0))
  | .int n => .ok (.int n)
  | .float x =>
    match x with
    | .infinite _ => .error .infiniteNumber
    | x => .ok (ofInt x.truncate?)
  | .string s => .ok (ofInt (readInt s.toList))
  | _ => .ok .null

/-- Only the word true counts as true. -/
def boolOf (v : Json) : Json :=
  match v with
  | .null => .null
  | .bool b => .bool b
  | v => .bool (Text.lower (Text.trim v.display.toList) == ['t', 'r', 'u', 'e'])

def textNames : List String := ["tool", "command", "path", "content", "session_id", "cwd"]

/-- Brings the value of a field to the type of the field, or to null. -/
def coerce (name : String) (v : Json) : Except ReadFault Json :=
  if v.isNull then .ok .null
  else if name == "exit_code" then intOf v
  else if name == "success" then .ok (boolOf v)
  else if textNames.contains name then .ok (.string v.display)
  else if name == "params" then
    match v with
    | .object fields => .ok (.object fields)
    | v => .ok (.object [("raw", v)])
  else .ok v

def coerceAll : Fields → Except ReadFault Fields
  | [] => .ok []
  | (name, v) :: rest =>
    match coerce name v, coerceAll rest with
    | .ok v, .ok rest => .ok ((name, v) :: rest)
    | .error e, _ => .error e
    | _, .error e => .error e

def firstTruthy : List Json → Option Json
  | [] => .none
  | v :: rest => if v.isTruthy then some v else firstTruthy rest

/-- Fields that the host's own way of reporting a tool call stands for. -/
def hostFields (payload : Fields) : Fields :=
  let top (name : String) : Json := (payload.get? name).getD .null
  let given (name : String) (v : Json) : Fields := if v.isTruthy then [(name, v)] else []
  let input : Fields := match top "tool_input" with
    | .object input =>
      let inner (name : String) : Json := (Fields.get? input name).getD .null
      let command := match Fields.get? input "command" with
        | some v => [("command", v)]
        | .none => []
      let path := match firstTruthy [inner "file_path", inner "path", inner "notebook_path"] with
        | some v => [("path", v)]
        | .none => []
      let content := if Fields.has input "content" then inner "content" else inner "new_string"
      command ++ path ++ (if content.isNull then [] else [("content", content)]) ++
        [("params", .object input)]
    | _ => []
  let response : Fields := match top "tool_response" with
    | .object response =>
      ["exit_code", "success"].filterMap fun name => (Fields.get? response name).map fun v => (name, v)
    | _ => []
  given "tool" (top "tool_name") ++ input ++ given "session_id" (top "session_id") ++ response

/-- Fills what is missing or null. -/
def fillIn (fields more : Fields) : Fields :=
  more.foldl (fun fields f =>
    if ((fields.get? f.1).getD .null).isNull then fields.set f.1 f.2 else fields) fields

/-- The fields that a document gives, under their inner names. It cannot set source and clock. -/
def payloadFields (payload : Fields) : Except ReadFault Fields :=
  let named := Fields.ofPairs (payload.map fun f => (innerName f.1, f.2))
  let fields := fillIn named (hostFields payload)
  coerceAll ((fields.erase "source").erase "timestamp")

/-- Waiting longer than this is not possible; in milliseconds. -/
def waitLimit : Int := 9223372036854

/-- The fields given on standard input, if it holds an object. -/
def stdinFields (input : Input) (wait : Int) : Except ReadFault (Option Fields) :=
  match input with
  | .none => .ok .none
  | input =>
    if wait > waitLimit then .error .waitTooLong
    else match input with
      | .text s =>
        let data := Text.trim s.toList
        if data.isEmpty then .ok .none
        else match Json.readChars data with
          | .ok (.object payload) =>
            match payloadFields payload with
            | .ok fields => .ok (some fields)
            | .error e => .error e
          | .ok _ => .ok .none
          | .error (.malformed _ _) => .ok .none
          | .error e => .error (.document e)
      | _ => .ok .none

/-- How long to wait for standard input, in milliseconds. -/
def defaultWait (env : List (String × String)) : Int :=
  match (env.lookup (variableName "STDIN_TIMEOUT")).bind fun s => readInt s.toList with
  | some n => if n == 0 then 5000 else n
  | .none => 5000

def waitFor (env : List (String × String)) (given : Option Int) : Int :=
  match given with
  | some n => if n == 0 then defaultWait env else n
  | .none => defaultWait env

def envNames : List (String × String) :=
  [("TOOL", "tool"), ("COMMAND", "command"), ("PATH", "path"), ("CONTENT", "content"),
   ("EXIT_CODE", "exit_code"), ("SUCCESS", "success"), ("SESSION_ID", "session_id")]

/-- The fields given by environment variables. -/
def envFields (env : List (String × String)) : Fields :=
  envNames.filterMap fun (key, name) =>
    match env.lookup (variableName key) with
    | some s =>
      match coerce name (.string s) with
      | .ok v => if v.isNull then .none else some (name, v)
      | .error _ => .none
    | .none => .none

def optionName (arg : List Char) : String :=
  String.ofList ((arg.drop 2).map fun c => if c == '-' then '_' else c)

def isOption (arg : String) : Bool := arg.startsWith "--"

/-- The value of an option: params hold a document, or the text itself when it is none. -/
def optionValue (name value : String) : Except ReadFault Json :=
  if name == "params" then
    match Json.read value with
    | .ok v => .ok v
    | .error (.malformed _ _) => .ok (.object [("raw", .string value)])
    | .error e => .error (.document e)
  else .ok (.string value)

def optionFields (first : Bool) (fields : Fields) : List String → Except ReadFault Fields
  | [] => .ok fields
  | [arg] =>
    .ok (if !isOption arg && first && !arg.startsWith "-" then fields.set "tool" (.string arg)
      else fields)
  | arg :: value :: rest =>
    if isOption arg then
      if isOption value then optionFields false fields (value :: rest)
      else
        let name := optionName arg.toList
        match optionValue name value with
        | .ok v => optionFields false (fields.set (innerName name) v) rest
        | .error e => .error e
    else
      let fields := if first && !arg.startsWith "-" then fields.set "tool" (.string arg)
        else fields
      optionFields false fields (value :: rest)

/-- The fields given by arguments: a tool in front, then options with their values. -/
def argFields (args : List String) : Except ReadFault Fields :=
  match optionFields true [] args with
  | .ok fields => coerceAll fields
  | .error e => .error e

/-- Takes over the values that are still missing. -/
def merge (merged fields : Fields) : Fields :=
  fields.foldl (fun merged f =>
    if ((merged.get? f.1).getD .null).isNull && !f.2.isNull then merged.set f.1 f.2
    else merged) merged

/-- Why there is no context. -/
inductive Refusal
  | fault (f : ReadFault)
  | invalid (defects : List Defect)

/-- Where a context may come from. `wait` is the time for standard input in milliseconds. -/
structure Origin where
  input : Option Input
  wait : Int
  env : List (String × String)
  args : List String
  cwd : Option String

/-- The merged fields and the first source that was asked. -/
def mergedFields (o : Origin) : Except ReadFault (Fields × Option Source) :=
  let given : Except ReadFault (Option Fields) := match o.input with
    | some input => stdinFields input o.wait
    | .none => .ok .none
  match given with
  | .error e => .error e
  | .ok given =>
    let (merged, source) := match given with
      | some (f :: fields) => (merge [] (f :: fields), some Source.stdin)
      | _ => ([], .none)
    let env := envFields o.env
    let (merged, source) :=
      if ((env.get? "tool").getD .null).isTruthy then (merge merged env, source.or (some .env))
      else (merged, source)
    if o.args.isEmpty then .ok (merged, source)
    else match argFields o.args with
      | .ok fields => .ok (merge merged fields, source.or (some .args))
      | .error e => .error e

def gather (s : Setting) (o : Origin) : Except Refusal Context :=
  match mergedFields o with
  | .error e => .error (.fault e)
  | .ok (merged, source) =>
    let merged := match o.cwd with
      | some dir => merged.set "cwd" (.string dir)
      | .none => merged
    let merged := merged.set "source" (.ofOption (source.map Source.word))
    match check s (normalFields s.cwd merged) with
    | .good c => .ok c
    | .bad ds => .error (.invalid ds)

/-- The context of a document that the host hands over. -/
def ofPayload (s : Setting) (source : String) (payload : Fields) : Except Refusal Context :=
  match payloadFields payload with
  | .error e => .error (.fault e)
  | .ok fields =>
    match check s (normalFields s.cwd (fields.set "source" (.string source))) with
    | .good c => .ok c
    | .bad ds => .error (.invalid ds)

/-- What there is to say about reading standard input. -/
inductive Remark
  | unreadable (reason : String)
  | nothingWithin (wait : Int)
  | notDocument
  deriving DecidableEq, Repr

/-- A time in milliseconds as seconds with one place. -/
def secondsText (wait : Int) : String :=
  let seconds := match Binary64.ofRatio (wait < 0) wait.natAbs 1000 with
    | .finite _ code => Decimal.fixed (Binary64.units code) 1 false
    | _ => []
  String.ofList ((if wait < 0 then ['-'] else []) ++ seconds)

def Remark.message : Remark → String
  | .unreadable reason => "Failed to read stdin: " ++ reason
  | .nothingWithin wait => "No context received on stdin within " ++ secondsText wait ++ "s"
  | .notDocument => "Ignoring non-JSON stdin payload"

def remarks (o : Origin) : List Remark :=
  match o.input with
  | some (.failing reason) => [.unreadable reason, .nothingWithin o.wait]
  | some .silent => [.nothingWithin o.wait]
  | some (.text s) =>
    let data := Text.trim s.toList
    if data.isEmpty then []
    else match Json.readChars data with
      | .error (.malformed _ _) => [.notDocument]
      | _ => []
  | _ => []

end HookPolicy.Context
