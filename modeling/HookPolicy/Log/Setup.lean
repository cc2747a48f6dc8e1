import HookPolicy.Context.Basic
import HookPolicy.Log.Entry
import HookPolicy.World

/-!
# Setting up the log

The log has a level and sinks, of which this program owns one. Setting it up replaces the own sink
first and the level afterwards; a level that is not known leaves the old one in place.
-/

namespace HookPolicy.Log

structure Sink where
  name : String
  format : Format
  deriving DecidableEq, Repr

structure Logger where
  level : Level := silence
  sinks : List Sink := []
  /-- Whether entries also go to whatever stands above this log. -/
  propagates : Bool := false
  deriving DecidableEq, Repr

def ownSink : String := "hookwarden-stderr"

/-- Why a level is refused. -/
inductive LevelError
  | unknown (name : String)
  | notLevel (v : Json)
  deriving BEq

def LevelError.message : LevelError → String
  | .unknown name => "Unknown level: " ++ Text.quote name
  | .notLevel v => "Level not an integer or a valid string: " ++ v.inspect

def levelOf (v : Json) : Except LevelError Level :=
  match v with
  | .int n => .ok n
  | .bool b => .ok (if b then 1 else 0)
  | .string name =>
    match levels.lookup name with
    | some level => .ok level
    | none => .error (.unknown name)
  | v => .error (.notLevel v)

/-- What a set-up asks for. What it leaves open is taken from the environment. -/
structure Request where
  level : Option Json := none
  documents : Option Bool := none
  silent : Bool := false

def levelVariable : String := Context.variableName "LOG_LEVEL"

def formatVariable : String := Context.variableName "LOG_JSON"

def envLevel (env : Env) : String :=
  String.ofList (Text.upper ((env.lookup levelVariable).getD "INFO").toList)

def envDocuments (env : Env) : Bool :=
  ["1", "true", "yes"].contains (String.ofList (Text.lower (env.textOf formatVariable).toList))

def Request.levelValue (r : Request) (env : Env) : Json :=
  if r.silent then .int silence else r.level.getD (.string (envLevel env))

def Request.format (r : Request) (env : Env) : Format :=
  if r.documents.getD (envDocuments env) then .document else .line

/-- Replaces the own sink and leaves the others alone. -/
def Logger.install (l : Logger) (format : Format) : Logger :=
  { l with sinks := (l.sinks.filter (·.name != ownSink)) ++ [⟨ownSink, format⟩] }

/-- Sets up the log. With an error, only the sink has been replaced. -/
def Logger.configure (l : Logger) (env : Env) (r : Request) : Logger × Option LevelError :=
  let l := l.install (r.format env)
  match levelOf (r.levelValue env) with
  | .ok level => ({ l with level := level, propagates := false }, none)
  | .error e => (l, some e)

/-- The level that counts where none is set. -/
def defaultLevel : Level := warning

def isOwn (source : String) : Bool := source == rootName || source.startsWith (rootName ++ ".")

/-- Whether the log takes an entry. Levels below one are never taken. -/
def Logger.takes (l : Logger) (e : Entry) : Bool :=
  let level := if !isOwn e.source || l.level == 0 then defaultLevel else l.level
  0 < e.level && level ≤ e.level

/-- What is printed of an entry that no sink takes. -/
def bareText (e : Entry) : String :=
  if e.level < warning then ""
  else e.message ++ (match e.failure with | some f => "\n" ++ f | none => "") ++ "\n"

/-- What is printed of an entry. -/
def Logger.emit (l : Logger) (time : Timestamp) (e : Entry) : String :=
  if !l.takes e then ""
  else if !isOwn e.source || l.sinks.isEmpty then bareText e
  else String.join (l.sinks.map fun s => e.write time s.format ++ "\n")

def Logger.emitAll (l : Logger) (time : Timestamp) (es : List Entry) : String :=
  String.join (es.map (l.emit time))

end HookPolicy.Log
