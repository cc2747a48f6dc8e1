import HookPolicy.Json.Writer
import HookPolicy.Time.Timestamp
import HookPolicy.Text.Case

/-!
# Log entries

An entry comes from a named part of the program and has a level. It is written as a line with its
component and level in front, or as a document on one line.
-/

namespace HookPolicy.Log

/-- Levels are numbers; the usual ones have names, some of them two. -/
abbrev Level := Int

def debug : Level := 10

def info : Level := 20

def warning : Level := 30

def error : Level := 40

def critical : Level := 50

/-- One above all named levels. -/
def silence : Level := critical + 1

/-- The names by which levels are asked for. -/
def levels : List (String × Level) :=
  [("CRITICAL", critical), ("FATAL", critical), ("ERROR", error), ("WARN", warning),
   ("WARNING", warning), ("INFO", info), ("DEBUG", debug), ("NOTSET", 0)]

/-- The names under which entries show their levels. -/
def levelNames : List (Level × String) :=
  [(critical, "CRITICAL"), (error, "ERROR"), (warning, "WARNING"), (info, "INFO"),
   (debug, "DEBUG"), (0, "NOTSET")]

def levelName (level : Level) : String :=
  (levelNames.lookup level).getD ("Level " ++ String.ofList (Decimal.intChars level))

structure Entry where
  source : String
  level : Level
  message : String
  /-- What went wrong, if the entry tells of a failure. -/
  failure : Option String := none
  deriving DecidableEq, Repr

/-- The name that the sources of all entries of this program start with. -/
def rootName : String := "hookwarden"

def moduleName (path : String) : String := rootName ++ "." ++ path

/-- A source below the root is shown by its last part. -/
def component (source : String) : String :=
  match Text.splitAt '.' source.toList with
  | first :: second :: more =>
    if first == rootName.toList then
      rootName ++ ":" ++ String.ofList ((second :: more).getLast?.getD [])
    else source
  | _ => source

inductive Format
  | line
  | document
  deriving DecidableEq, Repr

def Entry.writeLine (e : Entry) : String :=
  let text := "[" ++ component e.source ++ ":" ++ levelName e.level ++ "] " ++ e.message
  match e.failure with
  | some failure => text ++ "\n" ++ failure
  | none => text

def Entry.writeDocument (e : Entry) (time : Timestamp) : String :=
  let failure : Fields := match e.failure with
    | some text => [("exception", .string text)]
    | none => []
  Json.write (.object ([("timestamp", .string (String.ofList (time.writeWith "+00:00".toList))),
    ("level", .string (levelName e.level)), ("component", .string (component e.source)),
    ("message", .string e.message)] ++ failure))

def Entry.write (e : Entry) (time : Timestamp) : Format → String
  | .line => e.writeLine
  | .document => e.writeDocument time

end HookPolicy.Log
