import HookPolicy.Number.Binary64

/-!
# Settings documents

A settings document is a table of named values. Of dates and times only their kind is kept.
-/

namespace HookPolicy

inductive Toml
  | string (s : String)
  | int (n : Int)
  | float (x : Binary64)
  | bool (b : Bool)
  | date
  | dateTime
  | time
  | array (items : List Toml)
  | table (fields : List (String × Toml))
  deriving Inhabited

namespace Toml

/-- A way through nested tables. -/
abbrev Key := List String

/-- The word for the kind of a value in messages. -/
def kind : Toml → String
  | .string _ => "str"
  | .int _ => "int"
  | .float _ => "float"
  | .bool _ => "bool"
  | .date => "datetime.date"
  | .dateTime => "datetime.datetime"
  | .time => "datetime.time"
  | .array _ => "list"
  | .table _ => "dict"

def isNested : Toml → Bool
  | .array _ => true
  | .table _ => true
  | _ => false

/-- Gives a field a value; a new field comes last. -/
def setField (fields : List (String × Toml)) (name : String) (v : Toml) : List (String × Toml) :=
  if (fields.lookup name).isSome then fields.map fun f => if f.1 == name then (name, v) else f
  else fields ++ [(name, v)]

/-- The table that a value stands for: a list stands for its last item where lists may be entered. -/
def entered? (lists : Bool) : Toml → Option (List (String × Toml))
  | .table fields => some fields
  | .array items =>
    match lists, items.getLast? with
    | true, some (.table fields) => some fields
    | _, _ => none
  | _ => none

/-- Puts back a table that was entered. -/
def putBack (old : Toml) (fields : List (String × Toml)) : Toml :=
  match old with
  | .array items => .array (items.dropLast ++ [.table fields])
  | _ => .table fields

/-- Changes the table that a key leads to. Missing tables are made on the way. -/
def changeAt (lists : Bool) (change : List (String × Toml) → Option (List (String × Toml))) :
    Key → List (String × Toml) → Option (List (String × Toml))
  | [], fields => change fields
  | name :: key, fields =>
    match fields.lookup name with
    | none => (changeAt lists change key []).map fun inner => fields ++ [(name, .table inner)]
    | some old =>
      match entered? lists old with
      | none => none
      | some inner =>
        (changeAt lists change key inner).map fun inner =>
          setField fields name (putBack old inner)

/-- Adds a field that must be new. -/
def addField (name : String) (v : Toml) (fields : List (String × Toml)) :
    Option (List (String × Toml)) :=
  if (fields.lookup name).isSome then none else some (fields ++ [(name, v)])

/-- Adds an empty table to the list of tables under a name. -/
def addItem (name : String) (fields : List (String × Toml)) : Option (List (String × Toml)) :=
  match fields.lookup name with
  | none => some (fields ++ [(name, .array [.table []])])
  | some (.array items) => some (setField fields name (.array (items ++ [.table []])))
  | some _ => none

end Toml

end HookPolicy
