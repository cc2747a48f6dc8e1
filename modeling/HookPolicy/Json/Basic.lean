import HookPolicy.Number.Binary64

/-!
# Documents

A document is a value of the data notation: whole numbers are exact, other numbers are binary, and
the fields of an object keep the order in which they were first given.
-/

namespace HookPolicy

inductive Json
  | null
  | bool (b : Bool)
  | int (n : Int)
  | float (x : Binary64)
  | string (s : String)
  | array (items : List Json)
  | object (fields : List (String × Json))
  deriving BEq, Inhabited

/-- Fields of an object or of a record, in order, each name once. -/
abbrev Fields := List (String × Json)

namespace Fields

def get? (fields : Fields) (name : String) : Option Json := fields.lookup name

def has (fields : Fields) (name : String) : Bool := (get? fields name).isSome

/-- Gives a field a value; a new field comes last. -/
def set (fields : Fields) (name : String) (value : Json) : Fields :=
  if has fields name then fields.map fun f => if f.1 == name then (name, value) else f
  else fields ++ [(name, value)]

def erase (fields : Fields) (name : String) : Fields := fields.filter (·.1 != name)

/-- Keeps the first place and the last value of every name. -/
def ofPairs (pairs : List (String × Json)) : Fields :=
  pairs.foldl (fun fields f => set fields f.1 f.2) []

def setAll (fields more : Fields) : Fields :=
  more.foldl (fun fields f => set fields f.1 f.2) fields

end Fields

namespace Json

def text? : Json → Option String
  | .string s => some s
  | _ => none

def fields? : Json → Option Fields
  | .object fields => some fields
  | _ => none

def items? : Json → Option (List Json)
  | .array items => some items
  | _ => none

/-- The value of a field, or null when there is no object or no such field. -/
def field (v : Json) (name : String) : Json :=
  match v with
  | .object fields => (Fields.get? fields name).getD .null
  | _ => .null

def isNull : Json → Bool
  | .null => true
  | _ => false

/-- Values other than null, false, zero and the empty ones. -/
def isTruthy : Json → Bool
  | .null => false
  | .bool b => b
  | .int n => n != 0
  | .float x => !x.isZero
  | .string s => s != ""
  | .array items => !items.isEmpty
  | .object fields => !fields.isEmpty

def ofOption (s : Option String) : Json :=
  match s with
  | some s => .string s
  | none => .null

end Json

end HookPolicy
