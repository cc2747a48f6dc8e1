import HookPolicy.Json.Basic
import HookPolicy.Number.IntText
import HookPolicy.Time.Timestamp

/-!
# Checking documents

A check reads a value of a document as a value of a type, or says what is wrong with it and where.
Checks of several fields are put side by side, so that all defects are reported, in field order.
-/

namespace HookPolicy

inductive Problem
  | missing
  | notText
  | notInt
  | badIntText
  | intTooLarge
  | notWhole
  | notFinite
  | notBool
  | badBool
  | notListed
  | notLiteral
  | notPositive
  | notObject
  | notList
  | notRecord
  | notTime
  | badTimeText
  | timeOutOfRange
  | unclearKind
  deriving DecidableEq, Repr

/-- The word by which a problem is reported. -/
def Problem.code : Problem → String
  | .missing => "missing"
  | .notText => "string_type"
  | .notInt => "int_type"
  | .badIntText => "int_parsing"
  | .intTooLarge => "int_parsing_size"
  | .notWhole => "int_from_float"
  | .notFinite => "finite_number"
  | .notBool => "bool_type"
  | .badBool => "bool_parsing"
  | .notListed => "enum"
  | .notLiteral => "literal_error"
  | .notPositive => "greater_than"
  | .notObject => "dict_type"
  | .notList => "list_type"
  | .notRecord => "model_type"
  | .notTime => "datetime_type"
  | .badTimeText => "datetime_from_date_parsing"
  | .timeOutOfRange => "datetime_parsing"
  | .unclearKind => "hook_kind"

inductive Step
  | key (name : String)
  | index (n : Nat)
  deriving DecidableEq, Repr

/-- A problem and the way from the root of the document to the value that has it. -/
structure Defect where
  place : List Step
  problem : Problem
  deriving DecidableEq, Repr

inductive Checked (α : Type)
  | good (a : α)
  | bad (defects : List Defect)

namespace Checked

def defects {α : Type} : Checked α → List Defect
  | .good _ => []
  | .bad ds => ds

def map {α β : Type} (f : α → β) : Checked α → Checked β
  | .good a => .good (f a)
  | .bad ds => .bad ds

/-- Both must be good; the defects of both are kept. -/
def apply {α β : Type} (f : Checked (α → β)) (a : Checked α) : Checked β :=
  match f, a with
  | .good f, .good a => .good (f a)
  | f, a => .bad (f.defects ++ a.defects)

instance : Functor Checked := ⟨map, fun a => map (fun _ => a)⟩

instance : Applicative Checked where
  pure := .good
  seq f a := f.apply (a ())

/-- Moves all defects one step further from the root. -/
def under {α : Type} (step : Step) : Checked α → Checked α
  | .good a => .good a
  | .bad ds => .bad (ds.map fun d => { d with place := step :: d.place })

def one {α : Type} (problem : Problem) : Checked α := .bad [⟨[], problem⟩]

def toExcept {α : Type} : Checked α → Except (List Defect) α
  | .good a => .ok a
  | .bad ds => .error ds

end Checked

/-- All items, each under its index. -/
def checkItems {α : Type} (check : Json → Checked α) (start : Nat) : List Json → Checked (List α)
  | [] => .good []
  | v :: rest =>
    List.cons <$> (check v).under (.index start) <*> checkItems check (start + 1) rest

def checkList {α : Type} (check : Json → Checked α) : Json → Checked (List α)
  | .array items => checkItems check 0 items
  | _ => .one .notList

/-- All fields, each under its name. -/
def checkFields {α : Type} (check : Json → Checked α) : Fields → Checked (List (String × α))
  | [] => .good []
  | (name, v) :: rest =>
    (fun a more => (name, a) :: more) <$> (check v).under (.key name) <*> checkFields check rest

def checkText : Json → Checked String
  | .string s => .good s
  | _ => .one .notText

def checkOptional {α : Type} (check : Json → Checked α) : Json → Checked (Option α)
  | .null => .good none
  | v => some <$> check v

def fitsWord (n : Int) : Bool := n.natAbs < Nat.pow 2 63

def checkInt : Json → Checked Int
  | .bool b => .good (if b then 1 else 0)
  | .int n => .good n
  | .float x =>
    match x.truncate? with
    | none => .one .notFinite
    | some n =>
      if !x.isWhole then .one .notWhole
      else if fitsWord n then .good n else .one .intTooLarge
  | .string s =>
    match readPlainInt s.toList with
    | .ok n => .good n
    | .error .malformed => .one .badIntText
    | .error .tooLong => .one .intTooLarge
  | _ => .one .notInt

def trueWords : List String := ["1", "true", "yes", "on", "t", "y"]

def falseWords : List String := ["0", "false", "no", "off", "f", "n"]

def checkBool : Json → Checked Bool
  | .bool b => .good b
  | .int n => if n == 1 then .good true else if n == 0 then .good false else .one .badBool
  | .float x =>
    if x.isZero then .good false
    else if x.isWhole && x.truncate? == some 1 then .good true else .one .notBool
  | .string s =>
    let low := String.ofList (s.toList.map fun c =>
      if 'A' ≤ c && c ≤ 'Z' then Char.ofNat (c.toNat + 32) else c)
    if trueWords.contains low then .good true
    else if falseWords.contains low then .good false else .one .badBool
  | _ => .one .notBool

def checkTime : Json → Checked Timestamp
  | .string s =>
    match Timestamp.read s with
    | some t => .good t
    | none => .one .badTimeText
  | .int n =>
    match Timestamp.ofCount? n 0 with
    | some t => .good t
    | none => .one .timeOutOfRange
  | .float x =>
    match Timestamp.ofFloat? x with
    | some t => .good t
    | none => .one .timeOutOfRange
  | _ => .one .notTime

def checkObject : Json → Checked Fields
  | .object fields => .good fields
  | _ => .one .notObject

/-- One of the listed words. -/
def checkWord {α : Type} (read : String → Option α) : Json → Checked α
  | .string s =>
    match read s with
    | some a => .good a
    | none => .one .notListed
  | _ => .one .notListed

/-- A field that must be there. -/
def required {α : Type} (fields : Fields) (name : String) (check : Json → Checked α) : Checked α :=
  match fields.get? name with
  | some v => (check v).under (.key name)
  | none => .bad [⟨[.key name], .missing⟩]

/-- A field with a default. -/
def defaulting {α : Type} (fields : Fields) (name : String) (default : α)
    (check : Json → Checked α) : Checked α :=
  match fields.get? name with
  | some v => (check v).under (.key name)
  | none => .good default

end HookPolicy
