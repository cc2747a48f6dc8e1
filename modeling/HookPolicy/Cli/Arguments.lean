import HookPolicy.Text.Pieces

/-!
# Arguments of a command line

A grammar lists the flags and the places of a command. Each argument is first taken for a flag or
for a plain text; then they are consumed from the left. A flag may be shortened as long as no other
begins so, and its value may follow an equals sign. After the mark `--` all arguments are plain.
-/

namespace HookPolicy.Cli

inductive FlagKind
  | help
  | switch
  | value (accepts : String → Bool)

structure Flag where
  name : String
  kind : FlagKind

/-- What a place takes: one text, at most one, or one and whatever follows it. -/
inductive Place
  | one
  | atMostOne
  | rest
  deriving DecidableEq, Repr

structure Grammar where
  flags : List Flag
  places : List Place

/-- How reading arguments ends without a result. -/
inductive Stop
  | usage
  | help
  deriving DecidableEq, Repr

/-- What an argument is taken for. -/
inductive Role
  | plain
  | mark
  | flag (f : Flag) (value : Option String)
  | unknown

structure Arg where
  text : String
  role : Role

namespace Arg

def isPlain (a : Arg) : Bool := match a.role with | .plain => true | _ => false

def isMark (a : Arg) : Bool := match a.role with | .mark => true | _ => false

def isFlag (a : Arg) : Bool := match a.role with | .flag _ _ | .unknown => true | _ => false

end Arg

def endMark : String := "--"

/-- The part before the first equals sign, and the part after it. -/
def cutAtEquals (cs : List Char) : List Char × Option String :=
  match cs.dropWhile (· != '=') with
  | _ :: value => (cs.takeWhile (· != '='), some (String.ofList value))
  | [] => (cs, none)

def isNegativeNumber (cs : List Char) : Bool :=
  match cs with
  | '-' :: body =>
    let body := if body.getLast? == some '\n' then body.dropLast else body
    match body.dropWhile Text.isDigit with
    | [] => !body.isEmpty
    | '.' :: places => !places.isEmpty && places.all Text.isDigit
    | _ => false
  | _ => false

/-- The flags that a text may be short for. -/
def candidates (flags : List Flag) (cs : List Char) : List (Flag × Option String) :=
  match cs with
  | '-' :: '-' :: _ =>
    let (start, value) := cutAtEquals cs
    (flags.filter fun f => Text.startsWith start f.name.toList).map (·, value)
  | _ => flags.filterMap fun f =>
    if f.name.toList == cs.take 2 then some (f, some (String.ofList (cs.drop 2)))
    else if Text.startsWith cs f.name.toList then some (f, none)
    else none

/-- The flag whose full name stands in the text, alone or before an equals sign. -/
def named? (flags : List Flag) (cs : List Char) : Option (Flag × Option String) :=
  match flags.find? (·.name.toList == cs) with
  | some f => some (f, none)
  | none => match cutAtEquals cs with
    | (name, some value) => (flags.find? (·.name.toList == name)).map (·, some value)
    | (_, none) => none

def roleOf (flags : List Flag) (s : String) : Except Stop Role :=
  let cs := s.toList
  if cs.head? != some '-' || cs.length == 1 then .ok .plain
  else match named? flags cs with
    | some (f, value) => .ok (.flag f value)
    | none => match candidates flags cs with
      | _ :: _ :: _ => .error .usage
      | [(f, value)] => .ok (.flag f value)
      | [] => .ok (if isNegativeNumber cs || cs.contains ' ' then .plain else .unknown)

def argsOf (flags : List Flag) : List String → Except Stop (List Arg)
  | [] => .ok []
  | s :: rest =>
    if s == endMark then .ok (⟨s, .mark⟩ :: rest.map (⟨·, .plain⟩))
    else match roleOf flags s, argsOf flags rest with
      | .ok role, .ok more => .ok (⟨s, role⟩ :: more)
      | .error e, _ => .error e
      | _, .error e => .error e

/-- What a place takes from the front, and what is left. Marks around a text go with it. -/
def Place.take? (p : Place) (args : List Arg) : Option (List Arg × List Arg) :=
  let marks := args.takeWhile Arg.isMark
  match args.dropWhile Arg.isMark with
  | a :: more =>
    if !a.isPlain then if p == .atMostOne then some (marks, a :: more) else none
    else if p == .rest then some (args, [])
    else some (marks ++ a :: more.takeWhile Arg.isMark, more.dropWhile Arg.isMark)
  | [] => if p == .atMostOne then some (marks, []) else none

/-- The texts that a place is filled with. One mark among them is dropped. -/
def Place.texts (p : Place) (taken : List Arg) : List String :=
  let texts := taken.map (·.text)
  if p == .rest then texts else texts.erase endMark

/-- Fills as many places as can be filled, and says which are still open and what is left. -/
def fillPlaces : List Place → List Arg → List (List String) × List Place × List Arg
  | [], args => ([], [], args)
  | p :: places, args =>
    match p.take? args with
    | none => ([], p :: places, args)
    | some (taken, left) =>
      let (filled, unfilled, left) := fillPlaces places left
      (p.texts taken :: filled, unfilled, left)

/-- What was found on a command line. A flag without a value stands alone; a value that is itself
the mark is lost. -/
structure Found where
  flags : List (String × Option String) := []
  places : List (List String) := []
  extras : List String := []
  deriving DecidableEq, Repr

namespace Found

def has (f : Found) (name : String) : Bool := f.flags.any (·.1 == name)

/-- The last value given for a flag. -/
def value? (f : Found) (name : String) : Option String :=
  (f.flags.reverse.find? (·.1 == name)).bind (·.2)

/-- Whether the last value given for a flag was lost. -/
def hasLost (f : Found) (name : String) : Bool :=
  (f.flags.reverse.find? (·.1 == name)).any (·.2.isNone)

def place (f : Found) (i : Nat) : List String := (f.places[i]?).getD []

def withFlag (f : Found) (name : String) (value : Option String) : Found :=
  { f with flags := f.flags ++ [(name, value)] }

def withPlaces (f : Found) (filled : List (List String)) : Found :=
  { f with places := f.places ++ filled }

def withExtras (f : Found) (texts : List String) : Found :=
  { f with extras := f.extras ++ texts }

end Found

/-- Whether single letters behind a short flag only repeat it. -/
def repeatsShort (name value : String) : Bool :=
  value != "" && value.toList.all fun c => name.toList == ['-', c]

/-- Takes a flag and says whether the argument after it went with it as its value. -/
def takeFlag (f : Flag) (value : Option String) (next : Option Arg) (found : Found) :
    Except Stop (Found × Bool) :=
  match f.kind, value with
  | .help, none => .error .help
  | .help, some v => .error (if repeatsShort f.name v then .help else .usage)
  | .switch, none => .ok (found.withFlag f.name none, false)
  | .switch, some _ => .error .usage
  | .value accepts, some v =>
    if v == endMark then .ok (found.withFlag f.name none, false)
    else if accepts v then .ok (found.withFlag f.name (some v), false)
    else .error .usage
  | .value accepts, none => match next with
    | some a =>
      if a.isPlain && accepts a.text then .ok (found.withFlag f.name (some a.text), true)
      else .error .usage
    | none => .error .usage

/-- Fills the open places from arguments among which there is no flag. -/
def finish (found : Found) (places : List Place) (args : List Arg) : Except Stop Found :=
  let (filled, left, extras) := fillPlaces places args
  if left.all (· == .atMostOne) then
    .ok ((found.withPlaces filled).withExtras (extras.map (·.text)))
  else .error .usage

def consume (found : Found) (places : List Place) (args : List Arg) : Except Stop Found :=
  match args with
  | [] => finish found places []
  | a :: more =>
    if !(a :: more).any Arg.isFlag then finish found places (a :: more)
    else match a.role with
      | .flag f value =>
        match takeFlag f value more.head? found with
        | .error e => .error e
        | .ok (found, false) => consume found places more
        | .ok (found, true) => consume found places more.tail
      | .unknown => consume (found.withExtras [a.text]) places more
      | _ =>
        let (filled, places, left) := fillPlaces places (a :: more)
        if left.length < (a :: more).length then consume (found.withPlaces filled) places left
        else consume (found.withExtras [a.text]) places more
termination_by args.length
decreasing_by all_goals (simp_all [List.length_tail]; try omega)

def Grammar.read (g : Grammar) (args : List String) : Except Stop Found :=
  match argsOf g.flags args with
  | .error e => .error e
  | .ok args => consume {} g.places args

end HookPolicy.Cli
