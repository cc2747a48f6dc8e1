import HookPolicy.Toml.Token

/-!
# Reading settings documents

A document is read statement by statement: a field, or a header that says which table the fields
after it belong to. A table may be opened by a header only once, and lists and tables written in
place are closed for good.
-/

namespace HookPolicy.Toml

def isBareKeyChar (c : Char) : Bool := Text.isAsciiAlnum c || c == '-' || c == '_'

def readKeyPart (cs : List Char) : Except Fault (String × List Char) :=
  match cs with
  | c :: rest =>
    if isBareKeyChar c then
      .ok (String.ofList (cs.takeWhile isBareKeyChar), cs.dropWhile isBareKeyChar)
    else if c == '\x27' then
      orMalformed ((readLiteral rest).map fun (s, rest) => (String.ofList s, rest))
    else if c == '"' then
      orMalformed ((readBasicText false rest).map fun (s, rest) => (String.ofList s, rest))
    else .error .malformed
  | [] => .error .malformed

def readKeyParts (fuel : Nat) (found : List String) (cs : List Char) :
    Except Fault (Key × List Char) :=
  match fuel with
  | 0 => .error .malformed
  | fuel + 1 =>
    match readKeyPart cs with
    | .error e => .error e
    | .ok (name, rest) =>
      match skipBlanks rest with
      | '.' :: rest => readKeyParts fuel (name :: found) (skipBlanks rest)
      | rest => .ok ((name :: found).reverse, rest)

/-- A key: its parts are separated by dots. -/
def readKey (cs : List Char) : Except Fault (Key × List Char) :=
  readKeyParts (cs.length + 1) [] cs

/-- Skips a comment, which ends before the line end. -/
def skipComment (cs : List Char) : Except Fault (List Char) :=
  match cs with
  | '#' :: rest =>
    if (rest.takeWhile (· != '\n')).any isControl then .error .malformed
    else .ok (rest.dropWhile (· != '\n'))
  | _ => .ok cs

/-- Skips blanks, line ends and comments. -/
def skipGaps (fuel : Nat) (cs : List Char) : Except Fault (List Char) :=
  match fuel with
  | 0 => .ok cs
  | fuel + 1 =>
    match skipLines cs with
    | '#' :: rest =>
      match skipComment ('#' :: rest) with
      | .ok rest => skipGaps fuel rest
      | .error e => .error e
    | rest => .ok rest

def skipAllGaps (cs : List Char) : Except Fault (List Char) := skipGaps (cs.length + 1) cs

/-- Keys that lead to lists and tables written in place: nothing may be added below them. -/
abbrev Frozen := List Key

def isFrozen (frozen : Frozen) (key : Key) : Bool := frozen.any (·.isPrefixOf key)

/-- How many lists and tables may stand inside each other. -/
def nestingLimit : Nat := 300

mutual

def readValue (fuel depth : Nat) (cs : List Char) : Except Fault (Toml × List Char) :=
  match fuel with
  | 0 => .error .malformed
  | fuel + 1 =>
    match cs with
    | '[' :: rest =>
      match depth with
      | 0 => .error .tooDeep
      | depth + 1 =>
        match skipAllGaps rest with
        | .error e => .error e
        | .ok rest => readItems fuel depth [] rest
    | '{' :: rest =>
      match depth with
      | 0 => .error .tooDeep
      | depth + 1 =>
        match skipBlanks rest with
        | '}' :: rest => .ok (.table [], rest)
        | rest => readFields fuel depth [] [] rest
    | _ => readPlain cs

/-- The items of a list; a comma may stand behind the last one. -/
def readItems (fuel depth : Nat) (items : List Toml) (cs : List Char) :
    Except Fault (Toml × List Char) :=
  match fuel, cs with
  | 0, _ => .error .malformed
  | _ + 1, ']' :: rest => .ok (.array items.reverse, rest)
  | fuel + 1, _ =>
    match readValue fuel depth cs with
    | .error e => .error e
    | .ok (v, rest) =>
      match skipAllGaps rest with
      | .ok (']' :: rest) => .ok (.array (v :: items).reverse, rest)
      | .ok (',' :: rest) =>
        match skipAllGaps rest with
        | .ok rest => readItems fuel depth (v :: items) rest
        | .error e => .error e
      | .ok _ => .error .malformed
      | .error e => .error e

/-- The fields of a table written in place. -/
def readFields (fuel depth : Nat) (frozen : Frozen) (fields : List (String × Toml))
    (cs : List Char) : Except Fault (Toml × List Char) :=
  match fuel with
  | 0 => .error .malformed
  | fuel + 1 =>
    match readKey cs with
    | .error e => .error e
    | .ok (key, '=' :: rest) =>
      match readValue fuel depth (skipBlanks rest) with
      | .error e => .error e
      | .ok (v, rest) =>
        if isFrozen frozen key then .error .malformed
        else match changeAt false (addField (key.getLast?.getD "") v) key.dropLast fields with
          | none => .error .malformed
          | some fields =>
            match skipBlanks rest with
            | '}' :: rest => .ok (.table fields, rest)
            | ',' :: rest =>
              let frozen := if v.isNested then key :: frozen else frozen
              readFields fuel depth frozen fields (skipBlanks rest)
            | _ => .error .malformed
    | .ok _ => .error .malformed

end

/-- What has been read so far. `opened` are the keys of tables that no header may open any more;
`pending` join them at the next header. -/
structure Draft where
  fields : List (String × Toml) := []
  header : Key := []
  opened : List Key := []
  pending : List Key := []
  frozen : Frozen := []

/-- The keys of the tables that a dotted key passes through, below the header. -/
def passedKeys (header key : Key) : List Key :=
  (List.range key.length).tail.map fun i => header ++ key.take i

def Draft.addField (d : Draft) (key : Key) (v : Toml) : Option Draft :=
  let passed := passedKeys d.header key
  let parent := d.header ++ key.dropLast
  if passed.any d.opened.contains || isFrozen d.frozen parent then none
  else match changeAt true (Toml.addField (key.getLast?.getD "") v) parent d.fields with
    | none => none
    | some fields =>
      some { d with
        fields := fields
        pending := (passed.filter fun k => !d.pending.contains k) ++ d.pending
        frozen := if v.isNested then (d.header ++ key) :: d.frozen else d.frozen }

/-- Opens a table by a header. -/
def Draft.openTable (d : Draft) (key : Key) : Option Draft :=
  let opened := d.pending ++ d.opened
  if opened.contains key || isFrozen d.frozen key then none
  else match changeAt true some key d.fields with
    | none => none
    | some fields =>
      some { d with fields := fields, header := key, opened := key :: opened, pending := [] }

/-- Opens the next item of a list of tables by a header. The tables below it may be opened anew. -/
def Draft.openItem (d : Draft) (key : Key) : Option Draft :=
  if isFrozen d.frozen key then none
  else
    let keep (k : Key) : Bool := !key.isPrefixOf k
    match changeAt true (addItem (key.getLast?.getD "")) key.dropLast d.fields with
    | none => none
    | some fields =>
      some ⟨fields, key, key :: (d.pending ++ d.opened).filter keep, [], d.frozen.filter keep⟩

/-- Reads a header, of which the first bracket has been taken off. -/
def readHeader (d : Draft) (cs : List Char) : Except Fault (Draft × List Char) :=
  match cs with
  | '[' :: rest =>
    match readKey (skipBlanks rest) with
    | .error e => .error e
    | .ok (key, ']' :: ']' :: rest) => orMalformed ((d.openItem key).map fun d => (d, rest))
    | .ok _ => .error .malformed
  | _ =>
    match readKey (skipBlanks cs) with
    | .error e => .error e
    | .ok (key, ']' :: rest) => orMalformed ((d.openTable key).map fun d => (d, rest))
    | .ok _ => .error .malformed

def readField (d : Draft) (cs : List Char) : Except Fault (Draft × List Char) :=
  match readKey cs with
  | .error e => .error e
  | .ok (key, '=' :: rest) =>
    match readValue (2 * rest.length + 2) nestingLimit (skipBlanks rest) with
    | .error e => .error e
    | .ok (v, rest) => orMalformed ((d.addField key v).map fun d => (d, rest))
  | .ok _ => .error .malformed

/-- Reads a statement, if the line holds one. -/
def readStatement (d : Draft) (cs : List Char) : Except Fault (Draft × List Char) :=
  match cs with
  | [] => .ok (d, [])
  | '\n' :: _ => .ok (d, cs)
  | '#' :: _ => .ok (d, cs)
  | '[' :: rest => readHeader d rest
  | _ => readField d cs

def readStatements (fuel : Nat) (d : Draft) (cs : List Char) :
    Except Fault (List (String × Toml)) :=
  match fuel with
  | 0 => .error .malformed
  | fuel + 1 =>
    match readStatement d (skipBlanks cs) with
    | .error e => .error e
    | .ok (d, rest) =>
      match skipComment (skipBlanks rest) with
      | .error e => .error e
      | .ok [] => .ok d.fields
      | .ok ('\n' :: rest) => readStatements fuel d rest
      | .ok _ => .error .malformed

/-- Reads a document whose line ends are newlines. -/
def read (cs : List Char) : Except Fault (List (String × Toml)) :=
  readStatements (cs.length + 1) {} cs

end HookPolicy.Toml
