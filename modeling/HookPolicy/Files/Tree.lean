import HookPolicy.Files.Path
import HookPolicy.Text.Lines
import HookPolicy.Text.Utf8

/-!
# Trees of files

A tree lists files, directories and symbolic links by their parts from the root. A directory is also
there when something lies below it. Looking up walks the names one by one, so that `..` needs a
directory before it, and follows links. `settle` lets links and `..` go from names whether or not
there is something behind them.
-/

namespace HookPolicy

inductive FileEntry
  | file (bytes : List UInt8) (executable : Bool)
  | directory
  | link (target : String)

/-- What a path leads to once links are followed. -/
inductive FoundEntry
  | file (bytes : List UInt8) (executable : Bool)
  | directory

def FileEntry.found? : FileEntry → Option FoundEntry
  | .file bytes executable => some (.file bytes executable)
  | .directory => some .directory
  | .link _ => none

structure FileTree where
  entries : List (List String × FileEntry)

namespace FileTree

/-- Why a path leads nowhere. -/
inductive Miss
  | absent
  | notDirectory
  | nameTooLong
  | tooManyLinks
  deriving DecidableEq, Repr

def isBelow (dir path : List String) : Bool := dir.length < path.length && path.take dir.length == dir

def at? (t : FileTree) (parts : List String) : Option FileEntry :=
  match t.entries.find? (·.1 == parts) with
  | some (_, e) => some e
  | none =>
    if parts.isEmpty || t.entries.any (isBelow parts ·.1) then some .directory else none

def isDirectory (t : FileTree) (parts : List String) : Bool :=
  match t.at? parts with
  | some .directory => true
  | _ => false

/-- Longer names are refused by the file system. -/
def nameLimit : Nat := 255

/-- More links on the way are refused by the file system. -/
def linkLimit : Nat := 40

/-- The names of nothing and of one dot lead to the directory that they are looked for in. -/
def staysPut (name : String) : Bool := name == "" || name == "."

/-- The names along the target of a link. -/
def linkNames (target : String) : List String :=
  (Text.splitAt '/' target.toList).map String.ofList

/-- Where the names of the target of a link start: at the root or beside the link. -/
def linkStart (target : String) (beside : List String) : List String :=
  if Path.leadingSlashes target.toList > 0 then [] else beside

/-- Where a walk cannot go on, and the names that are ahead. -/
structure Stop where
  why : Miss
  ahead : List String

/-- Walks down from the parts already reached, which are stored last first. What is behind a link is
left to `follow`: the names along its target come before the rest. -/
def walkBy (t : FileTree) (follow : List String → List String → Except Stop (List String))
    (reached : List String) : List String → Except Stop (List String)
  | [] => .ok reached
  | p :: rest =>
    match t.at? reached.reverse with
    | none => .error ⟨.absent, p :: rest⟩
    | some .directory =>
      if staysPut p then walkBy t follow reached rest
      else if p == ".." then walkBy t follow reached.tail rest
      else if p.utf8ByteSize > nameLimit then .error ⟨.nameTooLong, p :: rest⟩
      else match t.at? (p :: reached).reverse with
        | some (.link target) => follow (linkStart target reached) (linkNames target ++ rest)
        | _ => walkBy t follow (p :: reached) rest
    | some _ => .error ⟨.notDirectory, p :: rest⟩

/-- A walk with at most so many links on the way. -/
def walk (t : FileTree) : Nat → List String → List String → Except Stop (List String)
  | 0 => t.walkBy fun _ names => .error ⟨.tooManyLinks, names⟩
  | links + 1 => t.walkBy (t.walk links)

/-- Longer paths are refused before any lookup. -/
def pathLimit : Nat := 4095

def find (t : FileTree) (cwd p : Path) : Except Miss (List String × FoundEntry) :=
  if p.toString.utf8ByteSize > pathLimit then .error .nameTooLong
  else match t.walk linkLimit [] (cwd.join p).parts with
  | .error stop => .error stop.why
  | .ok reached =>
    match (t.at? reached.reverse).bind FileEntry.found? with
    | some e => .ok (reached.reverse, e)
    | none => .error .absent

/-- What lies behind a name in the directory reached. A link is not followed. -/
def lookAt? (t : FileTree) (reached : List String) (name : String) : Option FileEntry :=
  match t.walk linkLimit [] reached.reverse with
  | .error _ => none
  | .ok dir =>
    if t.isDirectory dir.reverse && name.utf8ByteSize ≤ nameLimit then t.at? (name :: dir).reverse
    else none

/-- The parts settled once one more name is: `..` takes away the part before it, and the target of
a link, settled by `follow`, takes the place of the link. -/
def settleName (t : FileTree)
    (follow : List String → List String → Except (List String) (List String))
    (reached : List String) (name : String) : Except (List String) (List String) :=
  if staysPut name then .ok reached
  else if name == ".." then .ok reached.tail
  else match t.lookAt? reached name with
    | some (.link target) => follow (linkStart target reached) (linkNames target)
    | _ => .ok (name :: reached)

/-- Settles names one by one, whether or not there is something behind them. An error holds the
parts that are left when links do not come to an end. -/
def settleBy (t : FileTree)
    (follow : List String → List String → Except (List String) (List String))
    (reached : List String) : List String → Except (List String) (List String)
  | [] => .ok reached
  | p :: rest =>
    match t.settleName follow reached p with
    | .ok next => settleBy t follow next rest
    | .error left => .error (left ++ rest)

/-- Settles names with at most so many links inside one another. -/
def settle (t : FileTree) : Nat → List String → List String → Except (List String) (List String)
  | 0 => t.settleBy fun start names => .error (start.reverse ++ names)
  | depth + 1 => t.settleBy (t.settle depth)

/-- The place of a path, without links and `..`. Links inside one another differ unless they run in
a loop, so there are not more of them than entries. -/
def place (t : FileTree) (cwd p : Path) : Path :=
  match t.settle (t.entries.length + linkLimit) [] (cwd.join p).parts with
  | .ok reached => ⟨1, reached.reverse⟩
  | .error left => (Path.mk 1 (left.filter (!staysPut ·))).cancel

def put (t : FileTree) (parts : List String) (e : FileEntry) : FileTree :=
  ⟨t.entries.filter (·.1 != parts) ++ [(parts, e)]⟩

end FileTree

end HookPolicy
