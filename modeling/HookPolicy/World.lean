import HookPolicy.Context.Basic
import HookPolicy.Files.Tree

/-!
# The world around a run

What the policy machinery finds around it: files, the working directory, environment variables and
the clock.
-/

namespace HookPolicy

/-- Environment variables, each name once. -/
abbrev Env := List (String × String)

namespace Env

/-- The value of a variable, empty when it is not set. -/
def textOf (env : Env) (name : String) : String := (env.lookup name).getD ""

def set (env : Env) (name value : String) : Env := env.filter (·.1 != name) ++ [(name, value)]

/-- Lays the second environment over the first. -/
def overlay (env more : Env) : Env := more.foldl (fun env v => set env v.1 v.2) env

end Env

structure World where
  tree : FileTree
  cwd : String
  env : Env
  now : Timestamp
  /-- The home directory that default places are counted from. -/
  home : String

namespace World

def dir (w : World) : Path := Path.ofString w.cwd

def setting (w : World) : Setting := ⟨w.now, w.cwd⟩

def find (w : World) (p : Path) : Except FileTree.Miss (List String × FoundEntry) :=
  w.tree.find w.dir p

/-- Whether a path leads somewhere; a name that is too long is no answer. -/
def finds (w : World) (p : Path) : Except FileTree.Miss Bool :=
  match w.find p with
  | .ok _ => .ok true
  | .error .nameTooLong => .error .nameTooLong
  | .error _ => .ok false

/-- The place that a path leads to, be there something or not, with one slash in front. -/
def resolve (w : World) (p : Path) : Path := w.tree.place w.dir p

/-- Whether links on the way to a path run in a loop. -/
def loops (w : World) (p : Path) : Bool :=
  match w.find p with
  | .error .tooManyLinks => true
  | _ => false

/-- Writes a text file. -/
def write (w : World) (path text : String) : World :=
  let file := FileEntry.file (Utf8.encode text) false
  { w with tree := w.tree.put (w.dir.join (Path.ofString path)).parts file }

end World

end HookPolicy
