import HookPolicy.Dispatch.Basic
import HookPolicy.Log.Place
import HookPolicy.Policy.Load

/-!
# Building dispatchers

A dispatcher is built from a policy that is given or loaded. A policy file that is missing or faulty
gives the disabled policy. Handlers are looked up once, when the dispatcher is built.
-/

namespace HookPolicy

/-- What a dispatcher is asked to be built from. Empty places stand for the default ones. -/
structure DispatchRequest where
  policyFile : String := ""
  handlersDir : String := ""
  silent : Bool := false
  policy : Option Policy := none

inductive BuildError
  | load (e : LoadError)
  | nulInPath
  | nameTooLong (path : Path)
  deriving DecidableEq, Repr

namespace Dispatcher

/-- The policy to use and what there is to say about it. -/
def policyOf (w : World) (r : DispatchRequest) (file : Path) :
    Except BuildError Policy × List Log.Entry :=
  match r.policy with
  | some p => (.ok p, [])
  | none =>
    match Policy.load w file with
    | .ok p => (.ok p, [])
    | .error (.absent file) =>
      (.ok .disabled, dispatchEntries r.silent Log.warning
        ("Config not found: " ++ Log.placeText w.env file.toString))
    | .error e =>
      if e.isExpected then
        (.ok .disabled, dispatchEntries r.silent Log.error
          ("Failed to load config, hooks disabled: " ++ e.message))
      else (.error (.load e), [])

/-- Gives an id its program; the last hook of an id decides. -/
def setHandler (handlers : List (String × Path)) (id : String) (program : Path) :
    List (String × Path) :=
  handlers.filter (·.1 != id) ++ [(id, program)]

/-- The program that a handler's file leads to. -/
def programOf (w : World) (dir : Path) (file : String) : Path :=
  w.resolve (dir.join (Path.ofString file))

def hasNul (p : Path) : Bool := p.parts.any fun part => part.toList.contains '\x00'

/-- Whether the program of a handler is there. -/
def lookFor (w : World) (dir : Path) (file : String) : Except BuildError Bool :=
  let program := programOf w dir file
  if hasNul (dir.join (Path.ofString file)) then .error .nulInPath
  else if w.loops program then .error (.load (.linkLoop program))
  else match w.finds program with
    | .ok b => .ok b
    | .error _ => .error (.nameTooLong program)

/-- Looks up the handlers of all hooks. -/
def findHandlers (w : World) (silent : Bool) (dir : Path) (handlers : List (String × Path)) :
    List (String × Hook) → Except BuildError (List (String × Path)) × List Log.Entry
  | [] => (.ok handlers, [])
  | (_, h) :: rest =>
    match h.deed with
    | .handler file =>
      let program := programOf w dir file
      match lookFor w dir file with
      | .error e => (.error e, [])
      | .ok true => findHandlers w silent dir (setHandler handlers h.id program) rest
      | .ok false =>
        let (found, entries) := findHandlers w silent dir handlers rest
        (found, dispatchEntries silent Log.warning
          ("Handler not found: " ++ Log.placeText w.env program.toString) ++ entries)
    | _ => findHandlers w silent dir handlers rest

def handlersDirOf (r : DispatchRequest) (file : Path) : Path :=
  if r.handlersDir == "" then file.parent else Path.ofString r.handlersDir

def countEntries (silent : Bool) (handlers : List (String × Path)) : List Log.Entry :=
  if handlers.isEmpty then []
  else dispatchEntries silent Log.info
    ("Loaded " ++ Decimal.natText handlers.length ++ " handlers")

/-- Builds a dispatcher. The entries are there even when nothing comes of it. -/
def build (w : World) (r : DispatchRequest) : Except BuildError Dispatcher × List Log.Entry :=
  let file := Policy.place w r.policyFile
  let dir := handlersDirOf r file
  match policyOf w r file with
  | (.error e, entries) => (.error e, entries)
  | (.ok p, entries) =>
    let off := if p.settings.enabled then []
      else dispatchEntries r.silent Log.info "Hooks are disabled in configuration"
    match findHandlers w r.silent dir [] p.allHooks with
    | (.error e, more) => (.error e, entries ++ off ++ more)
    | (.ok handlers, more) =>
      (.ok ⟨file, dir, r.silent, p, handlers⟩,
        entries ++ off ++ more ++ countEntries r.silent handlers)

end Dispatcher

end HookPolicy
