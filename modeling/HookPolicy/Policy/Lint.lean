import HookPolicy.Condition.Eval
import HookPolicy.Policy.Load
import HookPolicy.Rule.Eval
import HookPolicy.Shell.Template

/-!
# Linting policies

A lint loads a policy strictly and lists every problem of its hooks: matchers and conditions that
cannot be read, handlers that are not there, and command templates that are dangerous.
-/

namespace HookPolicy

structure LintReport where
  file : Path
  hooks : Nat
  problems : List String

def LintReport.dump (r : LintReport) : Json :=
  .object [("config", .string r.file.toString), ("hooks", .int r.hooks),
    ("problems", .array (r.problems.map .string))]

namespace Policy

def matcherProblems (h : Hook) : List String :=
  match h.matcher.bind Rule.defect? with
  | some e => ["invalid matcher: " ++ e.message]
  | none => []

/-- What is wrong with a condition, taken strictly. -/
def conditionDefect? (condition : String) : Option String :=
  match Condition.parse condition with
  | .error e => some e.message
  | .ok calls =>
    (calls.find? fun c => (Condition.Check.ofName? c.name).isNone).map fun c =>
      Condition.unknownText c.name

def conditionProblems (h : Hook) : List String :=
  match h.condition with
  | none => []
  | some condition =>
    if condition == "" then []
    else (conditionDefect? condition).toList.map ("invalid condition: " ++ ·)

def handlerProblems (w : World) (dir : Path) : Deed → Except LoadError (List String)
  | .handler file =>
    let p := dir.join (Path.ofString file)
    match w.finds p with
    | .ok true => .ok []
    | .ok false => .ok ["handler not found: " ++ file]
    | .error _ => .error (.nameTooLong p)
  | _ => .ok []

def templateProblems : Deed → List String
  | .command template _ _ =>
    match Shell.defects template with
    | [] => []
    | ds => ["unsafe command template: " ++ ", ".intercalate ds]
  | _ => []

/-- The problems of one hook. -/
def hookProblems (w : World) (dir : Path) (event : String) (h : Hook) :
    Except LoadError (List String) :=
  (handlerProblems w dir h.deed).map fun missing =>
    (matcherProblems h ++ conditionProblems h ++ missing ++ templateProblems h.deed).map fun text =>
      event ++ "/" ++ h.id ++ ": " ++ text

def allProblems (w : World) (dir : Path) : List (String × Hook) → Except LoadError (List String)
  | [] => .ok []
  | (event, h) :: rest =>
    match hookProblems w dir event h, allProblems w dir rest with
    | .ok problems, .ok more => .ok (problems ++ more)
    | .error e, _ => .error e
    | _, .error e => .error e

/-- Lints a policy file. A file that gives no policy has this one problem. -/
def lint (w : World) (file : Path) : Except LoadError LintReport :=
  match load w file with
  | .error e => if e.isExpected then .ok ⟨file, 0, [e.message]⟩ else .error e
  | .ok p =>
    (allProblems w file.parent p.allHooks).map fun problems => ⟨file, p.allHooks.length, problems⟩

end Policy

end HookPolicy
