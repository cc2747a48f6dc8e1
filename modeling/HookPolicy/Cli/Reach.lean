import HookPolicy.Child.Program
import HookPolicy.Cli.Session

/-!
# What a command may look at

The places of the world on which the outcome of a command can depend, so that only these need to be
read before it is carried out. The policy file comes first; what it says leads to the others.
-/

namespace HookPolicy.Cli

def Command.policyPlace (w : World) : Command → Path
  | .run o => Policy.place w (o.policyFile.getD "")
  | .validate file => Policy.place w (file.getD "")

/-- Project files that checks on dependencies read. -/
def projectFiles : List String := ["package.json", "pyproject.toml", "requirements.txt"]

def conditionPlaces (dir : Path) (condition : String) : List Path :=
  (Condition.parts condition).filterMap fun part =>
    (Condition.find part).map fun call => dir.join (Path.ofString call.arg)

/-- The places that one hook leads to, seen from the directory of the operation. -/
def hookPlaces (w : World) (policyFile dir : Path) (h : Hook) : List Path :=
  let handler := match h.deed with
    | .handler file => [Dispatcher.programOf w policyFile.parent file]
    | _ => []
  handler ++ (h.condition.toList.flatMap (conditionPlaces dir))

def operationDir (w : World) (input : Context.Input) : Command → Path
  | .run o =>
    match Context.gather w.setting (originOf w input o) with
    | .ok c => if c.cwd == "" then w.dir else Path.ofString c.cwd
    | .error _ => w.dir
  | .validate _ => w.dir

/-- The places that the policy in the world leads to. -/
def Command.places (w : World) (input : Context.Input) (c : Command) : List Path :=
  let file := c.policyPlace w
  let dir := operationDir w input c
  match Policy.load w file with
  | .error _ => []
  | .ok p => projectFiles.map (fun name => dir.join (Path.ofString name)) ++
      p.allHooks.flatMap fun (_, h) => hookPlaces w file dir h

end HookPolicy.Cli
