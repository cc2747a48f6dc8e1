import HookPolicy.Context.Basic
import HookPolicy.Pattern.Parse
import HookPolicy.Pattern.Search
import HookPolicy.World

/-!
# A handler that looks for credentials

The handler asks before content is written that looks as if it held a key, a secret or a password.
It learns of the content and its place from the variables that handlers are given.
-/

namespace HookPolicy.Handlers

/-- A name for a credential in front of an equals sign. -/
def credentialPattern : String := "(?i)(api[_-]?key|secret|password)\\s*="

def looksSecret (content : String) : Bool :=
  match Pattern.compile credentialPattern.toList with
  | .ok node => node.foundIn content.toList
  | .error _ => false

/-- What follows the last slash of a path. -/
def lastPart (path : String) : String :=
  String.ofList ((Text.splitAt '/' path.toList).getLast?.getD [])

/-- What the handler declares. -/
def guardSecrets (content path : String) : Json :=
  let (action, messages) : Action × List Json :=
    if looksSecret content then
      (.confirm, [.object [("message",
        .string (lastPart path ++ " looks like it contains credentials"))]])
    else (.allow, [])
  .object [("result",
    .object [("action", .string action.word), ("messages", .array messages)])]

/-- What the handler prints in an environment. -/
def guardSecretsText (env : Env) : String :=
  let value (name : String) : String := env.textOf (Context.variableName name)
  Json.write (guardSecrets (value "CONTENT") (value "PATH")) ++ "\n"

end HookPolicy.Handlers
