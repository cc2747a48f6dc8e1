import HookPolicy.World

/-! How files are named in log lines: below the home directory by what follows it, others by their
last part. -/

namespace HookPolicy.Log

def placeText (env : Env) (path : String) : String :=
  if path == "" then "<unknown>"
  else
    let home := (env.textOf "HOME").toList
    match if home.isEmpty then none else Text.rest? home path.toList with
    | some rest => String.ofList ('~' :: rest)
    | none => (Path.ofString path).name

end HookPolicy.Log
