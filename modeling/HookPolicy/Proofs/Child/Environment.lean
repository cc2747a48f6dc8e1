import HookPolicy.Child.Run
import HookPolicy.Proofs.Context.Export

/-!
# What a handler finds in its environment

The environment of a handler is that of its parent with the variables of the operation laid over it.
A field that is null has no variable, so under its name the handler finds what the parent has there.
-/

namespace HookPolicy

namespace Env

theorem lookup_set (env : Env) (key text name : String) :
    (env.set key text).lookup name = if key = name then some text else env.lookup name :=
  lookup_replace env key text name

theorem lookup_overlay {more : Env} (h : (more.map Prod.fst).Nodup) (env : Env) (name : String) :
    (env.overlay more).lookup name = (more.lookup name).or (env.lookup name) := by
  induction more generalizing env with
  | nil => rfl
  | cons v more ih =>
    obtain ⟨key, text⟩ := v
    rw [List.map_cons, List.nodup_cons] at h
    have hstep : env.overlay ((key, text) :: more) = (env.set key text).overlay more := rfl
    rw [hstep, ih h.2, lookup_set, List.lookup_cons]
    by_cases hkey : key = name
    · subst hkey
      rw [lookup_eq_none_iff_notMem.2 h.1, if_pos rfl, beq_self_eq_true]
      rfl
    · rw [if_neg hkey, beq_eq_false_iff_ne.2 (Ne.symm hkey)]

end Env

namespace Child

open Context Fields

variable {c : Context} {env env' : Env}

theorem lookup_childEnv (c : Context) (env : Env) (name : String) :
    (childEnv env c.exported).lookup name = (c.exported.lookup name).or (env.lookup name) :=
  Env.lookup_overlay c.exported_nodup env name

theorem envField_childEnv (hexit : ∀ n, c.exitCode = some n → n.natAbs < 10 ^ intDigitLimit)
    (env : Env) {p : String × String} (hp : p ∈ envNames) :
    envField (childEnv env c.exported) p = (c.givenField p).or (envField env p) := by
  have hlookup := lookup_childEnv c env (variableName p.1)
  rcases exported_spec hexit hp with ⟨hown, hnull⟩ | ⟨t, hown, hgiven, hcoerce⟩
  · rw [hown, Option.none_or] at hlookup
    rw [envField_congr hlookup, givenField_of_null hnull, Option.none_or]
  · rw [hown, Option.some_or] at hlookup
    rw [envField_of_coerce hlookup hcoerce hgiven, givenField_of_ne_null hgiven, Option.some_or]

theorem get?_envFields_childEnv
    (hexit : ∀ n, c.exitCode = some n → n.natAbs < 10 ^ intDigitLimit) (env : Env) (name : String) :
    get? (envFields (childEnv env c.exported)) name =
      (get? c.givenFields name).or (get? (envFields env) name) := by
  have hchild : envFields (childEnv env c.exported) =
      envNames.filterMap fun p => (c.givenField p).or (envField env p) :=
    List.filterMap_congr fun p hp => envField_childEnv hexit env hp
  have hnames : (envNames.map Prod.snd).Nodup := by decide
  rw [hchild, givenFields_eq, envFields_eq]
  exact lookup_filterMap_or hnames (fun _ _ => givenField_fst)
    (fun _ _ hf => (envField_eq_some hf).1) name

/-- A listing of a directory: an operation that says neither a path nor how it ended. -/
def listing : Context where
  timestamp := ⟨2024, 1, 2, 3, 4, 5, 678901, some 0⟩
  source := some .test
  tool := some "LS"
  command := none
  path := none
  content := none
  exitCode := none
  success := none
  cwd := "/w"
  sessionId := none
  params := none
  extras := []

def plainEnv : Env := [("HOME", "/h")]

def leftoverEnv : Env := [("HOME", "/h"), ("HOOKWARDEN_TOOL", "Write")]

/-- The variables that an operation can set. -/
def exportNames : List String :=
  ["TOOL", "COMMAND", "PATH", "CONTENT", "EXIT_CODE", "SUCCESS", "SESSION_ID", "TIMESTAMP",
    "SOURCE", "CWD", "PARAMS", "CONTEXT"].map variableName

def pathEnv : Env := [("HOOKWARDEN_PATH", "/left/over")]

end Child

end HookPolicy
