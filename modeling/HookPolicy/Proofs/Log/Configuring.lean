import HookPolicy.Log.Setup
import HookPolicy.Proofs.Lists.Lookup

/-!
# Set-ups of the log

A set-up asks for a format and a level. Whatever was set up before, it leaves one own sink, in that
format, and all other sinks as they are. The level is taken over, and entries stay within the log, if
what was asked for is a level; otherwise the set-up ends with an error and both stay as they are.
-/

namespace HookPolicy.Log

variable {l : Logger} {env : Env} {r : Request} {level : Level}

/-! ## The level that is asked for -/

/-- What stands for a level: a number, a truth value, or a known name. -/
inductive Denotes : Json → Level → Prop
  | int (n : Int) : Denotes (.int n) n
  | bool (b : Bool) : Denotes (.bool b) (if b then 1 else 0)
  | name {name : String} {level : Level} : (name, level) ∈ levels → Denotes (.string name) level

theorem levelOf_eq_ok_iff {v : Json} : levelOf v = .ok level ↔ Denotes v level := by
  constructor
  · intro h
    unfold levelOf at h
    split at h
    · cases h
      exact .int _
    · cases h
      exact .bool _
    · split at h
      · rename_i hlookup
        cases h
        exact .name (mem_of_lookup_eq_some hlookup)
      · cases h
    · cases h
  · intro h
    cases h with
    | int n => rfl
    | bool b => rfl
    | name hmem =>
      have hlookup := (lookup_eq_some_iff_mem (by decide : (levels.map Prod.fst).Nodup)).2 hmem
      rw [levelOf, hlookup]

/-- The level that a set-up asks for: silence, the given level, or that of the environment. -/
inductive Request.Asks (env : Env) (r : Request) : Level → Prop
  | silent : r.silent = true → Asks env r silence
  | given {v : Json} {level : Level} :
    r.silent = false → r.level = some v → Denotes v level → Asks env r level
  | environment {level : Level} :
    r.silent = false → r.level = none → Denotes (.string (envLevel env)) level → Asks env r level

theorem asks_iff : r.Asks env level ↔ levelOf (r.levelValue env) = .ok level := by
  rw [Request.levelValue]
  constructor
  · intro h
    cases h with
    | silent hsilent =>
      rw [hsilent]
      rfl
    | given hsilent hlevel hdenotes =>
      rw [hsilent, hlevel]
      exact levelOf_eq_ok_iff.2 hdenotes
    | environment hsilent hlevel hdenotes =>
      rw [hsilent, hlevel]
      exact levelOf_eq_ok_iff.2 hdenotes
  · intro h
    cases hsilent : r.silent with
    | true =>
      rw [hsilent] at h
      cases h
      exact .silent hsilent
    | false =>
      rw [hsilent, if_neg Bool.false_ne_true, levelOf_eq_ok_iff] at h
      cases hlevel : r.level with
      | none =>
        rw [hlevel] at h
        exact .environment hsilent hlevel h
      | some v =>
        rw [hlevel] at h
        exact .given hsilent hlevel h

/-! ## One set-up -/

namespace Logger

def own (l : Logger) : List Sink := l.sinks.filter (·.name == ownSink)

def others (l : Logger) : List Sink := l.sinks.filter (·.name != ownSink)

theorem own_install (l : Logger) (format : Format) :
    (l.install format).own = [⟨ownSink, format⟩] := by
  have hnone : l.others.filter (·.name == ownSink) = [] := by
    rw [others, List.filter_filter, List.filter_eq_nil_iff]
    intro sink _
    simp
  have hsinks : (l.install format).sinks = l.others ++ [⟨ownSink, format⟩] := rfl
  rw [own, hsinks, List.filter_append, hnone]
  rfl

theorem others_install (l : Logger) (format : Format) : (l.install format).others = l.others := by
  have hsinks : (l.install format).sinks = l.others ++ [⟨ownSink, format⟩] := rfl
  have hsame : l.others.filter (·.name != ownSink) = l.others := by
    rw [others, List.filter_filter]
    simp
  have hown : [(⟨ownSink, format⟩ : Sink)].filter (·.name != ownSink) = [] := rfl
  rw [others, hsinks, List.filter_append, hsame, hown, List.append_nil]

end Logger

/-- A set-up of the log in some environment. -/
structure Call where
  env : Env
  request : Request

namespace Call

def format (call : Call) : Format := call.request.format call.env

def Asks (call : Call) (level : Level) : Prop := call.request.Asks call.env level

/-- The log after the set-up, and why its level was refused. -/
def result (call : Call) (l : Logger) : Logger × Option LevelError :=
  l.configure call.env call.request

end Call

/-- The set-up replaces the own sinks by one and takes the level over. -/
structure Done (call : Call) (before after : Logger) (level : Level) : Prop where
  own : after.own = [⟨ownSink, call.format⟩]
  others : after.others = before.others
  level : after.level = level
  propagates : after.propagates = false

/-- The set-up replaces the own sinks by one and does nothing else. -/
structure Stopped (call : Call) (before after : Logger) : Prop where
  own : after.own = [⟨ownSink, call.format⟩]
  others : after.others = before.others
  level : after.level = before.level
  propagates : after.propagates = before.propagates

variable {call : Call}

theorem result_of_asks (h : call.Asks level) (l : Logger) :
    (call.result l).2 = none ∧ Done call l (call.result l).1 level := by
  have hlevel := asks_iff.1 h
  rw [Call.result, Logger.configure, hlevel]
  exact ⟨rfl, l.own_install _, l.others_install _, rfl, rfl⟩

theorem result_of_not_asks (h : ∀ level, ¬ call.Asks level) (l : Logger) :
    (∃ e, (call.result l).2 = some e) ∧ Stopped call l (call.result l).1 := by
  cases hlevel : levelOf (call.request.levelValue call.env) with
  | ok level => exact absurd (asks_iff.2 hlevel) (h level)
  | error e =>
    rw [Call.result, Logger.configure, hlevel]
    exact ⟨⟨e, rfl⟩, l.own_install _, l.others_install _, rfl, rfl⟩

theorem own_result (call : Call) (l : Logger) : (call.result l).1.own = [⟨ownSink, call.format⟩] := by
  by_cases h : ∃ level, call.Asks level
  · obtain ⟨level, h⟩ := h
    exact (result_of_asks h l).2.own
  · exact (result_of_not_asks (not_exists.1 h) l).2.own

theorem others_result (call : Call) (l : Logger) : (call.result l).1.others = l.others := by
  by_cases h : ∃ level, call.Asks level
  · obtain ⟨level, h⟩ := h
    exact (result_of_asks h l).2.others
  · exact (result_of_not_asks (not_exists.1 h) l).2.others

/-! ## Many set-ups -/

/-- The log after the set-ups, those that ended with an error included. -/
def Logger.run (l : Logger) (calls : List Call) : Logger :=
  calls.foldl (fun l call => (call.result l).1) l

variable {calls : List Call}

theorem run_append (l : Logger) (calls more : List Call) :
    l.run (calls ++ more) = (l.run calls).run more :=
  List.foldl_append

theorem run_cons (l : Logger) (call : Call) (calls : List Call) :
    l.run (call :: calls) = (call.result l).1.run calls := rfl

theorem others_run (l : Logger) (calls : List Call) : (l.run calls).others = l.others := by
  induction calls generalizing l with
  | nil => rfl
  | cons call calls ih => rw [run_cons, ih, others_result]

theorem own_run (l : Logger) (calls : List Call) (call : Call) :
    (l.run (calls ++ [call])).own = [⟨ownSink, call.format⟩] := by
  rw [run_append]
  exact own_result call _

/-- Set-ups that all end with an error leave the level as it is. -/
theorem run_of_not_asks (h : ∀ call ∈ calls, ∀ level, ¬ call.Asks level) (l : Logger) :
    (l.run calls).level = l.level ∧ (l.run calls).propagates = l.propagates := by
  induction calls generalizing l with
  | nil => exact ⟨rfl, rfl⟩
  | cons call calls ih =>
    rw [List.forall_mem_cons] at h
    have hstopped := (result_of_not_asks h.1 l).2
    rw [run_cons, (ih h.2 _).1, (ih h.2 _).2, hstopped.level, hstopped.propagates]
    exact ⟨rfl, rfl⟩

/-- The last set-up that does not end with an error decides the level. -/
theorem run_of_last_asks (h : call.Asks level)
    (hcalls : ∀ later ∈ calls, ∀ level, ¬ later.Asks level) (l : Logger) (before : List Call) :
    (l.run (before ++ call :: calls)).level = level ∧
      (l.run (before ++ call :: calls)).propagates = false := by
  have hdone := (result_of_asks h (l.run before)).2
  obtain ⟨hlevel, hpropagates⟩ := run_of_not_asks hcalls (call.result (l.run before)).1
  rw [run_append, run_cons, hlevel, hpropagates, hdone.level, hdone.propagates]
  exact ⟨rfl, rfl⟩

/-- What a run of set-ups leaves of the log that it started from. -/
structure Ran (calls : List Call) (start after : Logger) : Prop where
  others : after.others = start.others
  own : ∀ before call, calls = before ++ [call] → after.own = [⟨ownSink, call.format⟩]
  stopped : (∀ call ∈ calls, ∀ level, ¬ call.Asks level) →
    after.level = start.level ∧ after.propagates = start.propagates
  done : ∀ before call behind level, calls = before ++ call :: behind → call.Asks level →
    (∀ later ∈ behind, ∀ level, ¬ later.Asks level) →
      after.level = level ∧ after.propagates = false

/-- After any run of set-ups, a set-up that asks for a level is done, and any other ends with an
error once it has replaced the own sink. -/
theorem run_configures (l : Logger) (calls : List Call) :
    Ran calls l (l.run calls) ∧ ∀ call : Call,
      (∀ level, call.Asks level → (call.result (l.run calls)).2 = none ∧
        Done call (l.run calls) (call.result (l.run calls)).1 level) ∧
      ((∀ level, ¬ call.Asks level) → (∃ e, (call.result (l.run calls)).2 = some e) ∧
        Stopped call (l.run calls) (call.result (l.run calls)).1) := by
  refine ⟨⟨others_run l calls, ?_, fun h => run_of_not_asks h l, ?_⟩, fun call =>
    ⟨fun level h => result_of_asks h _, fun h => result_of_not_asks h _⟩⟩
  · rintro before call rfl
    exact own_run l before call
  · rintro before call behind level rfl h hbehind
    exact run_of_last_asks h hbehind l before

def quietCall : Call := ⟨[], { level := some (.string "DEBUG"), documents := some false }⟩

def loudCall : Call := ⟨[], { level := some (.string "LOUD"), documents := some true }⟩

/-- A set-up with a level that is not known fails, and yet the own sink writes documents after it. -/
theorem result_replaces_sink_loud :
    (quietCall.result {}).1 = ⟨debug, [⟨ownSink, .line⟩], false⟩ ∧
      (loudCall.result (quietCall.result {}).1).2 = some (.unknown "LOUD") ∧
      (loudCall.result (quietCall.result {}).1).1 = ⟨debug, [⟨ownSink, .document⟩], false⟩ ∧
      (loudCall.result (quietCall.result {}).1).1.sinks ≠ (quietCall.result {}).1.sinks := by
  have hquiet : (quietCall.result {}).1 = ⟨debug, [⟨ownSink, .line⟩], false⟩ := by decide
  rw [hquiet]
  exact ⟨rfl, rfl, by decide, by decide⟩

end HookPolicy.Log
