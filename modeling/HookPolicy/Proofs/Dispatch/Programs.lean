import HookPolicy.Proofs.Dispatch.Fallback
import HookPolicy.Proofs.Dispatch.Starts

/-!
# The programs of handlers

Building a dispatcher looks up the program of every handler and keeps it under the id of its hook.
The last program that is found under an id is the one that all hooks of that id start
(`execute_programs`), so a hook starts its own program where no other is found under its id.
-/

namespace HookPolicy

variable {σ : Type}

namespace Dispatcher

def foundProgram? (w : World) (dir : Path) (h : Hook) : Option Path :=
  match h.deed with
  | .handler file =>
    match w.finds (programOf w dir file) with
    | .ok true => some (programOf w dir file)
    | _ => none
  | _ => none

/-- The programs that are found under an id, in the order of the policy. -/
def programsOf (w : World) (dir : Path) (id : String) (hooks : List (String × Hook)) : List Path :=
  (hooks.filter (·.2.id == id)).filterMap (foundProgram? w dir ·.2)

variable {w : World} {dir : Path} {h : Hook} {file id : String} {hooks : List (String × Hook)}

theorem foundProgram?_of_handler (hdeed : h.deed = .handler file) {b : Bool}
    (hfinds : w.finds (programOf w dir file) = .ok b) :
    foundProgram? w dir h = if b then some (programOf w dir file) else none := by
  rw [foundProgram?, hdeed]
  dsimp only
  rw [hfinds]
  cases b <;> rfl

theorem foundProgram?_of_no_handler (hdeed : ∀ file, h.deed ≠ .handler file) :
    foundProgram? w dir h = none := by
  unfold foundProgram?
  cases hd : h.deed with
  | action a => rfl
  | handler file => exact absurd hd (hdeed file)
  | command template onFailure silent => rfl

theorem finds_of_mem_programsOf {program : Path} (hp : program ∈ programsOf w dir id hooks) :
    w.finds program = .ok true := by
  obtain ⟨p, -, hfound⟩ := List.mem_filterMap.1 hp
  unfold foundProgram? at hfound
  split at hfound
  · split at hfound
    · rename_i hfinds
      cases hfound
      exact hfinds
    · cases hfound
  · cases hfound

theorem mem_programsOf {event : String} (hmem : (event, h) ∈ hooks)
    (hdeed : h.deed = .handler file) (hfinds : w.finds (programOf w dir file) = .ok true) :
    programOf w dir file ∈ programsOf w dir h.id hooks :=
  List.mem_filterMap.2 ⟨(event, h), List.mem_filter.2 ⟨hmem, beq_self_eq_true h.id⟩,
    foundProgram?_of_handler hdeed hfinds⟩

theorem programsOf_cons (w : World) (dir : Path) (id : String) (p : String × Hook)
    (hooks : List (String × Hook)) :
    programsOf w dir id (p :: hooks) =
      (if p.2.id = id then (foundProgram? w dir p.2).toList else []) ++
        programsOf w dir id hooks := by
  unfold programsOf
  by_cases hid : p.2.id = id
  · rw [List.filter_cons_of_pos (by simpa using hid), List.filterMap_cons, if_pos hid]
    cases foundProgram? w dir p.2 <;> rfl
  · rw [List.filter_cons_of_neg (by simpa using hid), if_neg hid]
    rfl

/-- Where no other program is found under the id of a handler, its own one decides. -/
theorem programsOf_of_own {event : String} (hmem : (event, h) ∈ hooks)
    (hdeed : h.deed = .handler file)
    (hown : ∀ program ∈ programsOf w dir h.id hooks, program = programOf w dir file) :
    (w.finds (programOf w dir file) = .ok true →
        (programsOf w dir h.id hooks).getLast? = some (programOf w dir file)) ∧
      (w.finds (programOf w dir file) = .ok false → programsOf w dir h.id hooks = []) := by
  constructor
  · intro hfinds
    have hne : programsOf w dir h.id hooks ≠ [] :=
      List.ne_nil_of_mem (mem_programsOf hmem hdeed hfinds)
    rw [List.getLast?_eq_some_getLast hne, hown _ (List.getLast_mem hne)]
  · intro hfinds
    refine List.eq_nil_iff_forall_not_mem.2 fun program hprogram => ?_
    have hpresent : w.finds program = .ok true := finds_of_mem_programsOf hprogram
    rw [hown program hprogram, hfinds] at hpresent
    cases hpresent

/-! ## Building -/

theorem lookup_setHandler (handlers : List (String × Path)) (key : String) (program : Path) :
    (setHandler handlers key program).lookup id =
      if key = id then some program else handlers.lookup id :=
  lookup_replace handlers key program id

/-- The last program that is found under an id is the one that is kept. -/
theorem findHandlers_lookup {silent : Bool} {handlers found : List (String × Path)}
    (hfound : (findHandlers w silent dir handlers hooks).1 = .ok found) :
    found.lookup id = (programsOf w dir id hooks).getLast?.or (handlers.lookup id) := by
  induction hooks generalizing handlers with
  | nil =>
    cases hfound
    rfl
  | cons p hooks ih =>
    obtain ⟨event, h⟩ := p
    rw [programsOf_cons]
    by_cases hhandler : ∃ file, h.deed = .handler file
    · obtain ⟨file, hdeed⟩ := hhandler
      obtain ⟨hnul, hloops, b, hfinds⟩ := (findHandlers_ok_iff w silent dir handlers _).1
        ⟨found, hfound⟩ (event, h) List.mem_cons_self file hdeed
      rw [findHandlers_cons_handler hdeed (lookFor_eq_ok_iff.2 ⟨hnul, hloops, hfinds⟩)] at hfound
      rw [ih hfound, foundProgram?_of_handler hdeed hfinds]
      cases b with
      | false => simp
      | true =>
        rw [if_pos rfl, lookup_setHandler, List.getLast?_append]
        by_cases hid : h.id = id
        · simp [hid]
        · simp [hid]
    · have hdeed : ∀ file, h.deed ≠ .handler file := fun file hfile => hhandler ⟨file, hfile⟩
      rw [findHandlers_cons_other hdeed] at hfound
      rw [ih hfound, foundProgram?_of_no_handler hdeed]
      simp

theorem build_handlers {req : DispatchRequest} {d : Dispatcher} (hbuilt : (build w req).1 = .ok d)
    (id : String) :
    d.handlers.lookup id = (programsOf w d.handlersDir id d.policy.allHooks).getLast? := by
  obtain ⟨-, hfound, -, hdir, -⟩ := build_eq_ok hbuilt
  rw [findHandlers_lookup hfound, hdir, List.lookup_nil, Option.or_none]

/-! ## Running -/

theorem mem_of_mem_hooksFor {policy : Policy} {event : String} (hh : h ∈ policy.hooksFor event) :
    (event, h) ∈ policy.allHooks := by
  unfold Policy.hooksFor at hh
  cases hlookup : policy.hooks.lookup event with
  | none =>
    rw [hlookup] at hh
    cases hh
  | some listed =>
    rw [hlookup] at hh
    exact List.mem_flatMap.2 ⟨(event, listed), mem_of_lookup_eq_some hlookup,
      List.mem_map_of_mem hh⟩

theorem hook_mem_of_mem_turns {r : Runner σ} {d : Dispatcher} {event : String} {c : Context}
    {s : Session σ} {t : Turn σ} (ht : t ∈ turns r d event c s) :
    t.hook ∈ d.policy.hooksFor event := by
  unfold turns at ht
  split at ht
  · have hran : t.hook ∈ ran r d event c s := by
      rw [← Run.turns_map_hook (d.execHook r c) (ran r d event c s) s]
      exact List.mem_map_of_mem ht
    unfold ran at hran
    dsimp only at hran
    split at hran
    · obtain ⟨i, -, hi⟩ := List.mem_filterMap.1 hran
      exact List.mem_of_getElem? hi
    · exact List.mem_of_mem_take hran
  · cases ht

end Dispatcher

namespace Turn

def Starts (d : Dispatcher) (c : Context) (t : Turn σ) (program : Path) : Prop :=
  t.started = [.handler program c.exported d.policy.settings.timeout]

/-- Nothing is started, and the verdict is the warning that there is no program. -/
def FindsNothing (t : Turn σ) : Prop :=
  t.started = [] ∧ t.verdict =
    .completed t.hook.id .warn (some ("Handler not found: " ++ t.hook.id)) .null

end Turn

namespace Dispatcher

variable {r : Runner σ} {d : Dispatcher} {event : String} {c : Context} {s : Session σ}

theorem turn_of_handler {t : Turn σ} (ht : t = Run.turn (d.execHook r c) t.hook t.found)
    {file : String} (hdeed : t.hook.deed = .handler file)
    (happlies : t.hook.Applies t.found.world c) :
    match d.handlers.lookup t.hook.id with
    | some program => t.Starts d c program
    | none => t.FindsNothing := by
  have hplan : (d.plan t.found.world c t.hook).1 = d.planHandler c t.hook := by
    rw [plan_of_applies d c happlies, planDeed, hdeed]
  have hstarted : t.started = (d.planHandler c t.hook).calls := by
    rw [← hplan, ← turn_started r d c t.found t.hook, ← ht]
  have hverdict : t.verdict = (d.execHook r c t.hook t.found).1 := congrArg Turn.verdict ht
  rw [execHook_verdict, hplan] at hverdict
  unfold planHandler at hstarted hverdict
  cases hlookup : d.handlers.lookup t.hook.id with
  | some program =>
    rw [hlookup] at hstarted
    exact hstarted
  | none =>
    rw [hlookup] at hstarted hverdict
    exact ⟨hstarted, hverdict⟩

/-- The last program that was found under its id decides what a handler that applies starts. -/
theorem turn_of_programs {w : World} {req : DispatchRequest} (hbuilt : (build w req).1 = .ok d)
    {t : Turn σ} (ht : t = Run.turn (d.execHook r c) t.hook t.found) {file : String}
    (hdeed : t.hook.deed = .handler file) (happlies : t.hook.Applies t.found.world c) :
    (∀ program, (programsOf w d.handlersDir t.hook.id d.policy.allHooks).getLast? = some program →
        t.Starts d c program) ∧
      (programsOf w d.handlersDir t.hook.id d.policy.allHooks = [] → t.FindsNothing) := by
  have hturn := turn_of_handler ht hdeed happlies
  rw [build_handlers hbuilt t.hook.id] at hturn
  constructor
  · intro program hprogram
    rw [hprogram] at hturn
    exact hturn
  · intro hempty
    rw [hempty] at hturn
    exact hturn

/-- The calls of a run are those of its turns. A handler that applies in its turn starts the last
program that was found under its id when the dispatcher was built. If none was, it starts nothing
and warns. Its own program is decisive where no other is found under the id. -/
theorem execute_programs {w : World} {req : DispatchRequest} {d : Dispatcher}
    (hbuilt : (build w req).1 = .ok d) (r : Runner σ) (event : String) (c : Context)
    (s : Session σ) :
    let turns := turns r d event c s
    (d.execute r event c s).2.calls = s.calls ++ turns.flatMap Turn.started ∧
      ∀ t ∈ turns, ∀ file, t.hook.deed = .handler file → t.hook.Applies t.found.world c →
        let own := programOf w d.handlersDir file
        let programs := programsOf w d.handlersDir t.hook.id d.policy.allHooks
        (∀ program, programs.getLast? = some program → t.Starts d c program) ∧
          (programs = [] → t.FindsNothing) ∧
          ((∀ program ∈ programs, program = own) →
            (w.finds own = .ok true → t.Starts d c own) ∧
              (w.finds own = .ok false → t.FindsNothing)) := by
  intro turns
  refine ⟨(execute_extends r d event c s).1, fun t ht file hdeed happlies => ?_⟩
  intro own programs
  obtain ⟨hlast, hnone⟩ := turn_of_programs hbuilt (turns_spec ht) hdeed happlies
  have hmem := mem_of_mem_hooksFor (hook_mem_of_mem_turns ht)
  refine ⟨hlast, hnone, fun hown => ?_⟩
  obtain ⟨hpresent, hmissing⟩ := programsOf_of_own hmem hdeed hown
  exact ⟨fun hfinds => hlast own (hpresent hfinds), fun hfinds => hnone (hmissing hfinds)⟩

def yard : World := { atRoot.world with tree := ⟨[(["audit.sh"], .file [] true)]⟩ }

def gone : Hook := ⟨"check", none, none, none, .handler "gone.sh"⟩

def audit : Hook := ⟨"check", none, none, none, .handler "audit.sh"⟩

/-- Two hooks of different events that share an id. -/
def twins : Policy := ⟨{ enabled := true }, [(preToolUse, [gone]), ("PostToolUse", [audit])]⟩

def twinsRequest : DispatchRequest := { policyFile := "/hooks.json", policy := some twins }

def twinsDispatcher : Dispatcher where
  policyFile := ⟨1, ["hooks.json"]⟩
  handlersDir := ⟨1, []⟩
  silent := false
  policy := twins
  handlers := [("check", ⟨1, ["audit.sh"]⟩)]

theorem programOf_yard :
    programOf yard ⟨1, []⟩ "gone.sh" = ⟨1, ["gone.sh"]⟩ ∧
      programOf yard ⟨1, []⟩ "audit.sh" = ⟨1, ["audit.sh"]⟩ :=
  ⟨by cbv, by cbv⟩

theorem find_yard :
    yard.find ⟨1, ["gone.sh"]⟩ = .error .absent ∧
      yard.find ⟨1, ["audit.sh"]⟩ = .ok (["audit.sh"], .file [] true) := by
  have hdir : yard.dir = ⟨1, []⟩ := by cbv
  have hgone : ¬ (⟨1, ["gone.sh"]⟩ : Path).toString.utf8ByteSize > FileTree.pathLimit := by
    decide +kernel
  have haudit : ¬ (⟨1, ["audit.sh"]⟩ : Path).toString.utf8ByteSize > FileTree.pathLimit := by
    decide +kernel
  constructor
  · rw [World.find, FileTree.find, if_neg hgone, hdir]
    rfl
  · rw [World.find, FileTree.find, if_neg haudit, hdir]
    rfl

theorem finds_yard :
    yard.finds ⟨1, ["gone.sh"]⟩ = .ok false ∧ yard.finds ⟨1, ["audit.sh"]⟩ = .ok true := by
  simp only [World.finds, find_yard, and_self]

theorem lookFor_yard :
    lookFor yard ⟨1, []⟩ "gone.sh" = .ok false ∧ lookFor yard ⟨1, []⟩ "audit.sh" = .ok true := by
  obtain ⟨hgone, haudit⟩ := programOf_yard
  constructor
  · refine lookFor_eq_ok_iff.2 ⟨rfl, ?_, ?_⟩
    · rw [hgone, World.loops, find_yard.1]
    · rw [hgone, finds_yard.1]
  · refine lookFor_eq_ok_iff.2 ⟨rfl, ?_, ?_⟩
    · rw [haudit, World.loops, find_yard.2]
    · rw [haudit, finds_yard.2]

theorem build_twins : (build yard twinsRequest).1 = .ok twinsDispatcher := by
  have hfile : Policy.place yard twinsRequest.policyFile = ⟨1, ["hooks.json"]⟩ := by cbv
  obtain ⟨-, haudit⟩ := programOf_yard
  have hfound : (findHandlers yard false ⟨1, []⟩ [] twins.allHooks).1 =
      .ok [("check", ⟨1, ["audit.sh"]⟩)] := by
    show (findHandlers yard false ⟨1, []⟩ [] [(preToolUse, gone), ("PostToolUse", audit)]).1 = _
    rw [findHandlers_cons_handler rfl lookFor_yard.1, findHandlers_cons_handler rfl lookFor_yard.2,
      haudit]
    rfl
  exact build_of_found hfile rfl hfound

def inYard : Session Unit := { world := yard, runner := () }

/-- The hook whose file is there starts its own program. -/
theorem execute_programs_audit :
    (build yard twinsRequest).1 = .ok twinsDispatcher ∧
      ∃ t ∈ turns (stuck List.range) twinsDispatcher "PostToolUse" bareContext inYard,
        t.hook = audit ∧ t.Starts twinsDispatcher bareContext ⟨1, ["audit.sh"]⟩ := by
  obtain ⟨hgone, haudit⟩ := programOf_yard
  have hprograms : programsOf yard ⟨1, []⟩ "check" twins.allHooks = [⟨1, ["audit.sh"]⟩] := by
    have hmissing : foundProgram? yard ⟨1, []⟩ gone = none := by
      rw [foundProgram?_of_handler rfl ((congrArg yard.finds hgone).trans finds_yard.1)]
      rfl
    have hpresent : foundProgram? yard ⟨1, []⟩ audit = some ⟨1, ["audit.sh"]⟩ := by
      rw [foundProgram?_of_handler rfl ((congrArg yard.finds haudit).trans finds_yard.2), haudit]
      rfl
    show programsOf yard ⟨1, []⟩ "check" [(preToolUse, gone), ("PostToolUse", audit)] = _
    rw [programsOf_cons, programsOf_cons, hmissing, hpresent]
    rfl
  let t := Run.turn (twinsDispatcher.execHook (stuck List.range) bareContext) audit inYard
  have ht : t ∈ turns (stuck List.range) twinsDispatcher "PostToolUse" bareContext inYard :=
    List.mem_singleton.2 rfl
  obtain ⟨-, hturns⟩ :=
    execute_programs build_twins (stuck List.range) "PostToolUse" bareContext inYard
  obtain ⟨-, -, hown⟩ := hturns t ht "audit.sh" rfl ⟨rfl, rfl⟩
  have honly : ∀ program ∈ programsOf yard ⟨1, []⟩ "check" twins.allHooks,
      program = programOf yard ⟨1, []⟩ "audit.sh" := by
    rw [hprograms, haudit]
    simp
  have hstarts := (hown honly).1 ((congrArg yard.finds haudit).trans finds_yard.2)
  exact ⟨build_twins, t, ht, rfl, haudit ▸ hstarts⟩

/-- The hook whose file is missing starts the program of the other. -/
theorem missing_program_starts_other :
    (build yard twinsRequest).1 = .ok twinsDispatcher ∧
      twinsDispatcher.policy.hooksFor preToolUse = [gone] ∧ gone.deed = .handler "gone.sh" ∧
      yard.finds (programOf yard twinsDispatcher.handlersDir "gone.sh") = .ok false ∧
      (twinsDispatcher.execute (stuck List.range) preToolUse bareContext inYard).2.calls =
        [.handler ⟨1, ["audit.sh"]⟩ bareContext.exported defaultTimeout] := by
  refine ⟨build_twins, rfl, rfl, ?_, rfl⟩
  exact (congrArg yard.finds programOf_yard.1).trans finds_yard.1

end Dispatcher

end HookPolicy
