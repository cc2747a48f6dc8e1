import HookPolicy.Proofs.Dispatch.Programs
import HookPolicy.Proofs.Files.Walking
import HookPolicy.Proofs.Policy.Linting

/-!
# Handlers that are not found

A lint walks to the file of a handler, and building a dispatcher settles its place first. They agree
on whether the file is there unless the walk goes astray (`lint_foretells_missing`).
-/

namespace HookPolicy

variable {σ : Type}

def Hook.isHandler (h : Hook) : Bool :=
  match h.deed with
  | .handler _ => true
  | _ => false

def Policy.handlerIds (p : Policy) : List String :=
  (p.allHooks.filter (·.2.isHandler)).map (·.2.id)

theorem Hook.isHandler_of_deed {h : Hook} {file : String} (hdeed : h.deed = .handler file) :
    h.isHandler = true := by
  rw [isHandler, hdeed]

namespace Dispatcher

variable {w : World} {d : Dispatcher} {event file : String} {h : Hook} {p : Policy}

/-- Where ids are not shared, the only program under an id is that of its own hook. -/
theorem eq_own_of_nodup (dir : Path) (hdistinct : p.handlerIds.Nodup)
    (hmem : (event, h) ∈ p.allHooks) (hdeed : h.deed = .handler file) :
    ∀ program ∈ programsOf w dir h.id p.allHooks, program = programOf w dir file := by
  intro program hprogram
  obtain ⟨⟨event', h'⟩, hlisted, hfound⟩ := List.mem_filterMap.1 hprogram
  obtain ⟨hmem', hid⟩ := List.mem_filter.1 hlisted
  have hhandler : h'.isHandler = true := by
    unfold foundProgram? at hfound
    split at hfound
    · rename_i hdeed'
      exact Hook.isHandler_of_deed hdeed'
    · cases hfound
  -- both entries are handlers with one id
  have hsame : (event', h') = (event, h) :=
    List.inj_on_of_nodup_map hdistinct (List.mem_filter.2 ⟨hmem', hhandler⟩)
      (List.mem_filter.2 ⟨hmem, Hook.isHandler_of_deed hdeed⟩) (by simpa using hid)
  cases hsame
  unfold foundProgram? at hfound
  rw [hdeed] at hfound
  dsimp only at hfound
  split at hfound
  · exact (Option.some.inj hfound).symm
  · cases hfound

theorem build_of_load {req : DispatchRequest} (hnone : req.policy = none)
    (hload : Policy.load w (Policy.place w req.policyFile) = .ok p)
    (hbuilt : (build w req).1 = .ok d) : d.policy = p := by
  obtain ⟨hpolicy, -⟩ := build_eq_ok hbuilt
  rw [policyOf_of_load hnone hload] at hpolicy
  exact (Except.ok.inj hpolicy).symm

theorem lookup_of_finds {req : DispatchRequest} (hbuilt : (build w req).1 = .ok d)
    (hdistinct : d.policy.handlerIds.Nodup) (hmem : (event, h) ∈ d.policy.allHooks)
    (hdeed : h.deed = .handler file) {present : Bool}
    (hfinds : w.finds (programOf w d.handlersDir file) = .ok present) :
    d.handlers.lookup h.id = if present then some (programOf w d.handlersDir file) else none := by
  obtain ⟨hpresent, hmissing⟩ :=
    programsOf_of_own hmem hdeed (eq_own_of_nodup d.handlersDir hdistinct hmem hdeed)
  rw [build_handlers hbuilt]
  cases present with
  | true => exact hpresent hfinds
  | false =>
    rw [hmissing hfinds]
    rfl

theorem findsNothing_iff {r : Runner σ} {c : Context} {t : Turn σ}
    (ht : t = Run.turn (d.execHook r c) t.hook t.found) (hdeed : t.hook.deed = .handler file)
    (happlies : t.hook.Applies t.found.world c) :
    t.FindsNothing ↔ d.handlers.lookup t.hook.id = none := by
  have hturn := turn_of_handler ht hdeed happlies
  cases hlookup : d.handlers.lookup t.hook.id with
  | none =>
    rw [hlookup] at hturn
    exact iff_of_true hturn rfl
  | some program =>
    rw [hlookup] at hturn
    refine iff_of_false ?_ nofun
    rintro ⟨hnone, -⟩
    cases hnone.symm.trans hturn

/-- The lint of a policy file tells that the file of a handler is not found exactly if a dispatcher
of the same file has no program for its hook, unless the walk to the file goes astray. Then the lint
always tells so, and the dispatcher has what is at the settled place. -/
theorem lint_foretells_missing {req : DispatchRequest} {report : LintReport}
    (hnone : req.policy = none) (hdefault : req.handlersDir = "")
    (hload : Policy.load w (Policy.place w req.policyFile) = .ok p)
    (hlint : Policy.lint w (Policy.place w req.policyFile) = .ok report)
    (hbuilt : (build w req).1 = .ok d) (hdistinct : p.handlerIds.Nodup)
    (hmem : (event, h) ∈ p.allHooks) (hdeed : h.deed = .handler file) :
    let dir := (Policy.place w req.policyFile).parent
    let path := dir.join (Path.ofString file)
    ∃ before lines behind, Policy.hookProblems w dir event h = .ok lines ∧
      report.problems = before ++ lines ++ behind ∧
      let told := Policy.Tells lines event h Policy.missingHandler
      let program? := d.handlers.lookup h.id
      (∃ present, w.finds (w.resolve path) = .ok present ∧
          program? = if present then some (w.resolve path) else none) ∧
        (¬ w.Strays path → (told ↔ program? = none)) ∧ (w.Strays path → told) ∧
        ∀ {σ : Type} (r : Runner σ) (on : String) (c : Context) (s : Session σ),
          ∀ t ∈ turns r d on c s, t.hook = h → h.Applies t.found.world c →
            (t.FindsNothing ↔ program? = none) ∧
              ∀ program, program? = some program → t.Starts d c program := by
  intro dir path
  obtain ⟨before, lines, behind, hlines, hproblems⟩ := Policy.lint_lines hload hlint hmem
  obtain rfl : d.policy = p := build_of_load hnone hload hbuilt
  obtain ⟨-, hfound, -, hdir, -⟩ := build_eq_ok hbuilt
  have hhere : d.handlersDir = dir := by
    simp [hdir, handlersDirOf, hdefault, dir]
  rw [← hdir, hhere] at hfound
  -- the lint and the build came to an end, so both lookups have an answer
  obtain ⟨-, -, present, hplace⟩ :=
    (findHandlers_ok_iff w req.silent dir [] d.policy.allHooks).1 ⟨_, hfound⟩ _ hmem file hdeed
  obtain ⟨seen, hpath⟩ := Policy.finds_of_hookProblems hlines hdeed
  have htold : Policy.Tells lines event h Policy.missingHandler ↔ seen = false := by
    simp [Policy.tells_missingHandler_iff hlines, hdeed, hpath]
  have hprogram : d.handlers.lookup h.id = if present then some (w.resolve path) else none := by
    rw [← hhere] at hplace
    have hlookup := lookup_of_finds hbuilt hdistinct hmem hdeed hplace
    rw [hhere] at hlookup
    exact hlookup
  refine ⟨before, lines, behind, hlines, hproblems, ⟨present, hplace, hprogram⟩, ?_, ?_, ?_⟩
  · intro hway
    have hagree : present = seen := World.finds_resolve hway hpath hplace
    rw [htold, hprogram, hagree]
    cases seen <;> simp
  · intro hstrays
    rw [htold]
    cases seen with
    | false => rfl
    | true => exact absurd hstrays (World.not_strays_of_finds hpath)
  · rintro σ r on c s t ht rfl happlies
    refine ⟨findsNothing_iff (turns_spec ht) hdeed happlies, fun program hsome => ?_⟩
    have hturn := turn_of_handler (turns_spec ht) hdeed happlies
    rw [hsome] at hturn
    exact hturn

/-- A world with a policy file, a program and a link to the directory of the program. -/
def linked (bytes : List UInt8) : World :=
  { atRoot.world with tree := ⟨[(["hooks.json"], .file bytes false),
    (["tools", "audit.sh"], .file [] true), (["current"], .link "tools")]⟩ }

/-- The way to its file goes through a link. -/
def viaLink : Hook := ⟨"check", none, none, none, .handler "current/../tools/audit.sh"⟩

/-- The way to its file goes through a directory that is not there. -/
def viaGone : Hook := ⟨"stray", none, none, none, .handler "gone/../tools/audit.sh"⟩

def tooling : Policy :=
  ⟨{ enabled := true, parallel := true }, [(preToolUse, [viaLink, viaGone])]⟩

def toolingText : String :=
  "\x7b\"settings\": \x7b\"enabled\": true, \"parallel_hooks\": true\x7d, " ++
    "\"hooks\": \x7b\"PreToolUse\": [" ++
    "\x7b\"id\": \"check\", \"handler\": \"current/../tools/audit.sh\"\x7d, " ++
    "\x7b\"id\": \"stray\", \"handler\": \"gone/../tools/audit.sh\"\x7d]\x7d\x7d"

theorem allHooks_tooling : tooling.allHooks = [(preToolUse, viaLink), (preToolUse, viaGone)] := rfl

theorem dir_linked (bytes : List UInt8) : (linked bytes).dir = ⟨1, []⟩ := by cbv

theorem find_linked (bytes : List UInt8) :
    (linked bytes).find ⟨0, ["hooks.json"]⟩ = .ok (["hooks.json"], .file bytes false) ∧
      (linked bytes).find ⟨0, ["current", "..", "tools", "audit.sh"]⟩ =
        .ok (["tools", "audit.sh"], .file [] true) ∧
      (linked bytes).find ⟨0, ["gone", "..", "tools", "audit.sh"]⟩ = .error .absent := by
  refine ⟨?_, ?_, ?_⟩
  · rw [World.find, FileTree.find, if_neg (by decide +kernel), dir_linked]
    rfl
  · rw [World.find, FileTree.find, if_neg (by decide +kernel), dir_linked]
    rfl
  · rw [World.find, FileTree.find, if_neg (by decide +kernel), dir_linked]
    rfl

def hereTo (file : String) : Path := Path.join ⟨0, []⟩ (.ofString file)

theorem hereTo_linked :
    hereTo "current/../tools/audit.sh" = ⟨0, ["current", "..", "tools", "audit.sh"]⟩ ∧
      hereTo "gone/../tools/audit.sh" = ⟨0, ["gone", "..", "tools", "audit.sh"]⟩ :=
  ⟨by cbv, by cbv⟩

theorem finds_linked (bytes : List UInt8) :
    (linked bytes).finds (hereTo "current/../tools/audit.sh") = .ok true ∧
      (linked bytes).finds (hereTo "gone/../tools/audit.sh") = .ok false := by
  simp only [World.finds, hereTo_linked, find_linked, and_self]

theorem programOf_linked (bytes : List UInt8) :
    programOf (linked bytes) ⟨0, []⟩ "current/../tools/audit.sh" = ⟨1, ["tools", "audit.sh"]⟩ ∧
      programOf (linked bytes) ⟨0, []⟩ "gone/../tools/audit.sh" = ⟨1, ["tools", "audit.sh"]⟩ := by
  constructor
  · rw [programOf, show Path.join _ _ = _ from hereTo_linked.1, World.resolve, FileTree.place,
      dir_linked]
    rfl
  · rw [programOf, show Path.join _ _ = _ from hereTo_linked.2, World.resolve, FileTree.place,
      dir_linked]
    rfl

theorem lookFor_linked (bytes : List UInt8) :
    lookFor (linked bytes) ⟨0, []⟩ "current/../tools/audit.sh" = .ok true ∧
      lookFor (linked bytes) ⟨0, []⟩ "gone/../tools/audit.sh" = .ok true := by
  have hfind : (linked bytes).find ⟨1, ["tools", "audit.sh"]⟩ =
      .ok (["tools", "audit.sh"], .file [] true) := by
    rw [World.find, FileTree.find, if_neg (by decide +kernel), dir_linked]
    rfl
  obtain ⟨hcheck, hstray⟩ := programOf_linked bytes
  constructor
  · refine lookFor_eq_ok_iff.2 ⟨by rfl, ?_, ?_⟩
    · rw [hcheck, World.loops, hfind]
    · rw [hcheck, World.finds, hfind]
  · refine lookFor_eq_ok_iff.2 ⟨by rfl, ?_, ?_⟩
    · rw [hstray, World.loops, hfind]
    · rw [hstray, World.finds, hfind]

theorem place_linked (bytes : List UInt8) :
    Policy.place (linked bytes) hooksRequest.policyFile = ⟨0, ["hooks.json"]⟩ := by
  cbv

def toolingDispatcher : Dispatcher where
  policyFile := ⟨0, ["hooks.json"]⟩
  handlersDir := ⟨0, []⟩
  silent := false
  policy := tooling
  handlers := [("check", ⟨1, ["tools", "audit.sh"]⟩), ("stray", ⟨1, ["tools", "audit.sh"]⟩)]

section

variable {bytes : List UInt8}
  (hload : Policy.load (linked bytes) ⟨0, ["hooks.json"]⟩ = .ok tooling)

include hload

theorem lint_linked :
    Policy.lint (linked bytes) ⟨0, ["hooks.json"]⟩ = .ok ⟨⟨0, ["hooks.json"]⟩, 2,
      ["PreToolUse/stray: handler not found: gone/../tools/audit.sh"]⟩ := by
  have hpresent : Policy.handlerProblems (linked bytes) ⟨0, []⟩ viaLink.deed = .ok [] :=
    Policy.handlerProblems_of_finds (finds_linked _).1
  have hmissing : Policy.handlerProblems (linked bytes) ⟨0, []⟩ viaGone.deed =
      .ok ["handler not found: gone/../tools/audit.sh"] :=
    Policy.handlerProblems_of_finds (finds_linked _).2
  rw [Policy.lint, hload]
  show (Policy.allProblems (linked bytes) ⟨0, []⟩ tooling.allHooks).map _ = _
  rw [allHooks_tooling, Policy.allProblems, Policy.allProblems, Policy.allProblems,
    Policy.hookProblems, Policy.hookProblems, hpresent, hmissing]
  rfl

theorem build_linked : (build (linked bytes) hooksRequest).1 = .ok toolingDispatcher := by
  obtain ⟨hcheck, hstray⟩ := programOf_linked bytes
  obtain ⟨hlook, hlook'⟩ := lookFor_linked bytes
  have hfound : (findHandlers (linked bytes) false ⟨0, []⟩ [] tooling.allHooks).1 =
      .ok toolingDispatcher.handlers := by
    rw [allHooks_tooling, findHandlers_cons_handler rfl hlook,
      findHandlers_cons_handler rfl hlook', hcheck, hstray]
    rfl
  exact build_of_found (place_linked bytes) (policyOf_of_load rfl hload) hfound

end

def toolingWorld : World := linked (Utf8.encode toolingText)

theorem load_tooling : Policy.load toolingWorld ⟨0, ["hooks.json"]⟩ = .ok tooling := by
  rw [Policy.load, toolingWorld, (find_linked _).1]
  decide +kernel

def inTooling : Session Unit := { world := toolingWorld, runner := () }

def toolingTurn (h : Hook) (s : Session Unit) : Turn Unit :=
  Run.turn (toolingDispatcher.execHook (stuck List.range) bareContext) h s

theorem turns_tooling :
    turns (stuck List.range) toolingDispatcher preToolUse bareContext inTooling =
      [toolingTurn viaLink inTooling, toolingTurn viaGone (toolingTurn viaLink inTooling).left] :=
  rfl

/-- The file of the first handler is found through the link, and no line tells otherwise. -/
theorem lint_foretells_missing_tooling :
    Policy.load toolingWorld ⟨0, ["hooks.json"]⟩ = .ok tooling ∧
      (build toolingWorld hooksRequest).1 = .ok toolingDispatcher ∧ tooling.handlerIds.Nodup ∧
      ∃ lines, Policy.hookProblems toolingWorld ⟨0, []⟩ preToolUse viaLink = .ok lines ∧
        ¬ Policy.Tells lines preToolUse viaLink Policy.missingHandler ∧
        ∃ t ∈ turns (stuck List.range) toolingDispatcher preToolUse bareContext inTooling,
          t.hook = viaLink ∧
            t.Starts toolingDispatcher bareContext ⟨1, ["tools", "audit.sh"]⟩ := by
  have hplace : Policy.place toolingWorld hooksRequest.policyFile = ⟨0, ["hooks.json"]⟩ :=
    place_linked _
  have hbuilt := build_linked load_tooling
  have hload := load_tooling
  have hlint := lint_linked load_tooling
  rw [← hplace] at hload hlint
  have hdistinct : tooling.handlerIds.Nodup := by decide
  obtain ⟨-, lines, -, hlines, -, -, htold, -, hturns⟩ := lint_foretells_missing rfl rfl hload hlint
    hbuilt hdistinct (List.mem_cons_self : (preToolUse, viaLink) ∈ tooling.allHooks) rfl
  rw [hplace] at hlines htold
  have hway : ¬ toolingWorld.Strays (hereTo "current/../tools/audit.sh") :=
    World.not_strays_of_finds (finds_linked _).1
  have hturn : toolingTurn viaLink inTooling ∈
      turns (stuck List.range) toolingDispatcher preToolUse bareContext inTooling := by
    rw [turns_tooling]
    exact List.mem_cons_self
  obtain ⟨-, hstarts⟩ := hturns (stuck List.range) preToolUse bareContext inTooling _ hturn rfl
    ⟨rfl, rfl⟩
  refine ⟨load_tooling, hbuilt, hdistinct, lines, hlines, fun h => ?_, _, hturn, rfl, hstarts _ rfl⟩
  cases (htold hway).1 h

/-- The lint tells that the file of the second handler is not found, and the dispatcher of the same
policy file starts it. -/
theorem told_missing_starts :
    Policy.lint toolingWorld ⟨0, ["hooks.json"]⟩ = .ok ⟨⟨0, ["hooks.json"]⟩, 2,
        ["PreToolUse/stray: handler not found: gone/../tools/audit.sh"]⟩ ∧
      (build toolingWorld hooksRequest).1 = .ok toolingDispatcher ∧ tooling.handlerIds.Nodup ∧
      ∃ t ∈ turns (stuck List.range) toolingDispatcher preToolUse bareContext inTooling,
        t.hook = viaGone ∧
          t.Starts toolingDispatcher bareContext ⟨1, ["tools", "audit.sh"]⟩ := by
  refine ⟨lint_linked load_tooling, build_linked load_tooling, by decide,
    toolingTurn viaGone (toolingTurn viaLink inTooling).left, ?_, rfl, ?_⟩
  · rw [turns_tooling]
    exact List.mem_cons_of_mem _ (List.mem_singleton_self _)
  · exact turn_of_handler (t := toolingTurn viaGone (toolingTurn viaLink inTooling).left) rfl rfl
      ⟨rfl, rfl⟩

end Dispatcher

end HookPolicy
