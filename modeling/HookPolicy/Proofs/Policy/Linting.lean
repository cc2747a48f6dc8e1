import HookPolicy.Policy.Lint
import Mathlib.Data.List.Basic

/-!
# What a lint says about a hook

The report of a lint holds the lines on each hook of the policy. Among the lines on a hook is one
that its handler is not there, or that its template is unsafe, exactly if the lookup of the file, or
the check of the template for dangerous shapes, says so.
-/

namespace HookPolicy.Policy

variable {w : World} {file dir : Path} {event : String} {h : Hook} {hooks : List (String × Hook)}
  {problems lines : List String}

/-! ## The report -/

theorem allProblems_cons_eq_ok (hall : allProblems w dir ((event, h) :: hooks) = .ok problems) :
    ∃ lines more, hookProblems w dir event h = .ok lines ∧ allProblems w dir hooks = .ok more ∧
      problems = lines ++ more := by
  rw [allProblems] at hall
  split at hall
  · rename_i lines more hlines hmore
    cases hall
    exact ⟨lines, more, hlines, hmore, rfl⟩
  · cases hall
  · cases hall

theorem lines_of_mem_allProblems (hall : allProblems w dir hooks = .ok problems)
    (hmem : (event, h) ∈ hooks) :
    ∃ before lines behind, hookProblems w dir event h = .ok lines ∧
      problems = before ++ lines ++ behind := by
  induction hooks generalizing problems with
  | nil => cases hmem
  | cons p hooks ih =>
    obtain ⟨lines, more, hlines, hmore, rfl⟩ := allProblems_cons_eq_ok hall
    rcases List.mem_cons.1 hmem with rfl | hmem
    · exact ⟨[], lines, more, hlines, rfl⟩
    · obtain ⟨before, own, behind, hown, rfl⟩ := ih hmore hmem
      exact ⟨lines ++ before, own, behind, hown, by simp⟩

/-- The lines on a hook stand together in the report on a policy file. -/
theorem lint_lines {p : Policy} {report : LintReport} (hload : load w file = .ok p)
    (hlint : lint w file = .ok report) (hmem : (event, h) ∈ p.allHooks) :
    ∃ before lines behind, hookProblems w file.parent event h = .ok lines ∧
      report.problems = before ++ lines ++ behind := by
  rw [lint, hload] at hlint
  dsimp only at hlint
  cases hall : allProblems w file.parent p.allHooks with
  | error e =>
    rw [hall] at hlint
    cases hlint
  | ok problems =>
    rw [hall] at hlint
    cases hlint
    exact lines_of_mem_allProblems hall hmem

/-! ## The lines on a hook -/

def lineOn (event : String) (h : Hook) (text : String) : String :=
  event ++ "/" ++ h.id ++ ": " ++ text

/-- Some line tells the given thing of a hook, with any details. -/
def Tells (lines : List String) (event : String) (h : Hook) (what : String) : Prop :=
  ∃ detail, lineOn event h (what ++ ": " ++ detail) ∈ lines

def missingHandler : String := "handler not found"

def unsafeTemplate : String := "unsafe command template"

/-- All texts begin with the character. -/
def BeginWith (c : Char) (texts : List String) : Prop := ∀ text ∈ texts, text.toList.head? = some c

theorem head?_toList_append {a : String} {c : Char} (ha : a.toList.head? = some c) (b : String) :
    (a ++ b).toList.head? = some c := by
  rw [String.toList_append, List.head?_append, ha, Option.some_or]

theorem beginWith_singleton {a : String} {c : Char} (ha : a.toList.head? = some c) (b : String) :
    BeginWith c [a ++ b] := by
  intro text htext
  obtain rfl := List.mem_singleton.1 htext
  exact head?_toList_append ha b

theorem BeginWith.not_mem {texts : List String} {c d : Char} (htexts : BeginWith c texts)
    {what : String} (hwhat : what.toList.head? = some d) (hne : c ≠ d) (detail : String) :
    what ++ ": " ++ detail ∉ texts := by
  intro hmem
  have hd := head?_toList_append (head?_toList_append hwhat ": ") detail
  exact hne (Option.some.inj ((htexts _ hmem).symm.trans hd))

theorem matcherProblems_beginWith (h : Hook) : BeginWith 'i' (matcherProblems h) := by
  unfold matcherProblems
  split
  · exact beginWith_singleton (by rfl) _
  · exact nofun

theorem conditionProblems_beginWith (h : Hook) : BeginWith 'i' (conditionProblems h) := by
  unfold conditionProblems
  split
  · exact nofun
  · split
    · exact nofun
    · intro text htext
      obtain ⟨defect, -, rfl⟩ := List.mem_map.1 htext
      exact head?_toList_append (by rfl) _

theorem handlerProblems_beginWith {deed : Deed} {missing : List String}
    (hmissing : handlerProblems w dir deed = .ok missing) : BeginWith 'h' missing := by
  unfold handlerProblems at hmissing
  split at hmissing
  · dsimp only at hmissing
    split at hmissing
    · cases hmissing
      exact nofun
    · cases hmissing
      exact beginWith_singleton (by rfl) _
    · cases hmissing
  · cases hmissing
    exact nofun

theorem templateProblems_beginWith (deed : Deed) : BeginWith 'u' (templateProblems deed) := by
  unfold templateProblems
  split
  · split
    · exact nofun
    · exact beginWith_singleton (by rfl) _
  · exact nofun

/-- What is told of a hook is told of its matcher, its condition, its handler or its template. -/
theorem tells_iff (hlines : hookProblems w dir event h = .ok lines) (what : String) :
    ∃ missing, handlerProblems w dir h.deed = .ok missing ∧
      (Tells lines event h what ↔ ∃ detail, what ++ ": " ++ detail ∈
        matcherProblems h ++ conditionProblems h ++ missing ++ templateProblems h.deed) := by
  rw [hookProblems] at hlines
  cases hmissing : handlerProblems w dir h.deed with
  | error e =>
    rw [hmissing] at hlines
    cases hlines
  | ok missing =>
    rw [hmissing] at hlines
    cases hlines
    refine ⟨missing, rfl, exists_congr fun detail => ?_⟩
    exact List.mem_map_of_injective fun a b => (String.append_right_inj _).1

theorem handlerProblems_of_finds {file : String} {b : Bool}
    (hfinds : w.finds (dir.join (.ofString file)) = .ok b) :
    handlerProblems w dir (.handler file) =
      .ok (if b then [] else ["handler not found: " ++ file]) := by
  unfold handlerProblems
  dsimp only
  rw [hfinds]
  cases b <;> rfl

/-- A file of a handler that has lines can be looked for. -/
theorem finds_of_hookProblems (hlines : hookProblems w dir event h = .ok lines) {file : String}
    (hdeed : h.deed = .handler file) : ∃ b, w.finds (dir.join (.ofString file)) = .ok b := by
  obtain ⟨missing, hmissing, -⟩ := tells_iff hlines missingHandler
  rw [hdeed] at hmissing
  unfold handlerProblems at hmissing
  dsimp only at hmissing
  split at hmissing
  · rename_i hfinds
    exact ⟨true, hfinds⟩
  · rename_i hfinds
    exact ⟨false, hfinds⟩
  · cases hmissing

theorem tells_missingHandler_iff (hlines : hookProblems w dir event h = .ok lines) :
    Tells lines event h missingHandler ↔
      ∃ file, h.deed = .handler file ∧ w.finds (dir.join (.ofString file)) = .ok false := by
  -- the other lines begin with other letters, so a line that tells this is on the handler
  have hhead : missingHandler.toList.head? = some 'h' := by rfl
  obtain ⟨missing, hmissing, htells⟩ := tells_iff hlines missingHandler
  have hmatcher := (matcherProblems_beginWith h).not_mem hhead (by decide)
  have hcondition := (conditionProblems_beginWith h).not_mem hhead (by decide)
  have htemplate := (templateProblems_beginWith h.deed).not_mem hhead (by decide)
  simp only [htells, List.mem_append, hmatcher, hcondition, htemplate, false_or, or_false]
  unfold handlerProblems at hmissing
  split at hmissing
  · rename_i file hdeed
    simp only [hdeed, Deed.handler.injEq, exists_eq_left']
    dsimp only at hmissing
    split at hmissing
    · rename_i hfinds
      cases hmissing
      simp [hfinds]
    · rename_i hfinds
      cases hmissing
      exact iff_of_true ⟨file, List.mem_singleton_self _⟩ hfinds
    · cases hmissing
  · rename_i hdeed
    cases hmissing
    refine iff_of_false (by simp) ?_
    rintro ⟨file, hfile, -⟩
    exact hdeed file hfile

theorem tells_unsafeTemplate_iff (hlines : hookProblems w dir event h = .ok lines) :
    Tells lines event h unsafeTemplate ↔ ∃ template onFailure silent,
      h.deed = .command template onFailure silent ∧ Shell.defects template ≠ [] := by
  have hhead : unsafeTemplate.toList.head? = some 'u' := by rfl
  obtain ⟨missing, hmissing, htells⟩ := tells_iff hlines unsafeTemplate
  have hmatcher := (matcherProblems_beginWith h).not_mem hhead (by decide)
  have hcondition := (conditionProblems_beginWith h).not_mem hhead (by decide)
  have hhandler := (handlerProblems_beginWith hmissing).not_mem hhead (by decide)
  simp only [htells, List.mem_append, hmatcher, hcondition, hhandler, false_or]
  unfold templateProblems
  split
  · rename_i template onFailure silent hdeed
    split
    · rename_i hnone
      simp [hdeed, hnone]
    · rename_i hsome
      refine iff_of_true ⟨_, List.mem_singleton_self _⟩ ⟨template, onFailure, silent, hdeed, ?_⟩
      exact hsome
  · rename_i hdeed
    refine iff_of_false (by simp) ?_
    rintro ⟨template, onFailure, silent, hcommand, -⟩
    exact hdeed template onFailure silent hcommand

end HookPolicy.Policy
