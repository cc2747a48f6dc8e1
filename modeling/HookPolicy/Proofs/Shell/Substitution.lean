import HookPolicy.Dispatch.Plan
import HookPolicy.Proofs.Shell.Refusal
import Mathlib

/-!
# Commands from templates

A template with an outline gives the same words, operators and expansions for all values. A template
without one may be free of defects and still let a value out of its place.
-/

namespace HookPolicy.Shell

def quoted (texts : List Char → Option (List Char)) (key : List Char) : Option (List Char) :=
  (texts key).map quoteChars

/-- The command that a template gives for some texts is read as an outline with the texts in it. -/
def ReadsAs (template : String) (texts : List Char → Option (List Char))
    (form : Except SyntaxFault (List Cell)) : Prop :=
  ∃ line, (substitute template (quoted texts)).command = some line ∧
    read line.toList = fillCells (fun key => (texts key).getD []) form

theorem substitute_of_isSafe {template : String} {values : List Char → Option (List Char)}
    (h : (substitute template values).isSafe = true) :
    (substitute template values).command
        = some (String.ofList (fillAll values (pieces template))) ∧
      ∀ key, .slot key ∈ pieces template → (values key).isSome := by
  unfold substitute at h ⊢
  split at h
  · refine ⟨rfl, fun key hin => ?_⟩
    cases hvalue : values key with
    | some text => rfl
    | none =>
      have hkey : slotText key ∈ missingAll values (pieces template) :=
        List.mem_filterMap.2 ⟨_, hin, by simp [Piece.missing?, hvalue]⟩
      have hne : (missingAll values (pieces template)).isEmpty = false := by
        simpa using List.ne_nil_of_mem hkey
      simp [substituteUnchecked, Substitution.isSafe, hne] at h
  · simp [Substitution.isSafe] at h

theorem readsAs_of_outline {template : String} {form : Except SyntaxFault (List Cell)}
    (hform : outline template = some form) {texts : List Char → Option (List Char)}
    (hsafe : (substitute template (quoted texts)).isSafe = true) : ReadsAs template texts form := by
  obtain ⟨last, hlast, hfinish⟩ := Option.bind_eq_some_iff.1 hform
  obtain ⟨hcommand, hknown⟩ := substitute_of_isSafe hsafe
  have hq : ∀ key, .slot key ∈ pieces template →
      quoted texts key = some (quoteChars ((texts key).getD [])) := by
    intro key hin
    have hsome := hknown key hin
    cases htext : texts key with
    | none => simp [quoted, htext] at hsome
    | some text => simp [quoted, htext]
  have hlexer := congrArg Lexer.finish (Outliner.fill_takeAll hq hlast)
  refine ⟨_, hcommand, ?_⟩
  rw [String.toList_ofList, read]
  exact hlexer.trans (Outliner.fill_finish hfinish)

theorem keys_of_outline {template : String} {cells : List Cell}
    (hform : outline template = some (.ok cells)) :
    cells.flatMap Cell.keys = (pieces template).filterMap Piece.key? := by
  obtain ⟨last, hlast, hfinish⟩ := Option.bind_eq_some_iff.1 hform
  rw [Outliner.keys_finish hfinish, Outliner.keys_takeAll hlast]
  rfl

def formatTemplate : String :=
  "prettier --write \x7b\x7bpath\x7d\x7d && echo \"$?\" \x7b\x7btool\x7d\x7d"

def plainCell (text : String) : Cell := .word (text.toList.map fun c => .bit (.plain c))

def formatCells : List Cell :=
  [plainCell "prettier", plainCell "--write", .word [.slot "path".toList], .operator ['&', '&'],
    plainCell "echo", .word [.bit .quote, .bit (.expand (.parameter ['?']) true)],
    .word [.slot "tool".toList]]

/-- What has a meaning of its own in the command that a template gives for one text in all places.
-/
def skeletonWith (template : String) (text : List Char) : Option (List Token) :=
  (substitute template (quoted fun _ => some text)).command.bind fun line =>
    (read line.toList).toOption.map (List.map Token.skeleton)

theorem ReadsAs.skeletonWith_eq {template : String} {v w : List Char}
    {form : Except SyntaxFault (List Cell)} (hv : ReadsAs template (fun _ => some v) form)
    (hw : ReadsAs template (fun _ => some w) form) :
    skeletonWith template v = skeletonWith template w := by
  obtain ⟨line, hline, hread⟩ := hv
  obtain ⟨line', hline', hread'⟩ := hw
  rw [skeletonWith, skeletonWith, hline, hline', Option.bind_some, Option.bind_some, hread, hread']
  cases form with
  | error fault => rfl
  | ok cells =>
    simp only [fillCells, Except.map, Except.toOption, Option.map_some, List.map_map]
    congr 2
    funext cell
    exact skeleton_fill _ _ cell

/-- A template without defects whose commands for two texts are not read as one outline. -/
def LetsOut (template text text' : String) : Prop :=
  defects template = [] ∧
  (substitute template (quoted fun _ => some text.toList)).isSafe = true ∧
  (substitute template (quoted fun _ => some text'.toList)).isSafe = true ∧
  ¬ ∃ form, ReadsAs template (fun _ => some text.toList) form ∧
    ReadsAs template (fun _ => some text'.toList) form

theorem letsOut_of_skeletonWith_ne {template text text' : String}
    (h : ((defects template).isEmpty &&
      (substitute template (quoted fun _ => some text.toList)).isSafe &&
      (substitute template (quoted fun _ => some text'.toList)).isSafe &&
      skeletonWith template text.toList != skeletonWith template text'.toList) = true) :
    LetsOut template text text' := by
  simp only [Bool.and_eq_true, List.isEmpty_iff, bne_iff_ne] at h
  obtain ⟨⟨⟨hdefects, hsafe⟩, hsafe'⟩, hne⟩ := h
  refine ⟨hdefects, hsafe, hsafe', ?_⟩
  rintro ⟨form, hv, hw⟩
  exact hne (hv.skeletonWith_eq hw)

end HookPolicy.Shell

namespace HookPolicy

/-! ## Commands of hooks -/

/-- What a context says for each key that a command may name. -/
def commandTexts (c : Context) (key : List Char) : Option (List Char) :=
  let text? := match String.ofList key with
    | "path" => some c.path
    | "tool" => some c.tool
    | "command" => some c.command
    | _ => none
  text?.map fun s => (s.getD "").toList

theorem commandValues_eq_quoted (c : Context) : commandValues c = Shell.quoted (commandTexts c) := by
  funext key
  rw [commandValues, Shell.quoted, commandTexts, Option.map_map]
  rfl

/-- What a hook starts is read as the outline of its template, whatever the context says. -/
theorem Dispatcher.planCommand_readsAs {d : Dispatcher} {c : Context} {h : Hook} {template : String}
    {onFailure : Action} {form : Except Shell.SyntaxFault (List Shell.Cell)}
    (hform : Shell.outline template = some form) {call : Call}
    (hplan : (d.planCommand c h template onFailure).1 = .start call) :
    ∃ line, call = .command line d.policy.settings.timeout ∧
      Shell.read line.toList = Shell.fillCells (fun key => (commandTexts c key).getD []) form := by
  rw [planCommand, commandValues_eq_quoted] at hplan
  dsimp only at hplan
  split at hplan
  · rename_i line herrors hcommand
    have hsafe : (Shell.substitute template (Shell.quoted (commandTexts c))).isSafe = true := by
      simp [Shell.Substitution.isSafe, herrors, hcommand]
    obtain ⟨line', hline, hread⟩ := Shell.readsAs_of_outline hform hsafe
    rw [hcommand] at hline
    obtain rfl := Option.some.inj hline
    cases hplan
    exact ⟨_, rfl, hread⟩
  · exact absurd hplan (by simp)

end HookPolicy
