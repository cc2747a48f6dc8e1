import HookPolicy.Proofs.Shell.Shapes

/-!
# Characters around placeholders

A template is refused for a character that stands somewhere before or behind a placeholder, and each
shape says how far away the character may be. Between a semicolon or a redirection and a placeholder
behind it, all blanks may stand, line ends too. Everywhere else a shape reaches as far as the line,
and a line end hides what is behind it (`defects_around_placeholder`, `line_end_hides_shapes`).
-/

namespace HookPolicy.Shell

/-- A text without the end of a line. -/
def OneLine (cs : List Char) : Prop := ∀ c ∈ cs, (c != '\n') = true

def Blanks (cs : List Char) : Prop := ∀ c ∈ cs, Text.isBlank c = true

instance (cs : List Char) : Decidable (OneLine cs) := List.decidableBAll _ cs

instance (cs : List Char) : Decidable (Blanks cs) := List.decidableBAll _ cs

def openings : List Char := ['\x7b', '\x7b']

/-- The parts of a template that are dangerous, each with what is said of it. -/
inductive Dangerous : List Char → String → Prop
  | substitution : Dangerous ['$', '('] "Command substitution $() is not allowed"
  | backquote : Dangerous ['\x60'] "Backtick command substitution is not allowed"
  | pipeBefore {gap : List Char} : OneLine gap →
      Dangerous ('|' :: (gap ++ openings)) "Pipe before placeholder is dangerous"
  | pipeBehind {key gap : List Char} : OneLine key → OneLine gap →
      Dangerous (slotText key ++ (gap ++ ['|'])) "Pipe after placeholder is dangerous"
  | semicolonBefore {gap : List Char} : Blanks gap →
      Dangerous (';' :: (gap ++ openings)) "Semicolon before placeholder is dangerous"
  | semicolonBehind {key gap between : List Char} {c : Char} : OneLine key → OneLine gap →
      Blanks between → Text.isWord c = true →
      Dangerous (slotText key ++ (gap ++ ';' :: (between ++ [c])))
        "Semicolon after placeholder with command is dangerous"
  | redirectBefore {gap : List Char} : Blanks gap →
      Dangerous ('>' :: (gap ++ openings)) "Redirect to placeholder is dangerous"
  | redirectBehind {key gap : List Char} : OneLine key → OneLine gap →
      Dangerous (slotText key ++ (gap ++ ['>'])) "Redirect after placeholder is dangerous"

variable {steps : List Step} {message template : String} {us : List Char}

theorem spans_text {w : List Char} :
    Spans (.text w :: steps) us ↔ ∃ vs, us = w ++ vs ∧ Spans steps vs := by
  simp [Spans, Step.Takes]

theorem spans_many {p : Char → Bool} : Spans (.many p :: steps) us ↔
    ∃ gap vs, us = gap ++ vs ∧ (∀ c ∈ gap, p c = true) ∧ Spans steps vs := Iff.rfl

theorem spans_one {p : Char → Bool} :
    Spans (.one p :: steps) us ↔ ∃ c vs, us = c :: vs ∧ p c = true ∧ Spans steps vs := by
  constructor
  · rintro ⟨_, vs, rfl, ⟨c, hc, rfl⟩, hvs⟩
    exact ⟨c, vs, rfl, hc, hvs⟩
  · rintro ⟨c, vs, rfl, hc, hvs⟩
    exact ⟨[c], vs, rfl, ⟨c, hc, rfl⟩, hvs⟩

theorem spans_nil : Spans [] us ↔ us = [] := Iff.rfl

theorem dangerous_of_spans (h : (steps, message) ∈ templateShapes) (hus : Spans steps us) :
    Dangerous us message := by
  simp only [templateShapes, List.mem_cons, List.not_mem_nil, or_false, Prod.mk.injEq] at h
  rcases h with ⟨rfl, rfl⟩ | ⟨rfl, rfl⟩ | ⟨rfl, rfl⟩ | ⟨rfl, rfl⟩ | ⟨rfl, rfl⟩ | ⟨rfl, rfl⟩ |
    ⟨rfl, rfl⟩ | ⟨rfl, rfl⟩
  all_goals simp only [lit, line, blanks, wordChar, openBraces, closeBraces, spans_text, spans_many,
    spans_one, spans_nil] at hus
  · obtain ⟨_, rfl, rfl⟩ := hus
    exact .substitution
  · obtain ⟨_, rfl, rfl⟩ := hus
    exact .backquote
  · obtain ⟨_, rfl, gap, _, rfl, hgap, _, rfl, rfl⟩ := hus
    exact .pipeBefore hgap
  · obtain ⟨_, rfl, key, _, rfl, hkey, _, rfl, gap, _, rfl, hgap, _, rfl, rfl⟩ := hus
    simpa [slotText] using Dangerous.pipeBehind hkey hgap
  · obtain ⟨_, rfl, gap, _, rfl, hgap, _, rfl, rfl⟩ := hus
    exact .semicolonBefore hgap
  · obtain ⟨_, rfl, key, _, rfl, hkey, _, rfl, gap, _, rfl, hgap, _, rfl, between, _, rfl, hbetween, c,
      _, rfl, hc, rfl⟩ := hus
    simpa [slotText] using Dangerous.semicolonBehind hkey hgap hbetween hc
  · obtain ⟨_, rfl, gap, _, rfl, hgap, _, rfl, rfl⟩ := hus
    exact .redirectBefore hgap
  · obtain ⟨_, rfl, key, _, rfl, hkey, _, rfl, gap, _, rfl, hgap, _, rfl, rfl⟩ := hus
    simpa [slotText] using Dangerous.redirectBehind hkey hgap

theorem spans_behind {key rest : List Char} (hkey : OneLine key) (h : Spans steps rest) :
    Spans (openBraces :: line :: closeBraces :: steps) (slotText key ++ rest) := by
  refine spans_text.2 ⟨_, rfl, spans_many.2 ⟨key, ['\x7d', '\x7d'] ++ rest, ?_, hkey, ?_⟩⟩
  · simp
  · exact spans_text.2 ⟨_, rfl, h⟩

theorem Dangerous.exists_spans (h : Dangerous us message) :
    ∃ steps, (steps, message) ∈ templateShapes ∧ Spans steps us := by
  cases h with
  | substitution => exact ⟨_, .head _, _, _, rfl, rfl, rfl⟩
  | backquote => exact ⟨_, .tail _ (.head _), _, _, rfl, rfl, rfl⟩
  | pipeBefore hgap =>
    refine ⟨_, List.mem_of_getElem? (i := 2) rfl, spans_text.2 ⟨_, rfl, _, _, rfl, hgap, ?_⟩⟩
    exact spans_text.2 ⟨[], rfl, rfl⟩
  | pipeBehind hkey hgap =>
    refine ⟨_, List.mem_of_getElem? (i := 3) rfl, spans_behind hkey ⟨_, _, rfl, hgap, ?_⟩⟩
    exact spans_text.2 ⟨[], rfl, rfl⟩
  | semicolonBefore hgap =>
    refine ⟨_, List.mem_of_getElem? (i := 4) rfl, spans_text.2 ⟨_, rfl, _, _, rfl, hgap, ?_⟩⟩
    exact spans_text.2 ⟨[], rfl, rfl⟩
  | semicolonBehind hkey hgap hbetween hc =>
    refine ⟨_, List.mem_of_getElem? (i := 5) rfl, spans_behind hkey ⟨_, _, rfl, hgap, ?_⟩⟩
    exact spans_text.2 ⟨_, rfl, _, _, rfl, hbetween, spans_one.2 ⟨_, [], rfl, hc, rfl⟩⟩
  | redirectBefore hgap =>
    refine ⟨_, List.mem_of_getElem? (i := 6) rfl, spans_text.2 ⟨_, rfl, _, _, rfl, hgap, ?_⟩⟩
    exact spans_text.2 ⟨[], rfl, rfl⟩
  | redirectBehind hkey hgap =>
    refine ⟨_, List.mem_of_getElem? (i := 7) rfl, spans_behind hkey ⟨_, _, rfl, hgap, ?_⟩⟩
    exact spans_text.2 ⟨[], rfl, rfl⟩

/-- A template has the defects of its dangerous parts and no other ones. -/
theorem mem_defects_iff :
    message ∈ defects template ↔ ∃ us, us <:+: template.toList ∧ Dangerous us message := by
  rw [defects, mem_messagesShown]
  constructor
  · rintro ⟨steps, hshape, us, hin, hus⟩
    exact ⟨us, hin, dangerous_of_spans hshape hus⟩
  · rintro ⟨us, hin, hus⟩
    obtain ⟨steps, hshape, hspans⟩ := hus.exists_spans
    exact ⟨steps, hshape, us, hin, hspans⟩

/-! ## Around a placeholder -/

/-- A placeholder of the template, with what stands before it and what stands behind it. -/
def SlotAt (template : String) (before key behind : List Char) : Prop :=
  ∃ cs, template.toList = before ++ cs ∧ slot? cs = some (key, behind)

/-- A character that would act on the value of a placeholder. How far it may be from the placeholder
is left open, but where only blanks may stand between. -/
inductive Endangered (near : List Char → Prop) (before key behind : List Char) : Prop
  | pipeBefore (far gap : List Char) :
      before = far ++ '|' :: gap → near gap → Endangered near before key behind
  | pipeBehind (gap far : List Char) :
      behind = gap ++ '|' :: far → near (key ++ gap) → Endangered near before key behind
  | redirectBefore (far gap : List Char) :
      before = far ++ '>' :: gap → Blanks gap → Endangered near before key behind
  | redirectBehind (gap far : List Char) :
      behind = gap ++ '>' :: far → near (key ++ gap) → Endangered near before key behind
  | semicolonBefore (far gap : List Char) :
      before = far ++ ';' :: gap → Blanks gap → Endangered near before key behind
  | semicolonBehind (gap between far : List Char) (c : Char) :
      behind = gap ++ ';' :: (between ++ c :: far) → Blanks between → Text.isWord c = true →
      near (key ++ gap) → Endangered near before key behind

theorem eq_slotText_of_slot? {cs key behind : List Char} (h : slot? cs = some (key, behind)) :
    cs = slotText key ++ behind := by
  unfold slot? at h
  split at h
  · rename_i cs
    have hcs := List.takeWhile_append_dropWhile (p := (· != '\x7d')) (l := cs)
    split at h
    · cases h
    · rename_i hrest _
      cases h
      rw [hrest] at hcs
      simpa [slotText] using hcs.symm
    · cases h
  · cases h

theorem defects_ne_nil_of_dangerous (hus : Dangerous us message) (h : us <:+: template.toList) :
    defects template ≠ [] :=
  List.ne_nil_of_mem (mem_defects_iff.2 ⟨us, h, hus⟩)

theorem OneLine.of_append {cs ds : List Char} (h : OneLine (cs ++ ds)) : OneLine cs ∧ OneLine ds :=
  List.forall_mem_append.1 h

variable {before key behind : List Char}

/-- What ends in the braces of a placeholder is part of the template. -/
theorem SlotAt.infix_before (h : SlotAt template before key behind) {far cs : List Char}
    (hbefore : before = far ++ cs) : cs ++ openings <:+: template.toList := by
  obtain ⟨slot, htemplate, hslot⟩ := h
  rw [htemplate, hbefore, eq_slotText_of_slot? hslot]
  exact ⟨far, key ++ ['\x7d', '\x7d'] ++ behind, by simp [slotText, openings]⟩

/-- What begins with a placeholder is part of the template. -/
theorem SlotAt.infix_behind (h : SlotAt template before key behind) {cs far : List Char}
    (hbehind : behind = cs ++ far) : slotText key ++ cs <:+: template.toList := by
  obtain ⟨slot, htemplate, hslot⟩ := h
  rw [htemplate, eq_slotText_of_slot? hslot, hbehind]
  exact ⟨before, far, by simp⟩

theorem SlotAt.defects_ne_nil (h : SlotAt template before key behind)
    (hdanger : Endangered OneLine before key behind) : defects template ≠ [] := by
  cases hdanger with
  | pipeBefore far gap hbefore hgap =>
    exact defects_ne_nil_of_dangerous (.pipeBefore hgap) (h.infix_before hbefore)
  | redirectBefore far gap hbefore hgap =>
    exact defects_ne_nil_of_dangerous (.redirectBefore hgap) (h.infix_before hbefore)
  | semicolonBefore far gap hbefore hgap =>
    exact defects_ne_nil_of_dangerous (.semicolonBefore hgap) (h.infix_before hbefore)
  | pipeBehind gap far hbehind hnear =>
    have hsplit : behind = (gap ++ ['|']) ++ far := by simp [hbehind]
    obtain ⟨hkey, hgap⟩ := hnear.of_append
    exact defects_ne_nil_of_dangerous (.pipeBehind hkey hgap) (h.infix_behind hsplit)
  | redirectBehind gap far hbehind hnear =>
    have hsplit : behind = (gap ++ ['>']) ++ far := by simp [hbehind]
    obtain ⟨hkey, hgap⟩ := hnear.of_append
    exact defects_ne_nil_of_dangerous (.redirectBehind hkey hgap) (h.infix_behind hsplit)
  | semicolonBehind gap between far c hbehind hbetween hc hnear =>
    have hsplit : behind = (gap ++ ';' :: (between ++ [c])) ++ far := by simp [hbehind]
    obtain ⟨hkey, hgap⟩ := hnear.of_append
    exact defects_ne_nil_of_dangerous (.semicolonBehind hkey hgap hbetween hc)
      (h.infix_behind hsplit)

/-- A template has the defects of its dangerous parts and no other ones. So it has one when it holds
the beginning of a command substitution, and when a pipe, a redirection or a semicolon endangers a
placeholder of it on one line. -/
theorem defects_around_placeholder (template : String) :
    (∀ message, message ∈ defects template ↔
      ∃ us, us <:+: template.toList ∧ Dangerous us message) ∧
    (['$', '('] <:+: template.toList ∨ '\x60' ∈ template.toList → defects template ≠ []) ∧
    ∀ before key behind, SlotAt template before key behind →
      Endangered OneLine before key behind → defects template ≠ [] := by
  refine ⟨fun message => mem_defects_iff, ?_, fun before key behind h => h.defects_ne_nil⟩
  rintro (hin | hmem)
  · exact defects_ne_nil_of_dangerous .substitution hin
  · exact defects_ne_nil_of_dangerous .backquote ((List.singleton_infix_iff _ _).2 hmem)

/-- A pipe on the line of the first placeholder, behind another one. -/
def pipedTemplate : String := "ls\ncat \x7b\x7bpath\x7d\x7d \x7b\x7btool\x7d\x7d | sh\ndate"

theorem defects_around_placeholder_piped :
    SlotAt pipedTemplate "ls\ncat ".toList "path".toList " \x7b\x7btool\x7d\x7d | sh\ndate".toList ∧
    Endangered OneLine "ls\ncat ".toList "path".toList
      " \x7b\x7btool\x7d\x7d | sh\ndate".toList ∧
    defects pipedTemplate ≠ [] := by
  have hslot : SlotAt pipedTemplate "ls\ncat ".toList "path".toList
      " \x7b\x7btool\x7d\x7d | sh\ndate".toList := ⟨_, rfl, by decide⟩
  have hpipe : Endangered OneLine "ls\ncat ".toList "path".toList
      " \x7b\x7btool\x7d\x7d | sh\ndate".toList :=
    .pipeBehind " \x7b\x7btool\x7d\x7d ".toList " sh\ndate".toList rfl (by decide)
  exact ⟨hslot, hpipe, (defects_around_placeholder pipedTemplate).2.2 _ _ _ hslot hpipe⟩

/-- A template with an endangered placeholder and without defects. -/
def Overlooked (before key behind : String) : Prop :=
  SlotAt (before ++ "\x7b\x7b" ++ key ++ "\x7d\x7d" ++ behind) before.toList key.toList
    behind.toList ∧
  Endangered (fun _ => True) before.toList key.toList behind.toList ∧
  defects (before ++ "\x7b\x7b" ++ key ++ "\x7d\x7d" ++ behind) = []

/-- A line end between a placeholder and a pipe, a redirection or a semicolon hides it, also where
the shell goes on reading the same command, and so does a line end in the key. -/
theorem line_end_hides_shapes :
    Overlooked "cat " "path" " \\\n| sh" ∧
    Overlooked "ls |\nxargs rm " "path" "" ∧
    Overlooked "cat " "path" " \\\n> out" ∧
    Overlooked "cat " "path" " \\\n; rm out" ∧
    Overlooked "cat " "a\nb" " | sh" := by
  refine ⟨⟨⟨_, rfl, by decide⟩, ?_, by decide +kernel⟩, ⟨⟨_, rfl, by decide⟩, ?_, by decide +kernel⟩,
    ⟨⟨_, rfl, by decide⟩, ?_, by decide +kernel⟩, ⟨⟨_, rfl, by decide⟩, ?_, by decide +kernel⟩,
    ⟨⟨_, rfl, by decide⟩, ?_, by decide +kernel⟩⟩
  · exact .pipeBehind " \\\n".toList " sh".toList rfl trivial
  · exact .pipeBefore "ls ".toList "\nxargs rm ".toList rfl trivial
  · exact .redirectBehind " \\\n".toList " out".toList rfl trivial
  · exact .semicolonBehind " \\\n".toList " ".toList "m out".toList 'r' rfl (by decide) (by decide)
      trivial
  · exact .pipeBehind " ".toList " sh".toList rfl trivial

end HookPolicy.Shell
