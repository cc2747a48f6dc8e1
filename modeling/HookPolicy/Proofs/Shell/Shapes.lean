import HookPolicy.Proofs.Text.Finding
import HookPolicy.Shell.Safety

/-!
# Where a shape shows

The steps of a shape take stretches of a text one after the other, and a text shows the shape when
they span some part of it. What stands around that part makes no difference, so a text that is put
into another one keeps all its findings (`findings_embedded`).
-/

namespace HookPolicy.Shell

/-- The stretches that a step may take. -/
def Step.Takes : Step → List Char → Prop
  | .text w, cs => cs = w
  | .one p, cs => ∃ c, p c = true ∧ cs = [c]
  | .many p, cs => ∀ c ∈ cs, p c = true
  | .maybe w, cs => cs = w ∨ cs = []

/-- The steps take the whole of a stretch, one after the other. -/
def Spans : List Step → List Char → Prop
  | [], cs => cs = []
  | step :: steps, cs => ∃ us vs, cs = us ++ vs ∧ step.Takes us ∧ Spans steps vs

variable {step : Step} {steps : List Step} {next : List Char → Bool} {p : Char → Bool}
variable {w cs ds : List Char}

theorem textThen_iff : textThen w next cs = true ↔ ∃ vs, cs = w ++ vs ∧ next vs = true := by
  rw [textThen]
  cases hrest : Text.rest? w cs with
  | none =>
    refine iff_of_false Bool.false_ne_true fun ⟨vs, hcs, _⟩ => ?_
    rw [Text.rest?_eq_some_iff.2 hcs] at hrest
    cases hrest
  | some rest =>
    obtain rfl := Text.rest?_eq_some_iff.1 hrest
    simp

theorem manyThen_iff : manyThen p next cs = true ↔
    ∃ us vs, cs = us ++ vs ∧ (∀ c ∈ us, p c = true) ∧ next vs = true := by
  induction cs with
  | nil => simp [manyThen]
  | cons c cs ih =>
    rw [manyThen, Bool.or_eq_true, Bool.and_eq_true, ih]
    constructor
    · rintro (hhere | ⟨hc, us, vs, rfl, hus, hvs⟩)
      · exact ⟨[], c :: cs, rfl, nofun, hhere⟩
      · exact ⟨c :: us, vs, rfl, List.forall_mem_cons.2 ⟨hc, hus⟩, hvs⟩
    · rintro ⟨us, vs, hsplit, hus, hvs⟩
      cases us with
      | nil =>
        rw [List.nil_append] at hsplit
        exact .inl (hsplit ▸ hvs)
      | cons d us =>
        obtain ⟨rfl, rfl⟩ := List.cons.inj hsplit
        obtain ⟨hc, hus⟩ := List.forall_mem_cons.1 hus
        exact .inr ⟨hc, us, vs, rfl, hus, hvs⟩

theorem Step.thenFits_iff : step.thenFits next cs = true ↔
    ∃ us vs, cs = us ++ vs ∧ step.Takes us ∧ next vs = true := by
  cases step with
  | text w =>
    rw [thenFits, textThen_iff]
    simp [Takes]
  | one p =>
    cases cs with
    | nil => simp [thenFits, Takes]
    | cons c cs =>
      rw [thenFits, Bool.and_eq_true]
      constructor
      · rintro ⟨hc, hnext⟩
        exact ⟨[c], cs, rfl, ⟨c, hc, rfl⟩, hnext⟩
      · rintro ⟨us, vs, hsplit, ⟨d, hd, rfl⟩, hnext⟩
        obtain ⟨rfl, rfl⟩ := List.cons.inj hsplit
        exact ⟨hd, hnext⟩
  | many p => exact manyThen_iff
  | maybe w =>
    rw [thenFits, Bool.or_eq_true, textThen_iff]
    constructor
    · rintro (⟨vs, hcs, hnext⟩ | hnext)
      · exact ⟨w, vs, hcs, .inl rfl, hnext⟩
      · exact ⟨[], cs, rfl, .inr rfl, hnext⟩
    · rintro ⟨us, vs, rfl, rfl | rfl, hnext⟩
      · exact .inl ⟨vs, rfl, hnext⟩
      · exact .inr hnext

theorem fits_iff : fits steps cs = true ↔ ∃ us vs, cs = us ++ vs ∧ Spans steps us := by
  induction steps generalizing cs with
  | nil => simp [fits, Spans]
  | cons step steps ih =>
    rw [fits, Step.thenFits_iff]
    constructor
    · rintro ⟨us, behind, rfl, hus, hfits⟩
      obtain ⟨vs, ws, rfl, hvs⟩ := ih.1 hfits
      exact ⟨us ++ vs, ws, (List.append_assoc us vs ws).symm, us, vs, rfl, hus, hvs⟩
    · rintro ⟨_, ws, rfl, us, vs, rfl, hus, hvs⟩
      exact ⟨us, vs ++ ws, List.append_assoc us vs ws, hus, ih.2 ⟨vs, ws, rfl, hvs⟩⟩

/-- A text shows a shape when the steps span a part of it. -/
theorem shows_iff : shows steps cs = true ↔ ∃ us, us <:+: cs ∧ Spans steps us := by
  induction cs with
  | nil =>
    rw [shows, fits_iff]
    simp
  | cons c cs ih =>
    rw [shows, Bool.or_eq_true, fits_iff, ih]
    constructor
    · rintro (⟨us, vs, hsplit, hus⟩ | ⟨us, hin, hus⟩)
      · exact ⟨us, hsplit ▸ (List.prefix_append us vs).isInfix, hus⟩
      · exact ⟨us, List.infix_cons hin, hus⟩
    · rintro ⟨us, hin, hus⟩
      rcases List.infix_cons_iff.1 hin with ⟨vs, hsplit⟩ | hin
      · exact .inl ⟨us, vs, hsplit.symm, hus⟩
      · exact .inr ⟨us, hin, hus⟩

theorem shows_of_infix (h : cs <:+: ds) (hshows : shows steps cs = true) :
    shows steps ds = true := by
  obtain ⟨us, hin, hus⟩ := shows_iff.1 hshows
  exact shows_iff.2 ⟨us, hin.trans h, hus⟩

/-! ## Findings -/

variable {shapes : List (List Step × String)} {message : String}

theorem mem_messagesShown {text : String} : message ∈ messagesShown shapes text ↔
    ∃ steps, (steps, message) ∈ shapes ∧ ∃ us, us <:+: text.toList ∧ Spans steps us := by
  simp [messagesShown, shows_iff]

theorem messagesShown_sublist {inner outer : String} (h : inner.toList <:+: outer.toList) :
    (messagesShown shapes inner).Sublist (messagesShown shapes outer) :=
  (List.monotone_filter_right shapes fun _ => shows_of_infix h).map _

theorem infix_embedded (before text after : String) :
    text.toList <:+: (before ++ text ++ after).toList := by
  rw [String.toList_append, String.toList_append]
  exact ⟨before.toList, after.toList, rfl⟩

/-- A text keeps its findings, in their order, whatever stands before and behind it. So a template
with a defect gives no command inside any other one, and a command that is warned of is warned of
inside any other one. -/
theorem findings_embedded (before text after : String) :
    (defects text).Sublist (defects (before ++ text ++ after)) ∧
    (warnings text).Sublist (warnings (before ++ text ++ after)) ∧
    (defects text ≠ [] → ∀ values,
      substitute (before ++ text ++ after) values = ⟨none, defects (before ++ text ++ after)⟩) ∧
    (warnings text ≠ [] → warnings (before ++ text ++ after) ≠ []) := by
  have hin := infix_embedded before text after
  have hdefects : (defects text).Sublist (defects (before ++ text ++ after)) :=
    messagesShown_sublist hin
  have hwarnings : (warnings text).Sublist (warnings (before ++ text ++ after)) :=
    messagesShown_sublist hin
  refine ⟨hdefects, hwarnings, fun hne values => ?_, fun hne hnone => ?_⟩
  · rw [substitute]
    split
    · rename_i hnone
      rw [hnone] at hdefects
      exact absurd (List.sublist_nil.1 hdefects) hne
    · rfl
  · rw [hnone] at hwarnings
    exact hne (List.sublist_nil.1 hwarnings)

def download : String := "curl \x7b\x7bpath\x7d\x7d | sh"

theorem findings_embedded_download :
    (defects download ≠ [] ∧ warnings download ≠ []) ∧
    (substitute ("true;\n" ++ download ++ " # \x7b\x7btool\x7d\x7d") fun _ => some []).command
      = none ∧
    warnings ("true;\n" ++ download ++ " # \x7b\x7btool\x7d\x7d") ≠ [] := by
  have hdefects : defects download ≠ [] := by decide +kernel
  have hwarnings : warnings download ≠ [] := by decide +kernel
  obtain ⟨-, -, hrefused, hwarned⟩ :=
    findings_embedded "true;\n" download " # \x7b\x7btool\x7d\x7d"
  exact ⟨⟨hdefects, hwarnings⟩, by rw [hrefused hdefects], hwarned hwarnings⟩

end HookPolicy.Shell
