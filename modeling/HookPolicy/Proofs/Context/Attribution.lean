import HookPolicy.Proofs.Context.Priority

/-!
# The source of a context

A gathered context names the first source that was asked and had anything to hand over. This is the
first one that tells something about the operation, unless a source before it hands over nothing but
nulls, or the arguments are the only ones there and tell nothing.
-/

namespace HookPolicy.Context

open Fields

variable {s : Setting} {o : Origin} {c : Context} {fields input args : Fields}

/-- Some field other than source and clock has a value. -/
def Tells (fields : Fields) : Prop :=
  ∃ f ∈ fields, f.1 ≠ "source" ∧ f.1 ≠ "timestamp" ∧ f.2.isNull = false

instance (fields : Fields) : Decidable (Tells fields) :=
  inferInstanceAs (Decidable (∃ f ∈ fields, _))

/-- The first source that tells something about the operation. -/
def tellingSource (o : Origin) (input args : Fields) : Option Source :=
  if Tells input then some .stdin
  else if Tells o.envGiven then some .env
  else if Tells args then some .args
  else none

/-- A source is asked and tells nothing about the operation: standard input, although it has fields
to hand over, or the arguments, although there are some and no source comes before them. -/
def AskedInVain (o : Origin) (input args : Fields) : Prop :=
  (input ≠ [] ∧ ¬ Tells input) ∨
    (input = [] ∧ (o.env.lookup (variableName "TOOL")).getD "" = "" ∧ o.args ≠ [] ∧ ¬ Tells args)

theorem Tells.ne_nil (h : Tells fields) : fields ≠ [] := by
  obtain ⟨f, hf, -⟩ := h
  exact List.ne_nil_of_mem hf

/-- The environment tells the tool, or it is not asked. -/
theorem tells_envGiven_iff (o : Origin) :
    Tells o.envGiven ↔ (o.env.lookup (variableName "TOOL")).getD "" ≠ "" := by
  rw [Origin.envGiven]
  constructor
  · intro htells hempty
    rw [if_pos hempty] at htells
    exact htells.ne_nil rfl
  · intro hsome
    obtain ⟨tool, htool⟩ : ∃ tool, o.env.lookup (variableName "TOOL") = some tool := by
      rw [← Option.ne_none_iff_exists']
      intro hnone
      exact hsome (by rw [hnone]; rfl)
    have hget : get? (envFields o.env) "tool" = some (.string tool) := by
      rw [get?_envFields_tool, htool]
      rfl
    rw [if_neg hsome]
    have hnames : "tool" ≠ "source" ∧ "tool" ≠ "timestamp" := by decide
    exact ⟨_, mem_of_get? hget, hnames.1, hnames.2, rfl⟩

theorem ne_nil_of_tells_args (hargs : argFields o.args = .ok args) (h : Tells args) :
    o.args ≠ [] := by
  intro hnil
  rw [hnil] at hargs
  cases hargs
  exact h.ne_nil rfl

theorem askedSource_eq_tellingSource_iff (hargs : argFields o.args = .ok args) :
    askedSource o input = tellingSource o input args ↔ ¬ AskedInVain o input args := by
  have hgiven := ne_nil_of_tells_args hargs
  simp only [askedSource, tellingSource, AskedInVain, tells_envGiven_iff]
  rcases eq_or_ne input [] with rfl | hempty
  · have hnil : ¬ Tells [] := fun htells => htells.ne_nil rfl
    by_cases htool : (o.env.lookup (variableName "TOOL")).getD "" = ""
    · by_cases htells : Tells args
      · simp [hnil, htool, htells, hgiven htells]
      · by_cases hnone : o.args = [] <;> simp [hnil, htool, htells, hnone]
    · simp [hnil, htool]
  · by_cases htells : Tells input
    · simp [hempty, htells]
    · -- standard input is named, although it tells nothing
      rw [if_pos hempty, if_neg htells]
      refine iff_of_false ?_ (not_not.2 (.inl ⟨hempty, htells⟩))
      split_ifs <;> nofun

theorem source_of_check {source : Option Source} {dir : String}
    (h : check s (normalFields dir (completed o fields source)) = .good c) : c.source = source := by
  have hsource : get? (normalFields dir (completed o fields source)) "source" =
      some (.ofOption (source.map Source.word)) := by
    rw [get?_normalFields_of_notMem _ _ (by decide), get?_completed, if_pos rfl]
  have hgood := (checks_of_check h).source
  rw [checkField_source hsource] at hgood
  exact (Checked.good.inj hgood).symm

/-- A gathered context names the first source that was asked and had anything to hand over, which
is the first that tells something exactly when no source was asked in vain. -/
theorem gather_source (h : gather s o = .ok c) :
    ∃ input args, o.inputFields = .ok input ∧ argFields o.args = .ok args ∧
      c.source = askedSource o input ∧
      (c.source = tellingSource o input args ↔ ¬ AskedInVain o input args) := by
  obtain ⟨merged, source, hmerged, hc⟩ := gather_eq_ok h
  obtain ⟨input, args, hinput, hargs, rfl, rfl⟩ := mergedFields_eq_ok hmerged
  have hsource : c.source = askedSource o input := source_of_check hc
  refine ⟨input, args, hinput, hargs, hsource, ?_⟩
  rw [hsource]
  exact askedSource_eq_tellingSource_iff hargs

def nullOrigin : Origin where
  input := some (.text "\x7b\"tool\": null\x7d")
  wait := 5000
  env := []
  args := ["Bash"]
  cwd := none

def nullContext : Context where
  timestamp := rootSetting.now
  source := some .stdin
  tool := some "Bash"
  command := none
  path := none
  content := none
  exitCode := none
  success := none
  cwd := "/"
  sessionId := none
  params := none
  extras := []

theorem gather_nullOrigin : gather rootSetting nullOrigin = .ok nullContext := by
  cbv

theorem inputFields_nullOrigin : nullOrigin.inputFields = .ok [("tool", .null)] := by
  cbv

theorem argFields_nullOrigin : argFields nullOrigin.args = .ok [("tool", .string "Bash")] := by
  cbv

theorem gather_source_mixed :
    gather rootSetting mixedOrigin = .ok mixedContext ∧
      mixedContext.source = tellingSource mixedOrigin mixedInput mixedArgs ∧
      gather rootSetting nullOrigin = .ok nullContext ∧
      nullContext.source ≠
        tellingSource nullOrigin [("tool", .null)] [("tool", .string "Bash")] := by
  refine ⟨gather_mixedOrigin, ?_, gather_nullOrigin, ?_⟩
  · obtain ⟨input, args, hinput, hargs, -, hsource⟩ := gather_source gather_mixedOrigin
    rw [inputFields_mixedOrigin] at hinput
    rw [argFields_mixedOrigin] at hargs
    cases hinput
    cases hargs
    have htells : Tells mixedInput := by decide
    rw [hsource]
    rintro (⟨-, hvain⟩ | ⟨hempty, -⟩)
    · exact hvain htells
    · exact htells.ne_nil hempty
  · obtain ⟨input, args, hinput, hargs, -, hsource⟩ := gather_source gather_nullOrigin
    rw [inputFields_nullOrigin] at hinput
    rw [argFields_nullOrigin] at hargs
    cases hinput
    cases hargs
    rw [ne_eq, hsource, not_not]
    exact .inl ⟨List.cons_ne_nil _ _, by decide⟩

/-- A null on standard input is enough to be named, although the arguments tell the tool. -/
theorem gather_names_silent_input :
    gather rootSetting nullOrigin = .ok nullContext ∧ nullContext.source = some .stdin ∧
      nullOrigin.inputFields = .ok [("tool", .null)] ∧
      argFields nullOrigin.args = .ok [("tool", .string "Bash")] ∧
      tellingSource nullOrigin [("tool", .null)] [("tool", .string "Bash")] = some .args :=
  ⟨gather_nullOrigin, rfl, inputFields_nullOrigin, argFields_nullOrigin, by decide⟩

end HookPolicy.Context
