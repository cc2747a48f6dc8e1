import HookPolicy.Proofs.Context.Priority
import HookPolicy.Proofs.Lists.Lookup
import HookPolicy.Proofs.Number.Digits

/-!
# What a handler is told

The variables that tell a handler about an operation name each field that is not null once. The
fields that the environment can give are read back from them.
-/

namespace HookPolicy.Context

open Fields

variable {c : Context}

def exportTexts (c : Context) : List (String × Option String) :=
  [("TOOL", c.tool), ("COMMAND", c.command), ("PATH", c.path), ("CONTENT", c.content),
   ("EXIT_CODE", c.exitCode.map fun n => String.ofList (Decimal.intChars n)),
   ("SUCCESS", c.success.map boolText), ("SESSION_ID", c.sessionId),
   ("TIMESTAMP", some c.timestamp.write), ("SOURCE", c.source.map Source.word),
   ("CWD", some c.cwd), ("PARAMS", c.params.map fun p => Json.write (.object p)),
   ("CONTEXT", some (Json.write c.wire))]

def exportVariable (text : String × Option String) : Option (String × String) :=
  text.2.map fun t => (variableName text.1, t)

theorem exported_eq (c : Context) : c.exported = c.exportTexts.filterMap exportVariable := rfl

theorem variableName_inj {key name : String} : variableName key = variableName name ↔ key = name :=
  String.append_right_inj "HOOKWARDEN_"

theorem exportVariable_fst (text : String × Option String) (v : String × String)
    (h : exportVariable text = some v) : v.1 = variableName text.1 := by
  obtain ⟨t, -, rfl⟩ := Option.map_eq_some_iff.1 h
  rfl

theorem exportTexts_nodup (c : Context) :
    (c.exportTexts.map fun text => variableName text.1).Nodup := by
  have hnames : ["TOOL", "COMMAND", "PATH", "CONTENT", "EXIT_CODE", "SUCCESS", "SESSION_ID",
    "TIMESTAMP", "SOURCE", "CWD", "PARAMS", "CONTEXT"].Nodup := by decide
  have hvariables := hnames.map (f := variableName) fun _ _ h => variableName_inj.1 h
  exact hvariables

theorem exported_nodup (c : Context) : (c.exported.map Prod.fst).Nodup :=
  c.exportTexts_nodup.sublist (map_fst_filterMap_sublist exportVariable_fst c.exportTexts)

theorem lookup_exported {key : String} {text : Option String} (h : (key, text) ∈ c.exportTexts) :
    c.exported.lookup (variableName key) = text := by
  have hlookup := lookup_filterMap_of_mem c.exportTexts_nodup exportVariable_fst h
  rw [exported_eq, hlookup, exportVariable, Option.map_map]
  cases text <;> rfl

theorem lookup_exported_context (c : Context) :
    c.exported.lookup (variableName "CONTEXT") = some (Json.write c.wire) :=
  lookup_exported (by simp [exportTexts])

theorem lookup_exported_params (c : Context) :
    c.exported.lookup (variableName "PARAMS") = c.params.map fun p => Json.write (.object p) :=
  lookup_exported (by simp [exportTexts])

/-- What a context gives to a field that the environment can give. -/
def givenField (c : Context) (p : String × String) : Option (String × Json) :=
  let v := value c.declared p.2
  if v.isNull then none else some (p.2, v)

/-- The fields that the environment can give, those that are null left out. -/
def givenFields (c : Context) : Fields :=
  [("tool", .ofOption c.tool), ("command", .ofOption c.command), ("path", .ofOption c.path),
    ("content", .ofOption c.content), ("exit_code", ofInt c.exitCode),
    ("success", ofBool c.success), ("session_id", .ofOption c.sessionId)].filter
    fun f => !f.2.isNull

theorem givenFields_eq (c : Context) : c.givenFields = envNames.filterMap c.givenField := by
  have hnames : [("tool", Json.ofOption c.tool), ("command", .ofOption c.command),
      ("path", .ofOption c.path), ("content", .ofOption c.content),
      ("exit_code", ofInt c.exitCode), ("success", ofBool c.success),
      ("session_id", .ofOption c.sessionId)] =
        envNames.map fun p => (p.2, value c.declared p.2) := rfl
  rw [givenFields, hnames, List.filter_map, ← List.filterMap_eq_map, List.filterMap_filter]
  apply List.filterMap_congr
  intro p _
  by_cases hnull : (value c.declared p.2).isNull = true <;> simp [givenField, hnull]

/-! ## Reading the variables -/

variable {env env' : List (String × String)} {p : String × String}

theorem envField_congr (h : env.lookup (variableName p.1) = env'.lookup (variableName p.1)) :
    envField env p = envField env' p := by
  rw [envField, envField, h]

theorem envField_of_absent (h : env.lookup (variableName p.1) = none) : envField env p = none := by
  rw [envField, h]

theorem envField_of_coerce {t : String} {v : Json}
    (h : env.lookup (variableName p.1) = some t) (hcoerce : coerce p.2 (.string t) = .ok v)
    (hv : v ≠ .null) : envField env p = some (p.2, v) := by
  rw [envField, h]
  dsimp only
  rw [hcoerce]
  exact if_neg (mt Json.isNull_iff.1 hv)

theorem coerce_text {name : String} (h : kindOf name = .text) (t : String) :
    coerce name (.string t) = .ok (.string t) := by
  rw [coerce_of_ne_null (show Json.string t ≠ .null from nofun), h]
  rfl

theorem coerce_intChars {n : Int} (h : n.natAbs < 10 ^ intDigitLimit) :
    coerce "exit_code" (.string (String.ofList (Decimal.intChars n))) = .ok (.int n) := by
  rw [coerce_of_ne_null (show Json.string _ ≠ .null from nofun), kindOf_eq_int_iff.2 rfl]
  dsimp only
  rw [intOf, String.toList_ofList, Decimal.readInt_intChars h]
  rfl

theorem coerce_boolText (b : Bool) : coerce "success" (.string (boolText b)) = .ok (.bool b) := by
  cases b <;> cbv

/-- A field that the environment can give is null and has no variable, or its variable is read back
as its value. -/
theorem exported_spec (hexit : ∀ n, c.exitCode = some n → n.natAbs < 10 ^ intDigitLimit)
    (hp : p ∈ envNames) :
    (c.exported.lookup (variableName p.1) = none ∧ value c.declared p.2 = .null) ∨
      ∃ t, c.exported.lookup (variableName p.1) = some t ∧ value c.declared p.2 ≠ .null ∧
        coerce p.2 (.string t) = .ok (value c.declared p.2) := by
  have hfield : ∀ {key : String} {text : Option String} {v : Json}, (key, text) ∈ c.exportTexts →
      (text = none ∧ v = .null ∨
        ∃ t, text = some t ∧ v ≠ .null ∧ coerce p.2 (.string t) = .ok v) →
      (c.exported.lookup (variableName key) = none ∧ v = .null) ∨
        ∃ t, c.exported.lookup (variableName key) = some t ∧ v ≠ .null ∧
          coerce p.2 (.string t) = .ok v := by
    intro key text v hmem h
    rwa [lookup_exported hmem]
  have htext : ∀ {key : String} (text : Option String), (key, text) ∈ c.exportTexts →
      kindOf p.2 = .text →
      (c.exported.lookup (variableName key) = none ∧ Json.ofOption text = .null) ∨
        ∃ t, c.exported.lookup (variableName key) = some t ∧ Json.ofOption text ≠ .null ∧
          coerce p.2 (.string t) = .ok (.ofOption text) := by
    intro key text hmem hkind
    apply hfield hmem
    cases text with
    | none => exact .inl ⟨rfl, rfl⟩
    | some t => exact .inr ⟨t, rfl, nofun, coerce_text hkind t⟩
  simp only [envNames, List.mem_cons, List.not_mem_nil, or_false] at hp
  rcases hp with rfl | rfl | rfl | rfl | rfl | rfl | rfl
  · exact htext c.tool (by simp [exportTexts]) (by decide)
  · exact htext c.command (by simp [exportTexts]) (by decide)
  · exact htext c.path (by simp [exportTexts]) (by decide)
  · exact htext c.content (by simp [exportTexts]) (by decide)
  · refine hfield (v := ofInt c.exitCode) (by simp [exportTexts]; rfl) ?_
    cases hn : c.exitCode with
    | none => exact .inl ⟨rfl, rfl⟩
    | some n => exact .inr ⟨_, rfl, nofun, coerce_intChars (hexit n hn)⟩
  · refine hfield (v := ofBool c.success) (by simp [exportTexts]; rfl) ?_
    cases c.success with
    | none => exact .inl ⟨rfl, rfl⟩
    | some b => exact .inr ⟨_, rfl, nofun, coerce_boolText b⟩
  · exact htext c.sessionId (by simp [exportTexts]) (by decide)

theorem givenField_of_null (h : value c.declared p.2 = .null) : c.givenField p = none := by
  rw [givenField, h]
  rfl

theorem givenField_of_ne_null (h : value c.declared p.2 ≠ .null) :
    c.givenField p = some (p.2, value c.declared p.2) :=
  if_neg (mt Json.isNull_iff.1 h)

theorem givenField_fst {f : String × Json} (h : c.givenField p = some f) : f.1 = p.2 := by
  by_cases hnull : value c.declared p.2 = .null
  · rw [givenField_of_null hnull] at h
    cases h
  · rw [givenField_of_ne_null hnull] at h
    cases h
    rfl

theorem envFields_exported (hexit : ∀ n, c.exitCode = some n → n.natAbs < 10 ^ intDigitLimit) :
    envFields c.exported = c.givenFields := by
  rw [envFields_eq, givenFields_eq]
  apply List.filterMap_congr
  intro p hp
  rcases exported_spec hexit hp with ⟨hlookup, hnull⟩ | ⟨t, hlookup, hgiven, hcoerce⟩
  · rw [envField_of_absent hlookup, givenField_of_null hnull]
  · rw [envField_of_coerce hlookup hcoerce hgiven, givenField_of_ne_null hgiven]

end HookPolicy.Context
