import HookPolicy.Proofs.Check.Laws
import HookPolicy.Proofs.Context.Sources

/-!
# From proper fields to a context

Bringing proper fields to normal form changes the tool, the command and the path. Reading them as a
context then fails on nothing but a time that cannot be read and a directory that is given as null.
-/

namespace HookPolicy.Context

open Fields

variable {fields : Fields} {dir name key : String}

/-! ## Normal forms -/

/-- What becomes of the value of a field, seen from a directory of the operation. -/
def normalText (processDir dir name text : String) : String :=
  let text := Text.trimmed text
  if name = "tool" then if text = "" then "" else canonicalTool text
  else if name = "path" then
    if text = "" ∨ text.startsWith "/" then text
    else absolutePath processDir (if dir = "" then processDir else dir) text
  else text

def normalNames : List String := ["tool", "command", "path"]

def normalValue (processDir dir name : String) (v : Json) : Json :=
  match v with
  | .string text => if name ∈ normalNames then .string (normalText processDir dir name text) else v
  | v => v

theorem get?_set_of_mem {v w : Json} (h : get? fields key = some v) (f : Json → Json)
    (hf : f v = w) (name : String) :
    get? (fields.set key w) name =
      if key = name then (get? fields name).map f else get? fields name := by
  rw [get?_set]
  by_cases hname : key = name
  · subst hname
    rw [if_pos rfl, if_pos rfl, h, Option.map_some, hf]
  · rw [if_neg hname, if_neg hname]

theorem get?_of_map_eq (f : Json → Json) (h : ∀ v, get? fields key = some v → f v = v)
    (name : String) :
    get? fields name = if key = name then (get? fields name).map f else get? fields name := by
  by_cases hname : key = name
  · subst hname
    rw [if_pos rfl]
    cases hget : get? fields key with
    | none => rfl
    | some v => rw [Option.map_some, h v hget]
  · rw [if_neg hname]

def trimValue : Json → Json
  | .string text => .string (Text.trimmed text)
  | v => v

theorem get?_trimField (fields : Fields) (key name : String) :
    get? (trimField fields key) name =
      if key = name then (get? fields name).map trimValue else get? fields name := by
  unfold trimField
  split
  · rename_i text hget
    exact get?_set_of_mem hget trimValue rfl name
  · rename_i hother
    apply get?_of_map_eq
    intro v hget
    cases v with
    | string text => exact absurd hget (hother text)
    | _ => rfl

def resolveValue (processDir base : String) : Json → Json
  | .string text =>
    .string (if text = "" ∨ text.startsWith "/" then text else absolutePath processDir base text)
  | v => v

theorem get?_resolveField (processDir : String) (fields : Fields) (name : String) :
    get? (resolveField processDir fields) name = if "path" = name
      then (get? fields name).map (resolveValue processDir (baseDir processDir fields))
      else get? fields name := by
  unfold resolveField
  split
  · rename_i text hget
    split
    · rename_i hstays
      have hstays : text = "" ∨ text.startsWith "/" := by simpa using hstays
      apply get?_of_map_eq
      intro v hv
      cases hget.symm.trans hv
      rw [resolveValue, if_pos hstays]
    · rename_i hmoves
      have hmoves : ¬ (text = "" ∨ text.startsWith "/") := by simpa using hmoves
      apply get?_set_of_mem hget
      rw [resolveValue, if_neg hmoves]
  · rename_i hother
    apply get?_of_map_eq
    intro v hget
    cases v with
    | string text => exact absurd hget (hother text)
    | _ => rfl

def nameValue : Json → Json
  | .string text => .string (if text = "" then "" else canonicalTool text)
  | v => v

theorem get?_nameField (fields : Fields) (name : String) :
    get? (nameField fields) name =
      if "tool" = name then (get? fields name).map nameValue else get? fields name := by
  unfold nameField
  split
  · rename_i text hget
    split
    · rename_i hempty
      have hempty : text = "" := by simpa using hempty
      apply get?_of_map_eq
      intro v hv
      cases hget.symm.trans hv
      rw [nameValue, if_pos hempty, hempty]
    · rename_i hnonempty
      have hnonempty : ¬ text = "" := by simpa using hnonempty
      apply get?_set_of_mem hget
      rw [nameValue, if_neg hnonempty]
  · rename_i hother
    apply get?_of_map_eq
    intro v hget
    cases v with
    | string text => exact absurd hget (hother text)
    | _ => rfl

def dirOf (fields : Fields) : String := (value fields "cwd").text?.getD ""

theorem baseDir_eq (processDir : String) (fields : Fields) :
    baseDir processDir fields = if dirOf fields = "" then processDir else dirOf fields := by
  unfold baseDir dirOf value
  split
  · rename_i text hget
    rw [hget]
    by_cases hempty : text = "" <;> simp [Json.text?, hempty]
  · rename_i hother
    cases hget : get? fields "cwd" with
    | none => rfl
    | some v =>
      cases v with
      | string text => exact absurd hget (hother text)
      | _ => rfl

theorem get?_trimmed (fields : Fields) (name : String) :
    get? (normalNames.foldl trimField fields) name =
      if name ∈ normalNames then (get? fields name).map trimValue else get? fields name := by
  simp only [normalNames, List.foldl_cons, List.foldl_nil, get?_trimField]
  by_cases htool : "tool" = name
  · subst htool
    simp
  · by_cases hcommand : "command" = name
    · subst hcommand
      simp
    · by_cases hpath : "path" = name
      · subst hpath
        simp
      · simp [htool, hcommand, hpath, Ne.symm htool, Ne.symm hcommand, Ne.symm hpath]

theorem normalValue_eq (processDir dir name : String) (v : Json) :
    normalValue processDir dir name v =
      if name = "tool" then nameValue (trimValue v)
      else if name = "path" then
        resolveValue processDir (if dir = "" then processDir else dir) (trimValue v)
      else if name = "command" then trimValue v
      else v := by
  cases v with
  | string text =>
    rw [normalValue, normalText]
    by_cases htool : name = "tool"
    · simp [htool, normalNames, nameValue, trimValue]
    · by_cases hpath : name = "path"
      · simp [hpath, normalNames, resolveValue, trimValue]
      · by_cases hcommand : name = "command"
        · simp [hcommand, normalNames, trimValue]
        · simp [htool, hpath, hcommand, normalNames]
  | _ => simp [normalValue, trimValue, nameValue, resolveValue]

theorem get?_normalFields (processDir : String) (fields : Fields) (name : String) :
    get? (normalFields processDir fields) name =
      (get? fields name).map (normalValue processDir (dirOf fields) name) := by
  have hfields : normalFields processDir fields =
      nameField (resolveField processDir (normalNames.foldl trimField fields)) := rfl
  have hdir : dirOf (normalNames.foldl trimField fields) = dirOf fields := by
    rw [dirOf, value, get?_trimmed, if_neg (by decide)]
    rfl
  rw [hfields, get?_nameField, get?_resolveField, baseDir_eq, hdir, get?_trimmed]
  have hmap : (fun v => normalValue processDir (dirOf fields) name v) = _ :=
    funext fun v => normalValue_eq processDir (dirOf fields) name v
  by_cases htool : "tool" = name
  · subst htool
    simp [normalNames, hmap, Function.comp_def]
  · by_cases hpath : "path" = name
    · subst hpath
      simp [normalNames, hmap, Function.comp_def]
    · by_cases hcommand : "command" = name
      · subst hcommand
        simp [normalNames, hmap]
      · simp [normalNames, hmap, htool, hpath, Ne.symm htool, Ne.symm hpath, Ne.symm hcommand]

theorem normalValue_of_notMem {name : String} (h : name ∉ normalNames) (processDir dir : String)
    (v : Json) : normalValue processDir dir name v = v := by
  cases v with
  | string text => rw [normalValue, if_neg h]
  | _ => rfl

theorem get?_normalFields_of_notMem (processDir : String) (fields : Fields)
    (h : name ∉ normalNames) : get? (normalFields processDir fields) name = get? fields name := by
  rw [get?_normalFields]
  cases get? fields name with
  | none => rfl
  | some v => rw [Option.map_some, normalValue_of_notMem h]

theorem value_normalFields (processDir : String) (fields : Fields) (name : String) :
    value (normalFields processDir fields) name =
      normalValue processDir (dirOf fields) name (value fields name) := by
  rw [value, get?_normalFields, value]
  cases get? fields name <;> rfl

/-! ## Checking -/

/-- What a checked context is: each field is read from the fields that were given, and what is given
besides them is taken over. -/
structure Checks (s : Setting) (fields : Fields) (c : Context) : Prop where
  timestamp : checkField fields "timestamp" "timestamp" s.now checkTime = .good c.timestamp
  source : checkField fields "source" "source" none (checkOptional (checkWord Source.ofWord?)) =
    .good c.source
  tool : checkField fields "tool" "tool" none (checkOptional checkText) = .good c.tool
  command : checkField fields "command" "command" none (checkOptional checkText) = .good c.command
  path : checkField fields "path" "path" none (checkOptional checkText) = .good c.path
  content : checkField fields "content" "content" none (checkOptional checkText) = .good c.content
  exitCode : checkField fields "exitCode" "exit_code" none (checkOptional checkInt) =
    .good c.exitCode
  success : checkField fields "success" "success" none (checkOptional checkBool) = .good c.success
  cwd : checkField fields "cwd" "cwd" s.cwd checkText = .good c.cwd
  sessionId : checkField fields "sessionId" "session_id" none (checkOptional checkText) =
    .good c.sessionId
  params : checkField fields "params" "params" none (checkOptional checkObject) = .good c.params
  extras : c.extras = extrasOf fields

theorem checks_of_check {s : Setting} {c : Context} (h : check s fields = .good c) :
    Checks s fields c := by
  simp only [check, Checked.seq_eq_good, Checked.map_eq_good] at h
  -- a check nests to the left, the timestamp innermost and the parameters last
  obtain ⟨_, ⟨_, ⟨_, ⟨_, ⟨_, ⟨_, ⟨_, ⟨_, ⟨_, ⟨_, ⟨_, htime, rfl⟩, _, hsource, rfl⟩, _, htool, rfl⟩,
    _, hcommand, rfl⟩, _, hpath, rfl⟩, _, hcontent, rfl⟩, _, hcode, rfl⟩, _, hsuccess, rfl⟩, _,
    hcwd, rfl⟩, _, hsession, rfl⟩, _, hparams, rfl⟩ := h
  exact ⟨htime, hsource, htool, hcommand, hpath, hcontent, hcode, hsuccess, hcwd, hsession, hparams,
    rfl⟩

def intValue? : Json → Option Int
  | .int n => some n
  | _ => none

def boolValue? : Json → Option Bool
  | .bool b => some b
  | _ => none

theorem Kind.Holds.text_eq {v : Json} (h : Kind.Holds .text v) : v = .ofOption v.text? := by
  cases h <;> rfl

theorem Kind.Holds.int_eq {v : Json} (h : Kind.Holds .int v) : v = ofInt (intValue? v) := by
  cases h <;> rfl

theorem Kind.Holds.bool_eq {v : Json} (h : Kind.Holds .bool v) : v = ofBool (boolValue? v) := by
  cases h <;> rfl

theorem Kind.Holds.object_eq {v : Json} (h : Kind.Holds .object v) : v = ofFields v.fields? := by
  cases h <;> rfl

theorem Proper.givenKey_eq (h : Proper fields) {wire inner : String}
    (hwire : innerName wire = inner) : givenKey fields wire inner = inner := by
  rw [givenKey]
  split
  · rename_i hhas
    obtain ⟨f, hf, hname⟩ := List.mem_map.1 (has_iff.1 hhas)
    rw [← hname, ← h.named f hf, hname, hwire]
  · rfl

theorem Proper.checkField_eq {α : Type} (h : Proper fields) {wire inner : String} {kind : Kind}
    (hwire : innerName wire = inner) (hkind : kindOf inner = kind) {check : Json → Checked α}
    {read : Json → Option α} (hcheck : ∀ v, kind.Holds v → checkOptional check v = .good (read v)) :
    checkField fields wire inner none (checkOptional check) =
      .good (read (value fields inner)) := by
  subst hkind
  rw [checkField, h.givenKey_eq hwire, value]
  cases hget : get? fields inner with
  | none => exact hcheck .null (.null _)
  | some v =>
    dsimp only
    rw [hcheck v (h.kinds _ (mem_of_get? hget))]
    rfl

theorem Proper.checkField_text (h : Proper fields) (wire inner : String)
    (hwire : innerName wire = inner) (hkind : kindOf inner = .text) :
    checkField fields wire inner none (checkOptional checkText) =
      .good (value fields inner).text? :=
  h.checkField_eq hwire hkind fun v hv => by cases hv <;> rfl

theorem Proper.checkField_int (h : Proper fields) (wire inner : String)
    (hwire : innerName wire = inner) (hkind : kindOf inner = .int) :
    checkField fields wire inner none (checkOptional checkInt) =
      .good (intValue? (value fields inner)) :=
  h.checkField_eq hwire hkind fun v hv => by cases hv <;> rfl

theorem Proper.checkField_bool (h : Proper fields) (wire inner : String)
    (hwire : innerName wire = inner) (hkind : kindOf inner = .bool) :
    checkField fields wire inner none (checkOptional checkBool) =
      .good (boolValue? (value fields inner)) :=
  h.checkField_eq hwire hkind fun v hv => by cases hv <;> rfl

theorem Proper.checkField_object (h : Proper fields) (wire inner : String)
    (hwire : innerName wire = inner) (hkind : kindOf inner = .object) :
    checkField fields wire inner none (checkOptional checkObject) =
      .good (value fields inner).fields? :=
  h.checkField_eq hwire hkind fun v hv => by cases hv <;> rfl

theorem givenKey_self (fields : Fields) (name : String) : givenKey fields name name = name := by
  rw [givenKey]
  split <;> rfl

theorem checkField_source {source : Option Source}
    (hsource : get? fields "source" = some (.ofOption (source.map Source.word))) :
    checkField fields "source" "source" none (checkOptional (checkWord Source.ofWord?)) =
      .good source := by
  rw [checkField, givenKey_self, hsource]
  cases source with
  | none => rfl
  | some source => cases source <;> rfl

def ofProper (fields : Fields) (source : Option Source) (timestamp : Timestamp) (cwd : String) :
    Context where
  timestamp := timestamp
  source := source
  tool := (value fields "tool").text?
  command := (value fields "command").text?
  path := (value fields "path").text?
  content := (value fields "content").text?
  exitCode := intValue? (value fields "exit_code")
  success := boolValue? (value fields "success")
  cwd := cwd
  sessionId := (value fields "session_id").text?
  params := (value fields "params").fields?
  extras := extrasOf fields

/-- Nothing but the time and the directory can be wrong with proper fields. -/
theorem Proper.check_eq (h : Proper fields) (s : Setting) {source : Option Source}
    (hsource : get? fields "source" = some (.ofOption (source.map Source.word))) :
    check s fields = (fun t dir => ofProper fields source t dir) <$>
      checkField fields "timestamp" "timestamp" s.now checkTime <*>
      checkField fields "cwd" "cwd" s.cwd checkText := by
  rw [check, checkField_source hsource,
    h.checkField_text "tool" "tool" (by decide) (by decide),
    h.checkField_text "command" "command" (by decide) (by decide),
    h.checkField_text "path" "path" (by decide) (by decide),
    h.checkField_text "content" "content" (by decide) (by decide),
    h.checkField_int "exitCode" "exit_code" (by decide) (by decide),
    h.checkField_bool "success" "success" (by decide) (by decide),
    h.checkField_text "sessionId" "session_id" (by decide) (by decide),
    h.checkField_object "params" "params" (by decide) (by decide)]
  -- nine of the eleven fields are good now
  cases checkField fields "timestamp" "timestamp" s.now checkTime <;>
    cases checkField fields "cwd" "cwd" s.cwd checkText <;>
    simp [Functor.map, Seq.seq, Checked.map, Checked.apply, Checked.defects, ofProper]

theorem Proper.checkField_cwd (h : Proper fields) (hcwd : get? fields "cwd" ≠ some .null)
    (default : String) :
    checkField fields "cwd" "cwd" default checkText =
      .good ((value fields "cwd").text?.getD default) := by
  rw [checkField, givenKey_self, value]
  cases hget : get? fields "cwd" with
  | none => rfl
  | some v =>
    have hholds : Kind.Holds .text v := h.kinds _ (mem_of_get? hget)
    cases hholds with
    | null => exact absurd hget hcwd
    | text dir => rfl

theorem Proper.check_good (h : Proper fields) {s : Setting} {source : Option Source}
    (hsource : get? fields "source" = some (.ofOption (source.map Source.word)))
    (hcwd : get? fields "cwd" ≠ some .null) {t : Timestamp}
    (htime : checkField fields "timestamp" "timestamp" s.now checkTime = .good t) :
    check s fields =
      .good (ofProper fields source t ((value fields "cwd").text?.getD s.cwd)) := by
  rw [h.check_eq s hsource, htime, h.checkField_cwd hcwd]
  rfl

theorem Proper.eq_of_check (h : Proper fields) {s : Setting} {source : Option Source}
    (hsource : get? fields "source" = some (.ofOption (source.map Source.word)))
    (hcwd : get? fields "cwd" ≠ some .null) {c : Context} (hc : check s fields = .good c) :
    ∃ t, c = ofProper fields source t ((value fields "cwd").text?.getD s.cwd) := by
  cases htime : checkField fields "timestamp" "timestamp" s.now checkTime with
  | good t =>
    rw [h.check_good hsource hcwd htime] at hc
    cases hc
    exact ⟨t, rfl⟩
  | bad ds =>
    rw [h.check_eq s hsource, htime, h.checkField_cwd hcwd] at hc
    cases hc

theorem Proper.check_bad (h : Proper fields) {s : Setting} {source : Option Source}
    (hsource : get? fields "source" = some (.ofOption (source.map Source.word)))
    (hcwd : get? fields "cwd" = some .null) {t : Timestamp}
    (htime : checkField fields "timestamp" "timestamp" s.now checkTime = .good t) :
    check s fields = .bad [⟨[.key "cwd"], .notText⟩] := by
  rw [h.check_eq s hsource, htime, checkField, givenKey_self, hcwd]
  rfl

/-! ## What a context holds -/

def declared (c : Context) : Fields :=
  [("timestamp", .string c.timestamp.write), ("source", .ofOption (c.source.map Source.word)),
   ("tool", .ofOption c.tool), ("command", .ofOption c.command), ("path", .ofOption c.path),
   ("content", .ofOption c.content), ("exit_code", ofInt c.exitCode),
   ("success", ofBool c.success), ("cwd", .string c.cwd), ("session_id", .ofOption c.sessionId),
   ("params", ofFields c.params)]

/-- What a context holds under an inner name, in a field or besides the fields. -/
def holding (c : Context) (name : String) : Json := value (c.declared ++ c.extras) name

def innerNames : List String := fieldNames.map Prod.snd

theorem innerName_of_mem_fieldNames : ∀ p ∈ fieldNames, innerName p.1 = p.2 := by decide

theorem Proper.usedKeys_eq (h : Proper fields) : usedKeys fields = innerNames :=
  List.map_congr_left fun p hp => h.givenKey_eq (innerName_of_mem_fieldNames p hp)

theorem Proper.get?_extrasOf (h : Proper fields) (name : String) :
    get? (extrasOf fields) name = if name ∈ innerNames then none else get? fields name := by
  rw [extrasOf, h.usedKeys_eq, get?_filter fun name => !innerNames.contains name]
  by_cases hname : name ∈ innerNames <;> simp [hname]

theorem Proper.holding_ofProper (h : Proper fields) (source : Option Source) (t : Timestamp)
    (cwd : String) (hsource : name ≠ "source") (htime : name ≠ "timestamp") (hcwd : name ≠ "cwd") :
    (ofProper fields source t cwd).holding name = value fields name := by
  have hvalue := h.value_holds name
  by_cases hname : name ∈ innerNames
  · simp only [innerNames, fieldNames, List.map_cons, List.map_nil, List.mem_cons,
      List.not_mem_nil, or_false, hsource, htime, hcwd, false_or] at hname
    rcases hname with rfl | rfl | rfl | rfl | rfl | rfl | rfl | rfl
    · exact hvalue.text_eq.symm
    · exact hvalue.text_eq.symm
    · exact hvalue.text_eq.symm
    · exact hvalue.text_eq.symm
    · exact hvalue.int_eq.symm
    · exact hvalue.bool_eq.symm
    · exact hvalue.text_eq.symm
    · exact hvalue.object_eq.symm
  · have hdeclared : get? (ofProper fields source t cwd).declared name = none :=
      get?_eq_none_iff.2 hname
    have hextras : get? (ofProper fields source t cwd).extras name = get? fields name := by
      rw [ofProper, h.get?_extrasOf, if_neg hname]
    rw [holding, value, get?_append, hdeclared, Option.none_or, hextras]
    rfl

end HookPolicy.Context
