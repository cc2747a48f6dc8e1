import HookPolicy.Proofs.Context.Checking
import HookPolicy.Proofs.Json.Inside
import HookPolicy.Proofs.Time.Written

/-!
# The wire form

A context that was checked is read back from its wire form: every field stands there under its wire
name, which wins over the inner one, and nothing else that stands there has such a name.
-/

namespace HookPolicy.Context

open Fields Json

variable {c : Context} {s : Setting} {fields : Fields} {name : String}

/-- All that a context holds. -/
def record (c : Context) : Json := .object (c.declared ++ c.extras)

/-! ## What is checked -/

theorem checkField_eq_good {α : Type} {wire inner : String} {default a : α}
    {check : Json → Checked α} (h : checkField fields wire inner default check = .good a) :
    default = a ∨ ∃ f ∈ fields, check f.2 = .good a := by
  unfold checkField at h
  split at h
  · rename_i v hget
    exact .inr ⟨(_, v), mem_of_get? hget, Checked.under_eq_good.1 h⟩
  · cases h
    exact .inl rfl

theorem checkField_wire {α : Type} (wire inner : String) {default a : α} {v : Json}
    {check : Json → Checked α} (hget : get? fields wire = some v) (hcheck : check v = .good a) :
    checkField fields wire inner default check = .good a := by
  have hkey : givenKey fields wire inner = wire := by
    rw [givenKey, has, hget]
    rfl
  rw [checkField, hkey, hget]
  dsimp only
  rw [hcheck]
  rfl

theorem of_check (h : check s fields = .good c) :
    checkField fields "timestamp" "timestamp" s.now checkTime = .good c.timestamp ∧
      checkField fields "params" "params" none (checkOptional checkObject) = .good c.params ∧
      c.extras = extrasOf fields := by
  have hchecks := checks_of_check h
  exact ⟨hchecks.timestamp, hchecks.params, hchecks.extras⟩

theorem notMem_extrasOf {wire inner : String} (h : (wire, inner) ∈ fieldNames) (fields : Fields) :
    wire ∉ (extrasOf fields).map Prod.fst := by
  intro hmem
  obtain ⟨f, hf, hname⟩ := List.mem_map.1 hmem
  obtain ⟨hf, hunused⟩ := List.mem_filter.1 hf
  have hhas : fields.has wire = true := has_iff.2 (List.mem_map.2 ⟨f, hf, hname⟩)
  have hused : wire ∈ usedKeys fields :=
    List.mem_map.2 ⟨(wire, inner), h, by simp [givenKey, hhas]⟩
  rw [hname] at hunused
  simp [hused] at hunused

/-! ## Reading the wire form -/

def wireNames : List String := fieldNames.map Prod.fst

def wireHead (c : Context) : Fields :=
  [("timestamp", .string c.timestamp.write), ("source", .ofOption (c.source.map Source.word)),
   ("tool", .ofOption c.tool), ("command", .ofOption c.command), ("path", .ofOption c.path),
   ("content", .ofOption c.content), ("exitCode", ofInt c.exitCode),
   ("success", ofBool c.success), ("cwd", .string c.cwd), ("sessionId", .ofOption c.sessionId),
   ("params", (ofFields c.params).finite)]

theorem wireFields_eq (c : Context) : c.wireFields = c.wireHead ++ finiteFields c.extras := rfl

theorem map_fst_wireHead (c : Context) : c.wireHead.map Prod.fst = wireNames := rfl

theorem map_fst_finiteFields (fields : Fields) :
    (finiteFields fields).map Prod.fst = fields.map Prod.fst := by
  rw [finiteFields_eq, List.map_map]
  rfl

theorem get?_wireFields {v : Json} (h : get? c.wireHead name = some v) :
    get? c.wireFields name = some v := by
  rw [wireFields_eq, get?_append, h, Option.some_or]

theorem usedKeys_wireFields (c : Context) : usedKeys c.wireFields = wireNames := by
  apply List.map_congr_left
  rintro ⟨wire, inner⟩ hmem
  have hhas : c.wireFields.has wire = true := by
    rw [has_iff, wireFields_eq, List.map_append, map_fst_wireHead]
    exact List.mem_append_left _ (List.mem_map_of_mem hmem)
  change (if c.wireFields.has wire then wire else inner) = wire
  rw [hhas, if_pos rfl]

theorem extrasOf_wireFields (h : ∀ name ∈ wireNames, name ∉ c.extras.map Prod.fst) :
    extrasOf c.wireFields = finiteFields c.extras := by
  have hhead : c.wireHead.filter (fun f => !wireNames.contains f.1) = [] := by
    rw [List.filter_eq_nil_iff]
    intro f hf
    have hname : f.1 ∈ wireNames := map_fst_wireHead c ▸ List.mem_map_of_mem hf
    simp [hname]
  have hextras : (finiteFields c.extras).filter (fun f => !wireNames.contains f.1) =
      finiteFields c.extras := by
    rw [List.filter_eq_self]
    intro f hf
    have hname : f.1 ∉ wireNames := fun hwire =>
      h f.1 hwire (map_fst_finiteFields c.extras ▸ List.mem_map_of_mem hf)
    simp [hname]
  rw [extrasOf, usedKeys_wireFields, wireFields_eq, List.filter_append, hhead, hextras,
    List.nil_append]

theorem finite_params (h : ∀ x, Inside (.float x) c.record → x.isFinite = true) :
    (ofFields c.params).finite = ofFields c.params := by
  have hmem : ("params", ofFields c.params) ∈ c.declared ++ c.extras := by simp [declared]
  exact finite_eq_self fun x hx => h x (.field hmem hx)

theorem finiteFields_extras (h : ∀ x, Inside (.float x) c.record → x.isFinite = true) :
    finiteFields c.extras = c.extras := by
  have hextras : (Json.object c.extras).finite = .object c.extras := by
    apply finite_eq_self
    intro x hx
    rcases inside_object.1 hx with heq | ⟨f, hf, hin⟩
    · cases heq
    · exact h x (.field (List.mem_append_right _ hf) hin)
  rw [Json.finite] at hextras
  exact Json.object.inj hextras

theorem checkOptional_ofInt (n : Option Int) : checkOptional checkInt (ofInt n) = .good n := by
  cases n <;> rfl

theorem checkOptional_ofBool (b : Option Bool) : checkOptional checkBool (ofBool b) = .good b := by
  cases b <;> rfl

theorem checkOptional_ofFields (fields : Option Fields) :
    checkOptional checkObject (ofFields fields) = .good fields := by
  cases fields <;> rfl

theorem checkTime_write {t : Timestamp} (h : t.Valid) : checkTime (.string t.write) = .good t := by
  rw [checkTime, Timestamp.read_write h]

theorem check_wireFields (htime : c.timestamp.Valid)
    (hextras : ∀ name ∈ wireNames, name ∉ c.extras.map Prod.fst)
    (hfinite : ∀ x, Inside (.float x) c.record → x.isFinite = true) (s : Setting) :
    check s c.wireFields = .good c := by
  have hget : ∀ {name : String} {v : Json}, get? c.wireHead name = some v →
      get? c.wireFields name = some v := get?_wireFields
  have hparams := finite_params hfinite
  rw [check, extrasOf_wireFields hextras, finiteFields_extras hfinite,
    checkField_wire "timestamp" _ (hget rfl) (checkTime_write htime),
    checkField_source (hget rfl),
    checkField_wire "tool" _ (hget rfl) (checkOptional_ofOption c.tool),
    checkField_wire "command" _ (hget rfl) (checkOptional_ofOption c.command),
    checkField_wire "path" _ (hget rfl) (checkOptional_ofOption c.path),
    checkField_wire "content" _ (hget rfl) (checkOptional_ofOption c.content),
    checkField_wire "exitCode" _ (hget rfl) (checkOptional_ofInt c.exitCode),
    checkField_wire "success" _ (hget rfl) (checkOptional_ofBool c.success),
    checkField_wire "cwd" _ (hget rfl) (show checkText (.string c.cwd) = .good c.cwd from rfl),
    checkField_wire "sessionId" _ (hget rfl) (checkOptional_ofOption c.sessionId),
    checkField_wire "params" _ (hget rfl) (hparams ▸ checkOptional_ofFields c.params)]
  rfl

/-- An edit that is told under wire names and inner ones, with a time of another zone. -/
def editParams : Fields :=
  [("depth", .float (Binary64.zero false)), ("seen", .array [.string "\"π\"\n", .null])]

def editFields : Fields :=
  [("timestamp", .string "2024-02-29 23:59:59.25+05:30"), ("tool", .string "Edit"),
   ("path", .string "/w/π.txt"), ("exit_code", .string "2"), ("exitCode", .bool true),
   ("params", .object editParams), ("note", .array [.bool false])]

def editContext : Context where
  timestamp := ⟨2024, 2, 29, 23, 59, 59, 250000, some 330⟩
  source := none
  tool := some "Edit"
  command := none
  path := some "/w/π.txt"
  content := none
  exitCode := some 1
  success := none
  cwd := "/w"
  sessionId := none
  params := some editParams
  extras := [("exit_code", .string "2"), ("note", .array [.bool false])]

def editSetting : Setting := ⟨⟨2024, 3, 1, 12, 0, 0, 0, some 0⟩, "/w"⟩

theorem check_editFields : check editSetting editFields = .good editContext := by
  have htime : Timestamp.read "2024-02-29 23:59:59.25+05:30" = some editContext.timestamp := by
    decide +kernel
  have htimeField : checkField editFields "timestamp" "timestamp" editSetting.now checkTime =
      .good editContext.timestamp :=
    checkField_wire _ _ rfl (by rw [checkTime, htime])
  rw [check, htimeField]
  cbv

end HookPolicy.Context
