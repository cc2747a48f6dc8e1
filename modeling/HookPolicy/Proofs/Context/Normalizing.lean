import HookPolicy.Proofs.Context.Wire

/-!
# What normal forms leave alone

A normal form is read from the fields of a context under their inner names, with the extras laid
over them. So it differs from the context in the tool, the command and the path only, unless an extra
has the inner name of a field whose wire name is another. Such an extra is there when the field was
given under both names, and then it replaces the field (`normalize_eq`, `exists_untouched_iff`).
-/

namespace HookPolicy.Context

open Fields

variable {c n : Context} {s : Setting} {fields : Fields} {name dir : String}

/-- The normal form of the tool, the command and the path. -/
def normalized (dir : String) (c : Context) : Context :=
  { c with
    tool := c.tool.map (normalText dir c.cwd "tool")
    command := c.command.map (normalText dir c.cwd "command")
    path := c.path.map (normalText dir c.cwd "path") }

/-- The fields whose names on the wire and inside differ. -/
def twoNamed : List (String × String) := [("exitCode", "exit_code"), ("sessionId", "session_id")]

/-- The extras that are left when those with inner names have taken the place of the fields. -/
def withoutTwoNamed (extras : Fields) : Fields :=
  extras.filter fun f => !(["exit_code", "session_id"].contains f.1)

/-- The fields that `innerFields` lists before it lays the extras over them. -/
def innerHead (c : Context) : Fields :=
  [("tool", .ofOption c.tool), ("command", .ofOption c.command), ("path", .ofOption c.path),
   ("content", .ofOption c.content), ("exit_code", ofInt c.exitCode),
   ("success", ofBool c.success), ("cwd", .string c.cwd), ("session_id", .ofOption c.sessionId),
   ("params", ofFields c.params)]

def headNames : List String :=
  ["tool", "command", "path", "content", "exit_code", "success", "cwd", "session_id", "params"]

theorem map_fst_innerHead (c : Context) : c.innerHead.map Prod.fst = headNames := rfl

theorem innerFields_eq (c : Context) : c.innerFields = setAll c.innerHead c.extras := rfl

/-- What is besides the fields has no name of a field on the wire, and each name once. -/
structure Apart (extras : Fields) : Prop where
  keyed : Keyed extras
  wire : ∀ name ∈ wireNames, get? extras name = none

theorem filter_trimField (p : String → Bool) (hp : p name = false) (fields : Fields) :
    (trimField fields name).filter (fun f => p f.1) = fields.filter fun f => p f.1 := by
  unfold trimField
  split
  · rw [filter_set, hp, if_neg Bool.false_ne_true]
  · rfl

theorem filter_resolveField (p : String → Bool) (hp : p "path" = false) (dir : String)
    (fields : Fields) :
    (resolveField dir fields).filter (fun f => p f.1) = fields.filter fun f => p f.1 := by
  unfold resolveField
  split
  · split
    · rfl
    · rw [filter_set, hp, if_neg Bool.false_ne_true]
  · rfl

theorem filter_nameField (p : String → Bool) (hp : p "tool" = false) (fields : Fields) :
    (nameField fields).filter (fun f => p f.1) = fields.filter fun f => p f.1 := by
  unfold nameField
  split
  · split
    · rfl
    · rw [filter_set, hp, if_neg Bool.false_ne_true]
  · rfl

theorem filter_normalFields (p : String → Bool) (hp : ∀ name ∈ normalNames, p name = false)
    (dir : String) (fields : Fields) :
    (normalFields dir fields).filter (fun f => p f.1) = fields.filter fun f => p f.1 := by
  have htool := hp "tool" (by decide)
  have hcommand := hp "command" (by decide)
  have hpath := hp "path" (by decide)
  have hfields : normalFields dir fields = nameField (resolveField dir
      (trimField (trimField (trimField fields "tool") "command") "path")) := rfl
  rw [hfields, filter_nameField p htool, filter_resolveField p hpath, filter_trimField p hpath,
    filter_trimField p hcommand, filter_trimField p htool]

section

variable (h : Apart c.extras)
include h

theorem Apart.get?_innerFields (name : String) :
    get? c.innerFields name = (get? c.extras name).or (get? c.innerHead name) := by
  rw [innerFields_eq, get?_setAll, h.keyed.get?_reverse]

theorem Apart.dirOf_innerFields : dirOf c.innerFields = c.cwd := by
  rw [dirOf, value, h.get?_innerFields, h.wire "cwd" (by decide)]
  rfl

theorem Apart.get?_normal (dir name : String) :
    get? (normalFields dir c.innerFields) name =
      ((get? c.extras name).or (get? c.innerHead name)).map (normalValue dir c.cwd name) := by
  rw [get?_normalFields, h.get?_innerFields, h.dirOf_innerFields]

theorem Apart.get?_normal_wire (dir : String) (hname : name ∈ wireNames) :
    get? (normalFields dir c.innerFields) name =
      (get? c.innerHead name).map (normalValue dir c.cwd name) := by
  rw [h.get?_normal, h.wire name hname, Option.none_or]

theorem Apart.givenKey_normal (dir : String) {p : String × String} (hp : p ∈ fieldNames) :
    givenKey (normalFields dir c.innerFields) p.1 p.2 = p.2 := by
  have hone : ∀ q ∈ fieldNames, q.1 = q.2 ∨ q.1 ∉ headNames := by decide
  rcases hone p hp with hsame | hno
  · rw [hsame, givenKey_self]
  · rw [← map_fst_innerHead c, ← get?_eq_none_iff] at hno
    rw [givenKey, has, h.get?_normal_wire dir (List.mem_map_of_mem hp), hno]
    rfl

theorem Apart.usedKeys_normal (dir : String) :
    usedKeys (normalFields dir c.innerFields) = innerNames :=
  List.map_congr_left fun _ hp => h.givenKey_normal dir hp

/-- A field that no extra can stand for keeps its value, or has it brought to normal form. -/
theorem Apart.checkField_normal {α : Type} (dir : String) {wire : String} {v : Json} {default a : α}
    {check : Json → Checked α} (hwire : wire ∈ wireNames)
    (hget : get? c.innerHead wire = some v)
    (hcheck : check (normalValue dir c.cwd wire v) = .good a) (inner : String) :
    checkField (normalFields dir c.innerFields) wire inner default check = .good a :=
  checkField_wire wire inner (by rw [h.get?_normal_wire dir hwire, hget, Option.map_some]) hcheck

theorem Apart.checkField_absent {α : Type} (dir : String) {wire : String} (hwire : wire ∈ wireNames)
    (hget : get? c.innerHead wire = none) (default : α) (check : Json → Checked α) :
    checkField (normalFields dir c.innerFields) wire wire default check = .good default := by
  rw [checkField, givenKey_self, h.get?_normal_wire dir hwire, hget]
  rfl

/-- A field with two names is read from an extra under the inner name, if there is one. -/
theorem Apart.checkField_twoNamed {α : Type} (dir : String) {wire inner : String} {v : Json}
    {a default : α} {check : Json → Checked α} (hp : (wire, inner) ∈ fieldNames)
    (hinner : inner ∉ normalNames) (hget : get? c.innerHead inner = some v)
    (hcheck : check v = .good a) :
    checkField (normalFields dir c.innerFields) wire inner default check =
      checkField c.extras wire inner a check := by
  have hkey : givenKey c.extras wire inner = inner := by
    rw [givenKey, has, h.wire wire (List.mem_map_of_mem hp)]
    rfl
  have hvalue : get? (normalFields dir c.innerFields) inner =
      some ((get? c.extras inner).getD v) := by
    rw [get?_normalFields_of_notMem dir _ hinner, h.get?_innerFields, hget]
    cases get? c.extras inner <;> rfl
  rw [checkField, h.givenKey_normal dir hp, checkField, hkey, hvalue]
  cases get? c.extras inner with
  | some w => rfl
  | none =>
    dsimp only [Option.getD_none]
    rw [hcheck]
    rfl

theorem Apart.extrasOf_normal (dir : String) :
    extrasOf (normalFields dir c.innerFields) =
      withoutTwoNamed c.extras := by
  have hhead : c.innerHead.filter (fun f => !innerNames.contains f.1) = [] := rfl
  have hextras : c.extras.filter (fun f => !innerNames.contains f.1) =
      withoutTwoNamed c.extras := by
    -- an inner name that is not a name on the wire as well is one of the two
    have hnames : ∀ name, name ∉ wireNames →
        innerNames.contains name = ["exit_code", "session_id"].contains name := by
      have hsub : ["exit_code", "session_id"] ⊆ innerNames := by decide
      have hcover : ∀ name ∈ innerNames, name ∈ wireNames ∨ name ∈ ["exit_code", "session_id"] := by
        decide
      intro name hwire
      rw [Bool.eq_iff_iff, List.contains_iff_mem, List.contains_iff_mem]
      exact ⟨fun hmem => (hcover name hmem).resolve_left hwire, fun hmem => hsub hmem⟩
    refine List.filter_congr fun f hf => ?_
    rw [hnames f.1 fun hmem => get?_eq_none_iff.1 (h.wire f.1 hmem) (List.mem_map_of_mem hf)]
  have hkeyed : Keyed (withoutTwoNamed c.extras) :=
    h.keyed.of_sublist List.filter_sublist
  rw [extrasOf, h.usedKeys_normal, filter_normalFields (fun name => !innerNames.contains name)
    (by decide), innerFields_eq, filter_setAll fun name => !innerNames.contains name, hhead,
    hextras]
  exact hkeyed.ofPairs_eq

end

theorem normalize_eq (h : Apart c.extras) (dir : String) :
    normalize dir c =
      (fun code session =>
        { c.normalized dir with
          exitCode := code
          sessionId := session
          extras := withoutTwoNamed c.extras }) <$>
        checkField c.extras "exitCode" "exit_code" c.exitCode (checkOptional checkInt) <*>
        checkField c.extras "sessionId" "session_id" c.sessionId (checkOptional checkText) := by
  have hopt : ∀ (t : Option String) (name : String), name ∈ normalNames →
      checkOptional checkText (normalValue dir c.cwd name (.ofOption t)) =
        .good (t.map (normalText dir c.cwd name)) := by
    intro t name hname
    cases t with
    | none => rfl
    | some text =>
      rw [Json.ofOption, normalValue, if_pos hname]
      rfl
  rw [normalize, check, h.extrasOf_normal,
    h.checkField_absent dir (by decide : "timestamp" ∈ wireNames) rfl,
    h.checkField_absent dir (by decide : "source" ∈ wireNames) rfl,
    h.checkField_normal dir (by decide : "tool" ∈ wireNames) rfl (hopt c.tool "tool" (by decide)),
    h.checkField_normal dir (by decide : "command" ∈ wireNames) rfl
      (hopt c.command "command" (by decide)),
    h.checkField_normal dir (by decide : "path" ∈ wireNames) rfl (hopt c.path "path" (by decide)),
    h.checkField_normal dir (by decide : "content" ∈ wireNames) rfl
      (by rw [normalValue_of_notMem (by decide)]; exact checkOptional_ofOption c.content),
    h.checkField_normal dir (by decide : "success" ∈ wireNames) rfl
      (by rw [normalValue_of_notMem (by decide)]; exact checkOptional_ofBool c.success),
    h.checkField_normal dir (by decide : "cwd" ∈ wireNames) rfl
      (show checkText (normalValue dir c.cwd "cwd" (.string c.cwd)) = .good c.cwd from rfl),
    h.checkField_normal dir (by decide : "params" ∈ wireNames) rfl
      (by rw [normalValue_of_notMem (by decide)]; exact checkOptional_ofFields c.params),
    h.checkField_twoNamed dir (by decide) (by decide) rfl (checkOptional_ofInt c.exitCode),
    h.checkField_twoNamed dir (by decide) (by decide) rfl (checkOptional_ofOption c.sessionId)]
  -- all fields are good now but the two that an extra may stand for
  cases checkField c.extras "exitCode" "exit_code" c.exitCode (checkOptional checkInt) <;>
    cases checkField c.extras "sessionId" "session_id" c.sessionId (checkOptional checkText) <;>
    simp [Functor.map, Seq.seq, Checked.map, Checked.apply, Checked.defects, normalized]

/-! ## Fields that are given twice -/

/-- Some field is given both under its name on the wire and under its inner name. -/
def TwiceGiven (fields : Fields) : Prop :=
  ∃ p ∈ fieldNames, p.1 ≠ p.2 ∧ fields.has p.1 = true ∧ fields.has p.2 = true

theorem twiceGiven_iff : TwiceGiven fields ↔
    (fields.has "exitCode" = true ∧ fields.has "exit_code" = true) ∨
      (fields.has "sessionId" = true ∧ fields.has "session_id" = true) := by
  simp [TwiceGiven, fieldNames]

theorem apart_of_check (hfields : Keyed fields) (h : check s fields = .good c) :
    Apart c.extras := by
  have hextras := (checks_of_check h).extras
  refine ⟨?_, fun name hname => ?_⟩
  · rw [hextras]
    exact hfields.of_sublist List.filter_sublist
  · obtain ⟨p, hp, rfl⟩ := List.mem_map.1 hname
    rw [get?_eq_none_iff, hextras]
    exact notMem_extrasOf hp fields

/-- The wire name is read, and what stands under the inner one is an extra. -/
theorem get?_extrasOf_twoNamed (fields : Fields) {wire inner : String}
    (hp : (wire, inner) ∈ twoNamed) :
    get? (extrasOf fields) inner = if fields.has wire then get? fields inner else none := by
  have hused : usedKeys fields = ["timestamp", "source", "tool", "command", "path", "content",
      givenKey fields "exitCode" "exit_code", "success", "cwd",
      givenKey fields "sessionId" "session_id", "params"] := by
    simp [usedKeys, fieldNames, givenKey_self]
  rw [extrasOf, get?_filter fun name => !(usedKeys fields).contains name, hused]
  simp only [twoNamed, List.mem_cons, Prod.mk.injEq, List.not_mem_nil, or_false] at hp
  rcases hp with ⟨rfl, rfl⟩ | ⟨rfl, rfl⟩ <;>
    cases hcode : fields.has "exitCode" <;> cases hsession : fields.has "sessionId" <;>
    simp [givenKey, hcode, hsession]

theorem get?_extrasOf_eq_none_iff (fields : Fields) {wire inner : String}
    (hp : (wire, inner) ∈ twoNamed) :
    get? (extrasOf fields) inner = none ↔ ¬ (fields.has wire = true ∧ fields.has inner = true) := by
  rw [get?_extrasOf_twoNamed fields hp, not_and_or]
  cases fields.has wire <;> simp [has]

theorem filter_twoNamed_iff {extras : Fields} :
    withoutTwoNamed extras = extras ↔
      get? extras "exit_code" = none ∧ get? extras "session_id" = none := by
  rw [withoutTwoNamed, List.filter_eq_self, get?_eq_none_iff, get?_eq_none_iff]
  constructor
  · intro h
    constructor <;>
    · intro hmem
      obtain ⟨f, hf, hname⟩ := List.mem_map.1 hmem
      have hother := h f hf
      simp [hname] at hother
  · rintro ⟨hcode, hsession⟩ f hf
    have hmem := List.mem_map_of_mem (f := Prod.fst) hf
    have hne : f.1 ≠ "exit_code" ∧ f.1 ≠ "session_id" :=
      ⟨fun heq => hcode (heq ▸ hmem), fun heq => hsession (heq ▸ hmem)⟩
    simp [hne]

/-- All but the tool, the command and the path is the same. -/
def Untouched (c n : Context) : Prop :=
  { n with tool := c.tool, command := c.command, path := c.path } = c

theorem normalize_of_no_twoNamed (h : Apart c.extras) (hcode : get? c.extras "exit_code" = none)
    (hsession : get? c.extras "session_id" = none) (dir : String) :
    normalize dir c = .good (c.normalized dir) := by
  have hsame := filter_twoNamed_iff.2 ⟨hcode, hsession⟩
  have hfield : ∀ {α : Type} {wire inner : String} (a : α) (check : Json → Checked α),
      wire ∈ wireNames → get? c.extras inner = none →
      checkField c.extras wire inner a check = .good a := by
    intro α wire inner a check hwire hinner
    rw [checkField, givenKey, has, h.wire wire hwire]
    simp [hinner]
  rw [normalize_eq h, hsame, hfield _ _ (by decide) hcode, hfield _ _ (by decide) hsession]
  rfl

/-- What a field with two names holds in the normal form: what is given under the inner name if both
are given, and what it held before if not. -/
def Rereads {α : Type} (fields : Fields) (wire inner : String) (check : Json → Checked α)
    (before after : α) : Prop :=
  match if fields.has wire then get? fields inner else none with
  | some v => check v = .good after
  | none => after = before

theorem rereads_iff {α : Type} {wire inner : String} {check : Json → Checked α} {before after : α}
    (hp : (wire, inner) ∈ twoNamed)
    (h : Apart c.extras) (hextras : c.extras = extrasOf fields) :
    checkField c.extras wire inner before check = .good after ↔
      Rereads fields wire inner check before after := by
  have hwires : ∀ p ∈ twoNamed, p.1 ∈ wireNames := by
    decide
  have hkey : givenKey c.extras wire inner = inner := by
    rw [givenKey, has, h.wire wire (hwires _ hp)]
    rfl
  rw [checkField, hkey, hextras, get?_extrasOf_twoNamed fields hp, Rereads]
  cases (if fields.has wire then get? fields inner else none : Option Json) with
  | some v => exact Checked.under_eq_good
  | none =>
    rw [Checked.good.injEq]
    exact eq_comm

theorem normalize_eq_good (h : Apart c.extras) (hextras : c.extras = extrasOf fields)
    (hn : normalize dir c = .good n) :
    n = { c.normalized dir with
      exitCode := n.exitCode
      sessionId := n.sessionId
      extras := withoutTwoNamed c.extras } ∧
    Rereads fields "exitCode" "exit_code" (checkOptional checkInt) c.exitCode n.exitCode ∧
    Rereads fields "sessionId" "session_id" (checkOptional checkText) c.sessionId n.sessionId := by
  rw [normalize_eq h, Checked.seq_eq_good] at hn
  obtain ⟨_, hmap, session, hsession, rfl⟩ := hn
  obtain ⟨code, hcode, rfl⟩ := Checked.map_eq_good.1 hmap
  exact ⟨rfl, (rereads_iff (by decide) h hextras).1 hcode,
    (rereads_iff (by decide) h hextras).1 hsession⟩

theorem not_twiceGiven_iff (hextras : c.extras = extrasOf fields) : ¬ TwiceGiven fields ↔
    get? c.extras "exit_code" = none ∧ get? c.extras "session_id" = none := by
  rw [twiceGiven_iff, not_or, hextras,
    get?_extrasOf_eq_none_iff fields (by decide : ("exitCode", "exit_code") ∈ twoNamed),
    get?_extrasOf_eq_none_iff fields (by decide : ("sessionId", "session_id") ∈ twoNamed)]

theorem exists_untouched_iff (hfields : Keyed fields) (h : check s fields = .good c)
    (dir : String) : (∃ n, normalize dir c = .good n ∧ Untouched c n) ↔ ¬ TwiceGiven fields := by
  have hapart := apart_of_check hfields h
  have hextras := (checks_of_check h).extras
  rw [not_twiceGiven_iff hextras]
  constructor
  · rintro ⟨n, hn, huntouched⟩
    obtain ⟨heq, -, -⟩ := normalize_eq_good hapart hextras hn
    rw [Untouched] at huntouched
    have hkept := congrArg Context.extras huntouched
    rw [heq] at hkept
    exact filter_twoNamed_iff.1 hkept
  · rintro ⟨hcode, hsession⟩
    exact ⟨_, normalize_of_no_twoNamed hapart hcode hsession dir, rfl⟩

theorem twiceGiven_test_iff (overrides : Fields) : TwiceGiven (testFields.setAll overrides) ↔
    overrides.has "exitCode" = true ∨
      (overrides.has "sessionId" = true ∧ overrides.has "session_id" = true) := by
  have hcode : testFields.has "exit_code" = true := by decide
  have hother : ∀ name ∈ ["exitCode", "sessionId", "session_id"], testFields.has name = false := by
    decide
  rw [twiceGiven_iff]
  simp only [has_setAll, hcode, hother "exitCode" (by decide), hother "sessionId" (by decide),
    hother "session_id" (by decide), Bool.true_or, Bool.false_or, and_true]

/-- The normal form of a checked context differs from it in the tool, the command and the path only,
unless a field with two names was given under both: then it takes the value that was given under the
inner name, and the extra of that name is gone. A test context has an exit code under the inner name
from the start, so it loses every one that is given under the wire name. -/
theorem normalize_touches_only (s : Setting) (c : Context) (dir : String) :
    (∀ fields, Keyed fields → check s fields = .good c →
      ((∃ n, normalize dir c = .good n ∧ Untouched c n) ↔ ¬ TwiceGiven fields) ∧
      ∀ n, normalize dir c = .good n →
        Untouched c { n with
          exitCode := c.exitCode
          sessionId := c.sessionId
          extras := c.extras } ∧
        Rereads fields "exitCode" "exit_code" (checkOptional checkInt) c.exitCode n.exitCode ∧
        Rereads fields "sessionId" "session_id" (checkOptional checkText) c.sessionId
          n.sessionId ∧
        n.extras = withoutTwoNamed c.extras) ∧
    ∀ overrides, checkTest s overrides = .good c →
      ((∃ n, normalize dir c = .good n ∧ Untouched c n) ↔
        ¬ (overrides.has "exitCode" = true ∨
          (overrides.has "sessionId" = true ∧ overrides.has "session_id" = true))) := by
  constructor
  · intro fields hfields h
    have hextras := (checks_of_check h).extras
    refine ⟨exists_untouched_iff hfields h dir, fun n hn => ?_⟩
    obtain ⟨heq, hcode, hsession⟩ := normalize_eq_good (apart_of_check hfields h) hextras hn
    refine ⟨?_, hcode, hsession, ?_⟩
    · rw [heq]
      rfl
    · rw [heq]
  · intro overrides h
    have htest : (testFields.map Prod.fst).Nodup := by decide
    have hkeyed : Keyed (testFields.setAll overrides) := keyed_setAll htest overrides
    rw [exists_untouched_iff hkeyed h, twiceGiven_test_iff]

/-- A test context with another exit code. -/
def failedTest : Context where
  timestamp := editSetting.now
  source := some .test
  tool := some "Bash"
  command := some "echo \"test\""
  path := none
  content := none
  exitCode := some 5
  success := some true
  cwd := "/w"
  sessionId := none
  params := none
  extras := [("exit_code", .int 0)]

theorem check_failedTest : checkTest editSetting [("exitCode", .int 5)] = .good failedTest := by
  cbv

theorem normalize_touches_only_edit :
    Keyed editFields ∧ check editSetting editFields = .good editContext ∧
      checkTest editSetting [("exitCode", .int 5)] = .good failedTest ∧
      (¬ ∃ n, normalize "/w" editContext = .good n ∧ Untouched editContext n) ∧
      (¬ ∃ n, normalize "/w" failedTest = .good n ∧ Untouched failedTest n) ∧
      ∀ n, normalize "/w" editContext = .good n → n.exitCode = some 2 ∧ n.sessionId = none ∧
        n.extras = [("note", .array [.bool false])] := by
  have hkeyed : Keyed editFields := (by decide : (editFields.map Prod.fst).Nodup)
  obtain ⟨huntouched, hnormal⟩ :=
    (normalize_touches_only editSetting editContext "/w").1 editFields hkeyed check_editFields
  have htest := (normalize_touches_only editSetting failedTest "/w").2 _ check_failedTest
  have htwice : TwiceGiven editFields := twiceGiven_iff.2 (.inl ⟨by decide, by decide⟩)
  refine ⟨hkeyed, check_editFields, check_failedTest, ?_, ?_, fun n hn => ?_⟩
  · rw [huntouched, not_not]
    exact htwice
  · rw [htest, not_not]
    exact .inl (by decide)
  · obtain ⟨-, hcode, hsession, hextras⟩ := hnormal n hn
    refine ⟨?_, hsession, hextras⟩
    have htwo : checkOptional checkInt (.string "2") = .good (some 2) := by cbv
    have hread : checkOptional checkInt (.string "2") = .good n.exitCode := hcode
    rw [htwo] at hread
    exact (Checked.good.inj hread).symm

/-- The exit code that a test gives is replaced by the one that test contexts start from. -/
theorem normalize_loses_exit_code :
    checkTest editSetting [("exitCode", .int 5)] = .good failedTest ∧
      failedTest.exitCode = some 5 ∧
      normalize "/w" failedTest = .good { failedTest with exitCode := some 0, extras := [] } := by
  exact ⟨check_failedTest, rfl, by cbv⟩

end HookPolicy.Context
