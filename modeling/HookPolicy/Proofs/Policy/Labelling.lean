import HookPolicy.Policy.Load
import HookPolicy.Proofs.Check.Defects
import HookPolicy.Proofs.Dispatch.Fallback
import HookPolicy.Proofs.Json.Reading
import HookPolicy.Proofs.Lists.Repeats

/-!
# The hooks that a refusal names

When the document of a policy file is no policy, the refusal names the definitions that are no hook
on their own: each by its event and its id, or by its event and its number.
-/

namespace HookPolicy.Policy

open Fields

/-! ## Checks of hooks -/

theorem telling_checkAction (v : Json) : (checkAction v).Telling := telling_checkWord _ v

theorem telling_checkKind (kind : String) (v : Json) : (checkKind kind v).Telling := by
  unfold checkKind
  split
  · split
    · exact Checked.telling_good _
    · exact Checked.telling_one _
  · exact Checked.telling_one _

theorem telling_checkHookBase (fields : Fields) (kind : String) :
    (checkHookBase fields kind).Telling := by
  have htext := telling_checkOptional telling_checkText
  exact (((((telling_required telling_checkText fields "id").map _).seq
    (telling_defaulting htext fields "matcher" none)).seq
    (telling_defaulting htext fields "condition" none)).seq
    (telling_defaulting htext fields "message" none)).seq
    (telling_defaulting (telling_checkKind kind) fields "kind" ())

theorem telling_checkDeed (fields : Fields) (kind : String) : (checkDeed fields kind).Telling := by
  unfold checkDeed
  split
  · exact (telling_required telling_checkAction fields "action").map _
  · split
    · exact (telling_required telling_checkText fields "handler").map _
    · exact (((telling_required telling_checkText fields "command").map _).seq
        (telling_defaulting telling_checkAction fields "on_failure" .warn)).seq
        (telling_defaulting telling_checkBool fields "silent" false)

theorem telling_checkHook (v : Json) : (checkHook v).Telling := by
  unfold checkHook
  split
  · split
    · exact ((telling_checkHookBase _ _).seq (telling_checkDeed _ _)).under _
    · exact Checked.telling_one _
  · exact Checked.telling_one _

/-! ## Definitions -/

theorem field_object {fields : Fields} {name : String} {v : Json}
    (hget : get? fields name = some v) : (Json.object fields).field name = v := by
  rw [Json.field, hget, Option.getD_some]

/-- A definition of a document, with its event and its number in the list of the event. -/
structure Definition where
  event : String
  index : Nat
  body : Json

namespace Definition

/-- The definition would be a hook on its own. -/
def IsHook (d : Definition) : Prop := ∃ h, checkHook d.body = .good h

/-- The name of a definition in messages. An id that is null, false, zero or empty is none. -/
inductive Named (d : Definition) : String → Prop
  | id {fields : Fields} {id : Json} :
    d.body = .object fields → get? fields "id" = some id → id.isTruthy = true →
      Named d (d.event ++ "/" ++ id.display)
  | number :
    (∀ fields id, d.body = .object fields → get? fields "id" = some id → id.isTruthy = false) →
      Named d (d.event ++ "/#" ++ Decimal.natText d.index)

def label (d : Definition) : String := labelOf d.event d.index d.body

theorem isHook_iff {d : Definition} : d.IsHook ↔ (checkHook d.body).defects = [] :=
  (Checked.defects_eq_nil_iff (telling_checkHook d.body)).symm

instance : DecidablePred IsHook := fun _ => decidable_of_iff _ isHook_iff.symm

theorem named_label (d : Definition) : d.Named d.label := by
  cases htruthy : (d.body.field "id").isTruthy with
  | true =>
    have hlabel : d.label = d.event ++ "/" ++ (d.body.field "id").display := by
      rw [label, labelOf, htruthy, if_pos rfl]
    rw [hlabel]
    unfold Json.field at htruthy ⊢
    split at htruthy
    · rename_i fields hbody
      cases hid : get? fields "id" with
      | none =>
        rw [hid] at htruthy
        cases htruthy
      | some id =>
        rw [hid] at htruthy
        exact .id hbody hid htruthy
    · cases htruthy
  | false =>
    have hlabel : d.label = d.event ++ "/#" ++ Decimal.natText d.index := by
      rw [label, labelOf, htruthy, if_neg Bool.false_ne_true]
      simp only [String.append_assoc]
      rfl
    rw [hlabel]
    refine .number fun fields id hbody hid => ?_
    rwa [hbody, field_object hid] at htruthy

end Definition

/-- The definitions of all events, in the order of the document. -/
def definitions (events : Fields) : List Definition :=
  events.flatMap fun f => (f.2.items?.getD []).zipIdx.map fun p => ⟨f.1, p.2, p.1⟩

/-- The definitions that are no hooks. -/
def faulty (events : Fields) : List Definition := (definitions events).filter fun d => ¬ d.IsHook

theorem faulty_eq_nil_iff {events : Fields} :
    faulty events = [] ↔ ∀ d ∈ definitions events, d.IsHook := by
  rw [faulty, List.filter_eq_nil_iff]
  refine forall₂_congr fun d _ => ?_
  rw [decide_eq_true_iff, not_not]

variable {events fields : Fields} {d : Definition}

/-- Every event has a list. -/
def OfLists (events : Fields) : Prop := ∀ f ∈ events, ∃ items, f.2 = .array items

theorem items?_field (hkeyed : Keyed events) (hd : d ∈ definitions events) :
    ∃ items, ((Json.object events).field d.event).items? = some items ∧
      items[d.index]? = some d.body := by
  obtain ⟨f, hf, hd⟩ := List.mem_flatMap.1 hd
  obtain ⟨p, hp, rfl⟩ := List.mem_map.1 hd
  rw [field_object (hkeyed.get?_eq_some_iff.2 hf)]
  rw [List.mem_zipIdx_iff_getElem?] at hp
  cases hitems : f.2.items? with
  | none =>
    rw [hitems] at hp
    cases hp
  | some items =>
    rw [hitems] at hp
    exact ⟨items, rfl, hp⟩

/-! ## The defects of a document -/

/-- A defect of a definition, seen from the root of the document. -/
def Definition.locate (d : Definition) (e : Defect) : Defect :=
  ((e.below (.index d.index)).below (.key d.event)).below (.key "hooks")

theorem defects_checkHooks (hlists : OfLists events) :
    ((checkHooks (.object events)).defects.map (Defect.below (.key "hooks"))) =
      (definitions events).flatMap fun d => (checkHook d.body).defects.map d.locate := by
  rw [checkHooks, defects_checkFields, List.map_flatMap, definitions, List.flatMap_assoc]
  refine List.flatMap_congr fun f hf => ?_
  obtain ⟨items, hitems⟩ := hlists f hf
  rw [hitems, checkList, defects_checkItems, List.map_flatMap, List.map_flatMap, List.flatMap_map]
  refine List.flatMap_congr fun p _ => ?_
  rw [List.map_map, List.map_map]
  rfl

theorem defectLabel?_locate {document : Json} (hhooks : document.field "hooks" = .object events)
    (hkeyed : Keyed events) (hd : d ∈ definitions events) (e : Defect) :
    defectLabel? document (d.locate e) = some d.label := by
  obtain ⟨items, hitems, hbody⟩ := items?_field hkeyed hd
  have hlabel : defectLabel? document (d.locate e) =
      ((((document.field "hooks").field d.event).items?).getD [])[d.index]?.map
        (labelOf d.event d.index) := rfl
  rw [hlabel, hhooks, hitems, Option.getD_some, hbody]
  rfl

/-- Each definition is named once for each of its defects. -/
theorem filterMap_defectLabel? {document : Json}
    (hhooks : document.field "hooks" = .object events) (hkeyed : Keyed events)
    (hlists : OfLists events) :
    ((checkHooks (.object events)).defects.map (Defect.below (.key "hooks"))).filterMap
        (defectLabel? document) =
      (definitions events).flatMap fun d =>
        List.replicate (checkHook d.body).defects.length d.label := by
  rw [defects_checkHooks hlists, List.filterMap_flatMap]
  refine List.flatMap_congr fun d hd => ?_
  rw [List.filterMap_map, ← List.map_const', ← List.filterMap_eq_map]
  exact List.filterMap_congr fun e _ => defectLabel?_locate hhooks hkeyed hd e

/-- The defects of the settings come first. They name no definition. -/
theorem defects_checkPolicy (hhooks : get? fields "hooks" = some (.object events)) :
    ∃ settings, (∀ e ∈ settings, ∀ document, defectLabel? document e = none) ∧
      (checkPolicy (.object fields)).defects =
        settings ++ (checkHooks (.object events)).defects.map (Defect.below (.key "hooks")) := by
  refine ⟨(defaulting fields "settings" {} (checkSettings ∘ nullAsEmpty)).defects,
    fun e he document => ?_, ?_⟩
  · obtain ⟨rest, hplace⟩ := place_of_mem_defects_defaulting he
    unfold defectLabel?
    rw [hplace]
    rfl
  · rw [checkPolicy, Checked.defects_seq, Checked.defects_map, defects_defaulting hhooks]
    rfl

theorem labels_eq (hfields : Json.KeyedThroughout (.object fields))
    (hhooks : get? fields "hooks" = some (.object events)) (hlists : OfLists events) :
    labels (.object fields) (checkPolicy (.object fields)).defects =
      ((faulty events).map Definition.label).eraseDups := by
  obtain ⟨settings, hsettings, hdefects⟩ := defects_checkPolicy hhooks
  have hnone : settings.filterMap (defectLabel? (.object fields)) = [] :=
    List.filterMap_eq_nil_iff.2 fun e he => hsettings e he _
  have hkeyed : Keyed events := (hfields.of_get? hhooks).keyed
  have hfield := field_object hhooks
  have hfaulty : (definitions events).filter (fun d => (checkHook d.body).defects.length != 0) =
      faulty events := by
    refine List.filter_congr fun d _ => ?_
    rw [Bool.eq_iff_iff, bne_iff_ne, decide_eq_true_iff, Definition.isHook_iff, ne_eq,
      List.length_eq_zero_iff]
  rw [labels, hdefects, List.filterMap_append, hnone, List.nil_append,
    filterMap_defectLabel? hfield hkeyed hlists, eraseDups_flatMap_replicate, hfaulty]

/-! ## Refusals -/

/-- The file is there and reads as the document. -/
structure HoldsDocument (w : World) (file : Path) (v : Json) : Prop where
  found : ∃ parts bytes executable cs, w.find file = .ok (parts, .file bytes executable) ∧
    Utf8.decode bytes = .ok cs ∧ Json.readChars (Text.unifyLineEnds [] cs) = .ok v

theorem load_of_holdsDocument {w : World} {file : Path} {v : Json} (h : HoldsDocument w file v) :
    load w file = ofDocument file v := by
  obtain ⟨parts, bytes, executable, cs, hfind, hdecode, hread⟩ := h.found
  rw [load, hfind]
  dsimp only
  rw [ofBytes, hdecode]
  dsimp only
  rw [hread]

theorem keyedThroughout_of_holdsDocument {w : World} {file : Path} {v : Json}
    (h : HoldsDocument w file v) : v.KeyedThroughout := by
  obtain ⟨_, _, _, _, -, -, hread⟩ := h.found
  exact Json.keyedThroughout_of_readChars hread

theorem labelClause_eq_empty_iff (labels : List String) :
    LoadError.labelClause labels = "" ↔ labels = [] := by
  cases labels with
  | nil => exact iff_of_true rfl rfl
  | cons l labels =>
    refine iff_of_false (fun h => ?_) (List.cons_ne_nil l labels)
    have hhead := congrArg (·.toList.head?) h
    simp [LoadError.labelClause] at hhead

def mixedText : String :=
  "\x7b\"hooks\":\x7b\"A\":[\x7b\"id\":\"x\"\x7d,\x7b\"id\":\"y\",\"action\":\"warn\"\x7d,7," ++
    "\x7b\"id\":\"x\",\"command\":1\x7d]\x7d\x7d"

def mixedEvents : Fields :=
  [("A", .array [.object [("id", .string "x")],
    .object [("id", .string "y"), ("action", .string "warn")], .int 7,
    .object [("id", .string "x"), ("command", .int 1)]])]

def mixedDefects : List Defect :=
  [⟨[.key "hooks", .key "A", .index 0], .unclearKind⟩,
    ⟨[.key "hooks", .key "A", .index 2], .unclearKind⟩,
    ⟨[.key "hooks", .key "A", .index 3, .key "command", .key "command"], .notText⟩]

/-- A world with the document of the text in the file of hooks. -/
def withHooks (text : String) : World := Dispatcher.holding (Utf8.encode text)

def hooksFile : Path := ⟨0, ["hooks.json"]⟩

theorem holdsDocument_withHooks {text : String} {v : Json}
    (hdecode : Utf8.decode (Utf8.encode text) = .ok text.toList)
    (hread : Json.readChars (Text.unifyLineEnds [] text.toList) = .ok v) :
    HoldsDocument (withHooks text) hooksFile v where
  found := ⟨_, _, _, _, Dispatcher.find_holding _, hdecode, hread⟩

theorem holdsDocument_mixed :
    HoldsDocument (withHooks mixedText) hooksFile (.object [("hooks", .object mixedEvents)]) :=
  holdsDocument_withHooks (by decide +kernel) (by cbv)

theorem ofLists_mixed : OfLists mixedEvents := List.forall_mem_singleton.2 ⟨_, rfl⟩

def zeroText : String :=
  "\x7b\"hooks\":\x7b\"A\":[\x7b\"id\":0,\"action\":\"warn\"\x7d]\x7d\x7d"

def zeroDefinition : Definition where
  event := "A"
  index := 0
  body := .object [("id", .int 0), ("action", .string "warn")]

def zeroEvents : Fields := [("A", .array [zeroDefinition.body])]

end HookPolicy.Policy
