import HookPolicy.Proofs.Context.Sources

/-!
# Reading standard input

A text on standard input gives fields if it is an object, and nothing if it is any other document or
none at all. It fails exactly if it is beyond the reader of documents, or gives an exit code that is
infinite.
-/

namespace HookPolicy.Context

variable {wait : Int}

def document (text : String) : Except Json.ReadError Json :=
  Json.readChars (Text.trim text.toList)

theorem stdinFields_text (hwait : wait ≤ waitLimit) (text : String) :
    stdinFields (.text text) wait = match document text with
      | .ok (.object payload) => (payloadFields payload).map some
      | .ok _ => .ok none
      | .error (.malformed _ _) => .ok none
      | .error e => .error (.document e) := by
  have hnot : ¬ wait > waitLimit := not_lt.2 hwait
  unfold stdinFields document
  simp only [if_neg hnot]
  cases htrim : Text.trim text.toList with
  | nil => rfl
  | cons c cs =>
    rw [List.isEmpty_cons, if_neg Bool.false_ne_true]
    cases Json.readChars (c :: cs) with
    | error e => cases e <;> rfl
    | ok v =>
      cases v with
      | object payload =>
        dsimp only
        cases payloadFields payload <;> rfl
      | _ => rfl

theorem stdinFields_object (hwait : wait ≤ waitLimit) {text : String} {payload : Fields}
    (hread : document text = .ok (.object payload)) :
    stdinFields (.text text) wait = (payloadFields payload).map some := by
  rw [stdinFields_text hwait, hread]

theorem payloadFields_of_stdinFields {input : Input} {fields : Fields}
    (h : stdinFields input wait = .ok (some fields)) :
    ∃ text payload, input = .text text ∧ document text = .ok (.object payload) ∧
      payloadFields payload = .ok fields := by
  by_cases hwait : wait ≤ waitLimit
  · cases input with
    | text text =>
      rw [stdinFields_text hwait] at h
      split at h
      · rename_i payload hread
        cases hfields : payloadFields payload with
        | error e =>
          rw [hfields] at h
          cases h
        | ok out =>
          rw [hfields] at h
          cases h
          exact ⟨text, payload, rfl, hread, hfields⟩
      all_goals cases h
    | _ => simp [stdinFields, not_lt.2 hwait] at h
  · have hlong : wait > waitLimit := not_le.1 hwait
    cases input <;> simp [stdinFields, hlong] at h

/-- What a text on standard input holds that is not survived. -/
inductive Escapes (text : String) : ReadFault → Prop
  | tooDeep {inObject : Bool} : document text = .error (.tooDeep inObject) →
      Escapes text (.document (.tooDeep inObject))
  | tooManyDigits {count : Nat} : document text = .error (.tooManyDigits count) →
      Escapes text (.document (.tooManyDigits count))
  | infiniteCode {payload : Fields} : document text = .ok (.object payload) →
      IsInfinite (givenBy payload "exit_code") → Escapes text .infiniteNumber

/-- Malformed texts, and documents other than objects. -/
def HoldsNoObject (text : String) : Prop :=
  (∃ fault offset, document text = .error (.malformed fault offset)) ∨
    ∃ v, document text = .ok v ∧ v.fields? = none

theorem stdinFields_eq_error_iff (hwait : wait ≤ waitLimit) {text : String} {e : ReadFault} :
    stdinFields (.text text) wait = .error e ↔ Escapes text e := by
  constructor
  · intro h
    rw [stdinFields_text hwait] at h
    split at h
    · rename_i payload hread
      cases hfields : payloadFields payload with
      | ok fields =>
        rw [hfields] at h
        cases h
      | error e' =>
        rw [hfields] at h
        cases h
        obtain ⟨rfl, hinf⟩ := payloadFields_eq_error_iff.1 hfields
        exact .infiniteCode hread hinf
    · cases h
    · cases h
    · rename_i e' hmalformed hread
      cases h
      cases e' with
      | malformed fault offset => exact absurd rfl (hmalformed fault offset)
      | tooDeep inObject => exact .tooDeep hread
      | tooManyDigits count => exact .tooManyDigits hread
  · intro h
    rw [stdinFields_text hwait]
    cases h with
    | tooDeep hread => rw [hread]
    | tooManyDigits hread => rw [hread]
    | infiniteCode hread hinf =>
      rw [hread]
      dsimp only
      rw [payloadFields_eq_error_iff.2 ⟨rfl, hinf⟩]
      rfl

theorem stdinFields_eq_none_iff (hwait : wait ≤ waitLimit) {text : String} :
    stdinFields (.text text) wait = .ok none ↔ HoldsNoObject text := by
  constructor
  · intro h
    rw [stdinFields_text hwait] at h
    split at h
    · rename_i payload hread
      cases hfields : payloadFields payload <;> rw [hfields] at h <;> cases h
    · rename_i v hother hread
      refine .inr ⟨v, hread, ?_⟩
      cases v with
      | object payload => exact absurd rfl (hother payload)
      | _ => rfl
    · rename_i fault offset hread
      exact .inl ⟨fault, offset, hread⟩
    · cases h
  · rintro (⟨fault, offset, hread⟩ | ⟨v, hread, hv⟩)
    · rw [stdinFields_text hwait, hread]
    · rw [stdinFields_text hwait, hread]
      cases v with
      | object payload => cases hv
      | _ => rfl

/-- Reading a text fails exactly if the text escapes. It gives nothing exactly if there is no object
in the text. From any other text it gives fields: what the object gives each, brought to the kind of
the field or to null. -/
theorem stdinFields_fails_iff_escapes (hwait : wait ≤ waitLimit) (text : String) :
    (∀ e, stdinFields (.text text) wait = .error e ↔ Escapes text e) ∧
      (stdinFields (.text text) wait = .ok none ↔ HoldsNoObject text) ∧
      ∀ payload, document text = .ok (.object payload) →
        ¬ IsInfinite (givenBy payload "exit_code") →
        ∃ fields, stdinFields (.text text) wait = .ok (some fields) ∧ Reads payload fields ∧
          ∀ name, (kindOf name).Holds (fields.value name) := by
  refine ⟨fun e => stdinFields_eq_error_iff hwait, stdinFields_eq_none_iff hwait, ?_⟩
  intro payload hread hfinite
  rw [stdinFields_object hwait hread]
  cases hfields : payloadFields payload with
  | error e => exact absurd (payloadFields_eq_error_iff.1 hfields).2 hfinite
  | ok fields =>
    have hreads := reads_of_payloadFields hfields
    exact ⟨fields, rfl, hreads, hreads.proper.value_holds⟩

/-- A report in the host's own way, with an exit code that is a text. -/
def reportText : String :=
  "\x7b\"tool_name\": \"shell\", \"exitCode\": \"3\", \"success\": 1, \"tool\": null\x7d"

def reportFields : Fields :=
  [("tool_name", .string "shell"), ("exitCode", .string "3"), ("success", .int 1), ("tool", .null)]

theorem document_reportText : document reportText = .ok (.object reportFields) := by
  cbv

theorem stdinFields_reportText :
    (5000 : Int) ≤ waitLimit ∧ document reportText = .ok (.object reportFields) ∧
      ¬ IsInfinite (givenBy reportFields "exit_code") ∧
      ∃ fields, stdinFields (.text reportText) 5000 = .ok (some fields) ∧
        Reads reportFields fields ∧ fields.value "tool" = .string "shell" ∧
        fields.value "exit_code" = .int 3 ∧ fields.value "success" = .bool false := by
  have hwait : (5000 : Int) ≤ waitLimit := by decide
  have hfinite : ¬ IsInfinite (givenBy reportFields "exit_code") := by
    have hcode : givenBy reportFields "exit_code" = .string "3" := by cbv
    rw [hcode]
    rintro ⟨negative, h⟩
    cases h
  obtain ⟨-, -, hfields⟩ := stdinFields_fails_iff_escapes hwait reportText
  obtain ⟨fields, hout, hreads, -⟩ := hfields reportFields document_reportText hfinite
  have htool : coerce "tool" (givenBy reportFields "tool") = .ok (.string "shell") := by cbv
  have hcode : coerce "exit_code" (givenBy reportFields "exit_code") = .ok (.int 3) := by cbv
  have hsuccess : coerce "success" (givenBy reportFields "success") = .ok (.bool false) := by cbv
  refine ⟨hwait, document_reportText, hfinite, fields, hout, hreads, ?_, ?_, ?_⟩
  · exact Except.ok.inj ((hreads.value "tool" (by decide) (by decide)).symm.trans htool)
  · exact Except.ok.inj ((hreads.value "exit_code" (by decide) (by decide)).symm.trans hcode)
  · exact Except.ok.inj ((hreads.value "success" (by decide) (by decide)).symm.trans hsuccess)

/-- An object whose exit code is too large for a finite number gives no fields, not even others. -/
theorem stdinFields_fails_on_infinite :
    stdinFields (.text "\x7b\"exitCode\": 1e999\x7d") 5000 = .error .infiniteNumber := by
  cbv

end HookPolicy.Context
