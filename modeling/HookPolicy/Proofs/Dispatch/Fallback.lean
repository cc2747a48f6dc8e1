import HookPolicy.Proofs.Dispatch.Aggregate

/-!
# Falling back on the disabled policy

A dispatcher that is given no policy has the one that its file holds, or else the disabled one. It
is built unless the file or a handler cannot be looked for, or the file holds what the loader does
not expect: bytes that are no text, or a document that is beyond the reader.
-/

namespace HookPolicy

/-- The program of a handler can be looked for, be it there or not. -/
def Hook.Findable (w : World) (dir : Path) (h : Hook) : Prop :=
  ∀ file, h.deed = .handler file → Dispatcher.hasNul (dir.join (Path.ofString file)) = false ∧
    w.loops (Dispatcher.programOf w dir file) = false ∧
      ∃ b, w.finds (Dispatcher.programOf w dir file) = .ok b

namespace Policy

/-- Bytes that are neither a document nor a malformed one. -/
inductive Unread (bytes : List UInt8) : Prop
  | notText {issue : Utf8.Issue} : Utf8.decode bytes = .error issue → Unread bytes
  | tooDeep {cs : List Char} {inObject : Bool} : Utf8.decode bytes = .ok cs →
      Json.readChars (Text.unifyLineEnds [] cs) = .error (.tooDeep inObject) → Unread bytes
  | tooManyDigits {cs : List Char} {count : Nat} : Utf8.decode bytes = .ok cs →
      Json.readChars (Text.unifyLineEnds [] cs) = .error (.tooManyDigits count) → Unread bytes

theorem ofDocument_isExpected {file : Path} {document : Json} {e : LoadError}
    (h : ofDocument file document = .error e) : e.isExpected = true := by
  unfold ofDocument at h
  split at h
  · split at h
    · cases h
    · cases h; rfl
  · cases h; rfl

theorem ofBytes_unexpected_iff {file : Path} {bytes : List UInt8} :
    (∃ e, ofBytes file bytes = .error e ∧ e.isExpected = false) ↔ Unread bytes := by
  unfold ofBytes
  constructor
  · rintro ⟨e, he, hunexpected⟩
    split at he
    · rename_i hdecode
      exact .notText hdecode
    · rename_i cs hdecode
      dsimp only at he
      split at he
      · rw [ofDocument_isExpected he] at hunexpected
        cases hunexpected
      · cases he
        cases hunexpected
      · rename_i e' hne hread
        cases e' with
        | malformed fault offset => exact absurd rfl (hne fault offset)
        | tooDeep inObject => exact .tooDeep hdecode hread
        | tooManyDigits count => exact .tooManyDigits hdecode hread
  · intro h
    cases h with
    | notText hdecode => rw [hdecode]; exact ⟨_, rfl, rfl⟩
    | tooDeep hdecode hread => rw [hdecode]; dsimp only; rw [hread]; exact ⟨_, rfl, rfl⟩
    | tooManyDigits hdecode hread => rw [hdecode]; dsimp only; rw [hread]; exact ⟨_, rfl, rfl⟩

/-- The file cannot be looked for, or holds what the loader does not expect. -/
inductive Escapes (w : World) (file : Path) : Prop
  | nameTooLong : w.find file = .error .nameTooLong → Escapes w file
  | content {parts : List String} {bytes : List UInt8} {executable : Bool} :
      w.find file = .ok (parts, .file bytes executable) → Unread bytes → Escapes w file

theorem load_unexpected_iff {w : World} {file : Path} :
    (∃ e, load w file = .error e ∧ e.isExpected = false) ↔ Escapes w file := by
  unfold load
  constructor
  · rintro ⟨e, he, hunexpected⟩
    split at he
    · rename_i hfind
      exact .content hfind (ofBytes_unexpected_iff.1 ⟨e, he, hunexpected⟩)
    · cases he
      cases hunexpected
    · rename_i hfind
      exact .nameTooLong hfind
    · cases he
      cases hunexpected
  · intro h
    cases h with
    | nameTooLong hfind => rw [hfind]; exact ⟨_, rfl, rfl⟩
    | content hfind hunread => rw [hfind]; exact ofBytes_unexpected_iff.2 hunread

end Policy

namespace Dispatcher

variable {w : World} {silent : Bool} {dir : Path} {handlers : List (String × Path)}
  {event file : String} {h : Hook} {hooks : List (String × Hook)}

theorem lookFor_eq_ok_iff {b : Bool} :
    lookFor w dir file = .ok b ↔ hasNul (dir.join (Path.ofString file)) = false ∧
      w.loops (programOf w dir file) = false ∧ w.finds (programOf w dir file) = .ok b := by
  unfold lookFor
  dsimp only
  cases hasNul (dir.join (Path.ofString file)) with
  | true => simp
  | false =>
    cases w.loops (programOf w dir file) with
    | true => simp
    | false => cases w.finds (programOf w dir file) <;> simp

theorem findHandlers_cons :
    (findHandlers w silent dir handlers ((event, h) :: hooks)).1 =
      match h.deed with
      | .handler file =>
        match lookFor w dir file with
        | .error e => .error e
        | .ok b => (findHandlers w silent dir
            (if b then setHandler handlers h.id (programOf w dir file) else handlers) hooks).1
      | _ => (findHandlers w silent dir handlers hooks).1 := by
  obtain ⟨id, matcher, condition, message, deed⟩ := h
  cases deed with
  | action a => rfl
  | command template onFailure silent => rfl
  | handler file =>
    rw [findHandlers]
    dsimp only
    cases lookFor w dir file with
    | error e => rfl
    | ok b => cases b <;> rfl

theorem findHandlers_cons_handler {b : Bool} (hdeed : h.deed = .handler file)
    (hlook : lookFor w dir file = .ok b) :
    (findHandlers w silent dir handlers ((event, h) :: hooks)).1 =
      (findHandlers w silent dir
        (if b then setHandler handlers h.id (programOf w dir file) else handlers) hooks).1 := by
  rw [findHandlers_cons, hdeed]
  dsimp only
  rw [hlook]

theorem findHandlers_cons_other (hdeed : ∀ file, h.deed ≠ .handler file) :
    (findHandlers w silent dir handlers ((event, h) :: hooks)).1 =
      (findHandlers w silent dir handlers hooks).1 := by
  rw [findHandlers_cons]
  split
  · rename_i file hfile
    exact absurd hfile (hdeed file)
  · rfl

/-- A handler that cannot be looked for stops the search. -/
theorem findable_of_findHandlers_cons {found : List (String × Path)}
    (hfound : (findHandlers w silent dir handlers ((event, h) :: hooks)).1 = .ok found) :
    h.Findable w dir := by
  intro file hdeed
  rw [findHandlers_cons, hdeed] at hfound
  dsimp only at hfound
  cases hlook : lookFor w dir file with
  | error e =>
    rw [hlook] at hfound
    cases hfound
  | ok b =>
    obtain ⟨hnul, hloops, hfinds⟩ := lookFor_eq_ok_iff.1 hlook
    exact ⟨hnul, hloops, b, hfinds⟩

theorem findHandlers_ok_iff (w : World) (silent : Bool) (dir : Path)
    (handlers : List (String × Path)) (hooks : List (String × Hook)) :
    (∃ found, (findHandlers w silent dir handlers hooks).1 = .ok found) ↔
      ∀ p ∈ hooks, p.2.Findable w dir := by
  induction hooks generalizing handlers with
  | nil => exact ⟨fun _ => nofun, fun _ => ⟨handlers, rfl⟩⟩
  | cons p hooks ih =>
    obtain ⟨event, h⟩ := p
    rw [List.forall_mem_cons]
    by_cases hfindable : h.Findable w dir
    · rw [and_iff_right hfindable]
      by_cases hhandler : ∃ file, h.deed = .handler file
      · obtain ⟨file, hdeed⟩ := hhandler
        obtain ⟨hnul, hloops, b, hfinds⟩ := hfindable file hdeed
        rw [findHandlers_cons_handler hdeed (lookFor_eq_ok_iff.2 ⟨hnul, hloops, hfinds⟩)]
        exact ih _
      · rw [findHandlers_cons_other fun file hfile => hhandler ⟨file, hfile⟩]
        exact ih _
    · refine iff_of_false ?_ fun hall => hfindable hall.1
      rintro ⟨found, hfound⟩
      exact hfindable (findable_of_findHandlers_cons hfound)

/-- The policy that a file stands for, the disabled one where it holds none. -/
def fallback (w : World) (file : Path) : Policy := (Policy.load w file).toOption.getD .disabled

theorem policyOf_none {w : World} {r : DispatchRequest} (hnone : r.policy = none) (file : Path) :
    (¬ Policy.Escapes w file → (policyOf w r file).1 = .ok (fallback w file)) ∧
      (Policy.Escapes w file → ∃ e, (policyOf w r file).1 = .error e) := by
  rw [← Policy.load_unexpected_iff, policyOf, hnone, fallback]
  dsimp only
  split
  · rename_i p hload
    simp [hload, Except.toOption]
  · rename_i place hload
    simp [hload, Except.toOption, LoadError.isExpected]
  · rename_i e habsent hload
    cases hexpected : e.isExpected <;> simp [hload, hexpected, Except.toOption]

theorem build_eq (w : World) (r : DispatchRequest) :
    (build w r).1 = (policyOf w r (Policy.place w r.policyFile)).1.bind fun p =>
      (findHandlers w r.silent (handlersDirOf r (Policy.place w r.policyFile)) [] p.allHooks).1.map
        fun handlers => ⟨Policy.place w r.policyFile,
          handlersDirOf r (Policy.place w r.policyFile), r.silent, p, handlers⟩ := by
  rw [build]
  split
  · rename_i hpolicy
    rw [hpolicy]
    rfl
  · rename_i hpolicy
    rw [hpolicy]
    dsimp only [Except.bind]
    split
    · rename_i hfound
      rw [hfound]
      rfl
    · rename_i hfound
      rw [hfound]
      rfl

/-- What a dispatcher is made of. -/
theorem build_eq_ok {w : World} {r : DispatchRequest} {d : Dispatcher}
    (hbuilt : (build w r).1 = .ok d) :
    let file := Policy.place w r.policyFile
    (policyOf w r file).1 = .ok d.policy ∧
      (findHandlers w r.silent (handlersDirOf r file) [] d.policy.allHooks).1 = .ok d.handlers ∧
      d.policyFile = file ∧ d.handlersDir = handlersDirOf r file ∧ d.silent = r.silent := by
  intro file
  rw [build_eq] at hbuilt
  cases hpolicy : (policyOf w r file).1 with
  | error e =>
    rw [hpolicy] at hbuilt
    cases hbuilt
  | ok p =>
    rw [hpolicy] at hbuilt
    dsimp only [Except.bind] at hbuilt
    cases hfound : (findHandlers w r.silent (handlersDirOf r file) [] p.allHooks).1 with
    | error e =>
      rw [hfound] at hbuilt
      cases hbuilt
    | ok handlers =>
      rw [hfound] at hbuilt
      cases hbuilt
      exact ⟨rfl, hfound, rfl, rfl, rfl⟩

theorem build_of_found {w : World} {r : DispatchRequest} {file : Path} {p : Policy}
    {found : List (String × Path)} (hfile : Policy.place w r.policyFile = file)
    (hpolicy : (policyOf w r file).1 = .ok p)
    (hfound : (findHandlers w r.silent (handlersDirOf r file) [] p.allHooks).1 = .ok found) :
    (build w r).1 = .ok ⟨file, handlersDirOf r file, r.silent, p, found⟩ := by
  subst hfile
  rw [build_eq, hpolicy]
  dsimp only [Except.bind]
  rw [hfound]
  rfl

theorem policyOf_of_load {w : World} {r : DispatchRequest} {file : Path} {p : Policy}
    (hnone : r.policy = none) (hload : Policy.load w file = .ok p) :
    (policyOf w r file).1 = .ok p := by
  rw [policyOf, hnone]
  dsimp only
  rw [hload]

/-- A dispatcher that is given no policy is built exactly if the file does not escape the loader and
the handlers of its policy can be looked for. It then has the policy of the file or, where the file
holds none, the disabled one. -/
theorem build_falls_back {w : World} {r : DispatchRequest} (hnone : r.policy = none) :
    let file := Policy.place w r.policyFile
    let policy := fallback w file
    (∀ d, (build w r).1 = .ok d → d.policy = policy) ∧
      ((∃ d, (build w r).1 = .ok d) ↔ ¬ Policy.Escapes w file ∧
        ∀ p ∈ policy.allHooks, p.2.Findable w (handlersDirOf r file)) := by
  intro file policy
  obtain ⟨hheld, hescapes⟩ := policyOf_none (w := w) hnone file
  have hhandlers := findHandlers_ok_iff w r.silent (handlersDirOf r file) [] policy.allHooks
  rw [build_eq]
  by_cases hescape : Policy.Escapes w file
  · -- the policy file stops the construction before any handler is looked for
    obtain ⟨e, he⟩ := hescapes hescape
    rw [he]
    exact ⟨nofun, nofun, fun h => absurd hescape h.1⟩
  · rw [hheld hescape, and_iff_right hescape, ← hhandlers]
    dsimp only [Except.bind]
    cases (findHandlers w r.silent (handlersDirOf r file) [] policy.allHooks).1 with
    | error e => exact ⟨nofun, nofun, nofun⟩
    | ok handlers => exact ⟨fun d hd => by cases hd; rfl, fun _ => ⟨_, rfl⟩, fun _ => ⟨_, rfl⟩⟩

/-- A world whose only file is a policy file. -/
def holding (bytes : List UInt8) : World :=
  { atRoot.world with tree := ⟨[(["hooks.json"], .file bytes false)]⟩ }

def hooksRequest : DispatchRequest := { policyFile := "hooks.json" }

theorem place_hooksRequest (bytes : List UInt8) :
    Policy.place (holding bytes) hooksRequest.policyFile = ⟨0, ["hooks.json"]⟩ := by
  cbv

theorem find_holding (bytes : List UInt8) :
    (holding bytes).find ⟨0, ["hooks.json"]⟩ = .ok (["hooks.json"], .file bytes false) := by
  have hdir : (holding bytes).dir = ⟨1, []⟩ := by cbv
  have hshort : ¬ (⟨0, ["hooks.json"]⟩ : Path).toString.utf8ByteSize > FileTree.pathLimit := by
    decide +kernel
  rw [World.find, FileTree.find, if_neg hshort, hdir]
  rfl

/-- An empty file is no document and gives the disabled policy. -/
theorem build_falls_back_empty :
    hooksRequest.policy = none ∧
      ∃ d, (build (holding []) hooksRequest).1 = .ok d ∧ d.policy = .disabled := by
  have hload : Policy.load (holding []) ⟨0, ["hooks.json"]⟩ = .error (.malformed
      ⟨0, ["hooks.json"]⟩ "Expecting value: line 1 column 1 (char 0)") := by
    rw [Policy.load, find_holding]
    rfl
  have hescape : ¬ Policy.Escapes (holding []) ⟨0, ["hooks.json"]⟩ := by
    intro h
    obtain ⟨e, he, hunexpected⟩ := Policy.load_unexpected_iff.2 h
    rw [hload] at he
    cases he
    cases hunexpected
  have hfallback : fallback (holding []) ⟨0, ["hooks.json"]⟩ = .disabled := by
    rw [fallback, hload]
    rfl
  obtain ⟨hpolicy, hbuilt⟩ := build_falls_back (w := holding []) (r := hooksRequest) rfl
  rw [place_hooksRequest, hfallback] at hpolicy hbuilt
  obtain ⟨d, hd⟩ := hbuilt.2 ⟨hescape, nofun⟩
  exact ⟨rfl, d, hd, hpolicy d hd⟩

/-- A file that is no text does not give the disabled policy: no dispatcher is built at all. -/
theorem build_fails_on_bytes :
    (build (holding [0x7b, 0x22, 0xff, 0x22, 0x7d]) hooksRequest).1 =
      .error (.load (.notText ⟨2, 1, 0xff, .badStart⟩)) := by
  have hload : Policy.load (holding [0x7b, 0x22, 0xff, 0x22, 0x7d]) ⟨0, ["hooks.json"]⟩ =
      .error (.notText ⟨2, 1, 0xff, .badStart⟩) := by
    rw [Policy.load, find_holding]
    rfl
  rw [build_eq, place_hooksRequest, policyOf]
  dsimp only [hooksRequest]
  rw [hload]
  rfl

end Dispatcher

end HookPolicy
