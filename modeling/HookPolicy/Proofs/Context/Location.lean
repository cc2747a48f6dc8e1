import HookPolicy.Proofs.Context.Idempotence

/-!
# Where paths lead

The path of a context that was gathered, handed over or brought to normal form is empty or starts at
the root. A relative path is put behind the directory of the context and climbs from the root, so
that no way up is left in it.
-/

namespace HookPolicy.Context

open Fields

variable {c : Context} {s : Setting} {fields : Fields} {dir : String}

/-- A context that was gathered, brought to normal form or handed over in the setting, and the path
that it was given. -/
inductive Returned (s : Setting) : Json → Context → Prop
  | gathered {o : Origin} {input args : Fields} {c : Context} :
    gather s o = .ok c → o.inputFields = .ok input → argFields o.args = .ok args →
      Returned s (o.given input args "path") c
  | normal {c n : Context} :
    Made c → normalize s.cwd c = .good n → Returned s (.ofOption c.path) n
  | handed {source : String} {payload fields : Fields} {c : Context} :
    ofPayload s source payload = .ok c → payloadFields payload = .ok fields →
      Returned s (value fields "path") c

/-- The directory that a relative path starts from: that of the context, or of the process. -/
def startDir (s : Setting) (c : Context) : String := if c.cwd = "" then s.cwd else c.cwd

theorem absolutePath_eq (hdir : dir.startsWith "/" = true) (base path : String) :
    absolutePath dir base path =
      Path.settledText (Path.joinedText dir (Path.joinedText base path)) := by
  have hjoined : ((Path.ofString dir).join (Path.ofString base)).join (Path.ofString path) =
      Path.ofString (Path.joinedText dir (Path.joinedText base path)) := by
    rw [Path.join_assoc, Path.ofString_joinedText, Path.ofString_joinedText]
  have htext : absolutePath dir base path = (Path.cancel
      (((Path.ofString dir).join (Path.ofString base)).join (Path.ofString path))).toString := rfl
  rw [htext, hjoined, Path.toString_cancel (Path.startsWith_slash_joinedText hdir _)]

/-! ## The path of a checked context -/

theorem normalText_path_base (processDir base text : String) :
    normalText processDir (if base = "" then processDir else base) "path" text =
      normalText processDir base "path" text := by
  by_cases hbase : base = ""
  · rw [if_pos hbase, normalText_path, normalText_path, if_pos hbase, ite_self]
  · rw [if_neg hbase]

theorem startDir_of_check (h : check s (normalFields s.cwd fields) = .good c) :
    startDir s c = if dirOf fields = "" then s.cwd else dirOf fields := by
  have hcwd := (checks_of_check h).cwd
  rw [checkField, givenKey_self, get?_normalFields_of_notMem _ _ (by decide)] at hcwd
  unfold startDir dirOf value
  cases hget : get? fields "cwd" with
  | none =>
    rw [hget] at hcwd
    rw [← Checked.good.inj hcwd]
    exact ite_self _
  | some v =>
    rw [hget] at hcwd
    dsimp only at hcwd
    rw [Checked.under_eq_good] at hcwd
    cases v with
    | string text =>
      rw [← Checked.good.inj hcwd]
      rfl
    | _ => cases hcwd

theorem path_of_check (h : check s (normalFields s.cwd fields) = .good c) :
    c.path = (value fields "path").text?.map (normalText s.cwd (startDir s c) "path") := by
  have hpath := (checks_of_check h).path
  rw [checkField, givenKey_self, get?_normalFields] at hpath
  rw [startDir_of_check h, value]
  cases hget : get? fields "path" with
  | none =>
    rw [hget] at hpath
    exact (Checked.good.inj hpath).symm
  | some v =>
    rw [hget, Option.map_some] at hpath
    dsimp only at hpath
    rw [Checked.under_eq_good] at hpath
    cases v with
    | string text =>
      rw [normalValue, if_pos (by decide)] at hpath
      rw [← Checked.good.inj hpath, Option.getD_some, Json.text?, Option.map_some,
        normalText_path_base]
    | null => exact (Checked.good.inj hpath).symm
    | _ => cases hpath

/-! ## The path of a returned context -/

theorem path_of_returned {supplied : Json} (h : Returned s supplied c) :
    c.path = supplied.text?.map (normalText s.cwd (startDir s c) "path") := by
  cases h with
  | @gathered o _ _ _ hgather hinput hargs =>
    obtain ⟨merged, source, hmerged, hc⟩ := gather_eq_ok hgather
    obtain ⟨input', args', hinput', hargs', rfl, -⟩ := mergedFields_eq_ok hmerged
    rw [hinput] at hinput'
    rw [hargs] at hargs'
    cases hinput'
    cases hargs'
    have hvalue := value_mergedOf o (o.proper_inputFields hinput) (proper_argFields hargs) "path"
    rw [path_of_check hc, ← hvalue, value, get?_completed, if_neg (by decide), if_neg (by decide)]
    rfl
  | @normal given _ hmade hnormal =>
    obtain ⟨m, hm, rfl⟩ := exists_check_of_normalize hnormal
    have hvalue : value given.innerFields "path" = .ofOption given.path := by
      rw [value, hmade.apart.get?_innerFields, hmade.apart.wire "path" (by decide)]
      rfl
    have hpath := path_of_check hm
    rw [hvalue] at hpath
    exact hpath
  | handed hpayload hread =>
    rw [ofPayload, hread] at hpayload
    dsimp only at hpayload
    split at hpayload
    · rename_i hc
      cases hpayload
      rw [path_of_check hc, value_set, if_neg (by decide)]
    · cases hpayload

/-- The path of a returned context is none, empty or from the root. A relative path that is not
empty leads from the root along the start directory and then along itself, and no segment of it is a
dot or climbs. -/
theorem returned_path {supplied : Json} (hdir : s.cwd.startsWith "/" = true)
    (h : Returned s supplied c) :
    (∀ p ∈ c.path, p = "" ∨ p.startsWith "/" = true) ∧
      ∀ text, supplied = .string text → Text.trimmed text ≠ "" →
        (Text.trimmed text).startsWith "/" = false →
        ∃ p, c.path = some p ∧
          p = Path.settledText (Path.joinedText s.cwd
            (Path.joinedText (startDir s c) (Text.trimmed text))) ∧
          ∀ q ∈ Path.segments p, q ≠ "." ∧ q ≠ ".." := by
  have hpath := path_of_returned h
  constructor
  · intro p hp
    rw [hpath] at hp
    obtain ⟨text, -, rfl⟩ := Option.map_eq_some_iff.1 hp
    rw [normalText_path]
    split
    · rename_i hstays
      exact hstays
    · exact .inr (startsWith_slash_absolutePath hdir _ _)
  · intro text htext hsome hrelative
    have hmoves : ¬ (Text.trimmed text = "" ∨ (Text.trimmed text).startsWith "/" = true) :=
      not_or.2 ⟨hsome, ne_true_of_eq_false hrelative⟩
    have hstart : (if startDir s c = "" then s.cwd else startDir s c) = startDir s c := by
      by_cases hempty : c.cwd = ""
      · rw [startDir, if_pos hempty, ite_self]
      · rw [startDir, if_neg hempty, if_neg hempty]
    refine ⟨_, ?_, rfl, Path.segments_settledText _⟩
    rw [hpath, htext, Json.text?, Option.map_some, normalText_path, if_neg hmoves, hstart,
      absolutePath_eq hdir]

def climbingPayload : Fields := [("path", .string " ../../b/./c "), ("cwd", .string "x/y")]

def climbingContext : Context where
  timestamp := rootSetting.now
  source := some .stdin
  tool := none
  command := none
  path := some "/b/c"
  content := none
  exitCode := none
  success := none
  cwd := "x/y"
  sessionId := none
  params := none
  extras := []

theorem ofPayload_climbing :
    ofPayload rootSetting "stdin" climbingPayload = .ok climbingContext := by
  cbv

theorem returned_path_climbing :
    rootSetting.cwd.startsWith "/" = true ∧
      Returned rootSetting (.string " ../../b/./c ") climbingContext ∧
      startDir rootSetting climbingContext = "x/y" ∧
      Path.settledText (Path.joinedText "/" (Path.joinedText "x/y" "../../b/./c")) = "/b/c" ∧
      climbingContext.path = some "/b/c" ∧
      ∀ q ∈ Path.segments "/b/c", q ≠ "." ∧ q ≠ ".." := by
  have hroot : rootSetting.cwd.startsWith "/" = true := by decide +kernel
  have hfields : payloadFields climbingPayload = .ok climbingPayload := by cbv
  have hreturned : Returned rootSetting (.string " ../../b/./c ") climbingContext :=
    .handed ofPayload_climbing hfields
  have htrimmed : Text.trimmed " ../../b/./c " = "../../b/./c" := by decide +kernel
  have hsettled : Path.settledText (Path.joinedText "/" (Path.joinedText "x/y" "../../b/./c")) =
      "/b/c" := by
    decide +kernel
  obtain ⟨p, hpath, hp, hclear⟩ := (returned_path hroot hreturned).2 _ rfl
    (by rw [htrimmed]; decide) (by rw [htrimmed]; decide +kernel)
  have hstart : startDir rootSetting climbingContext = "x/y" := by decide
  rw [htrimmed, hstart] at hp
  obtain rfl : p = "/b/c" := hp.trans hsettled
  exact ⟨hroot, hreturned, hstart, hsettled, hpath, hclear⟩

end HookPolicy.Context
