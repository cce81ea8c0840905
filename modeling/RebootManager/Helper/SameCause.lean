/-
# RebootManager.Helper.SameCause -- when two requests are seen to have the same cause

A request finds out whether it repeats the last one by reading the last one's record back. The record
is written without escapes and read into fixed buffers, so the comparison is exact for some first
requests and not for others. `sameReason_exact_iff` says for which: those whose strings have no double
quote and fit the buffers. For any other the very same request, made again, is taken for a different
one.
-/
import RebootManager.Helper.LoopState

namespace RebootManager

open Foundation

/-- The device as a request finds it that comes after `first`: the record of `first` complete, the
rebootNow flag there, loop detection on. -/
structure Follows (first : Request) (env : HelperEnv) (d : Device) : Prop where
  previous : d.files .previousRebootInfoFile = some (rebootInfoText (first.record env))
  rebootNow : d.exists .rebootNowFlag = true
  detection : detectionEnabled d = true

/-- The second of two requests that follow each other is compared exactly. -/
def ComparedExactly (first second : Request) : Prop :=
  ∀ (env env' : HelperEnv) (d : Device), Follows first env d → env'.Ok →
    (∃ secs, env'.uptime = some secs ∧ secs ≤ 600) →
    ((cyclicBranch env' second.cause ((saveRebootInfo env' second).final d)).sameReason = true ↔
      first.cause = second.cause)

/-- A complete request leaves the device so, if loop detection is on. -/
theorem follows_requestReboot {env : HelperEnv} (h : env.Ok) (req : Request) {d : Device}
    (hdet : detectionEnabled d = true) : Follows req env ((requestReboot env req).final d) := by
  have hmove := loopState_requestReboot h req d
  refine ⟨files_previous_requestReboot h.io req d, ?_, ?_⟩
  · show (loopState ((requestReboot env req).final d)).rebootNow = true
    rw [hmove]
    cases cyclicBranch env req.cause d <;> rfl
  · show (loopState ((requestReboot env req).final d)).detection = true
    rw [hmove]
    cases cyclicBranch env req.cause d <;> exact hdet

/-- What the comparison comes down to: the record read back. -/
theorem sameReason_of_follows {first second : Request} {env env' : HelperEnv} {d : Device}
    (hd : Follows first env d) (henv : env'.Ok)
    (hup : ∃ secs, env'.uptime = some secs ∧ secs ≤ 600) :
    (cyclicBranch env' second.cause ((saveRebootInfo env' second).final d)).sameReason = true ↔
      parsePreviousRebootInfo (rebootInfoText (first.record env)) = some second.cause := by
  obtain ⟨secs, hsecs, hle⟩ := hup
  have hwin : withinWindow env' = true := by
    rw [withinWindow, hsecs]
    exact decide_eq_true hle
  rw [cyclicBranch_saveRebootInfo, sameReason_iff, Compared, readPreviousRebootInfo_of_ok henv.io,
    hd.previous, Option.bind_some]
  constructor
  · rintro ⟨⟨-, -, hread⟩, -⟩
    exact hread
  · intro hread
    exact ⟨⟨hd.rebootNow, hd.detection, hread⟩, hwin⟩

/-- A device as it is after `first`. -/
def deviceAfter (first : Request) (env : HelperEnv) : Device :=
  (Device.blank.setFile .previousRebootInfoFile (some (rebootInfoText (first.record env)))).setFile
    .rebootNowFlag (some [])

theorem follows_deviceAfter (first : Request) (env : HelperEnv) :
    Follows first env (deviceAfter first env) where
  previous := by simp [deviceAfter, Function.update_of_ne]
  rebootNow := by simp [deviceAfter, Device.exists]
  detection := rfl

/-- **When the comparison is exact.** Every next request is compared exactly with `first` if and only
if the strings of `first` have no double quote and fit the buffers they are read back into. -/
theorem sameReason_exact_iff (first : Request) :
    (∀ second, ComparedExactly first second) ↔
      ('"' ∉ first.source.bytes ∧ first.source.bytes.length ≤ 127) ∧
      ('"' ∉ first.customReason.bytes ∧ first.customReason.bytes.length ≤ 127) ∧
      ('"' ∉ first.otherReason.bytes ∧ first.otherReason.bytes.length ≤ 255) := by
  rw [← first.recordable_cause_iff]
  constructor
  · intro hexact
    -- the same request again must be recognised, so its record must have come back
    have henv := HelperEnv.plain_ok .epoch 300
    have hup : ∃ secs, (HelperEnv.plain .epoch 300).uptime = some secs ∧ secs ≤ 600 :=
      ⟨300, rfl, by decide⟩
    have hfollows := follows_deviceAfter first (.plain .epoch 300)
    have hseen := (hexact first _ _ _ hfollows henv hup).mpr rfl
    rw [sameReason_of_follows hfollows henv hup] at hseen
    exact recordable_of_parse hseen
  · intro hrecordable second env env' d hd henv hup
    rw [sameReason_of_follows hd henv hup]
    show parsePreviousRebootInfo (rebootInfoText (first.cause.record (timestampUpdate env.now)))
      = some second.cause ↔ _
    rw [Request.readBack hrecordable, Option.some.injEq]

/-- `rebootnow -s Servicemanager -o 'say "hi"'`. -/
def quotedRequest : Request :=
  ⟨serviceRequest.source, false, unknownReason, ⟨"say \"hi\"".toList, by decide⟩⟩

/-- A quote in the other reason hides a loop: the request made twice is a different one. -/
theorem quotedRequest_not_recognised :
    ¬ ∀ first second : Request, ComparedExactly first second := by
  intro hclaim
  have hsame := (hclaim quotedRequest quotedRequest (.plain .epoch 300) (.plain .epoch 300) _
    (follows_deviceAfter _ _) (HelperEnv.plain_ok _ _) ⟨300, rfl, by decide⟩).mpr rfl
  have hdifferent : cyclicBranch (.plain .epoch 300) quotedRequest.cause
      ((saveRebootInfo (.plain .epoch 300) quotedRequest).final
        (deviceAfter quotedRequest (.plain .epoch 300))) = .differentReason := by
    decide +kernel
  rw [hdifferent] at hsame
  cases hsame

end RebootManager
