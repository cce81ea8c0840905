/-
# RebootManager.Fetcher.Register -- the two ends of the register table (reboot_reason_classify.c, log_parser.c)

`map_hardware_reason` is an ordered chain of unanchored searches over some forty tokens, so a branch can
be shadowed: by an earlier one with a token inside its own. A string whose most specific token is `t` is
mapped exactly as `t` itself is (`find?_of_mostSpecific`), which leaves one question for each row of the
table; the answer is three shadowed tokens (`mostSpecific_wins_iff`).

At the other end is a register that says nothing. "No reason" reaches `classify_reboot_reason` as
`UNKNOWN`, which it takes for a hard power reset, or, from a register file that was read, as an empty
string, which it takes for no register at all (`emptyRegister_iff`).
-/
import RebootManager.Fetcher.Classify

namespace RebootManager

open Foundation

/-! ## The most specific token -/

/-- The record says what the branch fills in. -/
structure HardwareBranch.Fills (branch : HardwareBranch) (info : RebootInfo) : Prop where
  source : info.source = branch.source.toList
  reason : info.reason = branch.reason.toList
  otherReason : info.otherReason = branch.otherReason.toList

/-- `token` is tested by `branch` and occurs in the string, and every tested token that occurs there is
a part of it. -/
structure MostSpecific (hwReason : Bytes) (branch : HardwareBranch) (token : String) : Prop where
  listed : branch ∈ hardwareBranches ∧ token ∈ branch.tokens
  occurs : token.toList <:+: hwReason
  specific : ∀ other ∈ hardwareBranches, ∀ t ∈ other.tokens,
    t.toList <:+: hwReason → t.toList <:+: token.toList

/-- No tested token occurs in the string. -/
def NoToken (hwReason : Bytes) : Prop :=
  ∀ branch ∈ hardwareBranches, ∀ t ∈ branch.tokens, ¬ t.toList <:+: hwReason

/-- The tokens with an earlier branch's token inside. -/
def shadowedTokens : List String := ["SCPU_EJTAG_RESET", "GEN_WATCHDOG_1_RESET", "GEN_WATCHDOG_RESET"]

theorem tests_iff {branch : HardwareBranch} {hwReason : Bytes} :
    branch.tests hwReason = true ↔ ∃ t ∈ branch.tokens, t.toList <:+: hwReason := by
  simp only [HardwareBranch.tests, List.any_eq_true, isSome_strstr_iff]

section MostSpecific

variable {hwReason : Bytes} {branch : HardwareBranch} {token : String}

/-- Every branch tests the string as it tests the most specific token. -/
theorem MostSpecific.tests_eq (h : MostSpecific hwReason branch token) {other : HardwareBranch}
    (hother : other ∈ hardwareBranches) : other.tests hwReason = other.tests token.toList := by
  rw [Bool.eq_iff_iff, tests_iff, tests_iff]
  constructor
  · rintro ⟨t, ht, hin⟩
    exact ⟨t, ht, h.specific other hother t ht hin⟩
  · rintro ⟨t, ht, hin⟩
    exact ⟨t, ht, hin.trans h.occurs⟩

/-- So the string goes where its most specific token goes. -/
theorem find?_of_mostSpecific (h : MostSpecific hwReason branch token) :
    (hardwareBranches.find? fun b => b.tests hwReason)
      = hardwareBranches.find? fun b => b.tests token.toList :=
  List.find?_congr fun _ hb => h.tests_eq hb

/-- The branch the chain takes for a string has the texts of `branch`. -/
def takenAs (hwReason : Bytes) (branch : HardwareBranch) : Bool :=
  (hardwareBranches.find? fun b => b.tests hwReason).any fun b =>
    b.source = branch.source ∧ b.reason = branch.reason ∧ b.otherReason = branch.otherReason

/-- The table, token by token. -/
theorem takenAs_token : ∀ branch ∈ hardwareBranches, ∀ t ∈ branch.tokens,
    (takenAs t.toList branch = true ↔ t ∉ shadowedTokens) := by
  decide +kernel

theorem fills_iff_takenAs (h : (hardwareBranches.find? fun b => b.tests hwReason).isSome)
    (info : RebootInfo) :
    branch.Fills (mapHardwareReason hwReason info) ↔ takenAs hwReason branch = true := by
  obtain ⟨taken, htaken⟩ := Option.isSome_iff_exists.mp h
  simp only [mapHardwareReason, takenAs, htaken, Option.any_some, decide_eq_true_eq]
  constructor
  · intro hfills
    exact ⟨String.toList_inj.mp hfills.source, String.toList_inj.mp hfills.reason,
      String.toList_inj.mp hfills.otherReason⟩
  · rintro ⟨hsource, hreason, hother⟩
    exact ⟨congrArg String.toList hsource, congrArg String.toList hreason,
      congrArg String.toList hother⟩

end MostSpecific

/-- Without a token, the string itself is the reason. -/
theorem mapHardwareReason_of_noToken {hwReason : Bytes} (h : NoToken hwReason) (info : RebootInfo) :
    (mapHardwareReason hwReason info).source = "Unknown".toList ∧
      (mapHardwareReason hwReason info).reason = snprintf maxReasonLength hwReason := by
  have hnone : (hardwareBranches.find? fun b => b.tests hwReason) = none := by
    rw [List.find?_eq_none]
    intro branch hbranch htests
    obtain ⟨t, ht, hin⟩ := tests_iff.mp htests
    exact h branch hbranch t ht hin
  rw [mapHardwareReason, hnone]
  exact ⟨rfl, rfl⟩

/-- **The most specific token wins, unless it is shadowed.** The record of a string with a most specific
token is the one of that token's branch exactly when no earlier branch looks for a part of the token. A
string without a token is its own reason. -/
theorem mostSpecific_wins_iff (hwReason : Bytes) (info : RebootInfo) :
    (∀ branch token, MostSpecific hwReason branch token →
      (branch.Fills (mapHardwareReason hwReason info) ↔ token ∉ shadowedTokens)) ∧
    (NoToken hwReason →
      (mapHardwareReason hwReason info).source = "Unknown".toList ∧
        (mapHardwareReason hwReason info).reason = snprintf maxReasonLength hwReason) := by
  refine ⟨?_, fun h => mapHardwareReason_of_noToken h info⟩
  intro branch token h
  have hsome : (hardwareBranches.find? fun b => b.tests hwReason).isSome := by
    rw [List.find?_isSome]
    exact ⟨branch, h.listed.1, tests_iff.mpr ⟨token, h.listed.2, h.occurs⟩⟩
  have hsame : takenAs hwReason branch = takenAs token.toList branch := by
    rw [takenAs, takenAs, find?_of_mostSpecific h]
  rw [fills_iff_takenAs hsome info, hsame]
  exact takenAs_token branch h.listed.1 token h.listed.2

/-- The branch of the SCPU. -/
def scpuBranch : HardwareBranch :=
  ⟨["SCPU_EJTAG_RESET"], "SCPU EJTAG", "SCPU_EJTAG_RESET",
    "Reboot due to SCPU EJTAG reset has occurred"⟩

/-- A register that reads `SCPU_EJTAG_RESET` is recorded as a reset of the CPU. -/
theorem scpu_shadowed :
    MostSpecific "SCPU_EJTAG_RESET".toList scpuBranch "SCPU_EJTAG_RESET" ∧
      ¬ scpuBranch.Fills (mapHardwareReason "SCPU_EJTAG_RESET".toList (RebootInfo.blank [])) := by
  refine ⟨⟨?_, List.infix_refl _, fun _ _ _ _ hin => hin⟩, ?_⟩
  · refine ⟨?_, List.mem_singleton_self _⟩
    simp [hardwareBranches, scpuBranch]
  · intro hfills
    have htaken : takenAs "SCPU_EJTAG_RESET".toList scpuBranch = false := by decide +kernel
    have hsome : (hardwareBranches.find? fun b => b.tests "SCPU_EJTAG_RESET".toList).isSome := by
      decide +kernel
    rw [fills_iff_takenAs hsome, htaken] at hfills
    cases hfills

/-! ## The empty register -/

/-- What is in the register file, where it can be read. -/
def registerContent (env : FetcherEnv) (d : Device) : Option Bytes :=
  if env.accessible .brcmRebootFile then env.open .brcmRebootFile d else none

/-- The part of the first line before its first comma. -/
def primaryReason (content : Bytes) : Bytes :=
  ((cstr content).takeWhile (· ≠ '\n')).takeWhile (· ≠ ',')

/-- The register file is missing, cannot be read, is empty or has no primary reason. -/
def NoPrimaryReason (env : FetcherEnv) (d : Device) : Prop :=
  ∀ content ∈ registerContent env d, primaryReason content = []

/-- The record of an empty register, which is not the one of a user's reboot. -/
structure RebootInfo.IsHardPower (info : RebootInfo) : Prop where
  source : info.source = "Hard Power Reset".toList
  reason : info.reason = "HARD_POWER".toList
  customReason : info.customReason = "Hardware Register - NULL".toList
  otherReason : info.otherReason = "No information found".toList
  notFallback : info.reason ≠ "SOFTWARE_MASTER_RESET".toList

/-- `HardwareReason` where no register was read. -/
def HardwareReason.unknown : HardwareReason := ⟨[], "UNKNOWN".toList⟩

theorem isHardPower_hardPower (info : RebootInfo) : info.hardPower.IsHardPower :=
  ⟨rfl, rfl, rfl, rfl, show "HARD_POWER".toList ≠ "SOFTWARE_MASTER_RESET".toList by decide⟩

theorem classifyHardwareReason_unknown (info : RebootInfo) (ctx : EnvContext) :
    classifyHardwareReason info ctx HardwareReason.unknown
      = (mapHardwareReason "UNKNOWN".toList info).hardPower := by
  have hraw : HardwareReason.unknown.rawReason = [] := rfl
  have hmapped : HardwareReason.unknown.mappedReason = "UNKNOWN".toList := rfl
  unfold classifyHardwareReason
  simp only [hraw, hmapped, ne_eq, not_true, if_false, if_true, true_or, ite_self]

section EmptyRegister

variable {env : FetcherEnv} {d : Device} {panicInfo : PanicInfo} {fwFailure : FirmwareFailure}

theorem classify_unknown (timestamp : Bytes) (ctx : EnvContext) (hpanic : panicInfo.detected = false)
    (hfw : fwFailure.detected = false) :
    (classifyRebootReason (RebootInfo.blank timestamp) ctx HardwareReason.unknown panicInfo
      fwFailure).IsHardPower := by
  have hmapped : HardwareReason.unknown.mappedReason ≠ [] := by decide
  rw [classifyRebootReason, hfw, if_neg Bool.false_ne_true,
    if_neg (show ¬ (RebootInfo.blank timestamp).customReason ≠ [] from fun h => h rfl), hpanic,
    if_neg Bool.false_ne_true, if_pos hmapped, classifyHardwareReason_unknown]
  exact isHardPower_hardPower _

/-- An empty mapped reason falls through to the fallback. -/
theorem classify_empty (timestamp : Bytes) (ctx : EnvContext) (hpanic : panicInfo.detected = false)
    (hfw : fwFailure.detected = false) {hw : HardwareReason} (hmapped : hw.mappedReason = []) :
    (classifyRebootReason (RebootInfo.blank timestamp) ctx hw panicInfo fwFailure).reason
      = "SOFTWARE_MASTER_RESET".toList := by
  rw [classifyRebootReason, hfw, if_neg Bool.false_ne_true,
    if_neg (show ¬ (RebootInfo.blank timestamp).customReason ≠ [] from fun h => h rfl), hpanic,
    if_neg Bool.false_ne_true, if_neg (fun h => h hmapped),
    if_pos (show (RebootInfo.blank timestamp).source = [] from rfl), classifyFallback, hpanic, hfw]
  rfl

/-- Only a Broadcom device reads the register. -/
theorem getHardwareReason_of_not_brcm {ctx : EnvContext} (h : ctx.soc ≠ "BRCM".toList) :
    getHardwareReason env ctx d = HardwareReason.unknown := by
  rw [getHardwareReason, if_neg h]
  rfl

/-- A register file that cannot be read, or begins with its end, is no register. -/
theorem getHardwareReason_of_no_content {ctx : EnvContext}
    (h : ∀ content ∈ registerContent env d, cstr content = []) :
    getHardwareReason env ctx d = HardwareReason.unknown := by
  by_cases hsoc : ctx.soc = "BRCM".toList
  case neg => exact getHardwareReason_of_not_brcm hsoc
  rw [getHardwareReason, if_pos hsoc, readBrcmPreviousRebootReason]
  unfold registerContent FetcherEnv.open at h
  unfold Device.exists Io.read
  cases hfile : d.files .brcmRebootFile with
  | none => rfl
  | some content =>
    rw [hfile] at h
    cases hacc : env.accessible .brcmRebootFile with
    | false => rfl
    | true =>
      cases hread : env.io.canRead .brcmRebootFile with
      | false => rfl
      | true =>
        rw [hacc, hread] at h
        have hempty : cstr content = [] := h content rfl
        have hbuf : cstr (content.take (maxBufferSize - 1)) = [] := by
          cases content with
          | nil => rfl
          | cons c rest =>
            have hc : c = '\x00' := by
              by_contra hne
              simp [cstr, hne] at hempty
            simp [cstr, maxBufferSize, hc]
        simp [hbuf, HardwareReason.unknown]

/-- What is read of a register without a primary reason maps to nothing. -/
theorem getHardwareReason_of_no_primary {ctx : EnvContext} (hsoc : ctx.soc = "BRCM".toList)
    {content : Bytes} (hcontent : registerContent env d = some content) (hne : cstr content ≠ [])
    (hprimary : primaryReason content = []) : (getHardwareReason env ctx d).mappedReason = [] := by
  unfold registerContent FetcherEnv.open at hcontent
  split at hcontent
  case isFalse => cases hcontent
  rename_i hacc
  split at hcontent
  case isFalse => cases hcontent
  rename_i hread
  have hexists : d.exists .brcmRebootFile = true := by
    rw [Device.exists, hcontent]
    rfl
  -- the first byte ends the line or is the comma
  cases content with
  | nil => exact absurd rfl hne
  | cons c rest =>
    have hnul : c ≠ '\x00' := by
      rintro rfl
      exact hne (by simp [cstr])
    have hc : c = '\n' ∨ c = ',' := by
      by_contra hno
      obtain ⟨hnewline, hcomma⟩ := not_or.mp hno
      simp [primaryReason, cstr, hnul, hnewline, hcomma] at hprimary
    rw [getHardwareReason, if_pos hsoc, readBrcmPreviousRebootReason, hexists, hacc, Bool.and_self,
      if_pos rfl, Io.read, if_pos hread, hcontent]
    rcases hc with rfl | rfl
    · simp [cstr, maxBufferSize, snprintf]
    · have hupper : ','.toUpper = ',' := by decide
      simp [cstr, maxBufferSize, maxReasonLength, snprintf, hupper]

/-- **An empty register is a hard power reset, unless it was read.** With no other evidence, a register
without a primary reason is recorded as a hard power reset exactly when the register file of a Broadcom
device is missing, cannot be read or is empty; a file with an empty first line, or with a comma first,
is recorded as a user's reboot. -/
theorem emptyRegister_iff (timestamp : Bytes) (ctx : EnvContext) (hregister : NoPrimaryReason env d)
    (hpanic : panicInfo.detected = false) (hfw : fwFailure.detected = false) :
    (classifyRebootReason (RebootInfo.blank timestamp) ctx (getHardwareReason env ctx d) panicInfo
        fwFailure).IsHardPower ↔
      (ctx.soc = "BRCM".toList → ∀ content ∈ registerContent env d, cstr content = []) := by
  constructor
  · intro hpower hsoc content hcontent
    by_contra hne
    have hmapped := getHardwareReason_of_no_primary hsoc hcontent hne (hregister content hcontent)
    exact hpower.notFallback (classify_empty timestamp ctx hpanic hfw hmapped)
  · intro hempty
    have hunknown : getHardwareReason env ctx d = HardwareReason.unknown := by
      by_cases hsoc : ctx.soc = "BRCM".toList
      · exact getHardwareReason_of_no_content (hempty hsoc)
      · exact getHardwareReason_of_not_brcm hsoc
    rw [hunknown]
    exact classify_unknown timestamp ctx hpanic hfw

end EmptyRegister

/-- A Broadcom set-top box. -/
def brcmContext : EnvContext := ⟨"BRCM".toList, "STB".toList, "PROD".toList, "hybrid".toList, false⟩

/-- Without a register file, the reset was a hard power reset. -/
theorem emptyRegister_missing :
    (classifyRebootReason (RebootInfo.blank []) brcmContext
      (getHardwareReason (FetcherEnv.plain Tm.epoch fun _ => none) brcmContext Device.blank)
      PanicInfo.none ⟨false, false, false, [], []⟩).IsHardPower :=
  (emptyRegister_iff [] brcmContext (fun _ h => by cases h) rfl rfl).mpr fun _ _ h => by cases h

/-- A register file with an empty line is recorded as a user's reboot. -/
theorem emptyRegister_newline :
    NoPrimaryReason (FetcherEnv.plain Tm.epoch fun _ => none)
        (Device.blank.setFile .brcmRebootFile (some ['\n'])) ∧
      ¬ (classifyRebootReason (RebootInfo.blank []) brcmContext
        (getHardwareReason (FetcherEnv.plain Tm.epoch fun _ => none) brcmContext
          (Device.blank.setFile .brcmRebootFile (some ['\n'])))
        PanicInfo.none ⟨false, false, false, [], []⟩).IsHardPower := by
  have hcontent : registerContent (FetcherEnv.plain Tm.epoch fun _ => none)
      (Device.blank.setFile .brcmRebootFile (some ['\n'])) = some ['\n'] := rfl
  have hmapped : (getHardwareReason (FetcherEnv.plain Tm.epoch fun _ => none) brcmContext
      (Device.blank.setFile .brcmRebootFile (some ['\n']))).mappedReason = [] :=
    getHardwareReason_of_no_primary rfl hcontent (by decide) (by decide)
  refine ⟨?_, fun hpower => hpower.notFallback (classify_empty [] brcmContext rfl rfl hmapped)⟩
  intro content h
  obtain rfl : content = ['\n'] := Option.some.inj (h.symm.trans hcontent)
  decide

end RebootManager
