/-
# RebootManager.Fetcher.RebootLog -- rebootInfo.log and the kernel log (bootup_reason_checker.c)

Every run of the fetcher rewrites /opt/logs/rebootInfo.log as five `Previous...` lines. Their values come
from previousreboot.info; where that cannot be opened after the rename, from the rebootInfo.log that the
boot before left under PreviousLogs, in either of the two formats such a file can have.
-/
import RebootManager.Platform.RebootInfo
import RebootManager.Fetcher.Evidence

namespace RebootManager

open Foundation

/-! ## Stamps -/

/-- `%0<width>d` of a number that is not negative. -/
def padded (width n : Nat) : Bytes := List.replicate (width - (decimal n).length) '0' ++ decimal n

/-- `"%04d-%02d-%02dT%02d:%02d:%02d.%03ldZ"`: `format_iso8601_ms`, and `get_timestamp_string` of
parodus_log_update.c. -/
def timestampString (time : Tm × Fin 1000) : Bytes :=
  let (t, ms) := time
  padded 4 t.year ++ ['-'] ++ padded 2 (t.mon.val + 1) ++ ['-'] ++ padded 2 t.mday ++ ['T'] ++
    padded 2 t.hour ++ [':'] ++ padded 2 t.min ++ [':'] ++ padded 2 t.sec ++ ['.'] ++ padded 3 ms ++
    ['Z']

/-! ## parse_legacy_log -/

/-- `MAX_TIMESTAMP_LENGTH` -/
def maxTimestampLength : Nat := 64

def isBlank (c : Char) : Bool := c = ' ' || c = '\t'

/-- A text without the bytes of `drop` at its end. -/
def trimEnd (drop : Char → Bool) (text : Bytes) : Bytes := (text.reverse.dropWhile drop).reverse

/-- What `getVal` takes off the end. -/
def isTrailing (c : Char) : Bool := isBlank c || c = '\n' || c = '\r'

/-- `getVal`, on the line from the marker on. -/
def getVal (fromMarker marker : Bytes) (size : Nat) : Bytes :=
  trimEnd isTrailing (snprintf size ((fromMarker.drop marker.length).dropWhile isBlank))

/-- `resolve_hal_sys_reboot`: source and other reason afterwards. -/
def resolveHalSysReboot (rebootReasonLine source otherReason : Bytes) : Bytes × Bytes :=
  match strstr rebootReasonLine "Triggered from ".toList with
  | none => (source, otherReason)
  | some found =>
    let trigger := found.drop "Triggered from ".toList.length
    match strchr trigger ' ' with
    | none => (trimEnd isTrailing (snprintf maxReasonLength trigger), otherReason)
    | some space =>
      let initiator := trigger.take (trigger.length - space.length)
      let rest := (space.drop 1).dropWhile (· = ' ')
      (snprintf maxReasonLength initiator,
       snprintf maxReasonLength (trimEnd isBlank (rest.takeWhile (· ≠ '('))))

/-- The variables of the loop in `parse_legacy_log`. -/
structure LegacyScan where
  info : RebootInfo
  foundFields : Nat
  rawFields : Nat
  rawInitiatedBy : Bytes
  rawTime : Bytes
  rawCustom : Bytes
  rawOther : Bytes
  rawRebootReason : Bytes

def LegacyScan.start (info : RebootInfo) : LegacyScan := ⟨info, 0, 0, [], [], [], [], []⟩

/-- A line that has the marker: its value, cut to `size`. -/
def markedValue (line : Bytes) (marker : String) (size : Nat) : Option Bytes :=
  (strstr line marker.toList).map fun found => getVal found marker.toList size

/-- One round of the loop. -/
def LegacyScan.takeLine (st : LegacyScan) (line : Bytes) : LegacyScan :=
  match markedValue line "PreviousRebootInitiatedBy:" maxReasonLength with
  | some v => { st with info := { st.info with source := v }, foundFields := st.foundFields + 1 }
  | none =>
  match markedValue line "PreviousRebootTime:" maxTimestampLength with
  | some v => { st with info := { st.info with timestamp := v }, foundFields := st.foundFields + 1 }
  | none =>
  match markedValue line "PreviousCustomReason:" maxReasonLength with
  | some v => { st with info := { st.info with customReason := v }, foundFields := st.foundFields + 1 }
  | none =>
  match markedValue line "PreviousOtherReason:" maxReasonLength with
  | some v => { st with info := { st.info with otherReason := v }, foundFields := st.foundFields + 1 }
  | none =>
  match markedValue line "RebootInitiatedBy:" maxReasonLength with
  | some v => { st with rawInitiatedBy := v, rawFields := st.rawFields + 1 }
  | none =>
  match markedValue line "RebootTime:" maxTimestampLength with
  | some v => { st with rawTime := v, rawFields := st.rawFields + 1 }
  | none =>
  match markedValue line "CustomReason:" maxReasonLength with
  | some v => { st with rawCustom := v, rawFields := st.rawFields + 1 }
  | none =>
  match markedValue line "OtherReason:" maxReasonLength with
  | some v => { st with rawOther := v, rawFields := st.rawFields + 1 }
  | none =>
    if (strstr line "RebootReason:".toList).isSome ∧ ¬ (strstr line "HAL_SYS_Reboot".toList).isSome then
      { st with rawRebootReason := snprintf maxBufferSize line }
    else st

/-- The loop: it ends with the file, or as soon as four fields have been found. -/
def LegacyScan.run (st : LegacyScan) : List Bytes → LegacyScan
  | [] => st
  | line :: lines =>
    let next := st.takeLine line
    if next.foundFields ≥ 4 then next else next.run lines

/-- `parse_legacy_log` on the content of the log; `none` for `FAILURE`, which leaves `info` as it is. -/
def parseLegacyLog (content : Bytes) (info : RebootInfo) : Option RebootInfo :=
  let st := (LegacyScan.start info).run (fgetsLines maxBufferSize content)
  if st.foundFields ≠ 0 then some st.info
  else if st.rawFields ≠ 0 then
    let (source, otherReason) :=
      if st.rawInitiatedBy = "HAL_SYS_Reboot".toList ∧ st.rawRebootReason ≠ [] then
        resolveHalSysReboot st.rawRebootReason st.rawInitiatedBy st.rawOther
      else (st.rawInitiatedBy, st.rawOther)
    some { st.info with
      source := source, timestamp := st.rawTime, customReason := st.rawCustom
      otherReason := otherReason }
  else none

/-! ## The five lines -/

/-- `load_previous_reboot_reason_line`: the first "RebootReason:" of the log, `[]` where there is none. -/
def loadPreviousRebootReasonLine (content : Bytes) : Bytes :=
  let found := (fgetsLines maxBufferSize content).findSome? fun line =>
    let trimmed := line.dropWhile isBlank
    if (strstr trimmed "PreviousRebootReason:".toList).isSome then none
    else (strstr trimmed "RebootReason:".toList).map fun reasonPos =>
      (reasonPos.drop "RebootReason:".toList.length).dropWhile isBlank
  match found with
  | none => []
  | some value =>
    trimEnd (fun c => c = '\n' || c = '\r') (snprintf maxBufferSize ("RebootReason: ".toList ++ value))

/-- What is extracted from previousreboot.info, each field cut to its size. -/
def loadPreviousInfo (content : Bytes) : RebootInfo :=
  let buf := cstr content
  let value (key : String) (size : Nat) : Bytes := (extractField buf key.toList size).getD []
  ⟨value "timestamp" maxTimestampLength, value "source" maxReasonLength,
   value "reason" maxReasonLength, value "customReason" maxReasonLength,
   value "otherReason" maxReasonLength⟩

/-- `write_previous_line` -/
def previousLine (stamp : Bytes) (key : String) (value : Bytes) : Bytes :=
  stamp ++ [' '] ++ key.toList ++ ": ".toList ++ value ++ ['\n']

/-- The text the five calls of `write_previous_line` make. -/
def previousLines (stamp : Nat → Bytes) (previousReason : Bytes) (info : RebootInfo) : Bytes :=
  previousLine (stamp 0) "PreviousRebootReason" previousReason ++
  previousLine (stamp 1) "PreviousRebootInitiatedBy" info.source ++
  previousLine (stamp 2) "PreviousRebootTime" info.timestamp ++
  previousLine (stamp 3) "PreviousCustomReason" info.customReason ++
  previousLine (stamp 4) "PreviousOtherReason" info.otherReason

/-- The record `update_previous_reboot_log_fields` works with, by whether it is given a JSON path. -/
def infoToUse (env : FetcherEnv) (hasRebootInfo : Bool) (d : Device) : RebootInfo :=
  if hasRebootInfo then
    match env.io.read .previousRebootInfoFile (maxBufferSize - 1) d.files with
    | some content => loadPreviousInfo content
    | none =>
      (env.previousLog.bind fun content => parseLegacyLog content (RebootInfo.mk [] [] [] [] [])).getD
        (RebootInfo.mk [] [] [] [] [])
  else RebootInfo.mk [] [] [] [] []

/-- `update_previous_reboot_log_fields` -/
def updatePreviousRebootLogFields (env : FetcherEnv) (hasRebootInfo : Bool) : DeviceProg Unit := do
  let d ← Prog.get
  let previousReason :=
    if hasRebootInfo then env.previousLog.elim [] loadPreviousRebootReasonLine else []
  writeFile env.io .rebootInfoLog
    (previousLines (fun n => timestampString (env.logTime n)) previousReason
      (infoToUse env hasRebootInfo d))

/-! ## The kernel log -/

/-- `update_kernel_log` -/
def updateKernelLog (env : FetcherEnv) (ctx : EnvContext) (info : RebootInfo) : DeviceProg Unit :=
  whenever ((ctx.soc = "RTK".toList ∨ ctx.soc = "REALTEK".toList) ∧ info.reason ≠ [])
    (appendFile env.io .kernelLogFile
      ("PreviousRebootReason: ".toList ++ (snprintf maxReasonLength info.reason).map Char.toLower ++
        ['\n']))

end RebootManager
