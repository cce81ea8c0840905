/-
# RebootManager.Fetcher.FetcherMain -- `update-reboot-info` (rebootreason_main.c)

One run after a boot. Behind the lock, the device properties and the STT gate, the outcome of
`rename(reboot.info, previousreboot.info)` decides: a record that was there is now the previous one; no
record (`ENOENT`) means that one is derived from evidence; any other failure is logged, and `main` goes
on with the blank record it had prepared.

The wait for the backup of the logs is a module of its own; the logger calls are left out.
-/
import RebootManager.Fetcher.Classify
import RebootManager.Fetcher.Parodus

namespace RebootManager

open Foundation

/-- The return values of `main`. -/
inductive Status where
  | success
  | errorGeneral
  | errorLockFailed
  | errorParseFailed
  deriving DecidableEq

/-- How `rename(reboot.info, previousreboot.info)` ends. -/
inductive RenameOutcome where
  | renamed
  /-- `ENOENT` -/
  | noEntry
  /-- Any other `errno`. -/
  | failed
  deriving DecidableEq

def renameOutcome (env : FetcherEnv) (d : Device) : RenameOutcome :=
  if env.renameFault then .failed else if d.exists .rebootInfoFile then .renamed else .noEntry

/-- `rebootInfo` after `memset` and `get_current_timestamp`. -/
def FetcherEnv.blankInfo (env : FetcherEnv) : RebootInfo := RebootInfo.blank (timestampUpdate env.now)

/-- The branch of `ENOENT`: the record derived from the evidence. -/
def deriveRebootInfo (env : FetcherEnv) (ctx : EnvContext) : DeviceProg RebootInfo := do
  let panicInfo ← detectKernelPanic env ctx
  let d ← Prog.get
  return classifyRebootReason env.blankInfo ctx (getHardwareReason env ctx d) panicInfo
    (checkFirmwareFailure env ctx d)

/-- The test for a hard power reset. -/
def isHardPower (reason : Bytes) : Bool :=
  (strstr reason "POWER_ON".toList).isSome || (strstr reason "HARD_POWER".toList).isSome ||
    (strstr reason "UNKNOWN_RESET".toList).isSome

/-- What follows the write of a derived record: the parodus files, hardpower.info, the keypress copy. -/
def handOnRebootInfo (env : FetcherEnv) (info : RebootInfo) : DeviceProg Unit := do
  updateParodusLog env info
  let _ ← handleParodusRebootFile env info
  whenever (isHardPower info.reason) (writeHardpower env info.timestamp)
  copyKeypressInfo env

/-- The block under `!has_reboot_info`, with the keypress copy behind it. -/
def persistRebootInfo (env : FetcherEnv) (info : RebootInfo) : DeviceProg Status := do
  let written ← writeRebootInfo env info
  if written then
    handOnRebootInfo env info
    return .success
  else return .errorGeneral

/-- `main` from the kernel log on, without a renamed record. -/
def finishDerived (env : FetcherEnv) (ctx : EnvContext) (info : RebootInfo) : DeviceProg Status := do
  updateKernelLog env ctx info
  updatePreviousRebootLogFields env false
  persistRebootInfo env info

/-- `main` from the successful rename on. -/
def finishRenamed (env : FetcherEnv) (ctx : EnvContext) : DeviceProg Status := do
  let _ ← handleParodusRebootFile env env.blankInfo
  updateKernelLog env ctx env.blankInfo
  updatePreviousRebootLogFields env true
  copyKeypressInfo env
  return .success

/-- `main` from the rename on. -/
def updatePreviousReboot (env : FetcherEnv) (ctx : EnvContext) : DeviceProg Status := do
  let d ← Prog.get
  match renameOutcome env d with
  | .renamed =>
    fileOps [.rename .rebootInfoFile .previousRebootInfoFile]
    finishRenamed env ctx
  | .noEntry =>
    let info ← deriveRebootInfo env ctx
    finishDerived env ctx info
  | .failed => finishDerived env ctx env.blankInfo

/-- `main` between the lock and its release. -/
def updateUnderLock (env : FetcherEnv) : DeviceProg Status := do
  let d ← Prog.get
  match parseDeviceProperties env d with
  | none => return .errorParseFailed
  | some ctx =>
    if updateRebootInfo d then
      if env.dirExists then updatePreviousReboot env ctx else return .errorGeneral
    else return .success

/-- `main` -/
def fetcherMain (env : FetcherEnv) : DeviceProg Status := do
  if env.lockAcquired then
    let status ← updateUnderLock env
    touchFile env.io .pathFlagInvocation
    return status
  else return .errorLockFailed

end RebootManager
