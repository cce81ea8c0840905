/-
# RebootManager.Fetcher.Evidence -- what `update-reboot-info` looks at (log_parser.c, reboot_reason_classify.c)

Where no reboot.info was left, the reboot reason is derived from evidence: the device properties, the
register file of the SOC, the kernel log and the logs of the boot before. This module has the readers;
what is made of their findings is the next one's subject.

Lines are read with `fgets` into fixed buffers and searched with `strstr`, so a reader sees chunks of a
line, each up to its first NUL byte.
-/
import RebootManager.Foundation.LineReader
import RebootManager.Platform.Clock
import RebootManager.Platform.Device

namespace RebootManager

open Foundation

/-! ## The surroundings of one run -/

/-- What one run of the fetcher depends on besides the device. -/
structure FetcherEnv where
  io : Io File
  /-- `acquire_lock` succeeds. -/
  lockAcquired : Bool
  /-- `check_dir_exists(REBOOT_INFO_DIR)` succeeds. -/
  dirExists : Bool
  /-- `rename` of reboot.info fails with an `errno` other than `ENOENT`. -/
  renameFault : Bool
  /-- `access(path, R_OK) == 0` for a file that exists. -/
  accessible : File → Bool
  /-- `gmtime` of `time(NULL)`. -/
  now : Tm
  /-- The moment a line of a log file is stamped with, by the order of the lines. -/
  logTime : Nat → Tm × Fin 1000
  /-- `getDevicePropertyData`: the text for a key, `none` for a failing status. -/
  deviceProperty : Bytes → Option Bytes
  /-- The content of the file `find_previous_reboot_log` selects, `none` where it finds none or the
  file cannot be opened. -/
  previousLog : Option Bytes

/-- Nothing the run does to the file system fails. -/
structure FetcherEnv.Ok (env : FetcherEnv) : Prop where
  io : env.io.Ok
  lock : env.lockAcquired = true
  dir : env.dirExists = true
  rename : env.renameFault = false

/-- A run in which nothing fails, on a device with these properties. -/
def FetcherEnv.plain (now : Tm) (deviceProperty : Bytes → Option Bytes) : FetcherEnv where
  io := Io.plain
  lockAcquired := true
  dirExists := true
  renameFault := false
  accessible _ := true
  now := now
  logTime _ := (now, 0)
  deviceProperty := deviceProperty
  previousLog := none

theorem FetcherEnv.plain_ok (now : Tm) (deviceProperty : Bytes → Option Bytes) :
    (FetcherEnv.plain now deviceProperty).Ok :=
  ⟨Io.plain_ok, rfl, rfl, rfl⟩

/-- `fopen(f, "r")` and everything in it. -/
def FetcherEnv.open (env : FetcherEnv) (f : File) (d : Device) : Option Bytes :=
  if env.io.canRead f then d.files f else none

/-! ## Searching a file -/

/-- `MAX_BUFFER_SIZE` -/
def maxBufferSize : Nat := 512

/-- `MAX_REASON_LENGTH` -/
def maxReasonLength : Nat := 128

/-- `search_string_in_file` -/
def searchStringInFile (env : FetcherEnv) (f : File) (searchStr : Bytes) (d : Device) : Bool :=
  (env.open f d).any fun content =>
    (fgetsLines maxBufferSize content).any fun line => (strstr line searchStr).isSome

/-! ## Device properties -/

/-- `EnvContext` -/
structure EnvContext where
  soc : Bytes
  rdkProfile : Bytes
  buildType : Bytes
  deviceType : Bytes
  rebootInfoSttSupport : Bool

/-- A property of at most 63 bytes, from `getDevicePropertyData`. -/
def propertyField (env : FetcherEnv) (key : Bytes) : Bytes :=
  (env.deviceProperty key).elim [] fun value => (cstr value).take 63

/-- One line of /etc/device.properties: it fills the first field it has the key of that is empty. -/
def EnvContext.takeLine (ctx : EnvContext) (line : Bytes) : EnvContext :=
  match strchr line '=' with
  | none => ctx
  | some eq =>
    let key := line.take (line.length - eq.length)
    let val := ((eq.drop 1).takeWhile (· ≠ '\n')).take 63
    if ctx.soc = [] ∧ key = "SOC".toList then { ctx with soc := val }
    else if ctx.rdkProfile = [] ∧ key = "RDK_PROFILE".toList then { ctx with rdkProfile := val }
    else if ctx.deviceType = [] ∧ (key = "DEVICE_TYPE".toList ∨ key = "DEVICE_NAME".toList) then
      { ctx with deviceType := val }
    else ctx

/-- `parse_device_properties`; `none` for `FAILURE`. -/
def parseDeviceProperties (env : FetcherEnv) (d : Device) : Option EnvContext :=
  let ctx : EnvContext :=
    { soc := propertyField env "SOC".toList
      rdkProfile := propertyField env "RDK_PROFILE".toList
      buildType := propertyField env "BUILD_TYPE".toList
      deviceType := propertyField env "DEVICE_TYPE".toList
      rebootInfoSttSupport :=
        (env.deviceProperty "REBOOT_INFO_STT_SUPPORT".toList).any fun value =>
          (cstr value).map Char.toLower = "true".toList }
  if ctx.soc = [] ∨ ctx.deviceType = [] ∨ ctx.rdkProfile = [] then
    (env.open .devicePropertiesFile d).map fun content =>
      (fgetsLines 256 content).foldl EnvContext.takeLine ctx
  else some ctx

/-- `update_reboot_info`: the STT gate. -/
def updateRebootInfo (d : Device) : Bool := d.exists .sttFlag

/-! ## Kernel panic -/

/-- `panic_signatures` -/
def panicSignatures : List Bytes :=
  ["Kernel panic - not syncing".toList, "Kernel Panic".toList, "Kernel Oops".toList,
   "Oops - undefined instruction".toList, "Oops - bad syscall".toList,
   "branch through zero".toList, "unknown data abort code".toList, "Illegal memory access".toList]

/-- `PanicInfo` -/
structure PanicInfo where
  detected : Bool
  panicType : Bytes
  details : Bytes

/-- `PanicInfo` after `memset`. -/
def PanicInfo.none : PanicInfo := ⟨false, [], []⟩

/-- `search_panic_in_file`: the first line with a signature, and its first signature. -/
def searchPanicInFile (env : FetcherEnv) (f : File) (d : Device) : Option PanicInfo :=
  (env.open f d).bind fun content =>
    (fgetsLines maxBufferSize content).findSome? fun line =>
      (panicSignatures.find? fun signature => (strstr line signature).isSome).map fun signature =>
        ⟨true, snprintf maxReasonLength signature,
          (snprintf maxBufferSize line).takeWhile (· ≠ '\n')⟩

/-- `PREVIOUS_KERNEL_OOPS_DUMP` -/
def previousKernelOopsDump : Bytes := "PREVIOUS_KERNEL_OOPS_DUMP".toList

/-- `detect_kernel_panic`. (The pstore files are copied to /opt/logs besides.) -/
def detectKernelPanic (env : FetcherEnv) (ctx : EnvContext) : DeviceProg PanicInfo := do
  let d ← Prog.get
  if ctx.soc = "BRCM".toList then
    if searchStringInFile env .kernelLogFile previousKernelOopsDump d then
      return (searchPanicInFile env .kernelLogFile d).getD PanicInfo.none
    else return PanicInfo.none
  else if ctx.rdkProfile = "TV".toList then
    match searchPanicInFile env .pstoreConsoleLogFile d with
    | some panicInfo =>
      appendFile env.io .kernelLogFile
        (timestampUpdate env.now ++ " PreviousRebootReason: kernel_panic!\n".toList)
      return panicInfo
    | none => return PanicInfo.none
  else return PanicInfo.none

/-! ## Firmware failure -/

/-- `FirmwareFailure` -/
structure FirmwareFailure where
  detected : Bool
  maxRebootDetected : Bool
  ecmCrashDetected : Bool
  details : Bytes
  initiator : Bytes

/-- `check_firmware_failure` -/
def checkFirmwareFailure (env : FetcherEnv) (ctx : EnvContext) (d : Device) : FirmwareFailure :=
  let isMediaclient := "mediaclient".toList.isPrefixOf ctx.deviceType
  let maxRebootLog := if isMediaclient then File.uimgrLogFile else File.ocapriLogFile
  let sourceName := if isMediaclient then "UiMgr".toList else "OcapRI".toList
  let maxReboot := searchStringInFile env maxRebootLog "Box has rebooted 10 times".toList d
  let ecmCrash :=
    !isMediaclient && searchStringInFile env .ecmCrashLogFile "**** CRASH ****".toList d
  { detected := maxReboot || ecmCrash
    maxRebootDetected := maxReboot
    ecmCrashDetected := ecmCrash
    details :=
      if maxReboot then
        snprintf maxReasonLength
          (sourceName ++ ": Reboot due to STB reached maximum (10) reboots".toList)
      else if ecmCrash then snprintf maxReasonLength "EcmLogger: ECM crash detected".toList
      else []
    initiator :=
      if ecmCrash then "EcmLogger".toList else if maxReboot then sourceName else [] }

/-- A detected failure names its initiator. -/
theorem initiator_ne_nil {env : FetcherEnv} {ctx : EnvContext} {d : Device}
    (h : (checkFirmwareFailure env ctx d).detected = true) :
    (checkFirmwareFailure env ctx d).initiator ≠ [] := by
  simp only [checkFirmwareFailure, Bool.or_eq_true] at h ⊢
  split
  · simp
  · rename_i hecm
    rw [if_pos (h.resolve_right hecm)]
    split <;> simp

/-! ## The hardware register -/

/-- `HardwareReason` -/
structure HardwareReason where
  rawReason : Bytes
  mappedReason : Bytes

/-- `read_brcm_previous_reboot_reason`: what it leaves in `hw`, and whether it returns `SUCCESS`. -/
def readBrcmPreviousRebootReason (env : FetcherEnv) (d : Device) : HardwareReason × Bool :=
  if d.exists .brcmRebootFile && env.accessible .brcmRebootFile then
    match env.io.read .brcmRebootFile (maxBufferSize - 1) d.files with
    | none => (⟨[], []⟩, false)
    | some content =>
      let buf := cstr content
      if buf = [] then (⟨[], []⟩, false)
      else
        let raw := (snprintf maxReasonLength (buf.takeWhile (· ≠ '\n'))).map Char.toUpper
        (⟨raw, snprintf maxReasonLength (raw.takeWhile (· ≠ ','))⟩, true)
  else (⟨[], "UNKNOWN".toList⟩, false)

/-- `get_hardware_reason` -/
def getHardwareReason (env : FetcherEnv) (ctx : EnvContext) (d : Device) : HardwareReason :=
  let (hw, success) :=
    if ctx.soc = "BRCM".toList then readBrcmPreviousRebootReason env d else (⟨[], []⟩, false)
  if success then hw
  else if hw.mappedReason = [] then { hw with mappedReason := "UNKNOWN".toList }
  else hw

end RebootManager
