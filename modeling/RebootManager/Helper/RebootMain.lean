/-
# RebootManager.Helper.RebootMain -- `rebootnow` (reboot_main.c)

One invocation, from the options to the reboot command: the categorisation of the source, the five
lines of rebootInfo.log, the record in reboot.info, the parodus line, the reboot-loop decision, the
record in previousreboot.info, and, if the reboot goes ahead, the flags it leaves for the next boot.

`requestReboot` is everything after the options; it is split where `handle_cyclic_reboot` returns,
since that is where an interruption can lose the rebootNow flag.
-/
import RebootManager.Helper.CyclicReboot
import RebootManager.Helper.PidFile

namespace RebootManager

open Foundation

/-! ## Categories -/

/-- `APP_TRIGGERED_REASONS` -/
def appTriggeredReasons : List String :=
  ["Servicemanager", "systemservice_legacy", "WarehouseReset", "WarehouseService",
   "HrvInitWHReset", "HrvColdInitReset", "HtmlDiagnostics", "InstallTDK", "StartTDK",
   "TR69Agent", "SystemServices", "Bsu_GUI", "SNMP", "CVT_CDL", "Nxserver",
   "DRM_Netflix_Initialize", "hrvinit", "PaceMFRLibrary"]

/-- `OPS_TRIGGERED_REASONS` -/
def opsTriggeredReasons : List String :=
  ["ScheduledReboot", "RebootSTB.sh", "FactoryReset", "UpgradeReboot_firmwareDwnld.sh",
   "UpgradeReboot_restore", "XFS", "wait_for_pci0_ready", "websocketproxyinit", "NSC_IR_EventReboot",
   "host_interface_dma_bus_wait", "usbhotplug", "Receiver_MDVRSet", "Receiver_VidiPath_Enabled",
   "Receiver_Toggle_Optimus", "S04init_ticket", "Network-Service", "monitor.sh", "ecmIpMonitor.sh",
   "monitorMfrMgr.sh", "vlAPI_Caller_Upgrade", "ImageUpgrade_rmf_osal", "ImageUpgrade_mfr_api",
   "ImageUpgrade_updateNewImage.sh", "ImageUpgrade_userInitiatedFWDnld.sh", "ClearSICache",
   "tr69hostIfReset", "hostIf_utils", "hostifDeviceInfo", "HAL_SYS_Reboot",
   "UpgradeReboot_deviceInitiatedFWDnld.sh", "UpgradeReboot_rdkvfwupgrader", "UpgradeReboot_ipdnl.sh",
   "PowerMgr_Powerreset", "PowerMgr_coldFactoryReset", "DeepSleepMgr", "PowerMgr_CustomerReset",
   "PowerMgr_PersonalityReset", "Power_Thermmgr", "PowerMgr_Plat", "HAL_CDL_notify_mgr_event",
   "vldsg_estb_poll_ecm_operational_state", "BcmIndicateEcmReset", "SASWatchDog",
   "BP3_Provisioning", "eMMC_FW_UPGRADE", "BOOTLOADER_UPGRADE", "cdl_service", "BCMCommandHandler",
   "BRCM_Image_Validate", "docsis_mode_check.sh", "tch_nvram.sh", "Receiver", "CANARY_Update",
   "boot_FSR", "CyclicReboot"]

/-- `MAINTENANCE_TRIGGERED_REASONS` -/
def maintenanceTriggeredReasons : List String := ["AutoReboot.sh", "PwrMgr"]

/-- `check_string_value`: `needle` occurs in an entry of the list. -/
def checkStringValue (list : List String) (needle : Bytes) : Bool :=
  list.any fun entry => (strstr entry.toList needle).isSome

/-- The categorisation in `main`. -/
def categorize (source customReason : Bytes) : Bytes :=
  if checkStringValue appTriggeredReasons source then
    if customReason = "MAINTENANCE_REBOOT".toList then "MAINTENANCE_REBOOT".toList
    else "APP_TRIGGERED".toList
  else if checkStringValue opsTriggeredReasons source then "OPS_TRIGGERED".toList
  else if checkStringValue maintenanceTriggeredReasons source then "MAINTENANCE_REBOOT".toList
  else "FIRMWARE_FAILURE".toList

/-- The category is one of four words. -/
theorem categorize_cases (source customReason : Bytes) :
    categorize source customReason ∈
      ["MAINTENANCE_REBOOT".toList, "APP_TRIGGERED".toList, "OPS_TRIGGERED".toList,
       "FIRMWARE_FAILURE".toList] := by
  unfold categorize
  split
  · split <;> simp
  · split
    · simp
    · split <;> simp

/-! ## Options -/

/-- What `getopt` hands to the loop of `main`. -/
inductive Opt where
  | s (optarg : CString)
  | c (optarg : CString)
  | r (optarg : CString)
  | o (optarg : CString)
  | h
  /-- An unknown option or a missing argument. -/
  | unknown

/-- The variables the options are collected in. -/
structure OptState where
  source : Option CString
  isCrash : Bool
  customReason : CString
  otherReason : CString

/-- A request: the options after the loop, the source being given. -/
structure Request where
  source : CString
  isCrash : Bool
  customReason : CString
  otherReason : CString

/-- `"Unknown"`. -/
def unknownReason : CString := ⟨"Unknown".toList, by decide⟩

def OptState.start : OptState := ⟨none, false, unknownReason, unknownReason⟩

/-- The `getopt` loop of `main`; an error carries the exit status. -/
def parseOpts : List Opt → OptState → Except Nat OptState
  | [], st => .ok st
  | .s arg :: opts, st => parseOpts opts { st with source := some arg, isCrash := false }
  | .c arg :: opts, st =>
    if st.isCrash || st.source.isSome then .error 1
    else parseOpts opts { st with source := some arg, isCrash := true }
  | .r arg :: opts, st => parseOpts opts { st with customReason := arg }
  | .o arg :: opts, st => parseOpts opts { st with otherReason := arg }
  | .h :: _, _ => .error 0
  | .unknown :: _, _ => .error 1

/-- The options of a command line, and the check that a source was given. -/
def parseRequest (opts : List Opt) : Except Nat Request :=
  match parseOpts opts OptState.start with
  | .error status => .error status
  | .ok st =>
    match st.source with
    | none => .error 1
    | some source => .ok ⟨source, st.isCrash, st.customReason, st.otherReason⟩

namespace Request

/-- What `handle_cyclic_reboot` is called with. -/
def cause (req : Request) : Cause where
  source := req.source.bytes
  reason := categorize req.source.bytes req.customReason.bytes
  customReason := req.customReason.bytes
  otherReason := req.otherReason.bytes

theorem noNul_cause (req : Request) : req.cause.NoNul where
  source := req.source.noNul
  reason := by
    have hwords : ∀ w ∈ ["MAINTENANCE_REBOOT".toList, "APP_TRIGGERED".toList,
        "OPS_TRIGGERED".toList, "FIRMWARE_FAILURE".toList], '\x00' ∉ w := by decide
    exact hwords _ (categorize_cases _ _)
  customReason := req.customReason.noNul
  otherReason := req.otherReason.noNul

/-- A request is recordable when its three strings are: the category always is. -/
theorem recordable_cause_iff (req : Request) :
    req.cause.Recordable ↔
      ('"' ∉ req.source.bytes ∧ req.source.bytes.length ≤ 127) ∧
      ('"' ∉ req.customReason.bytes ∧ req.customReason.bytes.length ≤ 127) ∧
      ('"' ∉ req.otherReason.bytes ∧ req.otherReason.bytes.length ≤ 255) := by
  constructor
  · intro h
    exact ⟨h.source, h.customReason, h.otherReason⟩
  · rintro ⟨hsource, hcustom, hother⟩
    have hwords : ∀ w ∈ ["MAINTENANCE_REBOOT".toList, "APP_TRIGGERED".toList,
        "OPS_TRIGGERED".toList, "FIRMWARE_FAILURE".toList], '"' ∉ w ∧ w.length ≤ 127 := by decide
    exact ⟨hsource, hwords _ (categorize_cases _ _), hcustom, hother⟩

/-- The cause of a recordable request comes back from its record, whenever it was written. -/
theorem readBack {req : Request} (h : req.cause.Recordable) (t : Tm) :
    parsePreviousRebootInfo (rebootInfoText (req.cause.record (timestampUpdate t)))
      = some req.cause :=
  (readBack_iff req.noNul_cause t).mpr h

end Request

/-- `rebootnow -s Servicemanager`. -/
def serviceRequest : Request :=
  ⟨⟨"Servicemanager".toList, by decide⟩, false, unknownReason, unknownReason⟩

theorem recordable_serviceRequest : serviceRequest.cause.Recordable :=
  serviceRequest.recordable_cause_iff.mpr (by decide)

/-! ## rebootInfo.log -/

/-- `update_reboot_log`: append to a buffer of `size` bytes and return what it holds then. -/
def updateRebootLog (size : Nat) (buffer piece : Bytes) : Bytes :=
  if buffer.length ≥ size - 1 then buffer else buffer ++ snprintf (size - buffer.length) piece

/-- The "RebootReason:" line, built up in `reason_str`. -/
def rebootReasonLine (req : Request) : Bytes :=
  let start := updateRebootLog 1024 [] "RebootReason: ".toList
  let trigger := updateRebootLog 1024 start
    ("Triggered from ".toList ++ req.source.bytes ++
      if req.isCrash then " process failure or crash..!".toList else " process".toList)
  updateRebootLog 1024 trigger
    (if req.otherReason.bytes = "Unknown".toList then ['\n']
     else [' '] ++ req.otherReason.bytes ++ ['\n'])

/-- A `"<key>: <value>\n"` line, through `reason_str`. -/
def logLine (key value : Bytes) : Bytes := snprintf 1024 (key ++ ": ".toList ++ value ++ ['\n'])

/-- The lines `main` adds to rebootInfo.log. -/
def rebootInfoLogLines (req : Request) (ts : Bytes) : List Bytes :=
  [rebootReasonLine req, logLine "RebootInitiatedBy".toList req.source.bytes,
   logLine "RebootTime".toList ts, logLine "CustomReason".toList req.customReason.bytes,
   logLine "OtherReason".toList req.otherReason.bytes]

/-- `write_rebootinfo_log`, once for each line. -/
def writeRebootinfoLog (io : Io File) : List Bytes → DeviceProg Unit
  | [] => pure ()
  | line :: lines => do
    appendFile io .rebootInfoLog line
    writeRebootinfoLog io lines

/-! ## One request -/

/-- `update_maintenance_reboot_flag`. -/
def updateMaintenanceRebootFlag (io : Io File) (rebootReason : Bytes) : DeviceProg Unit :=
  if rebootReason = [] then pure ()
  else if rebootReason = "MAINTENANCE_REBOOT".toList then writeFile io .maintenanceRebootFlag []
  else unlinkFile .maintenanceRebootFlag

/-- The record of a request made now. -/
def Request.record (req : Request) (env : HelperEnv) : RebootInfo :=
  req.cause.record (timestampUpdate env.now)

/-- `main`, from the first log line to the parodus line. -/
def saveRebootInfo (env : HelperEnv) (req : Request) : DeviceProg Unit := do
  writeFile env.io .rebootInfoLog []
  writeRebootinfoLog env.io (rebootInfoLogLines req (timestampUpdate env.now))
  writeFile env.io .rebootInfoFile (rebootInfoText (req.record env))
  writeFile env.io .parodusRebootInfoFile (snprintf 1024 (parodusLine (req.record env)))

/-- The ManageableNotification block. -/
def notifyReboot (env : HelperEnv) : DeviceProg Unit := do
  let d ← Prog.get
  if rfcGetBoolParam (d.rfc .mngNotify) = some true then
    -- REBOOT_PENDING_NOTIFICATION_DELAY
    rfcSetIntParam env .fwRebootNotify 10
  else
    pure ()

/-- `main` after `handle_cyclic_reboot` has returned. -/
def finishRequest (env : HelperEnv) (req : Request) (proceedReboot : Bool) : DeviceProg Unit := do
  writeFile env.io .previousRebootInfoFile (rebootInfoText (req.record env))
  if proceedReboot then
    updateMaintenanceRebootFlag env.io req.cause.reason
    notifyReboot env
    touchFile env.io .rebootNowFlag
    Prog.emit .reboot
  else
    pure ()

/-- One request, up to the decision of `handle_cyclic_reboot`. -/
def decideReboot (env : HelperEnv) (req : Request) : DeviceProg Bool := do
  saveRebootInfo env req
  handleCyclicReboot env req.cause

/-- One request: true when the reboot goes ahead. -/
def requestReboot (env : HelperEnv) (req : Request) : DeviceProg Bool := do
  let proceedReboot ← decideReboot env req
  finishRequest env req proceedReboot
  return proceedReboot

/-- `main`; the result is the exit status. -/
def rebootnowMain (env : HelperEnv) (opts : List Opt) : DeviceProg Nat := do
  let run ← pidfileWriteAndGuard env
  if run then
    match parseRequest opts with
    | .error status =>
      cleanupPidfile
      return status
    | .ok req =>
      let _ ← requestReboot env req
      cleanupPidfile
      return 0
  else
    return 1

/-! ## What a request writes -/

/-- The files written before the decision. -/
def savedFiles : List File := [.rebootInfoLog, .rebootInfoFile, .parodusRebootInfoFile]

theorem emits_writeRebootinfoLog (io : Io File) (lines : List Bytes) :
    (writeRebootinfoLog io lines).Emits (FilesOnly [.rebootInfoLog]) := by
  induction lines with
  | nil => exact Prog.emits_pure ()
  | cons line lines ih => exact (emits_appendFile io .rebootInfoLog line).bind fun _ => ih

theorem emits_saveRebootInfo (env : HelperEnv) (req : Request) :
    (saveRebootInfo env req).Emits (FilesOnly savedFiles) := by
  have hlog : ∀ o, FilesOnly [.rebootInfoLog] o → FilesOnly savedFiles o :=
    fun _ => FilesOnly.mono (by simp [savedFiles])
  have hinfo : ∀ o, FilesOnly [.rebootInfoFile] o → FilesOnly savedFiles o :=
    fun _ => FilesOnly.mono (by simp [savedFiles])
  have hparodus : ∀ o, FilesOnly [.parodusRebootInfoFile] o → FilesOnly savedFiles o :=
    fun _ => FilesOnly.mono (by simp [savedFiles])
  refine ((emits_writeFile _ _ _).mono hlog).bind fun _ => ?_
  refine ((emits_writeRebootinfoLog _ _).mono hlog).bind fun _ => ?_
  refine ((emits_writeFile _ _ _).mono hinfo).bind fun _ => ?_
  exact (emits_writeFile _ _ _).mono hparodus

theorem final_writeRebootinfoLog {io : Io File} (h : io.Ok) (lines : List Bytes) (d : Device)
    {old : Bytes} (hold : d.files .rebootInfoLog = some old) :
    (writeRebootinfoLog io lines).final d
      = d.setFile .rebootInfoLog (some (old ++ lines.flatten)) := by
  induction lines generalizing d old with
  | nil =>
    show d = _
    simp [Device.setFile, ← hold]
  | cons line lines ih =>
    have hnext : (d.setFile .rebootInfoLog (some (old ++ line))).files .rebootInfoLog
        = some (old ++ line) := by
      simp
    simp only [writeRebootinfoLog, Prog.final_bind, final_appendFile h, hold, Option.getD_some]
    rw [ih _ hnext]
    simp [Device.setFile]

/-- The three files, whole. -/
theorem final_saveRebootInfo {env : HelperEnv} (h : env.io.Ok) (req : Request) (d : Device) :
    (saveRebootInfo env req).final d =
      ((d.setFile .rebootInfoLog
          (some (rebootInfoLogLines req (timestampUpdate env.now)).flatten)).setFile .rebootInfoFile
          (some (rebootInfoText (req.record env)))).setFile .parodusRebootInfoFile
          (some (snprintf 1024 (parodusLine (req.record env)))) := by
  have htrunc : (d.setFile .rebootInfoLog (some [])).files .rebootInfoLog = some [] := by
    simp
  simp only [saveRebootInfo, Prog.final_bind, final_writeFile h]
  rw [final_writeRebootinfoLog h _ _ htrunc]
  simp [Device.setFile]

theorem emits_updateMaintenanceRebootFlag (io : Io File) (reason : Bytes) :
    (updateMaintenanceRebootFlag io reason).Emits (FilesOnly [.maintenanceRebootFlag]) := by
  unfold updateMaintenanceRebootFlag
  split
  · exact Prog.emits_pure ()
  · split
    · exact emits_writeFile _ _ _
    · exact emits_unlinkFile _

/-! ## What the decision depends on -/

/-- The branch depends on four files and two parameters. -/
theorem cyclicBranch_congr {env : HelperEnv} {c : Cause} {d d' : Device}
    (hfiles : ∀ f ∈ [File.rebootNowFlag, .rebootStopFlag, .rebootCounterFile, .previousRebootInfoFile],
      d'.files f = d.files f)
    (hrfc : d'.rfc = d.rfc) : cyclicBranch env c d' = cyclicBranch env c d := by
  have hnow : d'.exists .rebootNowFlag = d.exists .rebootNowFlag :=
    congrArg Option.isSome (hfiles .rebootNowFlag (by simp))
  have hstop : d'.exists .rebootStopFlag = d.exists .rebootStopFlag :=
    congrArg Option.isSome (hfiles .rebootStopFlag (by simp))
  have hcount : readRebootcounter env.io d' = readRebootcounter env.io d := by
    rw [readRebootcounter, hfiles .rebootCounterFile (by simp), readRebootcounter]
  have hprev : readPreviousRebootInfo env.io d' = readPreviousRebootInfo env.io d := by
    rw [readPreviousRebootInfo, Io.read, hfiles .previousRebootInfoFile (by simp)]
    rfl
  have hdet : detectionEnabled d' = detectionEnabled d := by
    rw [detectionEnabled, hrfc, detectionEnabled]
  rw [cyclicBranch, hnow, hstop, hcount, hprev, hdet]
  rfl

/-- What is saved before the decision has no part in it. -/
theorem cyclicBranch_saveRebootInfo (env : HelperEnv) (req : Request) (c : Cause) (d : Device) :
    cyclicBranch env c ((saveRebootInfo env req).final d) = cyclicBranch env c d := by
  have hsave := emits_saveRebootInfo env req
  apply cyclicBranch_congr
  · intro f hf
    have hout : f ∉ savedFiles := by
      simp only [List.mem_cons, List.not_mem_nil, or_false] at hf
      rcases hf with rfl | rfl | rfl | rfl <;> decide
    exact hsave.final (fun d => d.files f) (fun o ho d => ho.files_eq hout d) d
  · exact hsave.final Device.rfc (fun o ho d => ho.rfc_eq d) d

/-- The decision of a request, by the branch of the state it starts in. -/
theorem result_decideReboot (env : HelperEnv) (req : Request) (d : Device) :
    (decideReboot env req).result d = (cyclicBranch env req.cause d).proceeds := by
  rw [decideReboot, Prog.result_bind, (handleCyclicReboot_eq _ _ _).2, cyclicBranch_saveRebootInfo]

theorem result_requestReboot (env : HelperEnv) (req : Request) (d : Device) :
    (requestReboot env req).result d = (cyclicBranch env req.cause d).proceeds := by
  simp only [requestReboot, Prog.result_bind, Prog.result_pure, result_decideReboot]

theorem final_requestReboot (env : HelperEnv) (req : Request) (d : Device) :
    (requestReboot env req).final d
      = (finishRequest env req (cyclicBranch env req.cause d).proceeds).final
          ((decideReboot env req).final d) := by
  simp only [requestReboot, Prog.final_bind, Prog.final_pure, result_decideReboot]

/-! ## The two records after a request -/

/-- The files `handle_cyclic_reboot` writes. -/
def loopFiles : List File := [.rebootNowFlag, .rebootStopFlag, .rebootCounterFile]

theorem emits_setRfcParameter (env : HelperEnv) (p : RfcParam) (v : Bytes) (S : List File) :
    (setRfcParameter env p v).Emits (TouchesOnly S) :=
  Prog.emits_emitAll_ite trivial

theorem emits_cronjobsUpdate (env : HelperEnv) {op : DeviceOp} (S : List File)
    (hop : TouchesOnly S op) : (cronjobsUpdate env op).Emits (TouchesOnly S) :=
  Prog.emits_emitAll_ite hop

theorem emits_rebootCounterReset (env : HelperEnv) :
    (rebootCounterReset env).Emits (TouchesOnly loopFiles) := by
  refine (emits_setRfcParameter env _ _ _).bind fun _ => ?_
  refine (touches_writeFile _ _ (by decide)).bind fun _ => ?_
  refine (touches_unlinkFile (by decide)).bind fun _ => ?_
  exact emits_cronjobsUpdate env _ (show TouchesOnly _ (.cronRemove cronJob) from trivial)

theorem emits_armStopMode (env : HelperEnv) (duration : Int) :
    (armStopMode env duration).Emits (TouchesOnly loopFiles) := by
  refine (touches_touchFile _ (by decide)).bind fun _ => ?_
  refine (emits_setRfcParameter env _ _ _).bind fun _ => ?_
  refine (emits_cronjobsUpdate env _ (show TouchesOnly _ (.cronRemove cronJob) from trivial)).bind fun _ => ?_
  refine (emits_cronjobsUpdate env _
    (show TouchesOnly _ (.cronAdd (cronEntry env duration)) from trivial)).bind fun _ => ?_
  exact touches_touchFile _ (by decide)

theorem emits_act (env : HelperEnv) (duration : Int) (b : CyclicBranch) :
    (b.act env duration).Emits (TouchesOnly loopFiles) := by
  have hunlink : (unlinkFile .rebootNowFlag).Emits (TouchesOnly loopFiles) :=
    touches_unlinkFile (by decide)
  cases b with
  | notRebootnow => exact Prog.emits_pure ()
  | detectionDisabled => exact Prog.emits_pure ()
  | noPreviousInfo => exact hunlink.bind fun _ => emits_rebootCounterReset env
  | outsideWindow => exact hunlink.bind fun _ => emits_rebootCounterReset env
  | differentReason => exact hunlink.bind fun _ => emits_rebootCounterReset env
  | halted => exact hunlink.bind fun _ => touches_touchFile _ (by decide)
  | loopDetected => exact hunlink.bind fun _ => emits_armStopMode env duration
  | counted count => exact hunlink.bind fun _ => touches_writeFile _ _ (by decide)

theorem emits_handleCyclicReboot (env : HelperEnv) (cause : Cause) :
    (handleCyclicReboot env cause).Emits (TouchesOnly loopFiles) := by
  intro d o ho
  rw [(handleCyclicReboot_eq env cause d).1] at ho
  exact emits_act env _ _ d o ho

/-- The files written up to the decision. -/
def decisionFiles : List File := savedFiles ++ loopFiles

theorem emits_decideReboot (env : HelperEnv) (req : Request) :
    (decideReboot env req).Emits (TouchesOnly decisionFiles) := by
  refine ((emits_saveRebootInfo env req).mono fun _ =>
    FilesOnly.touchesOnly (List.subset_append_left _ _)).bind fun _ => ?_
  exact (emits_handleCyclicReboot env _).mono fun _ =>
    TouchesOnly.mono (List.subset_append_right _ _)

/-- What `main` does after the second record, when the reboot goes ahead. -/
def proceedFiles : List File := [.maintenanceRebootFlag, .rebootNowFlag]

/-- The notification sets a parameter of its own. -/
theorem emits_notifyReboot (env : HelperEnv) :
    (notifyReboot env).Emits fun o => ∃ v, o = .setRfc .fwRebootNotify v := by
  refine Prog.emits_get.bind fun d => ?_
  split
  · exact Prog.emits_emitAll_ite ⟨_, rfl⟩
  · exact Prog.emits_pure ()

theorem emits_proceed (env : HelperEnv) (reason : Bytes) :
    (do updateMaintenanceRebootFlag env.io reason
        notifyReboot env
        touchFile env.io .rebootNowFlag
        Prog.emit .reboot : DeviceProg Unit).Emits (TouchesOnly proceedFiles) := by
  refine ((emits_updateMaintenanceRebootFlag _ _).mono fun _ =>
    FilesOnly.touchesOnly (by decide)).bind fun _ => ?_
  have hnotify : (notifyReboot env).Emits (TouchesOnly proceedFiles) := by
    refine (emits_notifyReboot env).mono ?_
    rintro o ⟨v, rfl⟩
    trivial
  refine hnotify.bind fun _ => ?_
  exact (touches_touchFile _ (by decide)).bind fun _ => Prog.emits_emit trivial

/-- The record stands in previousreboot.info when the request is over, whatever was decided. -/
theorem files_previous_finishRequest {env : HelperEnv} (h : env.io.Ok) (req : Request) (b : Bool)
    (d : Device) :
    ((finishRequest env req b).final d).files .previousRebootInfoFile
      = some (rebootInfoText (req.record env)) := by
  rw [finishRequest, Prog.final_bind, final_writeFile h]
  have hwritten : (d.setFile .previousRebootInfoFile
      (some (rebootInfoText (req.record env)))).files .previousRebootInfoFile
        = some (rebootInfoText (req.record env)) := by
    simp
  cases b with
  | false =>
    rw [if_neg Bool.false_ne_true, Prog.final_pure, hwritten]
  | true =>
    rw [if_pos rfl, files_final_of_touchesOnly (emits_proceed env _) (by decide), hwritten]

/-- A request leaves files alone that it does not name after its first record. -/
theorem files_finishRequest_of_ne {env : HelperEnv} (req : Request) (b : Bool) (d : Device) {f : File}
    (hf : f ∉ File.previousRebootInfoFile :: proceedFiles) :
    ((finishRequest env req b).final d).files f = d.files f := by
  obtain ⟨hprev, hproceed⟩ := not_or.mp (fun h => hf (List.mem_cons.mpr h))
  rw [finishRequest, Prog.final_bind]
  have hwrite : ((writeFile env.io .previousRebootInfoFile
      (rebootInfoText (req.record env))).final d).files f = d.files f :=
    files_final_of_touchesOnly (touches_writeFile env.io _ (List.mem_singleton_self _))
      (by simpa using hprev) d
  cases b with
  | false => exact hwrite
  | true =>
    rw [if_pos rfl, files_final_of_touchesOnly (emits_proceed env _) hproceed, hwrite]

theorem files_rebootInfo_requestReboot {env : HelperEnv} (h : env.io.Ok) (req : Request) (d : Device) :
    ((requestReboot env req).final d).files .rebootInfoFile
      = some (rebootInfoText (req.record env)) := by
  rw [final_requestReboot, files_finishRequest_of_ne _ _ _ (by decide), decideReboot,
    Prog.final_bind, files_final_of_touchesOnly (emits_handleCyclicReboot env _) (by decide),
    final_saveRebootInfo h]
  simp [Function.update_of_ne]

theorem files_previous_requestReboot {env : HelperEnv} (h : env.io.Ok) (req : Request) (d : Device) :
    ((requestReboot env req).final d).files .previousRebootInfoFile
      = some (rebootInfoText (req.record env)) := by
  rw [final_requestReboot, files_previous_finishRequest h]

end RebootManager
