/-
# RebootManager.Fetcher.Classify -- from evidence to a reboot reason (reboot_reason_classify.c)

`classify_reboot_reason` weighs the evidence in a fixed order: a firmware failure, a custom reason that
is already there, a kernel panic, the hardware register, and last the fallback. Each of them fills the
record; that none leaves its source or its reason empty is `classifyRebootReason_filled`.

The long `strstr` chain of `map_hardware_reason` is a table here, one row a branch, in the order of the
chain.
-/
import RebootManager.Platform.RebootInfo
import RebootManager.Fetcher.Evidence

namespace RebootManager

open Foundation

/-! ## The reason lists -/

/-- `APP_TRIGGERED_REASONS` of reboot_reason_classify.c -/
def classifyAppReasons : List String :=
  ["Servicemanager", "systemservice_legacy", "WarehouseReset", "WarehouseService",
   "HrvInitWHReset", "HrvColdInitReset", "HtmlDiagnostics", "InstallTDK", "StartTDK",
   "TR69Agent", "SystemServices", "Bsu_GUI", "SNMP", "CVT_CDL", "Nxserver",
   "DRM_Netflix_Initialize", "hrvinit", "PaceMFRLibrary"]

/-- `OPS_TRIGGERED_REASONS` of reboot_reason_classify.c -/
def classifyOpsReasons : List String :=
  ["ScheduledReboot", "RebootSTB.sh", "FactoryReset", "UpgradeReboot_restore", "XFS",
   "wait_for_pci0_ready", "websocketproxyinit", "NSC_IR_EventReboot",
   "host_interface_dma_bus_wait", "usbhotplug", "Receiver_MDVRSet",
   "Receiver_VidiPath_Enabled", "Receiver_Toggle_Optimus", "S04init_ticket",
   "Network-Service", "monitorMfrMgr.sh", "vlAPI_Caller_Upgrade", "ImageUpgrade_rmf_osal",
   "ImageUpgrade_mfr_api", "ImageUpgrade_userInitiatedFWDnld.sh", "ClearSICache",
   "tr69hostIfReset", "hostIf_utils", "hostifDeviceInfo", "HAL_SYS_Reboot",
   "UpgradeReboot_deviceInitiatedFWDnld.sh", "UpgradeReboot_rdkvfwupgrader",
   "UpgradeReboot_ipdnl.sh", "PowerMgr_Powerreset", "PowerMgr_coldFactoryReset",
   "DeepSleepMgr", "PowerMgr_CustomerReset", "PowerMgr_PersonalityReset",
   "Power_Thermmgr", "PowerMgr_Plat", "HAL_CDL_notify_mgr_event",
   "vldsg_estb_poll_ecm_operational_state", "SASWatchDog", "BP3_Provisioning",
   "eMMC_FW_UPGRADE", "BOOTLOADER_UPGRADE", "cdl_service", "docsis_mode_check.sh",
   "Receiver", "CANARY_Update", "BRCM_Image_Validate", "tch_nvram.sh",
   "boot_FSR", "BCMCommandHandler"]

/-- `MAINTENANCE_TRIGGERED_REASONS` of reboot_reason_classify.c -/
def classifyMaintenanceReasons : List String := ["AutoReboot.sh", "PwrMgr"]

/-- The loop of `is_app_triggered`, `is_ops_triggered` and `is_maintenance_triggered`. -/
def isTriggered (list : List String) (reason : Bytes) : Bool :=
  list.any fun entry => reason = entry.toList

/-! ## map_hardware_reason -/

/-- One branch of the chain: the tokens it tests for and what it fills in. -/
structure HardwareBranch where
  tokens : List String
  source : String
  reason : String
  otherReason : String

/-- The branches of `map_hardware_reason`, first one first. -/
def hardwareBranches : List HardwareBranch :=
  [⟨["SOFTWARE_MASTER_RESET", "SOFTWARE_RESET", "SOFTWARE_REBOOT", "SW_RESET", "SOFTWARE"],
    "SoftwareReboot", "SOFTWARE_MASTER_RESET", "Reboot due to user triggered reboot command"⟩,
   ⟨["WATCHDOG"], "WatchDog", "WATCHDOG_TIMER_RESET", "Reboot due to watch dog timer reset"⟩,
   ⟨["KERNEL_PANIC", "KERNEL_PANIC_RESET"], "Kernel", "KERNEL_PANIC",
    "Reboot due to Kernel Panic captured by Oops Dump"⟩,
   ⟨["POWER_ON", "HARDWARE"], "PowerOn", "POWER_ON_RESET",
    "Reboot due to unplug of power cable from the STB"⟩,
   ⟨["MAIN_CHIP_INPUT_RESET"], "Main Chip", "MAIN_CHIP_INPUT_RESET",
    "Reboot due to chip's main reset input has been asserted"⟩,
   ⟨["MAIN_CHIP_RESET_INPUT"], "Main Chip", "MAIN_CHIP_RESET_INPUT",
    "Reboot due to chip's main reset input has been asserted"⟩,
   ⟨["TAP_IN_SYSTEM_RESET"], "Tap-In System", "TAP_IN_SYSTEM_RESET",
    "Reboot due to the chip's TAP in-system reset has been asserted"⟩,
   ⟨["FRONT_PANEL_4SEC_RESET", "FRONT_PANEL_RESET"], "FrontPanel Button", "FRONT_PANEL_RESET",
    "Reboot due to the front panel 4 second reset has been asserted"⟩,
   ⟨["S3_WAKEUP_RESET"], "Standby Wakeup", "S3_WAKEUP_RESET",
    "Reboot due to the chip woke up from deep standby"⟩,
   ⟨["SMARTCARD_INSERT_RESET"], "SmartCard Insert", "SMARTCARD_INSERT_RESET",
    "Reboot due to the smartcard insert reset has occurred"⟩,
   ⟨["OVERTEMP", "OVERHEAT"], "OverTemperature", "OVERTEMP_RESET",
    "Reboot due to chip temperature is above threshold (125*C)"⟩,
   ⟨["OVERVOLTAGE"], "OverVoltage", "OVERVOLTAGE_RESET",
    "Reboot due to chip voltage is above threshold"⟩,
   ⟨["UNDERVOLTAGE", "UNDERVOLTAGE_0_RESET", "UNDERVOLTAGE_1_RESET"], "LowVoltage",
    "UNDERVOLTAGE_RESET", "Reboot due to chip voltage is below threshold"⟩,
   ⟨["PCIE_0_HOT_BOOT_RESET", "PCIE_1_HOT_BOOT_RESET", "PCIE_HOT_BOOT_RESET"], "PCIE Boot",
    "PCIE_HOT_BOOT_RESET", "Reboot due to PCIe hot boot reset has occurred"⟩,
   ⟨["SECURITY_MASTER_RESET"], "SecurityReboot", "SECURITY_MASTER_RESET",
    "Reboot due to security master reset has occurred"⟩,
   ⟨["CPU_EJTAG_RESET"], "CPU EJTAG", "CPU_EJTAG_RESET",
    "Reboot due to CPU EJTAG reset has occurred"⟩,
   ⟨["SCPU_EJTAG_RESET"], "SCPU EJTAG", "SCPU_EJTAG_RESET",
    "Reboot due to SCPU EJTAG reset has occurred"⟩,
   ⟨["GEN_WATCHDOG_1_RESET", "GEN_WATCHDOG_RESET"], "GEN WatchDog", "GEN_WATCHDOG_RESET",
    "Reboot due to gen_watchdog_1 timeout reset has occurred"⟩,
   ⟨["AUX_CHIP_EDGE_RESET_0", "AUX_CHIP_EDGE_RESET_1", "AUX_CHIP_EDGE_RESET"], "Aux Chip Edge",
    "AUX_CHIP_EDGE_RESET", "Reboot due to the auxiliary edge-triggered chip reset has occurred"⟩,
   ⟨["AUX_CHIP_LEVEL_RESET_0", "AUX_CHIP_LEVEL_RESET_1", "AUX_CHIP_LEVEL_RESET"],
    "Aux Chip Level", "AUX_CHIP_LEVEL_RESET",
    "Reboot due to the auxiliary level-triggered chip reset has occurred"⟩,
   ⟨["MPM_RESET"], "MPM", "MPM_RESET", "Reboot due to the MPM reset has occurred"⟩]

/-- The condition of a branch. -/
def HardwareBranch.tests (branch : HardwareBranch) (hwReason : Bytes) : Bool :=
  branch.tokens.any fun token => (strstr hwReason token.toList).isSome

/-- `map_hardware_reason` -/
def mapHardwareReason (hwReason : Bytes) (info : RebootInfo) : RebootInfo :=
  match hardwareBranches.find? fun branch => branch.tests hwReason with
  | some branch =>
    { info with
      source := branch.source.toList
      reason := branch.reason.toList
      otherReason := branch.otherReason.toList }
  | none =>
    { info with
      source := "Unknown".toList
      reason := snprintf maxReasonLength hwReason
      otherReason := snprintf maxReasonLength hwReason }

/-! ## classify_reboot_reason -/

/-- `"Hardware Register - "` and a reason, cut to the field. -/
def registerReason (reason : Bytes) : Bytes :=
  snprintf maxReasonLength ("Hardware Register - ".toList ++ reason)

/-- The record of an empty register. -/
def RebootInfo.hardPower (info : RebootInfo) : RebootInfo :=
  { info with
    source := "Hard Power Reset".toList
    reason := "HARD_POWER".toList
    customReason := "Hardware Register - NULL".toList
    otherReason := "No information found".toList }

/-- The branch of a firmware failure. -/
def classifyFirmwareFailure (info : RebootInfo) (fwFailure : FirmwareFailure) : RebootInfo :=
  { info with
    source :=
      if fwFailure.initiator ≠ [] then snprintf maxReasonLength fwFailure.initiator
      else "FirmwareFailure".toList
    reason := "FIRMWARE_FAILURE".toList
    customReason := []
    otherReason :=
      if fwFailure.details ≠ [] then snprintf maxReasonLength fwFailure.details
      else info.otherReason }

/-- The branch of a custom reason that is already there. -/
def classifyCustomReason (info : RebootInfo) : RebootInfo :=
  if info.customReason = "MAINTENANCE_REBOOT".toList then
    { info with reason := "MAINTENANCE_REBOOT".toList }
  else if isTriggered classifyAppReasons info.customReason then
    { info with reason := "APP_TRIGGERED".toList }
  else if isTriggered classifyOpsReasons info.customReason then
    { info with reason := "OPS_TRIGGERED".toList }
  else if isTriggered classifyMaintenanceReasons info.customReason then
    { info with reason := "MAINTENANCE_REBOOT".toList }
  else
    { info with
      reason := "FIRMWARE_FAILURE".toList
      source := if info.source = [] then "Unknown".toList else info.source }

/-- The branch of a kernel panic. -/
def classifyKernelPanic (info : RebootInfo) : RebootInfo :=
  { info with
    source := "Kernel".toList
    reason := "KERNEL_PANIC".toList
    customReason := "Hardware Register - KERNEL_PANIC".toList
    otherReason := "Reboot due to Kernel Panic captured by Oops Dump".toList }

/-- The branch of the hardware register. -/
def classifyHardwareReason (info : RebootInfo) (ctx : EnvContext) (hwReason : HardwareReason) :
    RebootInfo :=
  let mapped := mapHardwareReason hwReason.mappedReason info
  if ctx.soc = "BRCM".toList ∨ ctx.soc = "BROADCOM".toList then
    if hwReason.rawReason ≠ [] then
      { mapped with customReason := registerReason (hwReason.rawReason.map Char.toUpper) }
    else if hwReason.mappedReason = "UNKNOWN".toList then mapped.hardPower
    else { mapped with customReason := registerReason hwReason.mappedReason }
  else
    if hwReason.mappedReason = "UNKNOWN".toList ∨ hwReason.mappedReason = [] then mapped.hardPower
    else
      { mapped with
        customReason :=
          registerReason (if mapped.reason ≠ [] then mapped.reason else hwReason.mappedReason) }

/-- The fallback of the last branch. -/
def classifyFallback (info : RebootInfo) (panicInfo : PanicInfo) (fwFailure : FirmwareFailure) :
    RebootInfo :=
  if !panicInfo.detected && !fwFailure.detected then
    { info with
      source := "SoftwareReboot".toList
      reason := "SOFTWARE_MASTER_RESET".toList
      customReason := "SOFTWARE_MASTER_RESET".toList
      otherReason := "Reboot due to user triggered reboot command".toList }
  else
    { info with
      source := "Unknown".toList
      reason := "UNKNOWN".toList
      customReason := "UNKNOWN".toList
      otherReason := "Reboot reason could not be determined".toList }

/-- `classify_reboot_reason`; it returns `SUCCESS` for every argument `main` passes. -/
def classifyRebootReason (info : RebootInfo) (ctx : EnvContext) (hwReason : HardwareReason)
    (panicInfo : PanicInfo) (fwFailure : FirmwareFailure) : RebootInfo :=
  if fwFailure.detected then classifyFirmwareFailure info fwFailure
  else if info.customReason ≠ [] then classifyCustomReason info
  else if panicInfo.detected then classifyKernelPanic info
  else if hwReason.mappedReason ≠ [] then classifyHardwareReason info ctx hwReason
  else if info.source = [] then classifyFallback info panicInfo fwFailure
  else info

/-! ## Filled records -/

/-- A record that says who and why. -/
structure RebootInfo.Filled (info : RebootInfo) : Prop where
  source : info.source ≠ []
  reason : info.reason ≠ []

/-- `RebootInfo` after `memset` and `get_current_timestamp`. -/
def RebootInfo.blank (timestamp : Bytes) : RebootInfo := ⟨timestamp, [], [], [], []⟩

/-- No branch of the table is empty. -/
theorem hardwareBranches_filled :
    ∀ branch ∈ hardwareBranches, branch.source.toList ≠ [] ∧ branch.reason.toList ≠ [] := by
  decide

theorem snprintf_ne_nil {text : Bytes} (h : text ≠ []) : snprintf maxReasonLength text ≠ [] := by
  obtain ⟨c, cs, rfl⟩ := List.exists_cons_of_ne_nil h
  show (c :: cs).take 127 ≠ []
  simp

theorem mapHardwareReason_filled {hwReason : Bytes} (h : hwReason ≠ []) (info : RebootInfo) :
    (mapHardwareReason hwReason info).Filled := by
  unfold mapHardwareReason
  cases hfind : hardwareBranches.find? fun branch => branch.tests hwReason with
  | some branch =>
    obtain ⟨hsource, hreason⟩ := hardwareBranches_filled branch (List.mem_of_find?_eq_some hfind)
    exact ⟨hsource, hreason⟩
  | none =>
    refine ⟨?_, snprintf_ne_nil h⟩
    show "Unknown".toList ≠ []
    decide

theorem hardPower_filled (info : RebootInfo) : info.hardPower.Filled := by
  refine ⟨?_, ?_⟩
  · show "Hard Power Reset".toList ≠ []
    decide
  · show "HARD_POWER".toList ≠ []
    decide

theorem classifyKernelPanic_filled (info : RebootInfo) : (classifyKernelPanic info).Filled := by
  refine ⟨?_, ?_⟩
  · show "Kernel".toList ≠ []
    decide
  · show "KERNEL_PANIC".toList ≠ []
    decide

theorem classifyFirmwareFailure_filled (info : RebootInfo) (fwFailure : FirmwareFailure) :
    (classifyFirmwareFailure info fwFailure).Filled := by
  refine ⟨?_, ?_⟩
  · show (if fwFailure.initiator ≠ [] then snprintf maxReasonLength fwFailure.initiator
      else "FirmwareFailure".toList) ≠ []
    split
    · rename_i hinitiator
      exact snprintf_ne_nil hinitiator
    · decide
  · show "FIRMWARE_FAILURE".toList ≠ []
    decide

theorem classifyHardwareReason_filled {hwReason : HardwareReason} (h : hwReason.mappedReason ≠ [])
    (info : RebootInfo) (ctx : EnvContext) : (classifyHardwareReason info ctx hwReason).Filled := by
  have hmapped := mapHardwareReason_filled h info
  unfold classifyHardwareReason
  dsimp only
  split
  · split
    · exact ⟨hmapped.source, hmapped.reason⟩
    · split
      · exact hardPower_filled _
      · exact ⟨hmapped.source, hmapped.reason⟩
  · split
    · exact hardPower_filled _
    · exact ⟨hmapped.source, hmapped.reason⟩

theorem classifyFallback_filled (info : RebootInfo) (panicInfo : PanicInfo)
    (fwFailure : FirmwareFailure) : (classifyFallback info panicInfo fwFailure).Filled := by
  unfold classifyFallback
  split
  · refine ⟨?_, ?_⟩
    · show "SoftwareReboot".toList ≠ []
      decide
    · show "SOFTWARE_MASTER_RESET".toList ≠ []
      decide
  · refine ⟨?_, ?_⟩
    · show "Unknown".toList ≠ []
      decide
    · show "UNKNOWN".toList ≠ []
      decide

/-- **Classification fills the record.** From a blank record, and whatever the evidence, both the source
and the reason come out filled. -/
theorem classifyRebootReason_filled (timestamp : Bytes) (ctx : EnvContext)
    (hwReason : HardwareReason) (panicInfo : PanicInfo) (fwFailure : FirmwareFailure) :
    (classifyRebootReason (RebootInfo.blank timestamp) ctx hwReason panicInfo fwFailure).Filled := by
  unfold classifyRebootReason
  split
  · exact classifyFirmwareFailure_filled _ fwFailure
  rw [if_neg (show ¬ (RebootInfo.blank timestamp).customReason ≠ [] from fun h => h rfl)]
  split
  · exact classifyKernelPanic_filled _
  split
  · rename_i hmapped
    exact classifyHardwareReason_filled hmapped _ ctx
  rw [if_pos (show (RebootInfo.blank timestamp).source = [] from rfl)]
  exact classifyFallback_filled _ panicInfo fwFailure

/-! ## The timestamp -/

theorem mapHardwareReason_timestamp (hwReason : Bytes) (info : RebootInfo) :
    (mapHardwareReason hwReason info).timestamp = info.timestamp := by
  unfold mapHardwareReason
  split <;> rfl

theorem classifyHardwareReason_timestamp (info : RebootInfo) (ctx : EnvContext)
    (hwReason : HardwareReason) :
    (classifyHardwareReason info ctx hwReason).timestamp = info.timestamp := by
  have hmapped := mapHardwareReason_timestamp hwReason.mappedReason info
  unfold classifyHardwareReason
  dsimp only
  split
  · split
    · exact hmapped
    · split <;> exact hmapped
  · split <;> exact hmapped

/-- Classification leaves the timestamp of a blank record alone. -/
theorem classifyRebootReason_timestamp (timestamp : Bytes) (ctx : EnvContext)
    (hwReason : HardwareReason) (panicInfo : PanicInfo) (fwFailure : FirmwareFailure) :
    (classifyRebootReason (RebootInfo.blank timestamp) ctx hwReason panicInfo fwFailure).timestamp
      = timestamp := by
  unfold classifyRebootReason
  split
  · rfl
  rw [if_neg (show ¬ (RebootInfo.blank timestamp).customReason ≠ [] from fun h => h rfl)]
  split
  · rfl
  split
  · exact classifyHardwareReason_timestamp _ ctx hwReason
  rw [if_pos (show (RebootInfo.blank timestamp).source = [] from rfl)]
  unfold classifyFallback
  split <;> rfl

end RebootManager
