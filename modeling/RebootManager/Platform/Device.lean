/-
# RebootManager.Platform.Device -- the state the two programs share

`rebootnow` runs before a reboot and `update-reboot-info` after it. What passes from one to the other
is a set of small files under /opt/secure/reboot and /opt/logs, a few TR-181 parameters and the cron
table; what the second one looks at besides are evidence files under /opt/logs, /proc and /sys. All of
it together is a `Device`, and everything either program does to it is a `DeviceOp`.

Names follow the macros and the `static const char *` path constants of the sources.
-/
import RebootManager.Foundation.FileStore

namespace RebootManager

open Foundation

/-! ## Files -/

/-- The files the two programs read and write, under the sources' names for their paths. -/
inductive File where
  /-- /opt/logs/rebootInfo.log -/
  | rebootInfoLog
  /-- /opt/secure/reboot/reboot.info -/
  | rebootInfoFile
  /-- /opt/secure/reboot/parodusreboot.info -/
  | parodusRebootInfoFile
  /-- /opt/secure/reboot/previousreboot.info -/
  | previousRebootInfoFile
  /-- /opt/secure/reboot/previousparodusreboot.info -/
  | previousParodusRebootInfoFile
  /-- /opt/secure/reboot/hardpower.info -/
  | previousHardRebootInfoFile
  /-- /opt/secure/reboot/keypress.info -/
  | keypressInfoFile
  /-- /opt/secure/reboot/previouskeypress.info -/
  | previousKeypressInfoFile
  /-- /opt/secure/reboot/rebootNow -/
  | rebootNowFlag
  /-- /opt/secure/reboot/rebootStop -/
  | rebootStopFlag
  /-- /opt/secure/reboot/rebootCounter -/
  | rebootCounterFile
  /-- /opt/secure/reboot/maintenance_reboot -/
  | maintenanceRebootFlag
  /-- /tmp/.rebootNow.pid -/
  | pidFile
  /-- /tmp/stt_received -/
  | sttFlag
  /-- /tmp/Update_rebootInfo_invoked -/
  | pathFlagInvocation
  /-- /opt/logs/parodus.log -/
  | parodusLog
  /-- /opt/logs/messages.txt -/
  | kernelLogFile
  /-- /sys/fs/pstore/console-ramoops-0 -/
  | pstoreConsoleLogFile
  /-- /opt/logs/PreviousLogs/uimgr_log.txt -/
  | uimgrLogFile
  /-- /opt/logs/PreviousLogs/ocapri_log.txt -/
  | ocapriLogFile
  /-- /opt/logs/PreviousLogs/messages-ecm.txt -/
  | ecmCrashLogFile
  /-- /proc/brcm/previous_reboot_reason -/
  | brcmRebootFile
  /-- /etc/device.properties -/
  | devicePropertiesFile
  deriving DecidableEq

/-! ## TR-181 parameters and cron -/

/-- The TR-181 parameters used through the rfc helpers. -/
inductive RfcParam where
  | mngNotify
  | fwRebootNotify
  | rebootStopDetection
  | rebootStopDuration
  | rebootStopEnable
  deriving DecidableEq

/-- A line of the cron table, with the job name cronjobs_update.sh files it under. -/
structure CronEntry where
  job : Bytes
  line : Bytes
  deriving DecidableEq

/-! ## The device -/

/-- The state of a device as the two programs see it. -/
structure Device where
  files : Files File
  /-- What `getRFCParameter` returns: a value, or `none` for a failing status. -/
  rfc : RfcParam → Option Bytes
  cron : List CronEntry

namespace Device

/-- A device out of the factory: no file, no parameter, no cron entry. -/
def blank : Device := ⟨fun _ => none, fun _ => none, []⟩

/-- The device with one file changed. -/
def setFile (d : Device) (f : File) (content : Option Bytes) : Device :=
  { d with files := Function.update d.files f content }

/-- The device with one parameter set. -/
def setRfc (d : Device) (param : RfcParam) (value : Bytes) : Device :=
  { d with rfc := Function.update d.rfc param (some value) }

@[simp] theorem setFile_files (d : Device) (f : File) (content : Option Bytes) :
    (d.setFile f content).files = Function.update d.files f content := rfl

@[simp] theorem setFile_rfc (d : Device) (f : File) (content : Option Bytes) :
    (d.setFile f content).rfc = d.rfc := rfl

@[simp] theorem setFile_cron (d : Device) (f : File) (content : Option Bytes) :
    (d.setFile f content).cron = d.cron := rfl

@[simp] theorem setRfc_files (d : Device) (param : RfcParam) (value : Bytes) :
    (d.setRfc param value).files = d.files := rfl

@[simp] theorem setRfc_rfc (d : Device) (param : RfcParam) (value : Bytes) :
    (d.setRfc param value).rfc = Function.update d.rfc param (some value) := rfl

@[simp] theorem setRfc_cron (d : Device) (param : RfcParam) (value : Bytes) :
    (d.setRfc param value).cron = d.cron := rfl

end Device

/-- Everything the programs do to a device. -/
inductive DeviceOp where
  | file (op : FileOp File)
  | setRfc (param : RfcParam) (value : Bytes)
  /-- cronjobs_update.sh remove: every entry of the job goes. -/
  | cronRemove (job : Bytes)
  /-- cronjobs_update.sh add: one entry more. -/
  | cronAdd (entry : CronEntry)
  /-- The reboot commands at the end of `rebootnow`. -/
  | reboot
  deriving DecidableEq

def DeviceOp.run : DeviceOp → Device → Device
  | .file op, d => { d with files := op.run d.files }
  | .setRfc param value, d => d.setRfc param value
  | .cronRemove job, d => { d with cron := d.cron.filter fun e => e.job ≠ job }
  | .cronAdd entry, d => { d with cron := d.cron ++ [entry] }
  | .reboot, d => d

instance : Effect DeviceOp Device := ⟨DeviceOp.run⟩

/-- A program run on a device. -/
abbrev DeviceProg (α : Type) := Prog DeviceOp Device α

/-- `stat(path) == 0` (or `access(path, F_OK) == 0`). -/
def Device.exists (d : Device) (f : File) : Bool := (d.files f).isSome

/-- Updates of files only. -/
def fileOps (ops : List (FileOp File)) : DeviceProg Unit := Prog.emitAll (ops.map DeviceOp.file)

def unlinkFile (f : File) : DeviceProg Unit := fileOps [.unlink f]

def writeFile (io : Io File) (f : File) (text : Bytes) : DeviceProg Unit :=
  fileOps (io.writeOps f text)

def appendFile (io : Io File) (f : File) (text : Bytes) : DeviceProg Unit :=
  fileOps (io.appendOps f text)

/-- An open that creates the file where it is missing, closed at once (`touch_file`). -/
def touchFile (io : Io File) (f : File) : DeviceProg Unit :=
  fileOps (if io.canWrite f then [.openAppend f] else [])

/-- Run `p` only when `b`. -/
def whenever (b : Bool) (p : DeviceProg Unit) : DeviceProg Unit := if b then p else pure ()

/-! ## What each update changes -/

/-- File updates act on the files alone. -/
theorem execOps_file (ops : List (FileOp File)) (d : Device) :
    execOps (ops.map DeviceOp.file) d = { d with files := execOps ops d.files } := by
  induction ops generalizing d with
  | nil => rfl
  | cons op ops ih =>
    rw [List.map_cons, execOps_cons, ih]
    rfl

theorem final_fileOps (ops : List (FileOp File)) (d : Device) :
    (fileOps ops).final d = { d with files := execOps ops d.files } := by
  rw [fileOps, Prog.final_emitAll, execOps_file]

@[simp] theorem final_unlinkFile (f : File) (d : Device) :
    (unlinkFile f).final d = d.setFile f none := final_fileOps _ _

/-- A complete truncating write leaves the text. -/
theorem final_writeFile {io : Io File} (h : io.Ok) (f : File) (text : Bytes) (d : Device) :
    (writeFile io f text).final d = d.setFile f (some text) := by
  rw [writeFile, final_fileOps, h.execOps_write]
  rfl

/-- A complete appending write adds the text. -/
theorem final_appendFile {io : Io File} (h : io.Ok) (f : File) (text : Bytes) (d : Device) :
    (appendFile io f text).final d = d.setFile f (some ((d.files f).getD [] ++ text)) := by
  rw [appendFile, final_fileOps, h.execOps_append]
  rfl

theorem final_touchFile {io : Io File} (h : io.Ok) (f : File) (d : Device) :
    (touchFile io f).final d = d.setFile f (some ((d.files f).getD [])) := by
  rw [touchFile, if_pos (h.writes f), final_fileOps]
  rfl

/-! ## What each update leaves alone -/

/-- An update of files of `S` and of nothing else. -/
def FilesOnly (S : List File) : DeviceOp → Prop
  | .file op => ∀ f ∈ op.targets, f ∈ S
  | .reboot => True
  | _ => False

theorem emits_fileOps {S : List File} {ops : List (FileOp File)}
    (h : ∀ op ∈ ops, ∀ f ∈ op.targets, f ∈ S) : (fileOps ops).Emits (FilesOnly S) := by
  intro d o ho
  obtain ⟨op, hop, rfl⟩ := List.mem_map.mp ho
  exact h op hop

theorem emits_writeFile (io : Io File) (f : File) (text : Bytes) :
    (writeFile io f text).Emits (FilesOnly [f]) := by
  apply emits_fileOps
  intro op hop g hg
  rwa [Io.targets_writeOps hop] at hg

theorem emits_appendFile (io : Io File) (f : File) (text : Bytes) :
    (appendFile io f text).Emits (FilesOnly [f]) := by
  apply emits_fileOps
  intro op hop g hg
  rwa [Io.targets_appendOps hop] at hg

theorem emits_unlinkFile (f : File) : (unlinkFile f).Emits (FilesOnly [f]) := by
  apply emits_fileOps
  intro op hop g hg
  rw [List.mem_singleton] at hop
  subst hop
  exact hg

theorem emits_touchFile (io : Io File) (f : File) : (touchFile io f).Emits (FilesOnly [f]) := by
  apply emits_fileOps
  intro op hop g hg
  split at hop
  · rw [List.mem_singleton] at hop
    subst hop
    exact hg
  · cases hop

theorem FilesOnly.mono {S T : List File} (hST : S ⊆ T) {o : DeviceOp} (h : FilesOnly S o) :
    FilesOnly T o := by
  cases o with
  | file op => exact fun f hf => hST (h f hf)
  | reboot => trivial
  | _ => exact h.elim

/-- Outside `S`, nothing of the device changes. -/
theorem FilesOnly.files_eq {S : List File} {o : DeviceOp} (h : FilesOnly S o) {f : File} (hf : f ∉ S)
    (d : Device) : (Effect.apply o d).files f = d.files f := by
  cases o with
  | file op => exact FileOp.run_of_not_target (fun hmem => hf (h f hmem)) d.files
  | reboot => rfl
  | _ => exact h.elim

theorem FilesOnly.rfc_eq {S : List File} {o : DeviceOp} (h : FilesOnly S o) (d : Device) :
    (Effect.apply o d).rfc = d.rfc := by
  cases o with
  | file op => rfl
  | reboot => rfl
  | _ => exact h.elim

theorem FilesOnly.cron_eq {S : List File} {o : DeviceOp} (h : FilesOnly S o) (d : Device) :
    (Effect.apply o d).cron = d.cron := by
  cases o with
  | file op => rfl
  | reboot => rfl
  | _ => exact h.elim

/-- An update that names no file outside `S`; parameters and cron entries are free. -/
def TouchesOnly (S : List File) : DeviceOp → Prop
  | .file op => ∀ f ∈ op.targets, f ∈ S
  | _ => True

theorem FilesOnly.touchesOnly {S T : List File} (hST : S ⊆ T) {o : DeviceOp} (h : FilesOnly S o) :
    TouchesOnly T o := by
  cases o with
  | file op => exact fun f hf => hST (h f hf)
  | _ => trivial

theorem TouchesOnly.mono {S T : List File} (hST : S ⊆ T) {o : DeviceOp} (h : TouchesOnly S o) :
    TouchesOnly T o := by
  cases o with
  | file op => exact fun f hf => hST (h f hf)
  | _ => trivial

theorem TouchesOnly.files_eq {S : List File} {o : DeviceOp} (h : TouchesOnly S o) {f : File}
    (hf : f ∉ S) (d : Device) : (Effect.apply o d).files f = d.files f := by
  cases o with
  | file op => exact FileOp.run_of_not_target (fun hmem => hf (h f hmem)) d.files
  | _ => rfl

/-- A program that names no file outside `S` leaves the others as they were, wherever it is cut. -/
theorem files_cut_of_touchesOnly {S : List File} {α : Type} {p : DeviceProg α}
    (hp : p.Emits (TouchesOnly S)) {f : File} (hf : f ∉ S) {d d' : Device} (hcut : p.Cut d d') :
    d'.files f = d.files f :=
  hp.cut (fun d => d.files f) (fun _ ho d => ho.files_eq hf d) hcut

theorem files_final_of_touchesOnly {S : List File} {α : Type} {p : DeviceProg α}
    (hp : p.Emits (TouchesOnly S)) {f : File} (hf : f ∉ S) (d : Device) :
    (p.final d).files f = d.files f :=
  files_cut_of_touchesOnly hp hf (Prog.Cut.final p d)

theorem touches_writeFile (io : Io File) {f : File} (text : Bytes) {S : List File} (hf : f ∈ S) :
    (writeFile io f text).Emits (TouchesOnly S) :=
  (emits_writeFile io f text).mono fun _ => FilesOnly.touchesOnly (by simpa using hf)

theorem touches_appendFile (io : Io File) {f : File} (text : Bytes) {S : List File} (hf : f ∈ S) :
    (appendFile io f text).Emits (TouchesOnly S) :=
  (emits_appendFile io f text).mono fun _ => FilesOnly.touchesOnly (by simpa using hf)

theorem touches_unlinkFile {f : File} {S : List File} (hf : f ∈ S) :
    (unlinkFile f).Emits (TouchesOnly S) :=
  (emits_unlinkFile f).mono fun _ => FilesOnly.touchesOnly (by simpa using hf)

theorem touches_touchFile (io : Io File) {f : File} {S : List File} (hf : f ∈ S) :
    (touchFile io f).Emits (TouchesOnly S) :=
  (emits_touchFile io f).mono fun _ => FilesOnly.touchesOnly (by simpa using hf)

/-! ## Between two boots -/

/-- The files under /tmp. -/
def File.volatile : File → Bool
  | .pidFile | .sttFlag | .pathFlagInvocation => true
  | _ => false

/-- The device after it has gone down and come up again. -/
def Device.rebooted (d : Device) : Device :=
  { d with files := fun f => if f.volatile then none else d.files f }

theorem Device.rebooted_files {d : Device} {f : File} (h : f.volatile = false) :
    d.rebooted.files f = d.files f := by
  simp [rebooted, h]

end RebootManager
