/-
# RebootManager.Helper.ScriptCall -- what one call of rebootNow.sh does

The services call the script, and which program decides about the reboot depends on whether
/usr/bin/rebootnow can be run, lets the call through its guard and understands its options. `callCase` says
what a call can come to: it is turned away, the binary handles it, or the script does; around that there
are only the pid file and the opening of rebootInfo.log.

The rest of the module is the script's own way from its decision to the record and the reboot.
-/
import RebootManager.Helper.RebootInfoLog
import RebootManager.Helper.ScriptLoop

namespace RebootManager

open Foundation

/-! ## Around the decision -/

/-- An update of the pid file, or the opening of rebootInfo.log. -/
def DeviceOp.Quiet : DeviceOp → Prop
  | .file op => op = .openAppend .rebootInfoLog ∨ ∀ f ∈ op.targets, f = .pidFile
  | _ => False

theorem quiet_of_pidFile {ops : List (FileOp File)} (h : ∀ op ∈ ops, ∀ f ∈ op.targets, f = .pidFile) :
    (fileOps ops).Emits DeviceOp.Quiet := by
  intro d o ho
  obtain ⟨op, hop, rfl⟩ := List.mem_map.mp ho
  exact Or.inr (h op hop)

theorem quiet_writePidFile (io : Io File) (text : Bytes) :
    (writeFile io .pidFile text).Emits DeviceOp.Quiet :=
  quiet_of_pidFile fun _ hop _ hf => List.mem_singleton.mp (Io.targets_writeOps hop ▸ hf)

theorem quiet_unlinkPidFile : (unlinkFile .pidFile).Emits DeviceOp.Quiet := by
  apply quiet_of_pidFile
  intro op hop f hf
  rw [List.mem_singleton] at hop
  subst hop
  exact List.mem_singleton.mp hf

theorem quiet_pidfileWriteAndGuard (env : HelperEnv) :
    (pidfileWriteAndGuard env).Emits DeviceOp.Quiet := by
  refine Prog.emits_get.bind fun d => ?_
  split
  · exact (quiet_writePidFile _ _).bind fun _ => Prog.emits_pure _
  · split
    · split
      · exact Prog.emits_pure _
      · exact (quiet_writePidFile _ _).bind fun _ => Prog.emits_pure _
    · exact Prog.emits_pure _

section QuietOps

variable {ops : List DeviceOp} (h : ∀ o ∈ ops, o.Quiet) (d : Device)

theorem DeviceOp.Quiet.filesOnly {o : DeviceOp} (h : o.Quiet) :
    FilesOnly [.rebootInfoLog, .pidFile] o := by
  cases o with
  | file op =>
    rcases h with rfl | hpid
    · intro f hf
      rw [List.mem_singleton.mp hf]
      decide
    · intro f hf
      rw [hpid f hf]
      decide
  | _ => exact h.elim

include h

theorem files_execOps_of_quiet {f : File} (hf : f ∉ [File.rebootInfoLog, .pidFile]) :
    (execOps ops d).files f = d.files f :=
  execOps_frame (fun d => d.files f) (fun o ho d => (h o ho).filesOnly.files_eq hf d) d

theorem rfc_execOps_of_quiet : (execOps ops d).rfc = d.rfc :=
  execOps_frame Device.rfc (fun o ho d => (h o ho).filesOnly.rfc_eq d) d

theorem loopState_execOps_of_quiet : loopState (execOps ops d) = loopState d :=
  execOps_frame loopState (fun o ho d =>
    loopState_filesOnly (by decide) (by decide) (by decide) (h o ho).filesOnly d) d

/-- An opened log says what it said before. -/
theorem log_execOps_of_quiet :
    ((execOps ops d).files .rebootInfoLog).getD [] = (d.files .rebootInfoLog).getD [] := by
  refine execOps_frame (fun d : Device => (d.files .rebootInfoLog).getD []) (fun o ho d => ?_) d
  cases o with
  | file op =>
    rcases h _ ho with rfl | hpid
    · show ((FileOp.run (.openAppend .rebootInfoLog) d.files) .rebootInfoLog).getD [] = _
      simp [FileOp.run]
    · show ((FileOp.run op d.files) .rebootInfoLog).getD [] = _
      rw [FileOp.run_of_not_target fun hmem => by cases hpid _ hmem]
  | _ => exact (h _ ho).elim

end QuietOps

/-! ## The ways a call can go -/

/-- These are the updates of `core`, with quiet ones before and after them. -/
def Around {α : Type} (core : DeviceProg α) (d : Device) (ops : List DeviceOp) : Prop :=
  ∃ before after, (∀ o ∈ before, o.Quiet) ∧ (∀ o ∈ after, o.Quiet) ∧
    ops = before ++ core.ops (execOps before d) ++ after

section AroundRules

variable {α : Type} {core : DeviceProg α} {d : Device} {ops quiet : List DeviceOp}

theorem Around.behind (hquiet : ∀ o ∈ quiet, o.Quiet) (h : Around core (execOps quiet d) ops) :
    Around core d (quiet ++ ops) := by
  obtain ⟨before, after, hbefore, hafter, rfl⟩ := h
  refine ⟨quiet ++ before, after, ?_, hafter, by simp⟩
  intro o ho
  rcases List.mem_append.mp ho with ho | ho
  · exact hquiet o ho
  · exact hbefore o ho

theorem Around.before (hquiet : ∀ o ∈ quiet, o.Quiet) (h : Around core d ops) :
    Around core d (ops ++ quiet) := by
  obtain ⟨before, after, hbefore, hafter, rfl⟩ := h
  refine ⟨before, after ++ quiet, hbefore, ?_, by simp⟩
  intro o ho
  rcases List.mem_append.mp ho with ho | ho
  · exact hafter o ho
  · exact hquiet o ho

end AroundRules

section Kinds

variable {P : DeviceOp → Prop} (hfile : ∀ op, P (.file op))

include hfile

theorem emits_fileOps_of_all (ops : List (FileOp File)) : (fileOps ops).Emits P := by
  intro d o ho
  obtain ⟨op, -, rfl⟩ := List.mem_map.mp ho
  exact hfile op

/-- A branch updates files, sets parameters, and removes and adds the entry of its job. -/
theorem emits_act_of_kinds {env : HelperEnv} {duration : Int}
    (hrfc : ∀ param value, P (.setRfc param value)) (hremove : P (.cronRemove cronJob))
    (hadd : P (.cronAdd (cronEntry env duration))) (b : CyclicBranch) : (b.act env duration).Emits P := by
  have hfiles := emits_fileOps_of_all hfile
  have hset : ∀ param value, (setRfcParameter env param value).Emits P := fun param value =>
    Prog.emits_emitAll_ite (hrfc param value)
  have hreset : (rebootCounterReset env).Emits P := by
    refine (hset _ _).bind fun _ => (hfiles _).bind fun _ => (hfiles _).bind fun _ => ?_
    exact Prog.emits_emitAll_ite hremove
  have harm : (armStopMode env duration).Emits P := by
    refine (hfiles _).bind fun _ => (hset _ _).bind fun _ => ?_
    refine (Prog.emits_emitAll_ite hremove).bind fun _ => ?_
    exact (Prog.emits_emitAll_ite hadd).bind fun _ => hfiles _
  cases b with
  | notRebootnow => exact Prog.emits_pure ()
  | detectionDisabled => exact Prog.emits_pure ()
  | halted => exact (hfiles _).bind fun _ => hfiles _
  | counted count => exact (hfiles _).bind fun _ => hfiles _
  | loopDetected => exact (hfiles _).bind fun _ => harm
  | _ => exact (hfiles _).bind fun _ => hreset

end Kinds

/-! ## Only the end reboots -/

/-- Any update but the reboot. -/
def DeviceOp.Stays (o : DeviceOp) : Prop := o ≠ .reboot

theorem stays_fileOps (ops : List (FileOp File)) : (fileOps ops).Emits DeviceOp.Stays :=
  emits_fileOps_of_all (fun _ => DeviceOp.noConfusion) ops

theorem stays_act (env : HelperEnv) (duration : Int) (b : CyclicBranch) :
    (b.act env duration).Emits DeviceOp.Stays :=
  emits_act_of_kinds (fun _ => DeviceOp.noConfusion) (fun _ _ => DeviceOp.noConfusion)
    DeviceOp.noConfusion DeviceOp.noConfusion b

theorem stays_saveRebootInfo (env : HelperEnv) (req : Request) :
    (saveRebootInfo env req).Emits DeviceOp.Stays := by
  have hlines : ∀ lines, (writeRebootinfoLog env.io lines).Emits DeviceOp.Stays := by
    intro lines
    induction lines with
    | nil => exact Prog.emits_pure ()
    | cons line lines ih => exact (stays_fileOps _).bind fun _ => ih
  exact (stays_fileOps _).bind fun _ => (hlines _).bind fun _ => (stays_fileOps _).bind fun _ =>
    stays_fileOps _

/-- The binary reboots exactly when its decision says so. -/
theorem reboot_mem_requestReboot (env : HelperEnv) (req : Request) (d : Device) :
    .reboot ∈ (requestReboot env req).ops d ↔ (requestReboot env req).result d = true := by
  have hdecide : .reboot ∉ (decideReboot env req).ops d := by
    intro hmem
    refine Prog.Emits.bind (stays_saveRebootInfo env req) (f := fun _ => handleCyclicReboot env req.cause)
      (fun _ => ?_) d _ hmem rfl
    intro d o ho
    rw [(handleCyclicReboot_eq env req.cause d).1] at ho
    exact stays_act env _ _ d o ho
  simp only [requestReboot, Prog.ops_bind, Prog.result_bind, Prog.ops_pure, Prog.result_pure,
    List.append_nil, List.mem_append, hdecide, false_or]
  cases (decideReboot env req).result d with
  | true => simp [finishRequest]
  | false =>
    simp only [finishRequest, Bool.false_eq_true, if_false, Prog.ops_bind, Prog.ops_pure,
      List.append_nil, iff_false]
    exact fun hmem => stays_fileOps _ _ _ hmem rfl

/-- A text without the name. -/
def HalFree (text : Bytes) : Prop := ¬ "HAL_SYS_Reboot".toList <:+: text

/-- The log is made of whole lines without the name. -/
def HalFreeLog (d : Device) : Prop :=
  ∃ lines : List Bytes, (d.files .rebootInfoLog).getD [] = unlines lines ∧
    ∀ line ∈ lines, '\n' ∉ line ∧ HalFree line

theorem HalFree.blank {a b : Bytes} (ha : HalFree a) (hb : HalFree b) : HalFree (a ++ ' ' :: b) := by
  have hword : ' ' ∉ "HAL_SYS_Reboot".toList := by decide
  unfold HalFree
  rw [infix_append_cons_iff hword]
  rintro (h | h)
  · exact ha h
  · exact hb h

theorem halFree_of_underscore {text : Bytes} (h : '_' ∉ text) : HalFree text := fun hwithin =>
  h (hwithin.subset (show '_' ∈ "HAL_SYS_Reboot".toList by decide))

/-- One line more. -/
theorem HalFreeLog.append {d d' : Device} (h : HalFreeLog d) {line : Bytes} (hnewline : '\n' ∉ line)
    (hfree : HalFree line)
    (hlog : (d'.files .rebootInfoLog).getD [] = (d.files .rebootInfoLog).getD [] ++ (line ++ ['\n'])) :
    HalFreeLog d' := by
  obtain ⟨lines, htext, hlines⟩ := h
  refine ⟨lines ++ [line], by rw [hlog, htext]; simp [unlines], fun l hl => ?_⟩
  rcases List.mem_append.mp hl with hl | hl
  · exact hlines l hl
  · rw [List.mem_singleton] at hl
    subst hl
    exact ⟨hnewline, hfree⟩

theorem HalFreeLog.of_log_eq {d d' : Device} (h : HalFreeLog d)
    (hlog : (d'.files .rebootInfoLog).getD [] = (d.files .rebootInfoLog).getD []) : HalFreeLog d' := by
  obtain ⟨lines, htext, hlines⟩ := h
  exact ⟨lines, hlog.trans htext, hlines⟩

/-- The logged reason follows the source. -/
structure ReasonFromSource (vars : ScriptVars) : Prop where
  newline : '\n' ∉ vars.source → '\n' ∉ vars.rebootLogReason
  halFree : HalFree vars.source → HalFree vars.rebootLogReason

/-- A source between blanks. -/
theorem halFree_between {opening source closing : Bytes} (hopening : '_' ∉ opening) (hclosing : '_' ∉ closing)
    (h : HalFree source) : HalFree (opening ++ [' '] ++ source ++ ([' '] ++ closing)) := by
  have hfront : HalFree (opening ++ [' '] ++ source) := by
    rw [List.append_assoc]
    exact (halFree_of_underscore hopening).blank h
  exact hfront.blank (halFree_of_underscore hclosing)

theorem ReasonFromSource.take {vars : ScriptVars} (h : ReasonFromSource vars) (found : FoundOpt) :
    ReasonFromSource (vars.take found) := by
  have hsplit : "Triggered from ".toList = "Triggered from".toList ++ [' '] ∧
      " process".toList = [' '] ++ "process".toList ∧
      " process failure or crash..!".toList = [' '] ++ "process failure or crash..!".toList := by decide
  obtain ⟨hopening, hprocess, hcrash⟩ := hsplit
  unfold ScriptVars.take
  split
  · refine ⟨fun hsource => by simp [hsource], fun hsource => ?_⟩
    show HalFree ("Triggered from ".toList ++ _ ++ " process".toList)
    rw [hopening, hprocess]
    exact halFree_between (by decide) (by decide) hsource
  · refine ⟨fun hsource => by simp [hsource], fun hsource => ?_⟩
    show HalFree ("Triggered from ".toList ++ _ ++ " process failure or crash..!".toList)
    rw [hopening, hcrash]
    exact halFree_between (by decide) (by decide) hsource
  · exact ⟨h.newline, h.halFree⟩
  · exact ⟨h.newline, h.halFree⟩
  · exact h

section ScriptRecord

variable {env : ScriptEnv} {vars : ScriptVars} {rebootReason : Bytes} {d : Device}

end ScriptRecord

end RebootManager
