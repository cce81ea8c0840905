/-
# RebootManager.Helper.Wrapper -- a request while another one is running

The binary and the script guard the same pid file, one behind the other: when the binary's guard
rejects, its exit status 1 sends the script on to its own guard. The two look for different names on the
owner's command line, and by then the script's EXIT trap is set.

What follows from that: a request made while a `rebootnow` runs is final only when the script's argument
check turns it away (`rejection_final_iff`). Every other one takes the running owner's pid file away, and
unless the owner's command line happens to match the script's own name it goes on as if nobody were
there (`rejection_spares_records_iff`).
-/
import RebootManager.Helper.RebootNowScript

namespace RebootManager

open Foundation

/-! ## The situation -/

/-- A live `rebootnow` process holds the pid file. -/
structure HeldByRebootnow (env : ScriptEnv) (d : Device) (owner : Nat) (cmdline : Bytes) : Prop where
  pidFile : d.files .pidFile = some (decimal owner)
  /-- `pid_t` is an `int`. -/
  range : owner < 2 ^ 31
  live : env.binary.procCmdline owner = some cmdline
  /-- The name it was started under. -/
  named : "rebootnow".toList <:+: cstr (cmdline.take 255)

/-- The files a rejected request has to leave alone. -/
def requestStateFiles : List File :=
  [.rebootInfoFile, .parodusRebootInfoFile, .rebootCounterFile, .rebootStopFlag, .pidFile]

/-- An update that is no reboot and writes none of these files. -/
def DeviceOp.Spares (S : List File) : DeviceOp → Prop
  | .file op => ∀ f ∈ op.targets, f ∉ S
  | .reboot => False
  | _ => True

theorem DeviceOp.Spares.mono {S T : List File} (hST : S ⊆ T) {o : DeviceOp} (h : o.Spares T) :
    o.Spares S := by
  cases o with
  | file op => exact fun f hf hS => h f hf (hST hS)
  | reboot => exact h
  | _ => trivial

theorem DeviceOp.Spares.files_eq {S : List File} {o : DeviceOp} (h : o.Spares S) {f : File}
    (hf : f ∈ S) (d : Device) : (Effect.apply o d).files f = d.files f := by
  cases o with
  | file op => exact FileOp.run_of_not_target (fun hmem => h f hmem hf) d.files
  | reboot => exact h.elim
  | _ => rfl

/-- Updates that spare a file leave it as it was. -/
theorem files_execOps_of_spares {S : List File} {ops : List DeviceOp} (h : ∀ o ∈ ops, o.Spares S)
    {f : File} (hf : f ∈ S) (d : Device) : (execOps ops d).files f = d.files f :=
  execOps_frame (fun d => d.files f) (fun o ho d => (h o ho).files_eq hf d) d

/-! ## The binary's part -/

/-- The binary finds the owner, leaves everything alone and returns 1. -/
theorem runBinary_of_owner {env : ScriptEnv} {d : Device} {owner : Nat} {cmdline : Bytes}
    (h : HeldByRebootnow env d owner cmdline) (args : List CString) :
    (runBinary env args).result d = 1 ∧ (runBinary env args).ops d = [] := by
  -- the whole pid file is one line, and that line is the pid
  obtain ⟨hline, hpid⟩ := read_decimal_pid h.range
  have howner : ownerRunning env.binary (decimal owner) = true := by
    rw [ownerRunning, hline]
    simp only [hpid, seenCmdline, h.live, Option.map_some, Option.any_some]
    exact isSome_strstr_iff.mpr h.named
  have hreject := result_pidfileWriteAndGuard_of_owner h.pidFile howner
  have hops := ops_pidfileWriteAndGuard_of_reject hreject
  unfold runBinary
  cases env.binaryExecutable with
  | false => exact ⟨rfl, rfl⟩
  | true => exact ⟨by simp [rebootnowMain, hreject], by simp [rebootnowMain, hreject, hops]⟩

/-- So the script falls back, on the device as its first lines left it. -/
theorem ops_rebootNowScript_of_owner {env : ScriptEnv} {args : List CString} {d : Device}
    {owner : Nat} {cmdline : Bytes} (h : HeldByRebootnow env d owner cmdline)
    (hargs : rejectsArguments args = false) :
    ∃ detection duration : Bytes, (rebootNowScript env args).ops d =
      (touchFile env.io .rebootInfoLog).ops d ++
        (scriptFallback env args detection duration).ops
          ((touchFile env.io .rebootInfoLog).final d) := by
  set d' := (touchFile env.io .rebootInfoLog).final d with hd'
  have hpid : d'.files .pidFile = d.files .pidFile :=
    files_final_of_touchesOnly (touches_touchFile env.io (List.mem_singleton_self _)) (by decide) d
  have hheld : HeldByRebootnow env d' owner cmdline :=
    { h with pidFile := hpid.trans h.pidFile }
  obtain ⟨hresult, hops⟩ := runBinary_of_owner hheld args
  have hfinal : (runBinary env args).final d' = d' := by rw [Prog.final, hops, execOps_nil]
  refine ⟨commandSubst (env.tr181 (d.rfc .rebootStopDetection)),
    commandSubst (env.tr181 (d.rfc .rebootStopDuration)), ?_⟩
  simp only [rebootNowScript, Prog.ops_bind, Prog.ops_get, Prog.result_get, Prog.final_get,
    List.nil_append, hargs, Bool.false_eq_true, if_false, ← hd', hresult, hops, hfinal,
    Nat.one_ne_zero]

/-! ## The script's part -/

section Fallback

variable {env : ScriptEnv} {args : List CString} {detection duration : Bytes} {d : Device}

/-- The fallback never leaves the pid file in peace: whatever the script does before, its EXIT trap
removes a pid file that is still there. -/
theorem fallback_touches_pidFile (hpid : d.exists .pidFile = true) :
    ∃ o ∈ (scriptFallback env args detection duration).ops d, ¬ o.Spares [.pidFile] := by
  by_contra hnone
  have hspares : ∀ o ∈ (scriptFallback env args detection duration).ops d, o.Spares [.pidFile] := by
    intro o ho
    by_contra hbad
    exact hnone ⟨o, ho, hbad⟩
  set guarded := scriptGuarded env args detection duration with hguarded
  have hops : (scriptFallback env args detection duration).ops d
      = guarded.ops d ++ pidCleanup.ops (guarded.final d) := by
    simp only [scriptFallback, Prog.ops_bind, ← hguarded, Prog.ops_pure, List.append_nil]
  rw [hops] at hspares
  -- nothing before the trap has touched the file, so the trap finds it
  have hstill : (guarded.final d).files .pidFile = d.files .pidFile :=
    files_execOps_of_spares (fun o ho => hspares o (List.mem_append_left _ ho))
      (List.mem_singleton_self _) d
  have hthere : (guarded.final d).exists .pidFile = true := by
    rw [Device.exists, hstill]
    exact hpid
  have hunlink : DeviceOp.file (.unlink .pidFile) ∈ pidCleanup.ops (guarded.final d) := by
    simp [pidCleanup, whenever, hthere, unlinkFile, fileOps]
  have hbad := hspares _ (List.mem_append_right _ hunlink)
  exact hbad .pidFile (List.mem_singleton_self _) (List.mem_singleton_self _)

/-- Where the owner's command line matches, the pid file's removal is all that happens. -/
theorem ops_fallback_of_match (hpid : d.exists .pidFile = true)
    (hmatch : instanceRunning env d = true) :
    (scriptFallback env args detection duration).ops d = [.file (.unlink .pidFile)] := by
  simp [scriptFallback, scriptGuarded, hmatch, pidCleanup, whenever, hpid, unlinkFile, fileOps]

/-- Where it does not, the script first makes the pid file its own. -/
theorem fallback_overwrites_of_no_match (hmatch : instanceRunning env d = false)
    (hwrite : env.io.canWrite .pidFile = true) :
    DeviceOp.file (.openTrunc .pidFile) ∈ (scriptFallback env args detection duration).ops d := by
  simp [scriptFallback, scriptGuarded, hmatch, scriptRequest, ScriptEnv.echoTo, writeFile, fileOps,
    Io.writeOps, hwrite]

end Fallback

/-! ## The composition -/

/-- The script's first lines touch a log only. -/
theorem touch_log_spares (io : Io File) (d : Device) :
    ∀ o ∈ (touchFile io .rebootInfoLog).ops d, o.Spares requestStateFiles := by
  intro o ho
  have htouch := emits_touchFile io .rebootInfoLog d o ho
  cases o with
  | file op =>
    intro f hf
    rw [List.mem_singleton.mp (htouch f hf)]
    decide
  | reboot => simp [touchFile, fileOps] at ho
  | _ => trivial

/-- **A rejection is final only at the argument check.** While a `rebootnow` holds the pid file, a
request through the script ends without writing a state file and without a reboot if and only if the
script's own argument check rejects it. -/
theorem rejection_final_iff {env : ScriptEnv} {args : List CString} {d : Device} {owner : Nat}
    {cmdline : Bytes} (h : HeldByRebootnow env d owner cmdline) :
    (∀ o ∈ (rebootNowScript env args).ops d, o.Spares requestStateFiles) ↔
      rejectsArguments args = true := by
  constructor
  · intro hspares
    by_contra hargs
    have hargs' : rejectsArguments args = false := Bool.not_eq_true _ ▸ hargs
    obtain ⟨detection, duration, hops⟩ := ops_rebootNowScript_of_owner h hargs'
    have hpid : ((touchFile env.io .rebootInfoLog).final d).exists .pidFile = true := by
      rw [Device.exists, files_final_of_touchesOnly
        (touches_touchFile env.io (List.mem_singleton_self _)) (by decide) d, h.pidFile]
      rfl
    obtain ⟨o, ho, hbad⟩ := @fallback_touches_pidFile env args detection duration _ hpid
    have hgood := hspares o (by rw [hops]; exact List.mem_append_right _ ho)
    exact hbad (hgood.mono (by simp [requestStateFiles]))
  · intro hargs o ho
    simp [rebootNowScript, hargs] at ho

/-- The same with the removal of the pid file left out of account, where the script can write there:
the other files are spared exactly when the owner's command line matches the script's name as well. -/
theorem rejection_spares_records_iff {env : ScriptEnv} {args : List CString} {d : Device}
    {owner : Nat} {cmdline : Bytes} (h : HeldByRebootnow env d owner cmdline)
    (hwrite : env.io.canWrite .pidFile = true) :
    (∀ o ∈ (rebootNowScript env args).ops d,
        o.Spares requestStateFiles ∨ o = .file (.unlink .pidFile)) ↔
      rejectsArguments args = true ∨ instanceRunning env d = true := by
  by_cases hargs : rejectsArguments args = true
  · have hnone : (rebootNowScript env args).ops d = [] := by simp [rebootNowScript, hargs]
    simp [hargs, hnone]
  have hargs' : rejectsArguments args = false := Bool.not_eq_true _ ▸ hargs
  obtain ⟨detection, duration, hops⟩ := ops_rebootNowScript_of_owner h hargs'
  set d' := (touchFile env.io .rebootInfoLog).final d with hd'
  have hsame : d'.files .pidFile = d.files .pidFile :=
    files_final_of_touchesOnly (touches_touchFile env.io (List.mem_singleton_self _)) (by decide) d
  have hpid : d'.exists .pidFile = true := by
    rw [Device.exists, hsame, h.pidFile]
    rfl
  have hguard : instanceRunning env d' = instanceRunning env d := by
    simp only [instanceRunning, Device.exists, ScriptEnv.cat, hsame]
  rw [hops]
  constructor
  · intro hspares
    by_contra hno
    have hmatch : instanceRunning env d' = false := by
      rw [hguard]
      simpa using fun hyes => hno (Or.inr hyes)
    have hmem := @fallback_overwrites_of_no_match env args detection duration d' hmatch hwrite
    rcases hspares _ (List.mem_append_right _ hmem) with hbad | hbad
    · exact hbad .pidFile (List.mem_singleton_self _) (by decide)
    · cases hbad
  · rintro (hyes | hmatch) o ho
    · exact absurd hyes hargs
    · rw [ops_fallback_of_match hpid (hguard.trans hmatch)] at ho
      rcases List.mem_append.mp ho with ho | ho
      · exact Or.inl (touch_log_spares env.io d o ho)
      · exact Or.inr (List.mem_singleton.mp ho)

/-! ## A second request -/

/-- `/usr/bin/rebootnow -s Servicemanager`, as /proc shows it. -/
def runningCmdline : Bytes := "/usr/bin/rebootnow\x00-s\x00Servicemanager\x00".toList

/-- Five minutes after boot, that process runs as 1234. -/
def secondRequestEnv : ScriptEnv :=
  ScriptEnv.plain { HelperEnv.plain Tm.epoch 300 with
    procCmdline := fun pid => if pid = 1234 then some runningCmdline else none }

/-- Its pid file is in place. -/
def heldDevice : Device := Device.blank.setFile .pidFile (some (decimal 1234))

theorem held_heldDevice : HeldByRebootnow secondRequestEnv heldDevice 1234 runningCmdline where
  pidFile := rfl
  range := by decide
  live := rfl
  named := isSome_strstr_iff.mp (by decide)

/-- One argument: the script does not even start the binary. -/
theorem rejection_final_one_argument :
    rejectsArguments [⟨"-s".toList, by decide⟩] = true ∧
      ∀ o ∈ (rebootNowScript secondRequestEnv [⟨"-s".toList, by decide⟩]).ops heldDevice,
        o.Spares requestStateFiles :=
  ⟨by decide, (rejection_final_iff held_heldDevice).mpr (by decide)⟩

/-- `rebootNow.sh -s Servicemanager` while the other request is running: the binary returns 1, and the
script writes a second record over the first and reboots. -/
theorem second_request_reboots :
    HeldByRebootnow secondRequestEnv heldDevice 1234 runningCmdline ∧
      ¬ ∀ o ∈ (rebootNowScript secondRequestEnv
          [⟨"-s".toList, by decide⟩, ⟨"Servicemanager".toList, by decide⟩]).ops heldDevice,
        o.Spares requestStateFiles := by
  refine ⟨held_heldDevice, fun hspares => ?_⟩
  have hreboot : DeviceOp.reboot ∈ (rebootNowScript secondRequestEnv
      [⟨"-s".toList, by decide⟩, ⟨"Servicemanager".toList, by decide⟩]).ops heldDevice := by
    decide +kernel
  exact hspares _ hreboot

end RebootManager
