/-
# RebootManager.Helper.PidFile -- the single-instance guard of one process

`pidfile_write_and_guard` and `cleanup_pidfile` of system_cleanup.c, run by one process with nobody
else at the pid file. What several processes do to it together is the subject of another module.
-/
import RebootManager.Helper.Rfc

namespace RebootManager

open Foundation

/-- `fgets(buf, size, f)` at the start of a file: one line, cut to the buffer; `none` at end of file. -/
def fgetsFirst (size : Nat) (content : Bytes) : Option Bytes :=
  if content = [] then none
  else some ((content.takeWhile (· ≠ '\n') ++ (content.dropWhile (· ≠ '\n')).take 1).take (size - 1))

/-- A pid written to a file is the one line that is read from it, and the pid. -/
theorem read_decimal_pid {pid : Nat} (h : pid < 2 ^ 31) :
    fgetsFirst 32 (decimal pid) = some (decimal pid) ∧ atoi (cstr (decimal pid)) = pid := by
  have hlength : (decimal pid).length ≤ 10 :=
    length_decimal_le (by decide) (Nat.lt_of_lt_of_le h (by decide))
  have hnewline : '\n' ∉ decimal pid := not_mem_decimal (by decide) pid
  have hnul : '\x00' ∉ decimal pid := not_mem_decimal (by decide) pid
  constructor
  · rw [fgetsFirst, if_neg (decimal_ne_nil pid), takeWhile_of_not_mem hnewline,
      List.dropWhile_eq_nil_iff.mpr (ne_of_not_mem hnewline), List.take_nil, List.append_nil,
      List.take_of_length_le (by omega)]
  · rw [cstr_eq_self hnul]
    exact atoi_decimal h

/-- The command line `rebootnow` sees of a process: what `strstr` reaches of the 255 bytes read. -/
def seenCmdline (env : HelperEnv) (pid : Int) : Option Bytes :=
  (env.procCmdline pid).map fun cmdline => cstr (cmdline.take 255)

/-- The process named in the pid file is alive and is a `rebootnow`. -/
def ownerRunning (env : HelperEnv) (content : Bytes) : Bool :=
  match fgetsFirst 32 content with
  | none => false
  | some line =>
    (seenCmdline env (atoi (cstr line))).any fun cmdline =>
      (strstr cmdline "rebootnow".toList).isSome

/-- `pidfile_write_and_guard`: true for 0 (run), false for -1 (reject). -/
def pidfileWriteAndGuard (env : HelperEnv) : DeviceProg Bool := do
  let d ← Prog.get
  match d.files .pidFile with
  | none =>
    -- open(O_CREAT | O_EXCL)
    writeFile env.io .pidFile (decimal env.pid)
    return env.io.canWrite .pidFile
  | some content =>
    if env.io.canWrite .pidFile && env.lockFree then
      if ownerRunning env content then return false
      else
        -- take over: ftruncate, rewind, fprintf
        writeFile env.io .pidFile (decimal env.pid)
        return true
    else
      return false

/-- `cleanup_pidfile`. -/
def cleanupPidfile : DeviceProg Unit := unlinkFile .pidFile

/-- The guard touches the pid file only. -/
theorem emits_pidfileWriteAndGuard (env : HelperEnv) :
    (pidfileWriteAndGuard env).Emits (FilesOnly [.pidFile]) := by
  refine Prog.emits_get.bind fun d => ?_
  split
  · exact (emits_writeFile _ _ _).bind fun _ => Prog.emits_pure _
  · split
    · split
      · exact Prog.emits_pure _
      · exact (emits_writeFile _ _ _).bind fun _ => Prog.emits_pure _
    · exact Prog.emits_pure _

/-- A rejected process leaves everything as it found it. -/
theorem ops_pidfileWriteAndGuard_of_reject {env : HelperEnv} {d : Device}
    (h : (pidfileWriteAndGuard env).result d = false) : (pidfileWriteAndGuard env).ops d = [] := by
  unfold pidfileWriteAndGuard at h ⊢
  simp only [Prog.ops_bind, Prog.result_bind, Prog.result_get, Prog.ops_get, Prog.final_get,
    List.nil_append] at h ⊢
  cases hpid : d.files .pidFile with
  | none =>
    simp only [hpid, Prog.result_bind, Prog.result_pure] at h
    simp [writeFile, fileOps, Io.writeOps, h]
  | some content =>
    simp only [hpid] at h
    by_cases hopen : env.io.canWrite .pidFile && env.lockFree
    case neg => simp [hopen]
    by_cases howner : ownerRunning env content
    · simp [hopen, howner]
    · simp [hopen, howner] at h

/-- A live `rebootnow` named in the pid file makes the guard reject. -/
theorem result_pidfileWriteAndGuard_of_owner {env : HelperEnv} {d : Device} {content : Bytes}
    (hpid : d.files .pidFile = some content) (howner : ownerRunning env content = true) :
    (pidfileWriteAndGuard env).result d = false := by
  simp only [pidfileWriteAndGuard, Prog.result_bind, Prog.result_get, Prog.final_get, hpid, howner,
    if_true]
  split <;> rfl

end RebootManager
