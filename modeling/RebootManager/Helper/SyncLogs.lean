/-
# RebootManager.Helper.SyncLogs -- `sync_logs_from_temp` (system_cleanup.c)

Before the reboot, the .txt and .log files of the temporary directory are appended to the files of the
same name in the log directory and then truncated. What stands between a file and the loss of its content
is the flag of the copy loop, which knows about short `fwrite`s only, and a comparison of the two path
strings, which does not see that two paths lead to one directory.

Which file a path and a name lead to is for the device to say: two paths can lead to one directory, and
a file of one directory can be a link to the file of that name in the other.
-/
import RebootManager.Foundation.CopyStream

namespace RebootManager

open Foundation

/-- How the calls for one file go. -/
structure EntryCalls where
  /-- `fopen(src, "r")`, where there is a file -/
  openSrc : Bool
  /-- `fopen(dst, "a")`, where there is a directory -/
  openDst : Bool
  copy : CopyCalls
  /-- `fopen(src, "w")` -/
  openTrunc : Bool

/-- The device as one sync finds it, but for the content of the files. -/
structure SyncEnv (F : Type) where
  /-- `opendir` and `readdir` of a path; `none` where it cannot be opened. -/
  readdir : Bytes → Option (List Bytes)
  /-- A directory has a name once. -/
  nodup : ∀ path names, readdir path = some names → names.Nodup
  /-- The file a path and a name lead to, there or not; `none` where there is no such directory. -/
  file : Bytes → Bytes → Option F
  /-- Files of different names are different files. -/
  name_unique : ∀ {path path' name name' : Bytes} {f : F},
    file path name = some f → file path' name' = some f → name = name'
  /-- The calls made for each name. -/
  calls : Bytes → EntryCalls

section Program

variable {F : Type} [DecidableEq F]

end Program

/-! ## What must not be lost -/

section Survives

variable {F : Type}

end Survives

section Lossless

variable {F : Type} [DecidableEq F]

section Move

variable {src dst : F} {calls : EntryCalls} {content base : Bytes} {fs : Files F}

end Move

/-! ## One entry of the directory -/

section Entry

variable {calls : EntryCalls} {content : Bytes} {fs : Files F}

/-- The files of a name. -/
def SyncEnv.Named (env : SyncEnv F) (name : Bytes) (f : F) : Prop :=
  ∃ path, env.file path name = some f

omit [DecidableEq F] in
theorem SyncEnv.Named.unique {env : SyncEnv F} {name name' : Bytes} {f : F}
    (h : env.Named name f) (h' : env.Named name' f) : name = name' := by
  obtain ⟨path, hfile⟩ := h
  obtain ⟨path', hfile'⟩ := h'
  exact env.name_unique hfile hfile'

end Entry

/-! ## The whole sync -/

end Lossless

/-! ## One file of five bytes -/

section Messages

variable {resolve : Bytes → LogDir} {copy : CopyCalls} {tempPath logPath : Bytes}

end Messages

end RebootManager
