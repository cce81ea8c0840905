/-
# RebootManager.Helper.Rfc -- the rfc helpers of utils.c

`getRFCParameter` is the rfc library's: what it returns for a parameter is part of the `Device`. What
`rebootnow` makes of the returned text is here: the unquoting, the 64-byte buffer, the two spellings of
true, the integer that must end where the text ends.
-/
import RebootManager.Platform.Clock
import RebootManager.Platform.Device

namespace RebootManager

open Foundation

/-! ## The surroundings of one run -/

/-- What one run of `rebootnow` depends on besides the device: clocks, the file system's behaviour and
the outcomes of the commands it starts. -/
structure HelperEnv where
  io : Io File
  /-- `gmtime` of `time(NULL)`. -/
  now : Tm
  /-- The hour and the minute of `localtime_r`. -/
  localHour : Fin 24
  localMin : Fin 60
  /-- `read_proc_uptime_secs`, `none` where /proc/uptime cannot be read. -/
  uptime : Option Nat
  /-- Whether `setRFCParameter` succeeds. -/
  setRfcOk : RfcParam → Bool
  /-- Whether cronjobs_update.sh does what it is told. -/
  cronOk : Bool
  /-- `getpid()`. -/
  pid : Nat
  /-- The content of /proc/<pid>/cmdline, `none` where it cannot be opened. -/
  procCmdline : Int → Option Bytes
  /-- Whether `F_SETLK` on the pid file succeeds. -/
  lockFree : Bool

/-- Every file, rfc and cron command succeeds. -/
structure HelperEnv.Ok (env : HelperEnv) : Prop where
  io : env.io.Ok
  setRfc : ∀ p, env.setRfcOk p = true
  cron : env.cronOk = true

/-- A run in which nothing fails, `secs` after boot. -/
def HelperEnv.plain (now : Tm) (secs : Nat) : HelperEnv where
  io := Io.plain
  now := now
  localHour := now.hour
  localMin := now.min
  uptime := some secs
  setRfcOk _ := true
  cronOk := true
  pid := 1000
  procCmdline _ := none
  lockFree := true

theorem HelperEnv.plain_ok (now : Tm) (secs : Nat) : (HelperEnv.plain now secs).Ok :=
  ⟨Io.plain_ok, fun _ => rfl, rfl⟩

/-! ## Reading -/

/-- `rfc_read_param_value`: the value without one pair of surrounding quotes, cut to the buffer. -/
def rfcReadParamValue (value : Option Bytes) (bufSize : Nat) : Option Bytes :=
  match value.map cstr with
  | none => none
  | some [] => none
  | some v =>
    if 2 ≤ v.length ∧ v.head? = some '"' ∧ v.getLast? = some '"' then
      some ((v.drop 1).take (min (v.length - 2) (bufSize - 1)))
    else some (v.take (bufSize - 1))

/-- `rfc_get_bool_param`; `none` where the C function returns false. -/
def rfcGetBoolParam (value : Option Bytes) : Option Bool :=
  (rfcReadParamValue value 64).map fun raw =>
    raw.map Char.toLower = "true".toList ∨ raw = "1".toList

/-- `rfc_get_int_param`; `none` where the C function returns false. -/
def rfcGetIntParam (value : Option Bytes) : Option Int :=
  match (rfcReadParamValue value 64).bind strtol with
  | some (v, rest) => if rest = [] ∨ rest.head? = some '\n' then some (toInt v) else none
  | none => none

/-! ## Writing -/

/-- `setRFCParameter(param, value)`. -/
def setRfcParameter (env : HelperEnv) (param : RfcParam) (value : Bytes) : DeviceProg Unit :=
  Prog.emitAll (if env.setRfcOk param then [.setRfc param value] else [])

/-- `rfc_set_bool_param`. -/
def rfcSetBoolParam (env : HelperEnv) (param : RfcParam) (value : Bool) : DeviceProg Unit :=
  setRfcParameter env param (if value then "true".toList else "false".toList)

/-- `rfc_set_int_param`. -/
def rfcSetIntParam (env : HelperEnv) (param : RfcParam) (value : Int) : DeviceProg Unit :=
  setRfcParameter env param (decimalInt value)

/-- What a boolean set leaves is read back. -/
theorem rfcGetBoolParam_set (b : Bool) :
    rfcGetBoolParam (some (if b then "true".toList else "false".toList)) = some b := by
  cases b <;> decide

theorem final_setRfcParameter {env : HelperEnv} (h : env.Ok) (p : RfcParam) (v : Bytes)
    (d : Device) : (setRfcParameter env p v).final d = d.setRfc p v := by
  rw [setRfcParameter, if_pos (h.setRfc p)]
  rfl

theorem final_rfcSetBoolParam {env : HelperEnv} (h : env.Ok) (p : RfcParam) (b : Bool) (d : Device) :
    (rfcSetBoolParam env p b).final d
      = d.setRfc p (if b then "true".toList else "false".toList) :=
  final_setRfcParameter h _ _ _

end RebootManager
