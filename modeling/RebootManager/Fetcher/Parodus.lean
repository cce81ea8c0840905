/-
# RebootManager.Fetcher.Parodus -- the files handed on after a boot (parodus_log_update.c, json.c)

The record goes to previousreboot.info, the parodus line to previousparodusreboot.info. The line is
copied from what `rebootnow` left and that file removed; where `rebootnow` left none, the line is made
from the record in memory, and from an empty record nothing is made.
-/
import RebootManager.Fetcher.RebootLog

namespace RebootManager

open Foundation

/-- `"<stamp> update_previous_reboot_info: <text>\n"` -/
def parodusLogLine (stamp text : Bytes) : Bytes :=
  stamp ++ " update_previous_reboot_info: ".toList ++ text ++ ['\n']

/-- The line that announces an update in parodus.log. -/
def parodusLogNotice (stamp : Bytes) : Bytes :=
  parodusLogLine stamp "Updating previous reboot info to Parodus".toList

/-- `update_parodus_log` -/
def updateParodusLog (env : FetcherEnv) (info : RebootInfo) : DeviceProg Unit :=
  let stamp := timestampString (env.logTime 5)
  appendFile env.io .parodusLog (parodusLogNotice stamp ++
    stamp ++ " update_previous_reboot_info: ".toList ++ parodusLine info)

/-- What `handle_parodus_reboot_file` reads of the file `rebootnow` left. -/
def parodusBuffer (content : Bytes) : Bytes := cstr (content.take (maxBufferSize - 1))

/-- What it writes of that: the buffer, ended by a newline unless it is empty. -/
def endedLine (buf : Bytes) : Bytes :=
  if buf ≠ [] ∧ buf.getLast? ≠ some '\n' then buf ++ ['\n'] else buf

/-- `handle_parodus_reboot_file(info, PREVIOUS_PARODUSREBOOT_INFO_FILE)`; true for `SUCCESS`. -/
def handleParodusRebootFile (env : FetcherEnv) (info : RebootInfo) : DeviceProg Bool := do
  let d ← Prog.get
  match d.files .parodusRebootInfoFile with
  | some content =>
    if env.io.canRead .parodusRebootInfoFile && env.io.canWrite .previousParodusRebootInfoFile then
      let buf := parodusBuffer content
      let stamp := timestampString (env.logTime 6)
      writeFile env.io .previousParodusRebootInfoFile (endedLine buf)
      appendFile env.io .parodusLog (parodusLogNotice stamp ++ parodusLogLine stamp buf)
      unlinkFile .parodusRebootInfoFile
      return true
    else return false
  | none =>
    if info.reason = [] ∧ info.customReason = [] ∧ info.source = [] then return true
    else
      writeFile env.io .previousParodusRebootInfoFile (parodusLine info)
      return env.io.canWrite .previousParodusRebootInfoFile

/-- The text of `write_hardpower`. -/
def hardpowerText (timestamp : Bytes) : Bytes :=
  "\x7b\n\"lastHardPowerReset\":\"".toList ++ timestamp ++ "\"\n\x7d\n".toList

/-- `write_hardpower(PREVIOUS_HARD_REBOOT_INFO_FILE, timestamp)` -/
def writeHardpower (env : FetcherEnv) (timestamp : Bytes) : DeviceProg Unit :=
  writeFile env.io .previousHardRebootInfoFile (hardpowerText timestamp)

/-- `copy_keypress_info` -/
def copyKeypressInfo (env : FetcherEnv) : DeviceProg Unit := do
  let d ← Prog.get
  match env.open .keypressInfoFile d with
  | some content => writeFile env.io .previousKeypressInfoFile content
  | none => pure ()

/-- `write_reboot_info(PREVIOUS_REBOOT_INFO_FILE, info)`; true for `SUCCESS`. -/
def writeRebootInfo (env : FetcherEnv) (info : RebootInfo) : DeviceProg Bool := do
  writeFile env.io .previousRebootInfoFile (rebootInfoText info)
  return env.io.canWrite .previousRebootInfoFile

end RebootManager
