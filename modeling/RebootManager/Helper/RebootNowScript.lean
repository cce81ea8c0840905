/-
# RebootManager.Helper.RebootNowScript -- rebootNow.sh

The script the services call. It checks its arguments, runs /usr/bin/rebootnow with them, and ends
there when the binary returns 0. For every other exit status it goes on and does the whole job itself:
its own single-instance guard, its own option loop, categories, reboot-loop check, record and reboot.

The text tools the script is made of (`$(...)`, `grep`, `sed`, `awk`) are given for the patterns it uses
them with. What it does for telemetry, log rotation and third-party services is left out.
-/
import RebootManager.Helper.RebootMain

namespace RebootManager

open Foundation

/-! ## Options in the argument words -/

/-- A byte string as a C string: up to its first terminator. -/
def CStringOf (b : Bytes) : CString where
  bytes := cstr b
  noNul := by
    intro hmem
    have hne := List.mem_takeWhile_imp hmem
    simp at hne

/-- An option found in the argument words, by `getopt` or by the shell's `getopts`. -/
inductive FoundOpt where
  | withArg (letter : Char) (optarg : CString)
  /-- A letter that takes no argument, known or not. -/
  | bare (letter : Char)
  /-- The last word ends in a letter that takes an argument. -/
  | missingArg (letter : Char)

/-- The letters with a colon in `"s:c:r:o:h"` and in `":s:c:r:o:"`. -/
def takesArg (letter : Char) : Bool := letter ∈ ['s', 'c', 'r', 'o']

/-- One option word behind its dash: its options, and the letter that still wants the next word. -/
def scanLetters : Bytes → List FoundOpt × Option Char
  | [] => ([], none)
  | letter :: rest =>
    if takesArg letter then
      if rest = [] then ([], some letter) else ([.withArg letter (CStringOf rest)], none)
    else
      let (found, pending) := scanLetters rest
      (.bare letter :: found, pending)

/-- The options in a list of words. `permute` is `getopt`'s habit of looking past words that are no
options; `getopts` stops at the first one. -/
def scanWords (permute : Bool) : Option Char → List CString → List FoundOpt
  | none, [] => []
  | some letter, [] => [.missingArg letter]
  | some letter, word :: words => .withArg letter word :: scanWords permute none words
  | none, word :: words =>
    if word.bytes = "--".toList then []
    else if word.bytes.head? = some '-' ∧ word.bytes ≠ ['-'] then
      let (found, pending) := scanLetters (word.bytes.drop 1)
      found ++ scanWords permute pending words
    else if permute then scanWords permute none words
    else []

/-- What `getopt(argc, argv, "s:c:r:o:h")` returns to the loop of `main`, call after call. -/
def getopt (args : List CString) : List Opt :=
  (scanWords true none args).map fun found =>
    match found with
    | .withArg 's' optarg => .s optarg
    | .withArg 'c' optarg => .c optarg
    | .withArg 'r' optarg => .r optarg
    | .withArg 'o' optarg => .o optarg
    | .bare 'h' => .h
    | _ => .unknown

/-! ## Text tools -/

/-- `$(...)` on an output: no NUL bytes, no newlines at the end. -/
def commandSubst (output : Bytes) : Bytes :=
  ((output.filter (· ≠ '\x00')).reverse.dropWhile (· = '\n')).reverse

/-- The lines of a text; a newline at the end starts no further line. -/
def textLines (text : Bytes) : List Bytes :=
  if text = [] then []
  else
    let lines := text.splitOn '\n'
    if lines.getLast? = some [] then lines.dropLast else lines

/-- Each line with its newline. -/
def unlines (lines : List Bytes) : Bytes := (lines.map (· ++ ['\n'])).flatten

/-- A basic regular expression of plain bytes and dots, matched at one place of a line. -/
def breMatchHere : Bytes → Bytes → Bool
  | [], _ => true
  | _ :: _, [] => false
  | p :: ps, c :: cs => (p = '.' || p = c) && breMatchHere ps cs

/-- `grep -q pattern`: some line has a match. -/
def grepQuiet (pattern text : Bytes) : Bool :=
  (textLines text).any fun line => line.tails.any (breMatchHere pattern)

/-- `grep word` for a word without special characters. -/
def grepLines (word : Bytes) (lines : List Bytes) : List Bytes :=
  lines.filter fun line => (strstr line word).isSome

/-- `grep -v word`. -/
def grepOut (word : Bytes) (lines : List Bytes) : List Bytes :=
  lines.filter fun line => !(strstr line word).isSome

/-- `"<key>":"([^"]+)"` at the start of a text: the group. -/
def fieldAt (key text : Bytes) : Option Bytes :=
  let opening := ['"'] ++ key ++ "\":\"".toList
  if opening.isPrefixOf text then
    let rest := text.drop opening.length
    let value := rest.takeWhile (· ≠ '"')
    if value ≠ [] ∧ value.length < rest.length then some value else none
  else none

/-- `sed -E 's/.*"<key>":"([^"]+)".*/\1/'` on one line: the last match, or the line as it is. -/
def sedField (key line : Bytes) : Bytes :=
  (line.tails.foldl (fun found text => (fieldAt key text).orElse fun _ => found) none).getD line

/-- `$(grep '"<key>"' file | sed -E ...)` -/
def recordField (key content : Bytes) : Bytes :=
  commandSubst (unlines ((grepLines (['"'] ++ key ++ ['"']) (textLines content)).map (sedField key)))

/-- The blank-separated fields of a line, as `awk` counts them. -/
def awkFields (line : Bytes) : List Bytes :=
  (line.splitOnP fun c => c = ' ' || c = '\t').filter (· ≠ [])

/-- `awk -F <word> '{print $NF}'`: what follows the last occurrence of the word. -/
def awkLastField (word line : Bytes) : Bytes :=
  (line.tails.foldl
    (fun found text => if word.isPrefixOf text then some (text.drop word.length) else found)
    none).getD line

/-! ## The surroundings of one run -/

/-- What one run of the script depends on besides the device. -/
structure ScriptEnv where
  /-- The run of /usr/bin/rebootnow. -/
  binary : HelperEnv
  /-- `[ -x "$BIN_REBOOTNOW" ]` -/
  binaryExecutable : Bool
  io : Io File
  /-- `$$` -/
  pid : Nat
  /-- The content of /proc/<text>/cmdline, `none` where that is no process. -/
  procEntry : Bytes → Option Bytes
  /-- Both programs look at the same processes. -/
  procEntry_decimal : ∀ n : Nat, procEntry (decimal n) = binary.procCmdline n
  /-- `date -u` -/
  rebootTime : Bytes
  /-- `\date +"%T"` -/
  localHour : Fin 24
  localMin : Fin 60
  localSec : Fin 61
  /-- The whole seconds of /proc/uptime. -/
  uptime : Option Nat
  /-- What `tr181 <param> 2>&1 > /dev/null` prints, by the parameter's value. -/
  tr181 : Option Bytes → Bytes
  setRfcOk : RfcParam → Bool
  cronOk : Bool
  /-- `[ $customReason == "MAINTENANCE_REBOOT" ]` where the unquoted expansion is not one plain word. -/
  oddTest : Bytes → Bool

/-- A run of the script in which nothing fails, with the binary in place. -/
def ScriptEnv.plain (binary : HelperEnv) : ScriptEnv where
  binary := binary
  binaryExecutable := true
  io := Io.plain
  pid := 2000
  procEntry text :=
    let n := Nat.ofDigitChars 10 text 0
    if decimal n = text then binary.procCmdline n else none
  procEntry_decimal n := by
    have hn : Nat.ofDigitChars 10 (decimal n) 0 = n := Nat.ofDigitChars_ten_toDigits
    simp only [hn, if_true]
  rebootTime := strftime binary.now
  localHour := binary.localHour
  localMin := binary.localMin
  localSec := ⟨0, by decide⟩
  uptime := binary.uptime
  tr181 value := value.getD []
  setRfcOk _ := true
  cronOk := true
  oddTest _ := false

namespace ScriptEnv

variable (env : ScriptEnv)

/-- `cat f`, nothing for a file that is not there. -/
def cat (f : File) (d : Device) : Bytes := if env.io.canRead f then (d.files f).getD [] else []

/-- `tr181 -s -v value param` -/
def tr181Set (param : RfcParam) (value : Bytes) : DeviceProg Unit :=
  Prog.emitAll (if env.setRfcOk param then [.setRfc param value] else [])

/-- `echo text >> f` -/
def echoAppend (f : File) (text : Bytes) : DeviceProg Unit := appendFile env.io f (text ++ ['\n'])

/-- `echo text > f` -/
def echoTo (f : File) (text : Bytes) : DeviceProg Unit := writeFile env.io f (text ++ ['\n'])

end ScriptEnv

/-! ## Arguments and guard -/

/-- The argument check at the top: fewer than two words, or `-s` or `-c` as the third. -/
def rejectsArguments (args : List CString) : Bool :=
  args.length < 2 || (args[2]?).any fun third => third.bytes = "-s".toList || third.bytes = "-c".toList

/-- `basename $0` -/
def scriptName : Bytes := "rebootNow.sh".toList

/-- The guard: the process named in the pid file is alive and its command line has a match for the
script's own name. -/
def instanceRunning (env : ScriptEnv) (d : Device) : Bool :=
  d.exists .pidFile &&
    (env.procEntry (commandSubst (env.cat .pidFile d))).any fun cmdline =>
      grepQuiet scriptName (commandSubst cmdline ++ ['\n'])

/-- `pidCleanup` -/
def pidCleanup : DeviceProg Unit := do
  let d ← Prog.get
  whenever (d.exists .pidFile) (unlinkFile .pidFile)

/-! ## Options and categories -/

/-- The variables of the option loop. -/
structure ScriptVars where
  source : Bytes
  rebootLogReason : Bytes
  customReason : Bytes
  otherReason : Bytes

def ScriptVars.start : ScriptVars := ⟨[], [], "Unknown".toList, "Unknown".toList⟩

/-- One round of `while getopts ":s:c:r:o:"`. -/
def ScriptVars.take (vars : ScriptVars) : FoundOpt → ScriptVars
  | .withArg 's' arg =>
    { vars with
      source := arg.bytes
      rebootLogReason := "Triggered from ".toList ++ arg.bytes ++ " process".toList }
  | .withArg 'c' arg =>
    { vars with
      source := arg.bytes
      rebootLogReason :=
        "Triggered from ".toList ++ arg.bytes ++ " process failure or crash..!".toList }
  | .withArg 'r' arg => { vars with customReason := arg.bytes }
  | .withArg 'o' arg => { vars with otherReason := arg.bytes }
  | _ => vars

/-- The option loop. -/
def getopts (args : List CString) : ScriptVars :=
  (scanWords false none args).foldl ScriptVars.take ScriptVars.start

/-- `[[ "${list[@]}" == *"$source"* ]]`: the list is joined with blanks first. -/
def joinedListHas (list : List String) (source : Bytes) : Bool :=
  (strstr ([' '].intercalate (list.map String.toList)) source).isSome

/-- `OPS_TRIGGERED_REASONS` of the script, which has no "CyclicReboot". -/
def scriptOpsTriggeredReasons : List String := opsTriggeredReasons.dropLast

/-- One word for the shell: nothing to split, nothing to expand. -/
def plainWord (text : Bytes) : Bool := text ≠ [] && text.all (· ∉ " \t\n*?[".toList)

/-- The assignment of `rebootReason`. -/
def scriptRebootReason (env : ScriptEnv) (source customReason : Bytes) : Bytes :=
  if joinedListHas appTriggeredReasons source then
    let maintenance :=
      if plainWord customReason then decide (customReason = "MAINTENANCE_REBOOT".toList)
      else env.oddTest customReason
    if maintenance then "MAINTENANCE_REBOOT".toList else "APP_TRIGGERED".toList
  else if joinedListHas scriptOpsTriggeredReasons source then "OPS_TRIGGERED".toList
  else if joinedListHas maintenanceTriggeredReasons source then "MAINTENANCE_REBOOT".toList
  else "FIRMWARE_FAILURE".toList

/-! ## The reboot-loop check -/

/-- `getNewCronTime`; where `expr` cannot add the duration, the minute is left empty. -/
def getNewCronTime (env : ScriptEnv) (duration : Bytes) : Bytes :=
  match strtol duration with
  | some (minutes, []) =>
    let rounded := env.localMin.val + (if env.localSec.val > 29 then 1 else 0)
    let total := (rounded : Int) + minutes
    let (mn, hr) := carryHours total.natAbs total env.localHour.val
    let hour := if total > 59 then decimalInt hr else twoDigits env.localHour
    "*/".toList ++ decimalInt mn ++ [' '] ++ hour ++ " * * *".toList
  | _ => "*/ ".toList ++ twoDigits env.localHour ++ " * * *".toList

/-- The cron entry of the script. -/
def scriptCronEntry (env : ScriptEnv) (duration : Bytes) : CronEntry where
  job := scriptName
  line := getNewCronTime env duration ++ " /bin/sh /lib/rdk/rebootNow.sh -s \"rebootNow.sh\" -o \"Rebooting device after expiry of Cyclic reboot pause window\"".toList

/-- The number in the counter file; a counter file holds a decimal number, and anything else counts
as none. -/
def scriptRebootCount (env : ScriptEnv) (d : Device) : Int :=
  (scanLong (env.cat .rebootCounterFile d)).getD 0

/-- The block under `reboot_counter_reset == 1`. -/
def scriptCounterReset (env : ScriptEnv) : DeviceProg Unit := do
  env.tr181Set .rebootStopEnable "false".toList
  env.echoTo .rebootCounterFile ['0']
  unlinkFile .rebootStopFlag

/-- What is done at the threshold. -/
def scriptArmStopMode (env : ScriptEnv) (duration : Bytes) : DeviceProg Unit := do
  touchFile env.io .rebootStopFlag
  env.tr181Set .rebootStopEnable "true".toList
  Prog.emitAll (if env.cronOk then [.cronRemove scriptName] else [])
  Prog.emitAll (if env.cronOk then [.cronAdd (scriptCronEntry env duration)] else [])
  touchFile env.io .rebootNowFlag

/-- The four comparisons of request and record. -/
def scriptSameReason (vars : ScriptVars) (rebootReason content : Bytes) : Bool :=
  vars.source = recordField "source".toList content &&
    rebootReason = recordField "reason".toList content &&
    vars.customReason = recordField "customReason".toList content &&
    vars.otherReason = recordField "otherReason".toList content

/-- The reboot-loop check with the counter reset; false where the script exits. -/
def scriptCyclicCheck (env : ScriptEnv) (vars : ScriptVars) (rebootReason detection duration : Bytes) :
    DeviceProg Bool := do
  let d ← Prog.get
  if d.exists .rebootNowFlag && detection ≠ "false".toList then
    unlinkFile .rebootNowFlag
    -- an empty uptime compares as zero
    if d.exists .previousRebootInfoFile && env.uptime.all (· ≤ rebootWindowSecs) &&
        scriptSameReason vars rebootReason (env.cat .previousRebootInfoFile d) then
      if d.exists .rebootStopFlag then
        touchFile env.io .rebootNowFlag
        return false
      else
        let count := scriptRebootCount env d
        if count ≥ rebootCycleThreshold then
          scriptArmStopMode env duration
          return false
        else
          env.echoTo .rebootCounterFile (decimalInt (count + 1))
          return true
    else
      scriptCounterReset env
      return true
  else
    scriptCounterReset env
    return true

/-! ## Records and reboot -/

/-- The lines for rebootInfo.log. -/
def scriptLogReboot (env : ScriptEnv) (vars : ScriptVars) : DeviceProg Unit := do
  env.echoAppend .rebootInfoLog ("RebootReason: ".toList ++ vars.rebootLogReason ++
    if vars.otherReason = "Unknown".toList then [] else [' '] ++ vars.otherReason)
  env.echoAppend .rebootInfoLog ("RebootInitiatedBy: ".toList ++ vars.source)
  env.echoAppend .rebootInfoLog ("RebootTime: ".toList ++ env.rebootTime)
  env.echoAppend .rebootInfoLog ("CustomReason: ".toList ++ vars.customReason)
  env.echoAppend .rebootInfoLog ("OtherReason: ".toList ++ vars.otherReason)

/-- The lines that name another source than HAL_SYS_Reboot. -/
def otherTriggerLines (log : Bytes) : List Bytes :=
  grepOut "grep".toList (grepOut "HAL_SYS_Reboot".toList
    (grepLines "RebootReason".toList (textLines log)))

/-- `rebootSource` and `otherReason` after the check for HAL_SYS_Reboot. -/
def resolveHalSource (log : Bytes) (vars : ScriptVars) : Bytes × Bytes :=
  if grepLines "HAL_SYS_Reboot".toList (textLines log) = [] then (vars.source, vars.otherReason)
  else
    let lines := otherTriggerLines log
    (commandSubst (unlines (lines.map fun line => (awkFields line)[4]?.getD [])),
     commandSubst (unlines (lines.map fun line =>
       (awkLastField "HAL_CDL_notify_mgr_event".toList line).takeWhile (· ≠ '('))))

/-- `setPreviousRebootInfo` -/
def setPreviousRebootInfo (env : ScriptEnv) (r : RebootInfo) : DeviceProg Unit := do
  env.echoTo .rebootInfoFile ['\x7b']
  env.echoAppend .rebootInfoFile ("\"timestamp\":\"".toList ++ r.timestamp ++ "\",".toList)
  env.echoAppend .rebootInfoFile ("\"source\":\"".toList ++ r.source ++ "\",".toList)
  env.echoAppend .rebootInfoFile ("\"reason\":\"".toList ++ r.reason ++ "\",".toList)
  env.echoAppend .rebootInfoFile ("\"customReason\":\"".toList ++ r.customReason ++ "\",".toList)
  env.echoAppend .rebootInfoFile ("\"otherReason\":\"".toList ++ r.otherReason ++ "\"".toList)
  env.echoAppend .rebootInfoFile ['\x7d']
  appendFile env.io .parodusRebootInfoFile (parodusLine r)

/-- The script from the log lines to the reboot. -/
def scriptReboot (env : ScriptEnv) (vars : ScriptVars) (rebootReason : Bytes) : DeviceProg Unit := do
  scriptLogReboot env vars
  let d ← Prog.get
  let (source, otherReason) := resolveHalSource (env.cat .rebootInfoLog d) vars
  setPreviousRebootInfo env
    ⟨env.rebootTime, source, rebootReason, vars.customReason, otherReason⟩
  let d ← Prog.get
  whenever (commandSubst (env.tr181 (d.rfc .mngNotify)) = "true".toList)
    (env.tr181Set .fwRebootNotify "10".toList)
  touchFile env.io .rebootNowFlag
  unlinkFile .pidFile
  Prog.emit .reboot

/-- The script behind the guard; the result is the exit status. -/
def scriptRequest (env : ScriptEnv) (args : List CString) (detection duration : Bytes) :
    DeviceProg Nat := do
  env.echoTo .pidFile (decimal env.pid)
  let vars := getopts args
  let rebootReason := scriptRebootReason env vars.source vars.customReason
  let proceed ← scriptCyclicCheck env vars rebootReason detection duration
  whenever proceed (scriptReboot env vars rebootReason)
  return 0

/-- The guard and what it guards. -/
def scriptGuarded (env : ScriptEnv) (args : List CString) (detection duration : Bytes) :
    DeviceProg Nat := do
  let d ← Prog.get
  if instanceRunning env d then return 1
  else scriptRequest env args detection duration

/-- The script from `trap pidCleanup EXIT` on: whichever way the shell exits, the trap runs. -/
def scriptFallback (env : ScriptEnv) (args : List CString) (detection duration : Bytes) :
    DeviceProg Nat := do
  let status ← scriptGuarded env args detection duration
  pidCleanup
  return status

/-- The exit status of the binary, a failing one where there is none. -/
def runBinary (env : ScriptEnv) (args : List CString) : DeviceProg Nat :=
  if env.binaryExecutable then rebootnowMain env.binary (getopt args) else pure 1

/-- rebootNow.sh with these arguments; the result is the exit status. -/
def rebootNowScript (env : ScriptEnv) (args : List CString) : DeviceProg Nat := do
  let d ← Prog.get
  if rejectsArguments args then return 1
  else
    let detection := commandSubst (env.tr181 (d.rfc .rebootStopDetection))
    let duration := commandSubst (env.tr181 (d.rfc .rebootStopDuration))
    touchFile env.io .rebootInfoLog
    let rc ← runBinary env args
    if rc = 0 then return 0
    else scriptFallback env args detection duration

end RebootManager
