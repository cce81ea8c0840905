/-
# RebootManager.Fetcher.EvidenceScan -- what the searches find (reboot_reason_classify.c)

The searches go through a file in buffers of 511 bytes and look at each up to its first NUL, where the
script they replace had `grep`, which looks at lines. `SomeLineHas` is what `grep` finds and
`SomeLineReaches` what a search finds (`searchStringInFile_iff`, `searchPanicInFile_iff`): the string must
stand within one 511-byte piece of its line, counted from the line's beginning, with no NUL before it in
the piece.

`evidenceScan_complete_iff` compares the two for each search and for the two checks made of them.
-/
import RebootManager.Fetcher.Evidence

namespace RebootManager

open Foundation

section Scan

variable {env : FetcherEnv} {ctx : EnvContext} {d : Device}

/-- `grep`: the file can be read and one of its lines has the string. -/
def SomeLineHas (env : FetcherEnv) (f : File) (d : Device) (s : Bytes) : Prop :=
  ∃ content ∈ env.open f d, ∃ line ∈ lines content, s <:+: line

/-- The file can be read and one of its lines has the string where a buffer shows it. -/
def SomeLineReaches (env : FetcherEnv) (f : File) (d : Device) (s : Bytes) : Prop :=
  ∃ content ∈ env.open f d, ∃ line ∈ lines content, Reached (maxBufferSize - 1) line s

theorem SomeLineReaches.has {f : File} {s : Bytes} (h : SomeLineReaches env f d s) :
    SomeLineHas env f d s := by
  obtain ⟨content, hcontent, line, hline, hreached⟩ := h
  exact ⟨content, hcontent, line, hline, hreached.infix⟩

/-! ## The two searches -/

theorem searchStringInFile_iff (f : File) {s : Bytes} (hs : '\x00' ∉ s) :
    searchStringInFile env f s d = true ↔ SomeLineReaches env f d s := by
  unfold searchStringInFile SomeLineReaches
  cases env.open f d with
  | none => simp
  | some content =>
    simp only [Option.any_some, List.any_eq_true, Option.mem_def, Option.some.injEq,
      exists_eq_left']
    exact search_lines_iff (by decide) hs content

/-- No signature has a NUL in it. -/
theorem noNul_panicSignatures : ∀ s ∈ panicSignatures, '\x00' ∉ s := by
  decide

theorem searchPanicInFile_iff (f : File) :
    (searchPanicInFile env f d).isSome = true ↔
      ∃ s ∈ panicSignatures, SomeLineReaches env f d s := by
  unfold searchPanicInFile SomeLineReaches
  cases env.open f d with
  | none => simp
  | some content =>
    have hline : ∀ line, ((panicSignatures.find? fun s => (strstr line s).isSome).map fun s =>
        (⟨true, snprintf maxReasonLength s, (snprintf maxBufferSize line).takeWhile (· ≠ '\n')⟩ :
          PanicInfo)).isSome = true ↔ ∃ s ∈ panicSignatures, (strstr line s).isSome = true := by
      intro line
      rw [Option.isSome_map, List.find?_isSome]
    simp only [Option.bind_some, List.findSome?_isSome_iff, hline, Option.mem_def,
      Option.some.injEq, exists_eq_left']
    constructor
    · rintro ⟨line, hmem, s, hs, hfound⟩
      exact ⟨s, hs, (search_lines_iff (by decide) (noNul_panicSignatures s hs) content).mp
        ⟨line, hmem, hfound⟩⟩
    · rintro ⟨s, hs, hreached⟩
      obtain ⟨line, hmem, hfound⟩ :=
        (search_lines_iff (by decide) (noNul_panicSignatures s hs) content).mpr hreached
      exact ⟨line, hmem, s, hs, hfound⟩

/-- A panic that is found is a detected one. -/
theorem detected_searchPanicInFile {f : File} {panicInfo : PanicInfo}
    (h : searchPanicInFile env f d = some panicInfo) : panicInfo.detected = true := by
  unfold searchPanicInFile at h
  obtain ⟨content, -, hfind⟩ := Option.bind_eq_some_iff.mp h
  obtain ⟨line, -, hline⟩ := List.exists_of_findSome?_eq_some hfind
  obtain ⟨signature, -, rfl⟩ := Option.map_eq_some_iff.mp hline
  rfl

/-! ## The two checks -/

/-- The strings the script looks for in the console log. -/
def scriptPanicStrings : List Bytes :=
  ["Kernel panic - not syncing".toList, "Oops - undefined instruction".toList,
   "Oops - bad syscall".toList, "branch through zero".toList, "unknown data abort code".toList,
   "Illegal memory access".toList]

/-- `oopsDumpCheck` of update_previous_reboot_info.sh. -/
def OopsDumpCheck (env : FetcherEnv) (ctx : EnvContext) (d : Device) : Prop :=
  if ctx.soc = "BRCM".toList then
    SomeLineHas env .kernelLogFile d previousKernelOopsDump ∧
      (SomeLineHas env .kernelLogFile d "Kernel Oops".toList ∨
        SomeLineHas env .kernelLogFile d "Kernel Panic".toList)
  else if ctx.rdkProfile = "TV".toList then
    ∃ s ∈ scriptPanicStrings, SomeLineHas env .pstoreConsoleLogFile d s
  else False

/-- `fwFailureCheck` of update_previous_reboot_info.sh. -/
def FwFailureCheck (env : FetcherEnv) (ctx : EnvContext) (d : Device) : Prop :=
  if ctx.deviceType ≠ "mediaclient".toList then
    SomeLineHas env .ocapriLogFile d "Box has rebooted 10 times".toList ∨
      SomeLineHas env .ecmCrashLogFile d "**** CRASH ****".toList
  else SomeLineHas env .uimgrLogFile d "Box has rebooted 10 times".toList

/-- The evidence of a panic is where `detect_kernel_panic` sees it. -/
def PanicReached (env : FetcherEnv) (ctx : EnvContext) (d : Device) : Prop :=
  if ctx.soc = "BRCM".toList then
    SomeLineReaches env .kernelLogFile d previousKernelOopsDump ∧
      ∃ s ∈ panicSignatures, SomeLineReaches env .kernelLogFile d s
  else if ctx.rdkProfile = "TV".toList then
    ∃ s ∈ panicSignatures, SomeLineReaches env .pstoreConsoleLogFile d s
  else False

/-- The evidence of a firmware failure is where `check_firmware_failure` sees it. -/
def FwFailureReached (env : FetcherEnv) (ctx : EnvContext) (d : Device) : Prop :=
  if "mediaclient".toList.isPrefixOf ctx.deviceType then
    SomeLineReaches env .uimgrLogFile d "Box has rebooted 10 times".toList
  else
    SomeLineReaches env .ocapriLogFile d "Box has rebooted 10 times".toList ∨
      SomeLineReaches env .ecmCrashLogFile d "**** CRASH ****".toList

theorem detectKernelPanic_iff :
    ((detectKernelPanic env ctx).result d).detected = true ↔ PanicReached env ctx d := by
  have hmarker := @searchStringInFile_iff env d .kernelLogFile previousKernelOopsDump (by decide)
  have hkernel := @searchPanicInFile_iff env d .kernelLogFile
  have hpstore := @searchPanicInFile_iff env d .pstoreConsoleLogFile
  simp only [detectKernelPanic, Prog.result_bind, Prog.result_get, Prog.final_get, PanicReached,
    ← hmarker, ← hkernel, ← hpstore]
  split
  · by_cases hfound : searchStringInFile env .kernelLogFile previousKernelOopsDump d = true
    · cases hpanic : searchPanicInFile env .kernelLogFile d with
      | none => simp [hfound, PanicInfo.none]
      | some panicInfo => simp [hfound, detected_searchPanicInFile hpanic]
    · simp [hfound, PanicInfo.none]
  · split
    · cases hpanic : searchPanicInFile env .pstoreConsoleLogFile d with
      | none => simp [PanicInfo.none]
      | some panicInfo => simp [detected_searchPanicInFile hpanic]
    · simp [PanicInfo.none]

theorem checkFirmwareFailure_iff :
    (checkFirmwareFailure env ctx d).detected = true ↔ FwFailureReached env ctx d := by
  have hmax : '\x00' ∉ "Box has rebooted 10 times".toList := by decide
  have hcrash : '\x00' ∉ "**** CRASH ****".toList := by decide
  unfold checkFirmwareFailure FwFailureReached
  dsimp only
  by_cases hmedia : "mediaclient".toList.isPrefixOf ctx.deviceType = true
  · simp only [hmedia, if_true, Bool.not_true, Bool.false_and, Bool.or_false]
    exact searchStringInFile_iff _ hmax
  · rw [Bool.not_eq_true] at hmedia
    simp only [hmedia, Bool.false_eq_true, if_false, Bool.not_false, Bool.true_and, Bool.or_eq_true]
    rw [searchStringInFile_iff _ hmax, searchStringInFile_iff _ hcrash]

/-- **The scan is complete where the buffers show the evidence.** A search agrees with `grep` exactly
when a string that some line has is reached in some line; and the two checks find what the script's
checks find exactly when some of it is reached in the files they look at. -/
theorem evidenceScan_complete_iff (env : FetcherEnv) (ctx : EnvContext) (d : Device) :
    (∀ (f : File) (s : CString),
      (searchStringInFile env f s.bytes d = true ↔ SomeLineHas env f d s.bytes) ↔
        (SomeLineHas env f d s.bytes → SomeLineReaches env f d s.bytes)) ∧
    (∀ f : File,
      ((searchPanicInFile env f d).isSome = true ↔ ∃ s ∈ panicSignatures, SomeLineHas env f d s) ↔
        ((∃ s ∈ panicSignatures, SomeLineHas env f d s) →
          ∃ s ∈ panicSignatures, SomeLineReaches env f d s)) ∧
    ((OopsDumpCheck env ctx d → ((detectKernelPanic env ctx).result d).detected = true) ↔
      (OopsDumpCheck env ctx d → PanicReached env ctx d)) ∧
    ((FwFailureCheck env ctx d → (checkFirmwareFailure env ctx d).detected = true) ↔
      (FwFailureCheck env ctx d → FwFailureReached env ctx d)) := by
  refine ⟨fun f s => ?_, fun f => ?_, ?_, ?_⟩
  · rw [searchStringInFile_iff f s.noNul]
    exact ⟨fun h => h.mpr, fun h => ⟨SomeLineReaches.has, h⟩⟩
  · rw [searchPanicInFile_iff f]
    refine ⟨fun h => h.mpr, fun h => ⟨?_, h⟩⟩
    rintro ⟨s, hs, hreached⟩
    exact ⟨s, hs, hreached.has⟩
  · rw [detectKernelPanic_iff]
  · rw [checkFirmwareFailure_iff]

end Scan

/-- A console log whose one line has the signature across the end of the first buffer. -/
def splitPanicDevice : Device :=
  Device.blank.setFile .pstoreConsoleLogFile (some (List.replicate 505 'x' ++ "Kernel Panic".toList))

/-- A signature that a buffer's end cuts is not found. -/
theorem splitPanic_missed :
    SomeLineHas (FetcherEnv.plain Tm.epoch fun _ => none) .pstoreConsoleLogFile splitPanicDevice
        "Kernel Panic".toList ∧
      ¬ ((searchPanicInFile (FetcherEnv.plain Tm.epoch fun _ => none) .pstoreConsoleLogFile
          splitPanicDevice).isSome = true ↔
        ∃ s ∈ panicSignatures, SomeLineHas (FetcherEnv.plain Tm.epoch fun _ => none)
          .pstoreConsoleLogFile splitPanicDevice s) := by
  have hhas : SomeLineHas (FetcherEnv.plain Tm.epoch fun _ => none) .pstoreConsoleLogFile
      splitPanicDevice "Kernel Panic".toList := by
    have hline : '\n' ∉ List.replicate 505 'x' ++ "Kernel Panic".toList := by decide +kernel
    refine ⟨List.replicate 505 'x' ++ "Kernel Panic".toList, rfl,
      List.replicate 505 'x' ++ "Kernel Panic".toList, ?_, (List.suffix_append _ _).isInfix⟩
    rw [lines_of_not_mem hline (List.append_ne_nil_of_right_ne_nil _ (by decide))]
    exact List.mem_singleton_self _
  have hmissed : (searchPanicInFile (FetcherEnv.plain Tm.epoch fun _ => none) .pstoreConsoleLogFile
      splitPanicDevice).isSome = false := by
    decide +kernel
  refine ⟨hhas, fun h => ?_⟩
  rw [h.mpr ⟨_, by decide, hhas⟩] at hmissed
  cases hmissed

end RebootManager
