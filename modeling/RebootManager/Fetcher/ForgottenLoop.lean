/-
# RebootManager.Fetcher.ForgottenLoop -- two runs of the fetcher in each boot

The first run of a boot hands over the record of the request; the second finds nothing pending and writes a
record of its own over it. `rebootnow` then finds another reason than its own, resets the counter and reboots.
Nothing has to fail for that, and it goes on for ever (`bootLoop_unbounded`).
-/
import RebootManager.Fetcher.BootLoop

namespace RebootManager

open Foundation

/-! ## A device that has forgotten -/

/-- A device on which the service's next request goes ahead. -/
structure Unaware (d : Device) : Prop where
  pid : d.files .pidFile = none
  register : d.files .brcmRebootFile = none
  previous : (d.files .previousRebootInfoFile).bind parsePreviousRebootInfo ≠ some serviceRequest.cause

section Unaware

variable {d : Device}

theorem Unaware.requests (h : Unaware d) :
    Requests (.plain .epoch 300) [.s serviceRequest.source] d serviceRequest where
  guard := by
    rw [pidfileWriteAndGuard, Prog.result_bind, Prog.result_get, h.pid]
    rfl
  options := rfl

theorem Unaware.goesAhead (h : Unaware d) : givesReboot (serviceReboot.ops d) = true := by
  have hok := HelperEnv.plain_ok .epoch 300
  obtain ⟨d₁, hbefore, -, hreboots, -⟩ := exists_request hok.io h.requests
  have hprevious : readPreviousRebootInfo (HelperEnv.plain .epoch 300).io d₁ ≠ some serviceRequest.cause := by
    rw [readPreviousRebootInfo_of_ok hok.io, hbefore.previous]
    exact h.previous
  refine hreboots.trans ?_
  rw [result_requestReboot]
  have htaken := taken_cyclicBranch (HelperEnv.plain .epoch 300) serviceRequest.cause d₁
  cases hb : cyclicBranch (HelperEnv.plain .epoch 300) serviceRequest.cause d₁ with
  | halted =>
    rw [hb] at htaken
    exact absurd htaken.1.2.2 hprevious
  | loopDetected =>
    rw [hb] at htaken
    exact absurd htaken.1.2.2 hprevious
  | _ => rfl

/-- What the request leaves of the pid file and of the register. -/
theorem Unaware.served (h : Unaware d) :
    (execOps (serviceReboot.ops d) d).files .pidFile = none ∧
      (execOps (serviceReboot.ops d) d).files .brcmRebootFile = none := by
  set d₁ := (pidfileWriteAndGuard (HelperEnv.plain .epoch 300)).final d with hd₁
  have hfinal : execOps (serviceReboot.ops d) d =
      cleanupPidfile.final ((requestReboot (.plain .epoch 300) serviceRequest).final d₁) := by
    show execOps ((rebootnowMain (.plain .epoch 300) [.s serviceRequest.source]).ops d) d = _
    rw [ops_rebootnowMain_request h.requests, execOps_append, execOps_append]
    rfl
  have hclean : ∀ d, (cleanupPidfile.final d) = d.setFile .pidFile none := final_unlinkFile .pidFile
  rw [hfinal, hclean]
  refine ⟨by rw [Device.setFile_files, Function.update_self], ?_⟩
  have hguard : d₁.files .brcmRebootFile = d.files .brcmRebootFile :=
    (emits_pidfileWriteAndGuard _).final (fun d => d.files .brcmRebootFile)
      (fun _ ho d => ho.files_eq (by decide) d) d
  rw [files_setFile_of_ne File.noConfusion, final_requestReboot, files_finishRequest_of_ne _ _ _ (by decide),
    files_final_of_touchesOnly (emits_decideReboot _ _) (by decide), hguard, h.register]

/-- What the fetcher finds of firmware failures on such a device. -/
def foundFailure (maxReboot ecmCrash : Bool) : FirmwareFailure where
  detected := maxReboot || ecmCrash
  maxRebootDetected := maxReboot
  ecmCrashDetected := ecmCrash
  details :=
    if maxReboot then
      snprintf maxReasonLength ("OcapRI".toList ++ ": Reboot due to STB reached maximum (10) reboots".toList)
    else if ecmCrash then snprintf maxReasonLength "EcmLogger: ECM crash detected".toList
    else []
  initiator :=
    if ecmCrash then "EcmLogger".toList else if maxReboot then "OcapRI".toList else []

/-- The properties of a set-top box, parsed. -/
def fetchedContext : EnvContext := ⟨"BRCM".toList, "STB".toList, [], "hybrid".toList, false⟩

/-- Without a register, a derived record has one of a few causes. -/
theorem derived_cases (h : d.files .brcmRebootFile = none) :
    ∃ panic maxReboot ecmCrash : Bool, (deriveRebootInfo (brcmRun .epoch) fetchedContext).result d =
      classifyRebootReason (RebootInfo.blank (timestampUpdate .epoch)) fetchedContext ⟨[], "UNKNOWN".toList⟩
        ⟨panic, [], []⟩ (foundFailure maxReboot ecmCrash) := by
  set panicInfo := (detectKernelPanic (brcmRun .epoch) fetchedContext).result d with hpanic
  set d₁ := (detectKernelPanic (brcmRun .epoch) fetchedContext).final d with hd₁
  have hregister : d₁.files .brcmRebootFile = none :=
    (files_final_sideOnly (logsOnly_detectKernelPanic _ _).sideOnly (by decide) d).trans h
  have hhardware : getHardwareReason (brcmRun .epoch) fetchedContext d₁ = ⟨[], "UNKNOWN".toList⟩ := by
    have hread : readBrcmPreviousRebootReason (brcmRun .epoch) d₁ = (⟨[], "UNKNOWN".toList⟩, false) := by
      rw [readBrcmPreviousRebootReason, Device.exists, hregister]
      rfl
    have hsoc : fetchedContext.soc = "BRCM".toList := rfl
    rw [getHardwareReason, if_pos hsoc, hread]
    rfl
  refine ⟨panicInfo.detected, searchStringInFile (brcmRun .epoch) .ocapriLogFile
    "Box has rebooted 10 times".toList d₁, searchStringInFile (brcmRun .epoch) .ecmCrashLogFile
      "**** CRASH ****".toList d₁, ?_⟩
  have hderived : (deriveRebootInfo (brcmRun .epoch) fetchedContext).result d =
      classifyRebootReason (RebootInfo.blank (timestampUpdate .epoch)) fetchedContext
        (getHardwareReason (brcmRun .epoch) fetchedContext d₁) panicInfo
        (checkFirmwareFailure (brcmRun .epoch) fetchedContext d₁) := rfl
  rw [hderived, hhardware]
  rfl

/-- None of them is the service's. -/
theorem derived_unaware (h : d.files .brcmRebootFile = none) : parsePreviousRebootInfo (rebootInfoText
    ((deriveRebootInfo (brcmRun .epoch) fetchedContext).result d)) ≠ some serviceRequest.cause := by
  have hall : ∀ panic maxReboot ecmCrash : Bool, parsePreviousRebootInfo (rebootInfoText
      (classifyRebootReason (RebootInfo.blank (timestampUpdate .epoch)) fetchedContext ⟨[], "UNKNOWN".toList⟩
        ⟨panic, [], []⟩ (foundFailure maxReboot ecmCrash))) ≠ some serviceRequest.cause := by
    decide +kernel
  obtain ⟨panic, maxReboot, ecmCrash, hderived⟩ := derived_cases h
  rw [hderived]
  exact hall panic maxReboot ecmCrash

/-- Behind two runs of the fetcher the request is forgotten. -/
theorem unaware_of_two_runs (hpid : d.files .pidFile = none) (hregister : d.files .brcmRebootFile = none) :
    Unaware ((fetcherMain (brcmRun .epoch)).final ((fetcherMain (brcmRun .epoch)).final d.received)) := by
  set d₁ := (fetcherMain (brcmRun .epoch)).final d.received with hd₁
  have hframe : ∀ {f : File}, f ∉ fetcherFiles → ∀ d, ((fetcherMain (brcmRun .epoch)).final d).files f
      = d.files f := fun hf d =>
    (emits_fetcherMain _).final (fun d => d.files _) (fun _ ho d => ho.files_eq hf d) d
  have hfirst : Passes (brcmRun .epoch) fetchedContext d.received :=
    passes_brcmRun (updateRebootInfo_received d)
  have hgate : updateRebootInfo d₁ = true := by
    rw [updateRebootInfo, Device.exists, hd₁, hframe (by decide)]
    exact updateRebootInfo_received d
  have hsecond : Passes (brcmRun .epoch) fetchedContext d₁ := passes_brcmRun hgate
  have hempty : Shows d₁ none := shows_none_of_passes ok_brcmFetch hfirst
  have hkept : ∀ {f : File}, f ∉ fetcherFiles → f ≠ .sttFlag →
      ((fetcherMain (brcmRun .epoch)).final d₁).files f = d.files f := by
    intro f hf hne
    rw [hframe hf, hd₁, hframe hf]
    exact files_setFile_of_ne hne d _
  refine ⟨(hkept (by decide) (by decide)).trans hpid, (hkept (by decide) (by decide)).trans hregister, ?_⟩
  rw [(takes_slot ok_brcmFetch hsecond hempty).1, Option.bind_some, Slot.taken_none]
  apply derived_unaware
  rw [hd₁, hframe (by decide)]
  exact (files_setFile_of_ne (by decide) d _).trans hregister

/-- A boot with the service's request at its end, and two runs of the fetcher behind it. -/
def twiceFetched : List Event :=
  [.run serviceReboot, .reboot, .outside, .run brcmFetch, .run brcmFetch]

theorem run_twiceFetched (h : Unaware d) : ∃ es d', Run (Boots serviceRequest.cause) d es d' ∧
    es.map Prod.fst = twiceFetched ∧ es.countP (·.2.reboots) = 1 ∧ Unaware d' := by
  set d₁ := execOps (serviceReboot.ops d) d with hd₁
  set d₂ := (fetcherMain (brcmRun .epoch)).final d₁.rebooted.received with hd₂
  have hservice : serviceReboot.Sound := HelperEnv.plain_ok _ _
  have hfetch : brcmFetch.Sound := trivial
  have hstays : ∀ d, givesReboot (brcmFetch.ops d) = false :=
    fun d => givesReboot_eq_false (stays_fetcherMain _ d)
  have hpid : d₁.rebooted.files .pidFile = none := rfl
  have hregister : d₁.rebooted.files .brcmRebootFile = none := h.served.2
  refine ⟨_, _, .cons (.run hservice d) (.cons (.reboot d₁) (.cons (.outside (aside_received d₁.rebooted))
    (.cons (.run hfetch _) (.cons (.run hfetch d₂) (.nil _))))), rfl, ?_, unaware_of_two_runs hpid hregister⟩
  have hreboots : (passage serviceRequest.cause serviceReboot true (serviceReboot.ops d)).reboots = true :=
    h.goesAhead
  have hquiet : ∀ d, (passage serviceRequest.cause brcmFetch true (brcmFetch.ops d)).reboots = false := hstays
  simp only [List.countP_cons, List.countP_nil, hreboots, hquiet, Passage.quiet]
  rfl

/-- **A second run of the fetcher in each boot, and the loop never stops.** However many boots there are, with
the same request each time, five minutes after boot, and nothing failing: every one of them ends with the
reboot command. -/
theorem bootLoop_unbounded (n : Nat) : ∃ es d, Run (Boots serviceRequest.cause) Device.blank es d ∧
    es.map Prod.fst = (List.replicate n twiceFetched).flatten ∧ es.countP (·.2.reboots) = n := by
  have hboots : ∀ n d, Unaware d → ∃ es d', Run (Boots serviceRequest.cause) d es d' ∧
      es.map Prod.fst = (List.replicate n twiceFetched).flatten ∧ es.countP (·.2.reboots) = n := by
    intro n
    induction n with
    | zero => exact fun d _ => ⟨[], d, .nil d, rfl, rfl⟩
    | succ n ih =>
      intro d h
      obtain ⟨es, d₁, hrun, hevents, hone, hnext⟩ := run_twiceFetched h
      obtain ⟨fs, d₂, hrest, hlater, hmany⟩ := ih d₁ hnext
      refine ⟨es ++ fs, d₂, hrun.append hrest, ?_, ?_⟩
      · rw [List.map_append, hevents, hlater, List.replicate_succ, List.flatten_cons]
      · rw [List.countP_append, hone, hmany, Nat.add_comm]
  have hblank : Unaware Device.blank := ⟨rfl, rfl, nofun⟩
  exact hboots n Device.blank hblank

end Unaware

end RebootManager
