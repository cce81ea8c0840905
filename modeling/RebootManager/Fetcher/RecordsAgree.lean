/-
# RebootManager.Fetcher.RecordsAgree -- the two previous records over the life of a device

Invocations of the two programs, reboots, power losses between any two updates, and whatever else goes on
outside the four record files. The pending pair stays a picture of its slot through all of it, except for a
power loss inside one of the two sections; and then the next request, or the next run past the STT gate,
puts it right again. So the two previous records agree after every run past the gate that does not come
first behind such a power loss (`recordsAgree_of_mended`).

The exceptions are real: `records_disagree` has a run for each, from a device out of the factory.
-/
import RebootManager.Fetcher.HandOver
import RebootManager.Foundation.Transition

namespace RebootManager

open Foundation

/-! ## The life of a device -/

/-- An invocation of one of the two programs. -/
inductive Invocation where
  | rebootnow (env : HelperEnv) (opts : List Opt)
  | fetcher (env : FetcherEnv)

namespace Invocation

/-- The updates of a complete run. -/
def ops : Invocation → Device → List DeviceOp
  | .rebootnow env opts, d => (rebootnowMain env opts).ops d
  | .fetcher env, d => (fetcherMain env).ops d

/-- Nothing it does fails, and the line of a request is one the fetcher copies whole. -/
def Ok : Invocation → Prop
  | .rebootnow env opts => env.Ok ∧ ∀ req, parseRequest opts = .ok req → req.ShortLine env
  | .fetcher env => env.Ok

/-- It makes its request, or it gets past the gate. -/
def HandsOver : Invocation → Device → Prop
  | .rebootnow env opts, d => ∃ req, Requests env opts d req
  | .fetcher env, d => ∃ ctx, Passes env ctx d

end Invocation

inductive Event where
  /-- A complete run. -/
  | run (p : Invocation)
  /-- The power goes when so many updates of the run are done, and the device comes up again. -/
  | powerLoss (p : Invocation) (done : Nat)
  | reboot
  /-- Anything else that goes on on the device. -/
  | outside

/-- The files that carry a record. -/
def recordFiles : List File :=
  [.rebootInfoFile, .parodusRebootInfoFile, .previousRebootInfoFile, .previousParodusRebootInfoFile]

/-- One event in the life of a device. -/
inductive Lives : Device → Event → Device → Prop where
  | run {p : Invocation} (h : p.Ok) (d : Device) : Lives d (.run p) (execOps (p.ops d) d)
  | powerLoss {p : Invocation} (h : p.Ok) (done : Nat) (d : Device) :
    Lives d (.powerLoss p done) (execOps ((p.ops d).take done) d).rebooted
  | reboot (d : Device) : Lives d .reboot d.rebooted
  | outside {d d' : Device} (h : ∀ f ∈ recordFiles, d'.files f = d.files f) : Lives d .outside d'

/-- A power loss that finds one of the two sections open. -/
def TearsPair (d : Device) : Event → Prop
  | .powerLoss p done => ¬ KeepsPair ((p.ops d).take done) ((p.ops d).drop done)
  | _ => False

/-- A complete run that makes a request, or gets past the gate. -/
def Settles (d : Device) : Event → Prop
  | .run p => p.HandsOver d
  | _ => False

/-! ## The pending pair stays a pair -/

theorem paired_rebooted {d : Device} (h : Paired d) : Paired d.rebooted := by
  obtain ⟨slot, hslot⟩ := h
  have hsame : pending d.rebooted = pending d := by
    rw [pending, Device.rebooted_files rfl, Device.rebooted_files rfl, pending]
  exact ⟨slot, hsame.trans hslot⟩

/-- A cut of an invocation that keeps out of the sections. -/
theorem paired_of_cut {p : Invocation} (hok : p.Ok) {d : Device} {done rest : List DeviceOp}
    (hcut : done ++ rest = p.ops d) (hkeeps : KeepsPair done rest) (hpaired : Paired d) :
    Paired (execOps done d) := by
  cases p with
  | rebootnow env opts => exact paired_of_cut_rebootnowMain hok.1.io hok.2 hcut hkeeps hpaired
  | fetcher env => exact paired_of_cut_fetcherMain hok hcut hkeeps hpaired

/-- Every event but a torn pair keeps the pair. -/
theorem paired_of_lives (d : Device) (e : Event) (d' : Device) (hpaired : Paired d)
    (hlives : Lives d e d') (hwhole : ¬ TearsPair d e) : Paired d' := by
  cases hlives with
  | run hok =>
    exact paired_of_cut hok (List.append_nil _) (keepsOut_complete _) hpaired
  | powerLoss hok done =>
    have hkeeps : KeepsPair _ _ := not_not.mp hwhole
    exact paired_rebooted (paired_of_cut hok (List.take_append_drop done _) hkeeps hpaired)
  | reboot => exact paired_rebooted hpaired
  | outside hframe =>
    obtain ⟨slot, hslot⟩ := hpaired
    have hsame : pending d' = pending d :=
      Prod.ext (hframe _ (by simp [recordFiles])) (hframe _ (by simp [recordFiles]))
    exact ⟨slot, hsame.trans hslot⟩

/-- A request, or a run past the gate, makes a pair of whatever it finds. -/
theorem paired_of_settles (d : Device) (e : Event) (d' : Device) (hlives : Lives d e d')
    (hsettles : Settles d e) : Paired d' := by
  cases hlives with
  | @run p hok =>
    cases p with
    | rebootnow env opts =>
      obtain ⟨req, hreq⟩ := hsettles
      exact ⟨_, shows_rebootnowMain hok.1.io hreq (hok.2 req hreq.options)⟩
    | fetcher env =>
      obtain ⟨ctx, hpasses⟩ := hsettles
      exact ⟨none, shows_none_of_passes hok hpasses⟩
  | powerLoss => exact hsettles.elim
  | reboot => exact hsettles.elim
  | outside => exact hsettles.elim

/-! ## The records agree -/

/-- previousparodusreboot.info, if it exists, is the line of the record in previousreboot.info. -/
def RecordsAgree (d : Device) : Prop :=
  ∀ line, d.files .previousParodusRebootInfoFile = some line →
    ∃ r : RebootInfo, d.files .previousRebootInfoFile = some (rebootInfoText r) ∧ line = parodusLine r

/-- **The previous records agree.** Start from a device with a whole pair, or none, pending, and let every
power loss inside a section be followed by a complete request or a complete run past the gate. Then a run
of the fetcher that ends with success leaves two records that agree, if it got past the STT gate, and
leaves the two files as they were, if it did not. -/
theorem recordsAgree_of_mended {start d : Device} (hstart : Paired start)
    (hlife : Mended Lives TearsPair Settles start d) {env : FetcherEnv} (hok : env.Ok)
    (hsuccess : (fetcherMain env).result d = .success) :
    (updateRebootInfo d = true → RecordsAgree ((fetcherMain env).final d)) ∧
      (updateRebootInfo d = false →
        ∀ f ∈ [File.previousRebootInfoFile, .previousParodusRebootInfoFile],
          ((fetcherMain env).final d).files f = d.files f) := by
  constructor
  · intro hopen line hline
    obtain ⟨slot, hslot⟩ := hlife.invariant paired_of_lives paired_of_settles hstart
    obtain ⟨ctx, hpasses⟩ := passes_of_success hsuccess hopen
    obtain ⟨hprevious, hparodus⟩ := takes_slot hok hpasses hslot
    exact ⟨_, hprevious, Option.some.inj (hline.symm.trans hparodus)⟩
  · intro hclosed f hf
    apply files_fetcherMain_of_closed hclosed
    rintro rfl
    simp at hf

/-! ## From the factory -/

/-- `rebootnow -s UpgradeReboot_deviceInitiatedFWDnld.sh -r IMAGE_UPGRADE_AFTER_DOWNLOAD` -/
def upgradeReboot : Invocation :=
  .rebootnow (.plain .epoch 300)
    [.s ⟨"UpgradeReboot_deviceInitiatedFWDnld.sh".toList, by decide⟩,
     .r ⟨"IMAGE_UPGRADE_AFTER_DOWNLOAD".toList, by decide⟩]

/-- `rebootnow -s Servicemanager` -/
def serviceReboot : Invocation :=
  .rebootnow (.plain .epoch 300) [.s serviceRequest.source]

/-- The fetcher on a set-top box. -/
def brcmFetch : Invocation := .fetcher (brcmRun .epoch)

theorem ok_upgradeReboot : upgradeReboot.Ok := by
  refine ⟨HelperEnv.plain_ok _ _, fun req hreq => ?_⟩
  cases hreq
  show (parodusLine _).length ≤ 511
  decide +kernel

theorem ok_serviceReboot : serviceReboot.Ok := by
  refine ⟨HelperEnv.plain_ok _ _, fun req hreq => ?_⟩
  cases hreq
  show (parodusLine _).length ≤ 511
  decide +kernel

theorem ok_brcmFetch : brcmFetch.Ok := ⟨Io.plain_ok, rfl, rfl, rfl⟩

/-- The system time arrives. -/
def Device.received (d : Device) : Device := d.setFile .sttFlag (some [])

theorem updateRebootInfo_received (d : Device) : updateRebootInfo d.received = true := by
  simp [updateRebootInfo, Device.received, Device.exists]

theorem lives_received (d : Device) : Lives d .outside d.received := by
  refine Lives.outside fun f hf => ?_
  have hne : f ≠ .sttFlag := by
    rintro rfl
    simp [recordFiles] at hf
  exact Function.update_of_ne hne _ _

/-- The device after the upgrade's reboot, with the system time received. -/
def upgraded : Device := (execOps (upgradeReboot.ops Device.blank) Device.blank).rebooted.received

/-- The request, the reboot and the system time. -/
theorem run_upgraded : Run Lives Device.blank [.run upgradeReboot, .reboot, .outside] upgraded :=
  .cons (.run ok_upgradeReboot _) (.cons (.reboot _) (.cons (lives_received _) (.nil _)))

/-- A power loss right behind the rename of the first run of the fetcher, and the system time again. -/
def torn : Device := (execOps ((brcmFetch.ops upgraded).take 1) upgraded).rebooted.received

theorem run_torn : Run Lives upgraded [.powerLoss brcmFetch 1, .outside] torn :=
  .cons (.powerLoss ok_brcmFetch 1 _) (.cons (lives_received _) (.nil _))

/-- One complete run later. -/
def recovered : Device := execOps (brcmFetch.ops torn) torn

/-- The run that finds a torn pair settles it, so the records of the run after it agree. -/
theorem recordsAgree_recovered : RecordsAgree ((fetcherMain (brcmRun .epoch)).final recovered) := by
  have hsettles : Settles torn (.run brcmFetch) :=
    ⟨_, passes_brcmRun (updateRebootInfo_received _)⟩
  have hlife : Mended Lives TearsPair Settles Device.blank recovered :=
    .restore (run_upgraded.append run_torn) (.run ok_brcmFetch torn) hsettles
  have hstart : Paired Device.blank := ⟨none, rfl⟩
  exact (recordsAgree_of_mended hstart hlife ok_brcmFetch (by decide +kernel)).1
    (by decide +kernel)

/-- A line is 59 bytes shorter than the text of its record, or more. -/
theorem not_recordsAgree_of_length {d : Device} {n m : Nat}
    (hline : (d.files .previousParodusRebootInfoFile).map List.length = some n)
    (htext : (d.files .previousRebootInfoFile).map List.length = some m) (hlong : m < n + 59) :
    ¬ RecordsAgree d := by
  intro hagree
  obtain ⟨line, hfile, rfl⟩ := Option.map_eq_some_iff.mp hline
  obtain ⟨r, hr, rfl⟩ := hagree line hfile
  rw [hr, Option.map_some, Option.some.injEq, length_rebootInfoText] at htext
  have hlength := length_parodusLine r
  omega

/-- A run from the factory behind which a run of the fetcher that ends with success leaves two records
that do not agree. -/
def Disagreement (es : List Event) : Prop :=
  ∃ d, Run Lives Device.blank es d ∧ (fetcherMain (brcmRun .epoch)).result d = .success ∧
    ¬ RecordsAgree ((fetcherMain (brcmRun .epoch)).final d)

/-- The lengths of the two texts tell. -/
theorem disagreement_of_length {es : List Event} {d : Device} (hrun : Run Lives Device.blank es d)
    {n m : Nat} (hlong : m < n + 59)
    (hfetch : (fetcherMain (brcmRun .epoch)).result d = .success ∧
      (((fetcherMain (brcmRun .epoch)).final d).files .previousParodusRebootInfoFile).map List.length
        = some n ∧
      (((fetcherMain (brcmRun .epoch)).final d).files .previousRebootInfoFile).map List.length
        = some m) : Disagreement es :=
  ⟨d, hrun, hfetch.1, not_recordsAgree_of_length hfetch.2.1 hfetch.2.2 hlong⟩

/-- A power loss in `rebootnow` between the two pending files, a power loss in the fetcher between the
rename and the `unlink`, and a run behind a closed gate after a request has overwritten
previousreboot.info: each leaves records that do not agree. -/
theorem records_disagree :
    Disagreement [.run upgradeReboot, .reboot, .outside, .run brcmFetch,
        .powerLoss serviceReboot 16, .outside] ∧
      Disagreement [.run upgradeReboot, .reboot, .outside, .powerLoss brcmFetch 1, .outside] ∧
      Disagreement [.run upgradeReboot, .reboot, .outside, .run brcmFetch, .reboot,
        .run serviceReboot] := by
  have hservice : 151 < 130 + 59 := by omega
  have hderived : 180 < 130 + 59 := by omega
  refine ⟨?_, ?_, ?_⟩
  · have hlost := run_upgraded.append (.cons (.run ok_brcmFetch _)
      (.cons (.powerLoss ok_serviceReboot 16 _) (.cons (lives_received _) (.nil _))))
    exact disagreement_of_length hlost hservice (by decide +kernel)
  · exact disagreement_of_length (run_upgraded.append run_torn) hderived (by decide +kernel)
  · have hclosed := run_upgraded.append (.cons (.run ok_brcmFetch _) (.cons (.reboot _)
      (.cons (.run ok_serviceReboot _) (.nil _))))
    exact disagreement_of_length hclosed hservice (by decide +kernel)

end RebootManager
