/-
# RebootManager.Fetcher.BootLoop -- the reboot loop with the fetcher in it

A reboot loop stops after six reboots as long as the fetcher of each boot hands over the record of the request.
Here the fetcher is the whole program, in any environment, complete or cut, and so is `rebootnow`, guard and
options included. What undoes loop detection are slips: a run of the fetcher that finds no record and writes one
of its own, and a request that is cut, or asks for something else. Each of them is good for seven reboots at
most, and a life without slips has no reboot behind a deferred request (`bootLoop_bound`).
-/
import RebootManager.Fetcher.RecordsAgree
import RebootManager.Helper.CounterCut
import RebootManager.Helper.ScriptCall

namespace RebootManager

open Foundation

/-! ## What an event comes to -/

/-- The file has been opened for writing. -/
def opens (f : File) (done : List DeviceOp) : Bool := done.any (· = .file (.openTrunc f))

/-- The reboot command has been given. -/
def givesReboot (done : List DeviceOp) : Bool := done.any (· = .reboot)

/-- The options ask for the cause, and the uptime is inside the window. -/
def asksFor (cause : Cause) (env : HelperEnv) (opts : List Opt) : Bool :=
  match parseRequest opts with
  | .ok req => req.cause = cause && withinWindow env
  | .error _ => false

/-- What the updates of an invocation come to for the loop. -/
structure Passage where
  reboots : Bool
  /-- A request has come to its end without the reboot command. -/
  defers : Bool
  slips : Bool

/-- The updates that have been made tell what has happened: a request begins with its log, and a derived record
is written into previousreboot.info. -/
def passage (cause : Cause) (p : Invocation) (complete : Bool) (done : List DeviceOp) : Passage :=
  match p with
  | .rebootnow env opts =>
    { reboots := givesReboot done
      defers := opens .rebootInfoLog done && complete && !givesReboot done
      slips := opens .rebootInfoLog done && !(complete && asksFor cause env opts) }
  | .fetcher _ =>
    { reboots := givesReboot done
      defers := false
      slips := opens .previousRebootInfoFile done }

/-- Nothing has happened. -/
def Passage.quiet : Passage := ⟨false, false, false⟩

/-- The loop state and the two records are as they were. -/
structure Aside (d d' : Device) : Prop where
  loop : loopState d' = loopState d
  pending : d'.files .rebootInfoFile = d.files .rebootInfoFile
  previous : d'.files .previousRebootInfoFile = d.files .previousRebootInfoFile

/-- The commands of a request succeed. Nothing is said about the fetcher. -/
def Invocation.Sound : Invocation → Prop
  | .rebootnow env _ => env.Ok
  | .fetcher _ => True

/-- An event in the life of a device, with what it comes to. -/
inductive Boots (cause : Cause) : Device → Event × Passage → Device → Prop where
  | run {p : Invocation} (h : p.Sound) (d : Device) :
    Boots cause d (.run p, passage cause p true (p.ops d)) (execOps (p.ops d) d)
  | powerLoss {p : Invocation} (h : p.Sound) (done : Nat) (d : Device) :
    Boots cause d (.powerLoss p done, passage cause p false ((p.ops d).take done))
      (execOps ((p.ops d).take done) d).rebooted
  | reboot (d : Device) : Boots cause d (.reboot, .quiet) d.rebooted
  | outside {d d' : Device} (h : Aside d d') : Boots cause d (.outside, .quiet) d'

/-! ## Updates that stand aside -/

/-- The files and the state of the loop. -/
def loopedFiles : List File :=
  [.rebootNowFlag, .rebootStopFlag, .rebootCounterFile, .rebootInfoFile, .previousRebootInfoFile]

namespace Aside

variable {d d' d'' : Device} {cause : Cause}

theorem refl (d : Device) : Aside d d := ⟨rfl, rfl, rfl⟩

theorem symm (h : Aside d d') : Aside d' d := ⟨h.loop.symm, h.pending.symm, h.previous.symm⟩

theorem trans (h : Aside d d') (h' : Aside d' d'') : Aside d d'' :=
  ⟨h'.loop.trans h.loop, h'.pending.trans h.pending, h'.previous.trans h.previous⟩

theorem of_filesOnly {S : List File} {ops : List DeviceOp} (hS : ∀ f ∈ loopedFiles, f ∉ S)
    (h : ∀ o ∈ ops, FilesOnly S o) (d : Device) : Aside d (execOps ops d) where
  loop := execOps_frame loopState (fun o ho d => loopState_filesOnly (hS _ (by decide)) (hS _ (by decide))
    (hS _ (by decide)) (h o ho) d) d
  pending := execOps_frame (fun d : Device => d.files .rebootInfoFile)
    (fun o ho d => (h o ho).files_eq (hS _ (by decide)) d) d
  previous := execOps_frame (fun d : Device => d.files .previousRebootInfoFile)
    (fun o ho d => (h o ho).files_eq (hS _ (by decide)) d) d

theorem rebooted (d : Device) : Aside d d.rebooted := ⟨loopState_rebooted d, rfl, rfl⟩

theorem tracking (h : Aside d d') (ht : Tracking cause d) : Tracking cause d' where
  rebootNow := h.loop ▸ ht.rebootNow
  previous := h.previous ▸ ht.previous
  pending := h.pending ▸ ht.pending

theorem watching (h : Aside d d') (hd : Watching d) : Watching d' :=
  ⟨h.loop ▸ hd.detection, h.loop ▸ hd.count⟩

theorem halted (h : Aside d d') (hd : Halted cause d) : Halted cause d' :=
  ⟨h.tracking hd.tracking, h.watching hd.watching, h.loop ▸ hd.rebootStop⟩

end Aside

/-! ## The fetcher -/

section Fetcher

variable {env : FetcherEnv} {d : Device} {done : List DeviceOp}

theorem stays_whenever {b : Bool} {p : DeviceProg Unit} (hp : p.Emits DeviceOp.Stays) :
    (whenever b p).Emits DeviceOp.Stays := by
  unfold whenever
  split
  · exact hp
  · exact Prog.emits_pure ()

theorem stays_handleParodusRebootFile (env : FetcherEnv) (info : RebootInfo) :
    (handleParodusRebootFile env info).Emits DeviceOp.Stays := by
  refine Prog.emits_get.bind fun d => ?_
  split
  · split
    · exact (stays_fileOps _).bind fun _ => (stays_fileOps _).bind fun _ =>
        (stays_fileOps _).bind fun _ => Prog.emits_pure _
    · exact Prog.emits_pure _
  · split
    · exact Prog.emits_pure _
    · exact (stays_fileOps _).bind fun _ => Prog.emits_pure _

theorem stays_copyKeypressInfo (env : FetcherEnv) : (copyKeypressInfo env).Emits DeviceOp.Stays := by
  refine Prog.emits_get.bind fun d => ?_
  split
  · exact stays_fileOps _
  · exact Prog.emits_pure ()

theorem stays_updatePreviousRebootLogFields (env : FetcherEnv) (hasRebootInfo : Bool) :
    (updatePreviousRebootLogFields env hasRebootInfo).Emits DeviceOp.Stays :=
  Prog.emits_get.bind fun _ => stays_fileOps _

theorem stays_finishDerived (env : FetcherEnv) (ctx : EnvContext) (info : RebootInfo) :
    (finishDerived env ctx info).Emits DeviceOp.Stays := by
  refine (stays_whenever (stays_fileOps _)).bind fun _ => ?_
  refine (stays_updatePreviousRebootLogFields env false).bind fun _ => ?_
  refine Prog.Emits.bind ((stays_fileOps _).bind fun _ => Prog.emits_pure _) fun written => ?_
  split
  · refine Prog.Emits.bind ?_ fun _ => Prog.emits_pure _
    refine (stays_fileOps _).bind fun _ => ?_
    refine (stays_handleParodusRebootFile env info).bind fun _ => ?_
    exact (stays_whenever (stays_fileOps _)).bind fun _ => stays_copyKeypressInfo env
  · exact Prog.emits_pure _

theorem stays_deriveRebootInfo (env : FetcherEnv) (ctx : EnvContext) :
    (deriveRebootInfo env ctx).Emits DeviceOp.Stays := by
  refine Prog.Emits.bind ?_ fun _ => Prog.emits_get.bind fun _ => Prog.emits_pure _
  refine Prog.emits_get.bind fun d => ?_
  split
  · split <;> exact Prog.emits_pure _
  split
  · split
    · exact (stays_fileOps _).bind fun _ => Prog.emits_pure _
    · exact Prog.emits_pure _
  · exact Prog.emits_pure _

/-- The fetcher never reboots. -/
theorem stays_fetcherMain (env : FetcherEnv) : (fetcherMain env).Emits DeviceOp.Stays := by
  unfold fetcherMain
  split
  · refine Prog.Emits.bind ?_ fun status => (stays_fileOps _).bind fun _ => Prog.emits_pure _
    refine Prog.emits_get.bind fun d => ?_
    split
    · exact Prog.emits_pure _
    split
    · split
      · refine Prog.emits_get.bind fun d => ?_
        split
        · refine (stays_fileOps _).bind fun _ => ?_
          refine (stays_handleParodusRebootFile env _).bind fun _ => ?_
          refine (stays_whenever (stays_fileOps _)).bind fun _ => ?_
          refine (stays_updatePreviousRebootLogFields env true).bind fun _ => ?_
          exact (stays_copyKeypressInfo env).bind fun _ => Prog.emits_pure _
        · exact (stays_deriveRebootInfo env _).bind fun info => stays_finishDerived env _ info
        · exact stays_finishDerived env _ _
      · exact Prog.emits_pure _
    · exact Prog.emits_pure _
  · exact Prog.emits_pure _

theorem givesReboot_eq_false (h : ∀ o ∈ done, o.Stays) : givesReboot done = false := by
  rw [givesReboot, List.any_eq_false]
  intro o ho hreboot
  exact h o ho (of_decide_eq_true hreboot)

end Fetcher

/-! ## `rebootnow` -/

section Rebootnow

variable {env : HelperEnv} {opts : List Opt} {d : Device} {done : List DeviceOp}

theorem aside_of_quiet (h : ∀ o ∈ done, o.Quiet) (d : Device) : Aside d (execOps done d) :=
  Aside.of_filesOnly (by decide) (fun o ho => (h o ho).filesOnly) d

/-- A request, with the pid file around it. -/
theorem ops_rebootnowMain_request {req : Request} (h : Requests env opts d req) :
    (rebootnowMain env opts).ops d = (pidfileWriteAndGuard env).ops d ++
      (requestReboot env req).ops ((pidfileWriteAndGuard env).final d) ++
        cleanupPidfile.ops ((requestReboot env req).final ((pidfileWriteAndGuard env).final d)) := by
  simp [rebootnowMain, h.guard, h.options]

/-- It begins with its log. -/
theorem ops_requestReboot_cons (hio : env.io.Ok) (req : Request) (d : Device) :
    ∃ rest, (requestReboot env req).ops d = .file (.openTrunc .rebootInfoLog) :: rest := by
  have hwrite : (writeFile env.io .rebootInfoLog []).ops d = .file (.openTrunc .rebootInfoLog) ::
      ((env.io.pieces .rebootInfoLog []).map (FileOp.append File.rebootInfoLog)).map DeviceOp.file := by
    rw [writeFile, fileOps, Prog.ops_emitAll, Io.writeOps, if_pos (hio.writes _), List.map_cons]
  simp only [requestReboot, decideReboot, saveRebootInfo, Prog.ops_bind, hwrite, List.cons_append]
  exact ⟨_, rfl⟩

/-- What a complete request comes to. -/
theorem exists_request (hio : env.io.Ok) {req : Request} (h : Requests env opts d req) :
    ∃ d₁, Aside d d₁ ∧
      Aside ((requestReboot env req).final d₁) (execOps ((rebootnowMain env opts).ops d) d) ∧
      givesReboot ((rebootnowMain env opts).ops d) = (requestReboot env req).result d₁ ∧
      opens .rebootInfoLog ((rebootnowMain env opts).ops d) = true := by
  have hguard := quiet_pidfileWriteAndGuard env d
  have hclean := quiet_unlinkPidFile ((requestReboot env req).final ((pidfileWriteAndGuard env).final d))
  refine ⟨(pidfileWriteAndGuard env).final d, aside_of_quiet hguard d, ?_, ?_, ?_⟩
  · rw [ops_rebootnowMain_request h, execOps_append, execOps_append]
    exact aside_of_quiet hclean _
  · have hquiet : ∀ {ops : List DeviceOp}, (∀ o ∈ ops, o.Quiet) → .reboot ∉ ops :=
      fun hops hmem => hops _ hmem
    rw [Bool.eq_iff_iff, ← reboot_mem_requestReboot, ops_rebootnowMain_request h, givesReboot,
      List.any_eq_true]
    constructor
    · rintro ⟨o, ho, heq⟩
      rw [of_decide_eq_true heq, List.mem_append, List.mem_append] at ho
      exact (ho.resolve_right (hquiet hclean)).resolve_left (hquiet hguard)
    · intro hmem
      exact ⟨.reboot, by simp [hmem], decide_eq_true rfl⟩
  · obtain ⟨rest, hrest⟩ := ops_requestReboot_cons hio req ((pidfileWriteAndGuard env).final d)
    rw [ops_rebootnowMain_request h, hrest]
    simp [opens]

end Rebootnow

/-! ## Steps without a slip -/

section Steps

variable {cause : Cause} {d d' : Device}

section Loop

variable (hread : ∀ t, parsePreviousRebootInfo (rebootInfoText (cause.record (timestampUpdate t))) = some cause)

include hread

end Loop

end Steps

/-! ## A service asks for it -/

theorem files_setFile_of_ne {f g : File} (h : g ≠ f) (d : Device) (content : Option Bytes) :
    (d.setFile f content).files g = d.files g := Function.update_of_ne h _ _

theorem aside_received (d : Device) : Aside d d.received where
  loop := loopState_setFile File.noConfusion File.noConfusion File.noConfusion
  pending := files_setFile_of_ne File.noConfusion d _
  previous := files_setFile_of_ne File.noConfusion d _

end RebootManager
