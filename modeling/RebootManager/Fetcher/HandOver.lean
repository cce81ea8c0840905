/-
# RebootManager.Fetcher.HandOver -- the record handed over from one boot to the next

`rebootnow` leaves reboot.info and parodusreboot.info behind, two files for one record; the fetcher turns
them into previousreboot.info and previousparodusreboot.info, one by a rename, the other by a copy and an
`unlink`. Seen from outside that is a slot for one record: a request puts its record in, a run past the
STT gate takes out what is there, or makes up a record where nothing is, and everything else leaves the
slot alone.

The files are a faithful picture of the slot only outside two sections: in `rebootnow` from the open of
reboot.info to the last write of parodusreboot.info, in the fetcher from the rename to the `unlink`. A run
cut inside one of them leaves one file of a pair.
-/
import RebootManager.Fetcher.PersistedRecord
import RebootManager.Helper.RebootMain

namespace RebootManager

open Foundation

/-! ## The slot -/

/-- A record whose parodus line the fetcher copies whole. -/
structure Copyable (r : RebootInfo) : Prop where
  noNul : '\x00' ∉ parodusLine r
  short : (parodusLine r).length ≤ maxBufferSize - 1

/-- What is handed over: a record, or nothing. -/
abbrev Slot := Option { r : RebootInfo // Copyable r }

/-- The two files of a slot. -/
def Slot.files : Slot → Option Bytes × Option Bytes
  | none => (none, none)
  | some r => (some (rebootInfoText r), some (parodusLine r))

/-- The record that is there after the hand-over. -/
def Slot.taken (slot : Slot) (derived : RebootInfo) : RebootInfo :=
  match slot with
  | none => derived
  | some r => r

@[simp] theorem Slot.taken_none (derived : RebootInfo) : Slot.taken none derived = derived := rfl

@[simp] theorem Slot.taken_some (r : { r : RebootInfo // Copyable r }) (derived : RebootInfo) :
    Slot.taken (some r) derived = r := rfl

/-- The pending files of a device. -/
def pending (d : Device) : Option Bytes × Option Bytes :=
  (d.files .rebootInfoFile, d.files .parodusRebootInfoFile)

/-- The device shows the slot. -/
def Shows (d : Device) (slot : Slot) : Prop := pending d = slot.files

/-- The pending files are a picture of some slot. -/
def Paired (d : Device) : Prop := ∃ slot, Shows d slot

/-- An update that names neither pending file. -/
def SparesPending : DeviceOp → Prop
  | .file op => File.rebootInfoFile ∉ op.targets ∧ File.parodusRebootInfoFile ∉ op.targets
  | _ => True

theorem TouchesOnly.sparesPending {S : List File} (hinfo : File.rebootInfoFile ∉ S)
    (hparodus : File.parodusRebootInfoFile ∉ S) {o : DeviceOp} (h : TouchesOnly S o) :
    SparesPending o := by
  cases o with
  | file op => exact ⟨fun hmem => hinfo (h _ hmem), fun hmem => hparodus (h _ hmem)⟩
  | _ => trivial

theorem FilesOnly.sparesPending {S : List File} (hinfo : File.rebootInfoFile ∉ S)
    (hparodus : File.parodusRebootInfoFile ∉ S) {o : DeviceOp} (h : FilesOnly S o) :
    SparesPending o :=
  TouchesOnly.sparesPending hinfo hparodus (h.touchesOnly (List.Subset.refl S))

theorem SparesPending.pending_eq {o : DeviceOp} (h : SparesPending o) (d : Device) :
    pending (Effect.apply o d) = pending d := by
  cases o with
  | file op =>
    exact Prod.ext (FileOp.run_of_not_target h.1 d.files) (FileOp.run_of_not_target h.2 d.files)
  | _ => rfl

theorem pending_execOps {ops : List DeviceOp} (h : ∀ o ∈ ops, SparesPending o) (d : Device) :
    pending (execOps ops d) = pending d :=
  execOps_frame pending (fun o ho d => (h o ho).pending_eq d) d

/-! ## The two sections -/

/-- An update of this file. -/
def OnFile (f : File) : DeviceOp → Prop
  | .file op => f ∈ op.targets
  | _ => False

instance (f : File) : DecidablePred (OnFile f) := fun o =>
  match o with
  | .file op => inferInstanceAs (Decidable (f ∈ op.targets))
  | .setRfc _ _ | .cronRemove _ | .cronAdd _ | .reboot => inferInstanceAs (Decidable False)

/-- A cut outside the section from the first update of reboot.info to the last of parodusreboot.info. -/
abbrev KeepsPair (done rest : List DeviceOp) : Prop :=
  KeepsOut (OnFile .rebootInfoFile) (OnFile .parodusRebootInfoFile) done rest

/-- A program that opens the section with `first`, closes it with `last`, and names neither file before or
after: a cut that keeps out leaves the pending files as they were, or as they are behind `last`. -/
theorem pending_of_cut {before middle after done rest : List DeviceOp} {first last : DeviceOp}
    {d : Device} (hcut : done ++ rest = before ++ first :: (middle ++ last :: after))
    (hkeeps : KeepsPair done rest) (hfirst : OnFile .rebootInfoFile first)
    (hlast : OnFile .parodusRebootInfoFile last) (hbefore : ∀ o ∈ before, SparesPending o)
    (hafter : ∀ o ∈ after, SparesPending o) :
    pending (execOps done d) = pending d ∨
      pending (execOps done d) = pending (execOps (before ++ first :: (middle ++ [last])) d) := by
  rcases hkeeps with hdone | hrest
  · have hinit := prefix_of_unmarked_done hcut hfirst hdone
    exact Or.inl (pending_execOps (fun o ho => hbefore o (hinit.subset ho)) d)
  · have hsplit : done ++ rest = (before ++ first :: middle) ++ last :: after := by simp [hcut]
    obtain ⟨more, hmore⟩ := prefix_of_unmarked_rest hsplit hlast hrest
    have hmem : ∀ o ∈ more, SparesPending o := by
      intro o ho
      have hall : more ++ rest = after := by
        rw [← hmore] at hsplit
        simpa using hsplit
      exact hafter o (hall ▸ List.mem_append_left rest ho)
    refine Or.inr ?_
    rw [← hmore, execOps_append, pending_execOps hmem]
    simp

/-! ## `rebootnow` puts a record in -/

/-- The updates write the two pending files, one after the other, and otherwise spare them. -/
def WritesPending (io : Io File) (info line : Bytes) (ops : List DeviceOp) : Prop :=
  ∃ before after,
    ops = before ++ ((io.writeOps .rebootInfoFile info).map DeviceOp.file ++
      (io.writeOps .parodusRebootInfoFile line).map DeviceOp.file) ++ after ∧
    (∀ o ∈ before, SparesPending o) ∧ ∀ o ∈ after, SparesPending o

section WritesPending

variable {io : Io File} {info line : Bytes} {ops : List DeviceOp}

/-- More updates in front or behind that spare the files make no difference. -/
theorem WritesPending.extend (h : WritesPending io info line ops) {front back : List DeviceOp}
    (hfront : ∀ o ∈ front, SparesPending o) (hback : ∀ o ∈ back, SparesPending o) :
    WritesPending io info line (front ++ ops ++ back) := by
  obtain ⟨before, after, rfl, hbefore, hafter⟩ := h
  refine ⟨front ++ before, after ++ back, by simp, ?_, ?_⟩
  · intro o ho
    rcases List.mem_append.mp ho with ho | ho
    · exact hfront o ho
    · exact hbefore o ho
  · intro o ho
    rcases List.mem_append.mp ho with ho | ho
    · exact hafter o ho
    · exact hback o ho

/-- A write that opens its file ends with an update of it. -/
theorem exists_last_write (h : io.canWrite f = true) (text : Bytes) :
    ∃ init last, (io.writeOps f text).map DeviceOp.file = init ++ [last] ∧ OnFile f last := by
  rcases List.eq_nil_or_concat (io.writeOps f text) with hnil | ⟨init, last, hconcat⟩
  · rw [Io.writeOps, if_pos h] at hnil
    cases hnil
  · have hmem : last ∈ io.writeOps f text := by simp [hconcat]
    have htargets := Io.targets_writeOps hmem
    refine ⟨init.map DeviceOp.file, .file last, by simp [hconcat], ?_⟩
    show f ∈ last.targets
    simp [htargets]

/-- Written whole, the two files hold the two texts. -/
theorem WritesPending.pending_complete (h : WritesPending io info line ops) (hio : io.Ok)
    (d : Device) : pending (execOps ops d) = (some info, some line) := by
  obtain ⟨before, after, rfl, -, hafter⟩ := h
  rw [execOps_append, pending_execOps hafter, execOps_append, execOps_append, execOps_file,
    execOps_file, hio.execOps_write, hio.execOps_write]
  simp [pending, Function.update_of_ne]

/-- Cut outside the section, they are as they were or hold the two texts. -/
theorem WritesPending.pending_of_cut (h : WritesPending io info line ops) (hio : io.Ok)
    {done rest : List DeviceOp} (hcut : done ++ rest = ops) (hkeeps : KeepsPair done rest)
    (d : Device) :
    pending (execOps done d) = pending d ∨ pending (execOps done d) = (some info, some line) := by
  obtain ⟨before, after, rfl, hbefore, hafter⟩ := h
  obtain ⟨init, last, hlast, hon⟩ := exists_last_write (hio.writes .parodusRebootInfoFile) line
  set pieces := ((io.pieces .rebootInfoFile info).map (FileOp.append .rebootInfoFile)).map
    DeviceOp.file with hpieces
  have hinfo : (io.writeOps .rebootInfoFile info).map DeviceOp.file =
      .file (.openTrunc .rebootInfoFile) :: pieces := by
    rw [Io.writeOps, if_pos (hio.writes _), List.map_cons]
  have hsplit : done ++ rest =
      before ++ .file (.openTrunc .rebootInfoFile) :: (pieces ++ init ++ last :: after) := by
    simp [hcut, hinfo, hlast]
  have hwhole : WritesPending io info line
      (before ++ .file (.openTrunc .rebootInfoFile) :: (pieces ++ init ++ [last])) :=
    ⟨before, [], by simp [hinfo, hlast], hbefore, fun _ ho => absurd ho List.not_mem_nil⟩
  have hfirst : OnFile .rebootInfoFile (.file (.openTrunc .rebootInfoFile)) :=
    List.mem_singleton_self _
  rcases RebootManager.pending_of_cut hsplit hkeeps hfirst hon hbefore hafter with hsame | hboth
  · exact Or.inl hsame
  · exact Or.inr (hboth.trans (hwhole.pending_complete hio d))

end WritesPending

/-! ## `rebootnow`, cut or complete -/

/-- The invocation gets past the guard and its options and makes this request. -/
structure Requests (env : HelperEnv) (opts : List Opt) (d : Device) (req : Request) : Prop where
  guard : (pidfileWriteAndGuard env).result d = true
  options : parseRequest opts = .ok req

/-- The line as `rebootnow` prints it, through a buffer of 1024 bytes. -/
def Request.line (req : Request) (env : HelperEnv) : Bytes := snprintf 1024 (parodusLine (req.record env))

theorem spares_pidfileWriteAndGuard (env : HelperEnv) :
    (pidfileWriteAndGuard env).Emits SparesPending :=
  (emits_pidfileWriteAndGuard env).mono fun _ => FilesOnly.sparesPending (by decide) (by decide)

theorem spares_cleanupPidfile : cleanupPidfile.Emits SparesPending :=
  (emits_unlinkFile .pidFile).mono fun _ => FilesOnly.sparesPending (by decide) (by decide)

theorem spares_finishRequest (env : HelperEnv) (req : Request) (proceed : Bool) :
    (finishRequest env req proceed).Emits SparesPending := by
  have hwrite : (writeFile env.io .previousRebootInfoFile
      (rebootInfoText (req.record env))).Emits SparesPending :=
    (emits_writeFile env.io _ _).mono fun _ => FilesOnly.sparesPending (by decide) (by decide)
  refine hwrite.bind fun _ => ?_
  split
  · exact (emits_proceed env _).mono fun _ => TouchesOnly.sparesPending (by decide) (by decide)
  · exact Prog.emits_pure ()

theorem writesPending_saveRebootInfo (env : HelperEnv) (req : Request) (d : Device) :
    WritesPending env.io (rebootInfoText (req.record env)) (req.line env)
      ((saveRebootInfo env req).ops d) := by
  have hlog : ∀ d, ∀ o ∈ (writeFile env.io .rebootInfoLog []).ops d ++
      (writeRebootinfoLog env.io (rebootInfoLogLines req (timestampUpdate env.now))).ops
        ((writeFile env.io .rebootInfoLog []).final d), SparesPending o := by
    intro d o ho
    rcases List.mem_append.mp ho with ho | ho
    · exact (emits_writeFile env.io _ _ _ o ho).sparesPending (by decide) (by decide)
    · exact (emits_writeRebootinfoLog env.io _ _ o ho).sparesPending (by decide) (by decide)
  refine ⟨_, [], ?_, hlog d, fun _ ho => absurd ho List.not_mem_nil⟩
  simp only [saveRebootInfo, Prog.ops_bind, List.append_assoc, List.append_nil]
  rfl

/-- A request writes the two files one after the other, whatever it is that it decides. -/
theorem writesPending_rebootnowMain {env : HelperEnv} {opts : List Opt} {d : Device} {req : Request}
    (h : Requests env opts d req) :
    WritesPending env.io (rebootInfoText (req.record env)) (req.line env)
      ((rebootnowMain env opts).ops d) := by
  set d₁ := (pidfileWriteAndGuard env).final d with hd₁
  have hdecide : (handleCyclicReboot env req.cause).Emits SparesPending :=
    (emits_handleCyclicReboot env _).mono fun _ =>
      TouchesOnly.sparesPending (by decide) (by decide)
  have hops : (rebootnowMain env opts).ops d = (pidfileWriteAndGuard env).ops d ++
      (saveRebootInfo env req).ops d₁ ++
      ((handleCyclicReboot env req.cause).ops ((saveRebootInfo env req).final d₁) ++
        ((finishRequest env req ((decideReboot env req).result d₁)).ops
            ((decideReboot env req).final d₁) ++
          cleanupPidfile.ops ((requestReboot env req).final d₁))) := by
    simp [rebootnowMain, h.guard, h.options, requestReboot, decideReboot, hd₁]
  rw [hops]
  refine (writesPending_saveRebootInfo env req d₁).extend ?_ ?_
  · exact spares_pidfileWriteAndGuard env d
  · intro o ho
    simp only [List.mem_append] at ho
    rcases ho with ho | ho | ho
    · exact hdecide _ o ho
    · exact spares_finishRequest env req _ _ o ho
    · exact spares_cleanupPidfile _ o ho

/-- Any other invocation spares the pending files. -/
theorem spares_rebootnowMain {env : HelperEnv} {opts : List Opt} {d : Device}
    (h : ∀ req, ¬ Requests env opts d req) : ∀ o ∈ (rebootnowMain env opts).ops d, SparesPending o := by
  have hguard := spares_pidfileWriteAndGuard env d
  intro o ho
  rw [rebootnowMain, Prog.ops_bind, List.mem_append] at ho
  rcases ho with ho | ho
  · exact hguard o ho
  · cases hrun : (pidfileWriteAndGuard env).result d with
    | false => simp [hrun] at ho
    | true =>
      cases hopts : parseRequest opts with
      | ok req => exact absurd ⟨hrun, hopts⟩ (h req)
      | error status =>
        apply spares_cleanupPidfile _ o
        simpa [hrun, hopts] using ho

theorem noNul_parodusLine {r : RebootInfo} (ht : '\x00' ∉ r.timestamp) (hs : '\x00' ∉ r.source)
    (hr : '\x00' ∉ r.reason) (hc : '\x00' ∉ r.customReason) : '\x00' ∉ parodusLine r := by
  have hhead : '\x00' ∉ "PreviousRebootInfo:".toList := by decide
  unfold parodusLine
  generalize "PreviousRebootInfo:".toList = head at hhead ⊢
  simp [hhead, ht, hr, hc, hs]

theorem length_parodusLine (r : RebootInfo) :
    (parodusLine r).length = r.timestamp.length + r.reason.length + r.customReason.length
      + r.source.length + 23 := by
  have hhead : "PreviousRebootInfo:".toList.length = 19 := by decide
  unfold parodusLine
  generalize "PreviousRebootInfo:".toList = head at hhead ⊢
  simp only [List.length_append, List.length_singleton, hhead]
  omega

/-- No argument can put a NUL into the line. -/
theorem Request.noNul_parodusLine (req : Request) (env : HelperEnv) :
    '\x00' ∉ parodusLine (req.record env) := by
  have htime : '\x00' ∉ timestampUpdate env.now := not_mem_timestampUpdate env.now (by decide)
  apply RebootManager.noNul_parodusLine
  · dsimp only [Request.record, Cause.record]
    exact htime
  · exact req.noNul_cause.source
  · exact req.noNul_cause.reason
  · exact req.noNul_cause.customReason

/-- The line of this request fits what the fetcher reads of it. -/
def Request.ShortLine (req : Request) (env : HelperEnv) : Prop :=
  (parodusLine (req.record env)).length ≤ maxBufferSize - 1

/-- A short line is copied whole. -/
theorem Request.ShortLine.copyable {req : Request} {env : HelperEnv} (h : req.ShortLine env) :
    Copyable (req.record env) :=
  ⟨req.noNul_parodusLine env, h⟩

theorem Request.ShortLine.line_eq {req : Request} {env : HelperEnv} (h : req.ShortLine env) :
    req.line env = parodusLine (req.record env) := by
  have hfits : (parodusLine (req.record env)).length ≤ 511 := h
  exact snprintf_of_fits (by omega)

section Put

variable {env : HelperEnv} {opts : List Opt} {d : Device}

/-- A complete request puts its record into the slot, whatever was there. -/
theorem shows_rebootnowMain (hio : env.io.Ok) {req : Request} (hreq : Requests env opts d req)
    (hshort : req.ShortLine env) :
    Shows ((rebootnowMain env opts).final d) (some ⟨req.record env, hshort.copyable⟩) := by
  have hboth := (writesPending_rebootnowMain hreq).pending_complete hio d
  rw [hshort.line_eq] at hboth
  exact hboth

/-- An invocation cut outside the section leaves the slot alone or has put its record in. -/
theorem paired_of_cut_rebootnowMain (hio : env.io.Ok)
    (hshort : ∀ req, parseRequest opts = .ok req → req.ShortLine env) {done rest : List DeviceOp}
    (hcut : done ++ rest = (rebootnowMain env opts).ops d) (hkeeps : KeepsPair done rest)
    (hpaired : Paired d) : Paired (execOps done d) := by
  obtain ⟨slot, hslot⟩ := hpaired
  by_cases hreq : ∃ req, Requests env opts d req
  · obtain ⟨req, hreq⟩ := hreq
    have hfits := hshort req hreq.options
    rcases (writesPending_rebootnowMain hreq).pending_of_cut hio hcut hkeeps d with hsame | hboth
    · exact ⟨slot, hsame.trans hslot⟩
    · rw [hfits.line_eq] at hboth
      exact ⟨some ⟨req.record env, hfits.copyable⟩, hboth⟩
  · have hspares := spares_rebootnowMain fun req h => hreq ⟨req, h⟩
    have hsame := pending_execOps (fun o ho => hspares o (hcut ▸ List.mem_append_left rest ho)) d
    exact ⟨slot, hsame.trans hslot⟩

end Put

/-! ## The fetcher takes it out -/

/-- The text `handle_parodus_reboot_file` hands on of a copyable line is the line. -/
theorem Copyable.handedOn {r : RebootInfo} (h : Copyable r) :
    endedLine (parodusBuffer (parodusLine r)) = parodusLine r := by
  have hbuffer : parodusBuffer (parodusLine r) = parodusLine r := by
    rw [parodusBuffer, List.take_of_length_le h.short, cstr_eq_self h.noNul]
  rw [hbuffer]
  have hend : (parodusLine r).getLast? = some '\n' := List.getLast?_concat
  rw [endedLine, if_neg]
  exact fun hopen => hopen.2 hend

section Take

variable {env : FetcherEnv} {ctx : EnvContext} {d : Device}

/-- What `handle_parodus_reboot_file` does to the two parodus files. -/
theorem files_handleParodusRebootFile (hio : env.io.Ok) (info : RebootInfo) (d : Device) :
    ((handleParodusRebootFile env info).final d).files .parodusRebootInfoFile = none ∧
      ((handleParodusRebootFile env info).final d).files .previousParodusRebootInfoFile =
        match d.files .parodusRebootInfoFile with
        | some content => some (endedLine (parodusBuffer content))
        | none =>
          if info.reason = [] ∧ info.customReason = [] ∧ info.source = [] then
            d.files .previousParodusRebootInfoFile
          else some (parodusLine info) := by
  simp only [handleParodusRebootFile, Prog.final_bind, Prog.final_get, Prog.result_get]
  cases hfile : d.files .parodusRebootInfoFile with
  | some content =>
    simp only [hio.reads, hio.writes, Bool.and_self, if_true, Prog.final_bind, Prog.final_pure,
      final_unlinkFile, final_writeFile hio, final_appendFile hio]
    simp [Function.update_of_ne]
  | none =>
    by_cases hblank : info.reason = [] ∧ info.customReason = [] ∧ info.source = []
    · simp [hblank, hfile]
    · simp [hblank, hfile, final_writeFile hio, Function.update_of_ne]

/-- Behind the rename, only `handle_parodus_reboot_file` touches files that are no side files. -/
theorem files_finishRenamed {f : File} (hf : f ∉ sideFiles) (d : Device) :
    ((finishRenamed env ctx).final d).files f =
      ((handleParodusRebootFile env env.blankInfo).final d).files f := by
  simp only [finishRenamed, Prog.final_bind, Prog.final_pure]
  rw [files_final_sideOnly (logsOnly_copyKeypressInfo env).sideOnly hf,
    files_final_sideOnly (logsOnly_updatePreviousRebootLogFields env true).sideOnly hf,
    files_final_sideOnly (logsOnly_updateKernelLog env ctx _).sideOnly hf]

/-- With a derived record, it runs on the device with the record written. -/
theorem files_finishDerived (hio : env.io.Ok) {f : File} (hf : f ∉ sideFiles) (info : RebootInfo)
    (d : Device) :
    ∃ d', (∀ g, g ∉ File.previousRebootInfoFile :: sideFiles → d'.files g = d.files g) ∧
      ((finishDerived env ctx info).final d).files f =
        ((handleParodusRebootFile env info).final d').files f := by
  set d₁ := (updatePreviousRebootLogFields env false).final ((updateKernelLog env ctx info).final d)
    with hd₁
  set d₂ := (writeRebootInfo env info).final d₁ with hd₂
  have hwritten : (writeRebootInfo env info).result d₁ = true := hio.writes _
  refine ⟨(updateParodusLog env info).final d₂, ?_, ?_⟩
  · intro g hg
    obtain ⟨hprev, hside⟩ := not_or.mp fun h => hg (List.mem_cons.mpr h)
    have hwrite : d₂.files g = d₁.files g := by
      rw [hd₂, writeRebootInfo, Prog.final_bind, Prog.final_pure]
      exact files_final_of_touchesOnly (touches_writeFile env.io _ (List.mem_singleton_self _))
        (by simpa using hprev) d₁
    rw [files_final_sideOnly (logsOnly_updateParodusLog env info).sideOnly hside, hwrite, hd₁,
      files_final_sideOnly (logsOnly_updatePreviousRebootLogFields env false).sideOnly hside,
      files_final_sideOnly (logsOnly_updateKernelLog env ctx info).sideOnly hside]
  · simp only [finishDerived, persistRebootInfo, handOnRebootInfo, Prog.final_bind, ← hd₁, hwritten,
      if_true, Prog.final_pure, ← hd₂]
    rw [files_final_sideOnly (logsOnly_copyKeypressInfo env).sideOnly hf,
      files_final_sideOnly (logsOnly_whenever (logsOnly_writeHardpower env _)).sideOnly hf]

/-- What a run past the gate does to the two parodus files. -/
theorem parodusFiles_of_passes (hok : env.Ok) (h : Passes env ctx d) :
    ((fetcherMain env).final d).files .parodusRebootInfoFile = none ∧
      ((fetcherMain env).final d).files .previousParodusRebootInfoFile =
        match d.files .parodusRebootInfoFile with
        | some content => some (endedLine (parodusBuffer content))
        | none =>
          if d.exists .rebootInfoFile then d.files .previousParodusRebootInfoFile
          else some (parodusLine ((deriveRebootInfo env ctx).result d)) := by
  have hparodus : File.parodusRebootInfoFile ∉ sideFiles := by decide
  have hprevious : File.previousParodusRebootInfoFile ∉ sideFiles := by decide
  rw [files_fetcherMain_of_passes h (by decide), files_fetcherMain_of_passes h (by decide),
    updatePreviousReboot, Prog.final_bind, Prog.result_get, Prog.final_get, renameOutcome, hok.rename,
    if_neg Bool.false_ne_true]
  cases hexists : d.exists .rebootInfoFile with
  | true =>
    simp only [if_true, Prog.final_bind]
    set d₁ := (fileOps [FileOp.rename .rebootInfoFile .previousRebootInfoFile]).final d with hd₁
    have hsame : ∀ g, g ≠ .rebootInfoFile → g ≠ .previousRebootInfoFile →
        d₁.files g = d.files g := by
      intro g hinfo hprev
      have hout : g ∉ (FileOp.rename File.rebootInfoFile .previousRebootInfoFile).targets := by
        simp [FileOp.targets, hinfo, hprev]
      rw [hd₁, final_fileOps]
      exact FileOp.run_of_not_target hout d.files
    have hboth := files_handleParodusRebootFile hok.io env.blankInfo d₁
    rw [hsame _ (by decide) (by decide), hsame _ (by decide) (by decide)] at hboth
    rw [files_finishRenamed hparodus, files_finishRenamed hprevious]
    exact hboth
  | false =>
    simp only [Bool.false_eq_true, if_false, Prog.final_bind]
    set info := (deriveRebootInfo env ctx).result d with hinfo
    set d₁ := (deriveRebootInfo env ctx).final d with hd₁
    have hderive : ∀ g, g ∉ sideFiles → d₁.files g = d.files g := fun g hg =>
      files_final_sideOnly (logsOnly_deriveRebootInfo env ctx).sideOnly hg d
    have hfilled : ¬ (info.reason = [] ∧ info.customReason = [] ∧ info.source = []) :=
      fun hblank => (deriveRebootInfo_filled env ctx d).reason hblank.1
    have htwo : ∀ f, f ∉ sideFiles → ∃ d', (∀ g, g ∉ File.previousRebootInfoFile :: sideFiles →
        d'.files g = d.files g) ∧ ((finishDerived env ctx info).final d₁).files f =
          ((handleParodusRebootFile env info).final d').files f := by
      intro f hf
      obtain ⟨d', hframe, heq⟩ := @files_finishDerived env ctx hok.io f hf info d₁
      refine ⟨d', fun g hg => ?_, heq⟩
      rw [hframe g hg, hderive g fun hside => hg (List.mem_cons_of_mem _ hside)]
    constructor
    · obtain ⟨d', -, heq⟩ := htwo _ hparodus
      rw [heq]
      exact (files_handleParodusRebootFile hok.io info d').1
    · obtain ⟨d', hframe, heq⟩ := htwo _ hprevious
      rw [heq, (files_handleParodusRebootFile hok.io info d').2, hframe _ (by decide), if_neg hfilled]

/-- Past the gate, nothing is left pending. -/
theorem shows_none_of_passes (hok : env.Ok) (h : Passes env ctx d) :
    Shows ((fetcherMain env).final d) none :=
  Prod.ext (rebootInfo_of_passes h hok.rename) (parodusFiles_of_passes hok h).1

/-- **The hand-over.** A complete run past the gate empties the slot and leaves both previous files with
the record that was in it, or with the derived one where it was empty. -/
theorem takes_slot (hok : env.Ok) (h : Passes env ctx d) {slot : Slot} (hslot : Shows d slot) :
    ((fetcherMain env).final d).files .previousRebootInfoFile =
        some (rebootInfoText (slot.taken ((deriveRebootInfo env ctx).result d))) ∧
      ((fetcherMain env).final d).files .previousParodusRebootInfoFile =
        some (parodusLine (slot.taken ((deriveRebootInfo env ctx).result d))) := by
  have hprevious := previousAfter_of_passes hok.io.complete h
  have hparodus := (parodusFiles_of_passes hok h).2
  rw [previousAfter, renameOutcome, hok.rename, if_neg Bool.false_ne_true, Device.exists]
    at hprevious
  rw [Device.exists] at hparodus
  obtain ⟨hinfo, hline⟩ := Prod.ext_iff.mp hslot
  cases slot with
  | none =>
    rw [show d.files .rebootInfoFile = none from hinfo] at hprevious hparodus
    rw [show d.files .parodusRebootInfoFile = none from hline] at hparodus
    exact ⟨by simpa [hok.io.writes] using hprevious, by simpa using hparodus⟩
  | some r =>
    rw [show d.files .rebootInfoFile = some (rebootInfoText r) from hinfo] at hprevious hparodus
    rw [show d.files .parodusRebootInfoFile = some (parodusLine r) from hline] at hparodus
    exact ⟨by simpa using hprevious, by simpa [r.property.handedOn] using hparodus⟩

end Take

/-! ## The fetcher, cut -/

/-- What a program does where nothing is pending spares the pending files. -/
def SparesEmpty (p : DeviceProg α) : Prop :=
  ∀ d, Shows d none → ∀ o ∈ p.ops d, SparesPending o

theorem sparesEmpty_of_emits {p : DeviceProg α} (hp : p.Emits SparesPending) : SparesEmpty p :=
  fun d _ => hp d

/-- What comes next is run where nothing is pending, too. -/
theorem SparesEmpty.bind {p : DeviceProg α} {k : α → DeviceProg β} (hp : SparesEmpty p)
    (hk : ∀ a, SparesEmpty (k a)) : SparesEmpty (p >>= k) := by
  intro d hnone o ho
  rw [Prog.ops_bind, List.mem_append] at ho
  rcases ho with ho | ho
  · exact hp d hnone o ho
  · exact hk _ _ ((pending_execOps (hp d hnone) d).trans hnone) o ho

theorem sparesEmpty_sideOnly {p : DeviceProg α} (hp : SideOnly p) : SparesEmpty p :=
  sparesEmpty_of_emits (hp.mono fun _ => FilesOnly.sparesPending (by decide) (by decide))

theorem sparesEmpty_handleParodusRebootFile (env : FetcherEnv) (info : RebootInfo) :
    SparesEmpty (handleParodusRebootFile env info) := by
  intro d hnone o ho
  have hfile : d.files .parodusRebootInfoFile = none := congrArg Prod.snd hnone
  simp only [handleParodusRebootFile, Prog.ops_bind, Prog.ops_get, Prog.result_get, Prog.final_get,
    hfile, List.nil_append] at ho
  split at ho
  · cases ho
  · rw [Prog.ops_bind, Prog.ops_pure, List.append_nil] at ho
    exact (emits_writeFile env.io _ _ _ o ho).sparesPending (by decide) (by decide)

theorem sparesEmpty_finishDerived (env : FetcherEnv) (ctx : EnvContext) (info : RebootInfo) :
    SparesEmpty (finishDerived env ctx info) := by
  have hpure : ∀ status : Status, SparesEmpty (pure status : DeviceProg Status) :=
    fun status => sparesEmpty_of_emits (Prog.emits_pure status)
  have hwrite : SparesEmpty (writeRebootInfo env info) := by
    refine sparesEmpty_of_emits (Prog.Emits.bind ?_ fun _ => Prog.emits_pure _)
    exact (emits_writeFile env.io _ _).mono fun _ => FilesOnly.sparesPending (by decide) (by decide)
  have hhandOn : SparesEmpty (handOnRebootInfo env info) := by
    refine (sparesEmpty_sideOnly (logsOnly_updateParodusLog env info).sideOnly).bind fun _ => ?_
    refine (sparesEmpty_handleParodusRebootFile env info).bind fun _ => ?_
    refine (sparesEmpty_sideOnly (logsOnly_whenever (logsOnly_writeHardpower env _)).sideOnly).bind fun _ => ?_
    exact sparesEmpty_sideOnly (logsOnly_copyKeypressInfo env).sideOnly
  refine (sparesEmpty_sideOnly (logsOnly_updateKernelLog env ctx info).sideOnly).bind fun _ => ?_
  refine (sparesEmpty_sideOnly (logsOnly_updatePreviousRebootLogFields env false).sideOnly).bind fun _ => ?_
  refine hwrite.bind fun written => ?_
  split
  · exact hhandOn.bind fun _ => hpure _
  · exact hpure _

/-- Where nothing is pending, a run never touches the pending files. -/
theorem sparesEmpty_updatePreviousReboot (env : FetcherEnv) (ctx : EnvContext) :
    SparesEmpty (updatePreviousReboot env ctx) := by
  intro d hnone
  cases hout : renameOutcome env d with
  | renamed =>
    obtain ⟨content, hcontent⟩ := exists_rebootInfo_of_renamed hout
    have hmissing : d.files .rebootInfoFile = none := congrArg Prod.fst hnone
    rw [hmissing] at hcontent
    cases hcontent
  | noEntry =>
    have hboth : SparesEmpty (deriveRebootInfo env ctx >>= finishDerived env ctx) :=
      (sparesEmpty_sideOnly (logsOnly_deriveRebootInfo env ctx).sideOnly).bind fun info =>
        sparesEmpty_finishDerived env ctx info
    rw [ops_updatePreviousReboot_noEntry hout]
    exact hboth d hnone
  | failed =>
    rw [ops_updatePreviousReboot_failed hout]
    exact sparesEmpty_finishDerived env ctx _ d hnone

section TakeCut

variable {env : FetcherEnv} {d : Device}

/-- Where a line is pending, `handle_parodus_reboot_file` ends with its removal. -/
theorem ops_handleParodusRebootFile_some (hio : env.io.Ok) (info : RebootInfo) {content : Bytes}
    (hfile : d.files .parodusRebootInfoFile = some content) :
    ∃ middle, (handleParodusRebootFile env info).ops d =
      middle ++ [.file (.unlink .parodusRebootInfoFile)] := by
  simp only [handleParodusRebootFile, Prog.ops_bind, Prog.ops_get, Prog.result_get, Prog.final_get,
    hfile, List.nil_append, hio.reads, hio.writes, Bool.and_self, if_true, Prog.ops_pure,
    List.append_nil]
  rw [← List.append_assoc]
  exact ⟨_, rfl⟩

/-- Behind the parodus files, the pending files are spared. -/
theorem ops_finishRenamed (env : FetcherEnv) (ctx : EnvContext) (d : Device) :
    ∃ after, (finishRenamed env ctx).ops d =
      (handleParodusRebootFile env env.blankInfo).ops d ++ after ∧ ∀ o ∈ after, SparesPending o := by
  refine ⟨_, Prog.ops_bind _ _ d, ?_⟩
  have hside : ∀ o, FilesOnly sideFiles o → SparesPending o :=
    fun _ => FilesOnly.sparesPending (by decide) (by decide)
  apply Prog.Emits.mono hside
  refine (logsOnly_updateKernelLog env ctx _).sideOnly.bind fun _ => ?_
  refine (logsOnly_updatePreviousRebootLogFields env true).sideOnly.bind fun _ => ?_
  exact (logsOnly_copyKeypressInfo env).sideOnly.bind fun _ => Prog.emits_pure _

/-- Where a record is pending, a run past the gate begins with the rename, goes on to the removal of the
line, at which point nothing is pending any more, and then spares the pending files. -/
theorem ops_fetcherMain_some (hok : env.Ok) {ctx : EnvContext} (hpasses : Passes env ctx d)
    {r : { r : RebootInfo // Copyable r }} (hslot : Shows d (some r)) :
    ∃ middle after,
      (fetcherMain env).ops d = .file (.rename .rebootInfoFile .previousRebootInfoFile) ::
        (middle ++ .file (.unlink .parodusRebootInfoFile) :: after) ∧
      (∀ o ∈ after, SparesPending o) ∧
      Shows (execOps (.file (.rename .rebootInfoFile .previousRebootInfoFile) ::
        (middle ++ [.file (.unlink .parodusRebootInfoFile)])) d) none := by
  have hinfo : d.files .rebootInfoFile = some (rebootInfoText r) := congrArg Prod.fst hslot
  have hline : d.files .parodusRebootInfoFile = some (parodusLine r) := congrArg Prod.snd hslot
  have hout : renameOutcome env d = .renamed := by
    simp [renameOutcome, hok.rename, Device.exists, hinfo]
  set d₁ := DeviceOp.run (.file (.rename .rebootInfoFile .previousRebootInfoFile)) d with hd₁
  have hinfo₁ : d₁.files .rebootInfoFile = none := by
    simp [hd₁, DeviceOp.run, FileOp.run, hinfo]
  have hline₁ : d₁.files .parodusRebootInfoFile = some (parodusLine r) := by
    simp [hd₁, DeviceOp.run, FileOp.run, hinfo, hline, Function.update_of_ne]
  obtain ⟨middle, hmiddle⟩ := ops_handleParodusRebootFile_some hok.io env.blankInfo hline₁
  obtain ⟨behind, hbehind, hspares⟩ := ops_finishRenamed env ctx d₁
  have hops := @ops_updatePreviousReboot_renamed env ctx d hout
  rw [← hd₁, hbehind, hmiddle] at hops
  refine ⟨middle, behind ++ (touchFile env.io .pathFlagInvocation).ops
    ((updatePreviousReboot env ctx).final d), ?_, ?_, ?_⟩
  · rw [(fetcherMain_of_passes hpasses).1, hops]
    simp
  · intro o ho
    rcases List.mem_append.mp ho with ho | ho
    · exact hspares o ho
    · exact (emits_touchFile env.io _ _ o ho).sparesPending (by decide) (by decide)
  · -- the removal is where `handle_parodus_reboot_file` ends
    rw [execOps_cons, ← hmiddle]
    show pending ((handleParodusRebootFile env env.blankInfo).final d₁) = (none, none)
    refine Prod.ext ?_ (files_handleParodusRebootFile hok.io env.blankInfo d₁).1
    exact ((emits_handleParodusRebootFile env _).final (fun d => d.files .rebootInfoFile)
      (fun o ho d => ho.files_eq (by decide) d) d₁).trans hinfo₁

/-- A run cut outside the section leaves the slot alone or has emptied it. -/
theorem paired_of_cut_fetcherMain (hok : env.Ok) {done rest : List DeviceOp}
    (hcut : done ++ rest = (fetcherMain env).ops d) (hkeeps : KeepsPair done rest)
    (hpaired : Paired d) : Paired (execOps done d) := by
  obtain ⟨slot, hslot⟩ := hpaired
  have hspared : (∀ o ∈ (fetcherMain env).ops d, SparesPending o) → Paired (execOps done d) := by
    intro hall
    have hsame := pending_execOps (fun o ho => hall o (hcut ▸ List.mem_append_left rest ho)) d
    exact ⟨slot, hsame.trans hslot⟩
  by_cases hpasses : ∃ ctx, Passes env ctx d
  case neg =>
    have hquiet := ops_fetcherMain_of_not_passes fun ctx h => hpasses ⟨ctx, h⟩
    exact hspared fun o ho => (hquiet o ho).sparesPending (by decide) (by decide)
  obtain ⟨ctx, hctx⟩ := hpasses
  cases slot with
  | none =>
    apply hspared
    intro o ho
    rw [(fetcherMain_of_passes hctx).1, List.mem_append] at ho
    rcases ho with ho | ho
    · exact sparesEmpty_updatePreviousReboot env ctx d hslot o ho
    · exact (emits_touchFile env.io _ _ o ho).sparesPending (by decide) (by decide)
  | some r =>
    obtain ⟨middle, after, hops, hafter, hempty⟩ := ops_fetcherMain_some hok hctx hslot
    rw [hops] at hcut
    have hfirst : OnFile .rebootInfoFile (.file (.rename .rebootInfoFile .previousRebootInfoFile)) :=
      List.mem_cons_self
    have hlast : OnFile .parodusRebootInfoFile (.file (.unlink .parodusRebootInfoFile)) :=
      List.mem_cons_self
    rcases pending_of_cut hcut hkeeps hfirst hlast
      (fun _ ho => absurd ho List.not_mem_nil) hafter with hsame | htaken
    · exact ⟨some r, hsame.trans hslot⟩
    · exact ⟨none, htaken.trans hempty⟩

end TakeCut

end RebootManager
