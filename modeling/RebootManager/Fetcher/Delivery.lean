/-
# RebootManager.Fetcher.Delivery -- every record is delivered once and in order

Over the life of a device, requests write reboot.info and runs of the fetcher rename it onto
previousreboot.info. Opens fail, writes stop early, the power goes between any two updates, the gate is open
or closed. Whatever happens, reboot.info is a place for one letter: what the fetcher hands over are, in their
order and each one once, first parts of the records of requests, whole where nothing went wrong; and a record
is lost only when the next request falls upon it (`delivered_in_order`).
-/
import RebootManager.Fetcher.RecordsAgree
import RebootManager.Foundation.Mailbox

namespace RebootManager

open Foundation

/-! ## What can be seen of an event -/

/-- What updates do to the place, told from the updates themselves: a request that opens reboot.info leaves
what is in it afterwards; a rename takes what is in previousreboot.info afterwards. -/
def mailOf (d : Device) (done : List DeviceOp) : Option (Mail Bytes) :=
  if .file (.openTrunc .rebootInfoFile) ∈ done then
    ((execOps done d).files .rebootInfoFile).map .left
  else if .file (.rename .rebootInfoFile .previousRebootInfoFile) ∈ done then
    ((execOps done d).files .previousRebootInfoFile).map .taken
  else none

/-- An event in the life of a device, with what it does to the place. Nothing is said about what fails. -/
inductive Happens : Device → Event × Option (Mail Bytes) → Device → Prop where
  | run (p : Invocation) (d : Device) :
    Happens d (.run p, mailOf d (p.ops d)) (execOps (p.ops d) d)
  | powerLoss (p : Invocation) (done : Nat) (d : Device) :
    Happens d (.powerLoss p done, mailOf d ((p.ops d).take done))
      (execOps ((p.ops d).take done) d).rebooted
  | reboot (d : Device) : Happens d (.reboot, none) d.rebooted
  | outside {d d' : Device} (h : d'.files .rebootInfoFile = d.files .rebootInfoFile) :
    Happens d (.outside, none) d'

/-- The record that an invocation asks to have delivered. -/
def Invocation.record : Invocation → Option RebootInfo
  | .rebootnow env opts =>
    match parseRequest opts with
    | .ok req => some (req.record env)
    | .error _ => none
  | .fetcher _ => none

def Event.record : Event → Option RebootInfo
  | .run p | .powerLoss p _ => p.record
  | .reboot | .outside => none

/-- A complete invocation that writes what it means to write. -/
def Event.Whole : Event → Prop
  | .run (.rebootnow env _) => env.io.Ok
  | _ => False

/-! ## The place and one invocation -/

section Place

variable {f : File} {d : Device} {ops : List DeviceOp}

theorem files_execOps_of_untouched (h : ∀ o ∈ ops, ¬ OnFile f o) (d : Device) :
    (execOps ops d).files f = d.files f := by
  refine execOps_frame (fun d : Device => d.files f) (fun o ho d => ?_) d
  cases o with
  | file op => exact FileOp.run_of_not_target (h _ ho) d.files
  | _ => rfl

theorem SparesPending.not_onFile {o : DeviceOp} (h : SparesPending o) : ¬ OnFile .rebootInfoFile o := by
  cases o with
  | file op => exact h.1
  | _ => exact id

theorem FilesOnly.not_onFile {S : List File} {o : DeviceOp} (h : FilesOnly S o) (hf : f ∉ S) :
    ¬ OnFile f o := by
  cases o with
  | file op => exact fun hon => hf (h f hon)
  | _ => exact id

theorem mailOf_of_spares (h : ∀ o ∈ ops, ¬ OnFile .rebootInfoFile o) (d : Device) :
    mailOf d ops = none := by
  have hopen : .file (.openTrunc .rebootInfoFile) ∉ ops := fun hmem =>
    h _ hmem (List.mem_singleton_self _)
  have hrename : .file (.rename .rebootInfoFile .previousRebootInfoFile) ∉ ops := fun hmem =>
    h _ hmem List.mem_cons_self
  rw [mailOf, if_neg hopen, if_neg hrename]

end Place

/-- What an invocation, complete or cut, does to the place. -/
inductive Moved (d : Device) (p : Invocation) (done : List DeviceOp) : Prop where
  | nothing (hmail : mailOf d done = none)
      (hfile : (execOps done d).files .rebootInfoFile = d.files .rebootInfoFile)
  | left (r : RebootInfo) (content : Bytes) (hrecord : p.record = some r)
      (hpart : content <+: rebootInfoText r)
      (hwhole : done = p.ops d → (Event.run p).Whole → content = rebootInfoText r)
      (hmail : mailOf d done = some (.left content))
      (hfile : (execOps done d).files .rebootInfoFile = some content)
  | taken (content : Bytes) (hmail : mailOf d done = some (.taken content))
      (hbefore : d.files .rebootInfoFile = some content)
      (hfile : (execOps done d).files .rebootInfoFile = none)

section Moves

variable {d : Device} {done : List DeviceOp}

theorem Moved.of_spares {p : Invocation} (h : ∀ o ∈ done, ¬ OnFile .rebootInfoFile o) :
    Moved d p done :=
  .nothing (mailOf_of_spares h d) (files_execOps_of_untouched h d)

/-- A stream into reboot.info, with updates of other files around it. -/
theorem moved_of_stream {before part tail : List DeviceOp} {pieces : List Bytes}
    (hpart : part = (pieces.map (FileOp.append File.rebootInfoFile)).map DeviceOp.file)
    (htail : ∀ o ∈ tail, ¬ OnFile .rebootInfoFile o) (d : Device) :
    mailOf d (before ++ .file (.openTrunc .rebootInfoFile) :: part ++ tail) = some (.left pieces.flatten) ∧
      (execOps (before ++ .file (.openTrunc .rebootInfoFile) :: part ++ tail) d).files .rebootInfoFile
        = some pieces.flatten := by
  have hfile : (execOps (before ++ .file (.openTrunc .rebootInfoFile) :: part ++ tail) d).files
      .rebootInfoFile = some pieces.flatten := by
    rw [execOps_append, files_execOps_of_untouched htail, execOps_append, execOps_cons, hpart, execOps_file]
    show execOps (pieces.map (FileOp.append File.rebootInfoFile))
      (Function.update (execOps before d).files File.rebootInfoFile (some [])) File.rebootInfoFile = _
    rw [execOps_appends pieces _ (Function.update_self ..)]
    simp
  refine ⟨?_, hfile⟩
  rw [mailOf, if_pos (by simp), hfile]
  rfl

/-- A request. -/
theorem moved_rebootnow {env : HelperEnv} {opts : List Opt}
    (hdone : done <+: (Invocation.rebootnow env opts).ops d) : Moved d (.rebootnow env opts) done := by
  by_cases hreq : ∃ req, Requests env opts d req
  case neg =>
    have hspares := spares_rebootnowMain fun req h => hreq ⟨req, h⟩
    exact .of_spares fun o ho => (hspares o (hdone.subset ho)).not_onFile
  obtain ⟨req, hreq⟩ := hreq
  have hwrites := writesPending_rebootnowMain hreq
  obtain ⟨before, after, hops, hbefore, hafter⟩ := writesPending_rebootnowMain hreq
  have hline : ∀ o ∈ (env.io.writeOps .parodusRebootInfoFile (req.line env)).map DeviceOp.file ++ after,
      ¬ OnFile .rebootInfoFile o := by
    intro o ho
    rcases List.mem_append.mp ho with ho | ho
    · obtain ⟨op, hop, rfl⟩ := List.mem_map.mp ho
      show File.rebootInfoFile ∉ op.targets
      simp [Io.targets_writeOps hop]
    · exact (hafter o ho).not_onFile
  have hrecord : (Invocation.rebootnow env opts).record = some (req.record env) := by
    simp [Invocation.record, hreq.options]
  have hopsEq : (Invocation.rebootnow env opts).ops d = (rebootnowMain env opts).ops d := rfl
  rw [hopsEq, hops] at hdone
  cases hcan : env.io.canWrite .rebootInfoFile with
  | false =>
    -- the open fails, and what an earlier request has left stays
    have hnone : env.io.writeOps .rebootInfoFile (rebootInfoText (req.record env)) = [] := by
      simp [Io.writeOps, hcan]
    rw [hnone, List.map_nil, List.nil_append, List.append_assoc] at hdone
    refine .of_spares fun o ho => ?_
    rcases List.mem_append.mp (hdone.subset ho) with ho | ho
    · exact (hbefore o ho).not_onFile
    · exact hline o ho
  | true =>
    set stream := ((env.io.pieces .rebootInfoFile (rebootInfoText (req.record env))).map
      (FileOp.append File.rebootInfoFile)).map DeviceOp.file with hstream
    have hwrite : (env.io.writeOps .rebootInfoFile (rebootInfoText (req.record env))).map DeviceOp.file
        = .file (.openTrunc .rebootInfoFile) :: stream := by
      rw [Io.writeOps, if_pos hcan, List.map_cons]
    have hall : before ++ ((env.io.writeOps .rebootInfoFile (rebootInfoText (req.record env))).map
          DeviceOp.file ++ (env.io.writeOps .parodusRebootInfoFile (req.line env)).map DeviceOp.file) ++ after
        = before ++ .file (.openTrunc .rebootInfoFile) :: stream ++
          ((env.io.writeOps .parodusRebootInfoFile (req.line env)).map DeviceOp.file ++ after) := by
      simp [hwrite]
    rw [hall] at hdone
    rcases prefix_around hdone with hearly | ⟨part, tail, hpart, htail, rfl⟩
    · exact .of_spares fun o ho => (hbefore o (hearly.subset ho)).not_onFile
    obtain ⟨ops, hopsPart, rfl⟩ := List.prefix_map_iff.mp hpart
    obtain ⟨pieces, hpieces, rfl⟩ := List.prefix_map_iff.mp hopsPart
    obtain ⟨hmail, hfile⟩ := @moved_of_stream _ _ _ pieces rfl
      (fun o ho => hline o (htail.subset ho)) d
    refine .left (req.record env) pieces.flatten hrecord ?_ ?_ hmail hfile
    · obtain ⟨more, hmore⟩ := hpieces
      have hinit := env.io.pieces_initial .rebootInfoFile (rebootInfoText (req.record env))
      rw [← hmore, List.flatten_append] at hinit
      exact (List.prefix_append _ _).trans hinit
    · intro hcomplete hio
      have hwritten := congrArg Prod.fst (hwrites.pending_complete hio d)
      rw [← hopsEq, ← hcomplete] at hwritten
      exact Option.some.inj (hfile.symm.trans hwritten)

/-- The rename, with updates of other files behind it. -/
theorem moved_of_rename {tail : List DeviceOp} {content : Bytes}
    (hinfo : d.files .rebootInfoFile = some content)
    (htail : ∀ o ∈ tail, ¬ OnFile .rebootInfoFile o ∧ ¬ OnFile .previousRebootInfoFile o) :
    mailOf d (.file (.rename .rebootInfoFile .previousRebootInfoFile) :: tail) = some (.taken content) ∧
      (execOps (.file (.rename .rebootInfoFile .previousRebootInfoFile) :: tail) d).files .rebootInfoFile
        = none := by
  set d₁ := DeviceOp.run (.file (.rename .rebootInfoFile .previousRebootInfoFile)) d with hd₁
  have hrun : execOps (.file (.rename .rebootInfoFile .previousRebootInfoFile) :: tail) d
      = execOps tail d₁ := rfl
  have hfile : d₁.files .rebootInfoFile = none := by
    simp [hd₁, DeviceOp.run, FileOp.run, hinfo]
  have hprevious : d₁.files .previousRebootInfoFile = some content := by
    simp [hd₁, DeviceOp.run, FileOp.run, hinfo, Function.update_of_ne]
  have hopen : .file (.openTrunc .rebootInfoFile)
      ∉ .file (.rename .rebootInfoFile .previousRebootInfoFile) :: tail := by
    intro hmem
    rcases List.mem_cons.mp hmem with heq | hmem
    · cases heq
    · exact (htail _ hmem).1 (List.mem_singleton_self _)
  rw [mailOf, if_neg hopen, if_pos List.mem_cons_self, hrun,
    files_execOps_of_untouched fun o ho => (htail o ho).2, hprevious,
    files_execOps_of_untouched fun o ho => (htail o ho).1, hfile]
  exact ⟨rfl, rfl⟩

/-- A run of the fetcher. -/
theorem moved_fetcher {env : FetcherEnv} (hdone : done <+: (Invocation.fetcher env).ops d) :
    Moved d (.fetcher env) done := by
  by_cases hpasses : ∃ ctx, Passes env ctx d
  case neg =>
    have hquiet := ops_fetcherMain_of_not_passes fun ctx h => hpasses ⟨ctx, h⟩
    exact .of_spares fun o ho => (hquiet o (hdone.subset ho)).not_onFile (by decide)
  obtain ⟨ctx, hctx⟩ := hpasses
  have hops : (Invocation.fetcher env).ops d = (updatePreviousReboot env ctx).ops d ++
      (touchFile env.io .pathFlagInvocation).ops ((updatePreviousReboot env ctx).final d) :=
    (fetcherMain_of_passes hctx).1
  have hflag := emits_touchFile env.io .pathFlagInvocation ((updatePreviousReboot env ctx).final d)
  rw [hops] at hdone
  -- where nothing is renamed, a derived record at most is written
  have hderived : (∀ o ∈ (updatePreviousReboot env ctx).ops d,
      FilesOnly (.previousRebootInfoFile :: handOnFiles) o) → Moved d (.fetcher env) done := by
    intro hall
    refine .of_spares fun o ho => ?_
    rcases List.mem_append.mp (hdone.subset ho) with ho | ho
    · exact (hall o ho).not_onFile (by decide)
    · exact (hflag o ho).not_onFile (by decide)
  cases hout : renameOutcome env d with
  | renamed =>
    obtain ⟨content, hcontent⟩ := exists_rebootInfo_of_renamed hout
    have hbehind := emits_finishRenamed env ctx
      (DeviceOp.run (.file (.rename .rebootInfoFile .previousRebootInfoFile)) d)
    rw [ops_updatePreviousReboot_renamed hout, List.cons_append] at hdone
    rcases List.prefix_cons_iff.mp hdone with rfl | ⟨tail, rfl, htail⟩
    · exact .of_spares nofun
    have hspares : ∀ o ∈ tail, ¬ OnFile .rebootInfoFile o ∧ ¬ OnFile .previousRebootInfoFile o := by
      intro o ho
      rcases List.mem_append.mp (htail.subset ho) with ho | ho
      · exact ⟨(hbehind o ho).not_onFile (by decide), (hbehind o ho).not_onFile (by decide)⟩
      · exact ⟨(hflag o ho).not_onFile (by decide), (hflag o ho).not_onFile (by decide)⟩
    obtain ⟨hmail, hfile⟩ := moved_of_rename hcontent hspares
    exact .taken content hmail hcontent hfile
  | noEntry =>
    apply hderived
    rw [ops_updatePreviousReboot_noEntry hout]
    intro o ho
    rcases List.mem_append.mp ho with ho | ho
    · exact ((logsOnly_deriveRebootInfo env ctx).sideOnly d o ho).mono (by decide)
    · exact emits_finishDerived env ctx _ _ o ho
  | failed =>
    apply hderived
    rw [ops_updatePreviousReboot_failed hout]
    exact emits_finishDerived env ctx _ d

theorem moved_of_part {p : Invocation} (hdone : done <+: p.ops d) : Moved d p done := by
  cases p with
  | rebootnow env opts => exact moved_rebootnow hdone
  | fetcher env => exact moved_fetcher hdone

end Moves

/-! ## The place over the life of a device -/

section Steps

variable {d d' : Device} {p : Invocation} {done : List DeviceOp} {e : Event × Option (Mail Bytes)}

theorem Moved.step (h : Moved d p done) {m : Mail Bytes} (hm : mailOf d done = some m) :
    Mail.Step (d.files .rebootInfoFile) m ((execOps done d).files .rebootInfoFile) := by
  cases h with
  | nothing hmail => cases hmail.symm.trans hm
  | left r content _ _ _ hmail hfile =>
    rw [← Option.some.inj (hmail.symm.trans hm), hfile]
    exact .left _ _
  | taken content hmail hbefore hfile =>
    rw [← Option.some.inj (hmail.symm.trans hm), hbefore, hfile]
    exact .taken _

theorem Moved.quiet (h : Moved d p done) (hm : mailOf d done = none) :
    (execOps done d).files .rebootInfoFile = d.files .rebootInfoFile := by
  cases h with
  | nothing _ hfile => exact hfile
  | left _ _ _ _ _ hmail => cases hmail.symm.trans hm
  | taken _ hmail => cases hmail.symm.trans hm

/-- What is left is a first part of the record, and all of it where the run is complete. -/
theorem Moved.carries (h : Moved d p done) {content : Bytes} (hm : mailOf d done = some (.left content)) :
    ∃ r, p.record = some r ∧ content <+: rebootInfoText r ∧
      (done = p.ops d → (Event.run p).Whole → content = rebootInfoText r) := by
  cases h with
  | nothing hmail => cases hmail.symm.trans hm
  | left r text hrecord hpart hwhole hmail =>
    cases hmail.symm.trans hm
    exact ⟨r, hrecord, hpart, hwhole⟩
  | taken _ hmail => cases hmail.symm.trans hm

theorem rebooted_rebootInfo (d : Device) : d.rebooted.files .rebootInfoFile = d.files .rebootInfoFile :=
  Device.rebooted_files rfl

theorem step_of_happens (h : Happens d e d') {m : Mail Bytes} (hm : e.2 = some m) :
    Mail.Step (d.files .rebootInfoFile) m (d'.files .rebootInfoFile) := by
  cases h with
  | run p => exact (moved_of_part (List.prefix_refl _)).step hm
  | powerLoss p done =>
    rw [rebooted_rebootInfo]
    exact (moved_of_part (List.take_prefix done _)).step hm
  | reboot => cases hm
  | outside => cases hm

theorem quiet_of_happens (h : Happens d e d') (hm : e.2 = none) :
    d'.files .rebootInfoFile = d.files .rebootInfoFile := by
  cases h with
  | run p => exact (moved_of_part (List.prefix_refl _)).quiet hm
  | powerLoss p done =>
    rw [rebooted_rebootInfo]
    exact (moved_of_part (List.take_prefix done _)).quiet hm
  | reboot => exact rebooted_rebootInfo d
  | outside hsame => exact hsame

/-- What the request of this event means to leave, or the part of it that it got to. -/
def Event.Carries (e : Event) (content : Bytes) : Prop :=
  ∃ r, e.record = some r ∧ content <+: rebootInfoText r ∧ (e.Whole → content = rebootInfoText r)

theorem carries_of_happens (h : Happens d e d') {content : Bytes} (hm : e.2 = some (.left content)) :
    e.1.Carries content := by
  cases h with
  | run p =>
    obtain ⟨r, hrecord, hpart, hwhole⟩ := (moved_of_part (List.prefix_refl _)).carries hm
    exact ⟨r, hrecord, hpart, hwhole rfl⟩
  | powerLoss p done =>
    obtain ⟨r, hrecord, hpart, -⟩ := (moved_of_part (List.take_prefix done _)).carries hm
    exact ⟨r, hrecord, hpart, False.elim⟩
  | reboot => cases hm
  | outside => cases hm

end Steps

/-- The letters left over a run are carried by its requests, in their order. -/
theorem carried_of_run {d d' : Device} {es : List (Event × Option (Mail Bytes))} (h : Run Happens d es d') :
    List.SublistForall₂ (fun content e => Event.Carries e content)
      (Mail.allLeft (es.filterMap Prod.snd)) (es.map Prod.fst) := by
  induction h with
  | nil => exact .nil
  | @cons _ _ _ e es hfirst _ ih =>
    match hmail : e.2 with
    | none =>
      rw [List.filterMap_cons_none hmail]
      exact ih.cons_right
    | some (.taken content) =>
      rw [List.filterMap_cons_some hmail]
      exact ih.cons_right
    | some (.left content) =>
      rw [List.filterMap_cons_some hmail]
      exact ih.cons (carries_of_happens hfirst hmail)

/-- A complete run past the gate takes what is pending. -/
theorem taken_of_passes {env : FetcherEnv} {ctx : EnvContext} {d : Device} (hpasses : Passes env ctx d)
    (hrename : env.renameFault = false) {content : Bytes} (hpending : d.files .rebootInfoFile = some content) :
    mailOf d ((fetcherMain env).ops d) = some (.taken content) := by
  have hgone : (execOps ((fetcherMain env).ops d) d).files .rebootInfoFile = none :=
    rebootInfo_of_passes hpasses hrename
  have hmoved : Moved d (.fetcher env) ((fetcherMain env).ops d) := moved_fetcher (List.prefix_refl _)
  cases hmoved with
  | nothing _ hfile => cases (hgone.symm.trans hfile).trans hpending
  | left _ _ hrecord => cases hrecord
  | taken letter hmail hbefore =>
    rw [hmail, Option.some.inj (hbefore.symm.trans hpending)]

/-- **Every record is delivered once and in order.** In any life of a device that begins with no reboot.info,
what the fetcher has handed over, with what is still pending behind it, is carried by requests of that life, in
their order, each by its own; whatever a request has left has been handed over, is pending, or has been
overwritten by the next request; and the next complete run past the gate hands over what is pending. -/
theorem delivered_in_order {start d : Device} {es : List (Event × Option (Mail Bytes))}
    (hlife : Run Happens start es d) (hstart : start.files .rebootInfoFile = none) :
    List.SublistForall₂ (fun content e => Event.Carries e content)
        (Mail.allTaken (es.filterMap Prod.snd) ++ (d.files .rebootInfoFile).toList) (es.map Prod.fst) ∧
      (Mail.allLeft (es.filterMap Prod.snd)).Perm
        (Mail.allTaken (es.filterMap Prod.snd) ++ (d.files .rebootInfoFile).toList ++
          Mail.overwritten none (es.filterMap Prod.snd)) ∧
      ∀ env ctx, Passes env ctx d → env.renameFault = false → ∀ content,
        d.files .rebootInfoFile = some content →
          mailOf d ((fetcherMain env).ops d) = some (.taken content) := by
  have hplace : Run Mail.Step none (es.filterMap Prod.snd) (d.files .rebootInfoFile) := by
    rw [← hstart]
    exact hlife.refines (fun d => d.files .rebootInfoFile) Prod.snd
      (fun _ _ _ h _ hm => step_of_happens h hm) (fun _ _ _ h hm => quiet_of_happens h hm)
  exact ⟨Mail.taken_carried hplace (carried_of_run hlife), Mail.perm_taken hplace,
    fun _ _ hpasses hrename _ hpending => taken_of_passes hpasses hrename hpending⟩

/-! ## From the factory -/

/-- The device behind a request and the reboot, with the system time received. -/
def serviceUp : Device := (execOps (serviceReboot.ops Device.blank) Device.blank).rebooted.received

/-- A request, the reboot, the system time, and a run of the fetcher. -/
def serviceLife : List (Event × Option (Mail Bytes)) :=
  [(.run serviceReboot, mailOf Device.blank (serviceReboot.ops Device.blank)), (.reboot, none),
   (.outside, none), (.run brcmFetch, mailOf serviceUp (brcmFetch.ops serviceUp))]

theorem happens_received (d : Device) : Happens d (.outside, none) d.received := by
  have hne : File.rebootInfoFile ≠ .sttFlag := by decide
  exact .outside (Function.update_of_ne hne (some []) d.files)

theorem run_serviceLife :
    Run Happens Device.blank serviceLife (execOps (brcmFetch.ops serviceUp) serviceUp) :=
  .cons (.run _ _) (.cons (.reboot _) (.cons (happens_received _) (.cons (.run _ serviceUp) (.nil _))))

example : Mail.allTaken (serviceLife.filterMap Prod.snd)
    = [rebootInfoText (serviceRequest.record (.plain .epoch 300))] := by decide +kernel

theorem delivered_in_order_service :
    List.SublistForall₂ (fun content e => Event.Carries e content)
        (Mail.allTaken (serviceLife.filterMap Prod.snd) ++
          ((execOps (brcmFetch.ops serviceUp) serviceUp).files .rebootInfoFile).toList)
        (serviceLife.map Prod.fst) :=
  (delivered_in_order run_serviceLife rfl).1

end RebootManager
