/-
# RebootManager.Fetcher.AtomicRecord -- previousreboot.info between two steps of a writer

Two programs write previousreboot.info: the fetcher in `write_reboot_info`, and `rebootnow` after the
reboot-loop decision. Both open the file with `"w"` and print the record into it. What a power loss
leaves of it, or `handle_cyclic_reboot` reads of it in between, is the content at a cut of the writer.
-/
import RebootManager.Fetcher.FetcherMain
import RebootManager.Helper.RebootMain

namespace RebootManager

open Foundation

/-- Wherever a run of `p` from `d` is cut, the file holds its old content or the new text. -/
def UpdatesAtomically (p : DeviceProg α) (f : File) (text : Bytes) (d : Device) : Prop :=
  ∀ d', p.Cut d d' → d'.files f = d.files f ∨ d'.files f = some text

/-- The condition under which opening a file with `"w"` and printing a text into it shows neither an
empty nor a partial file: the file cannot be opened, or it is there and empty, and no proper part of the
text reaches it on its own. -/
def RewriteHidden (io : Io File) (f : File) (text : Bytes) (d : Device) : Prop :=
  io.canWrite f = false ∨
    d.files f = some [] ∧ ∀ done, done <+: io.pieces f text → done.flatten = [] ∨ done.flatten = text

/-- The contents of a file at the cuts of a run that only updates files. -/
theorem files_of_cut_fileOps {ops : List (FileOp File)} {f : File} {d : Device}
    {content : Option Bytes} :
    (∃ d', (fileOps ops).Cut d d' ∧ d'.files f = content) ↔ Observable ops f d.files content := by
  constructor
  · rintro ⟨d', ⟨done, hdone, rfl⟩, rfl⟩
    obtain ⟨fileDone, hpre, rfl⟩ := List.prefix_map_iff.mp hdone
    exact ⟨fileDone, hpre, by rw [execOps_file]⟩
  · rintro ⟨done, hdone, rfl⟩
    exact ⟨execOps (done.map DeviceOp.file) d, ⟨done.map DeviceOp.file, hdone.map _, rfl⟩,
      by rw [execOps_file]⟩

/-- Rewriting a file is atomic exactly when the rewrite is hidden. -/
theorem updatesAtomically_writeFile_iff {io : Io File} {f : File} {text : Bytes} (hne : text ≠ [])
    {d : Device} : UpdatesAtomically (writeFile io f text) f text d ↔ RewriteHidden io f text d := by
  have hcuts : UpdatesAtomically (writeFile io f text) f text d ↔
      AtomicUpdate (io.writeOps f text) f text d.files := by
    constructor
    · intro hatomic content hseen
      obtain ⟨d', hcut, rfl⟩ := files_of_cut_fileOps.mpr hseen
      exact hatomic d' hcut
    · intro hatomic d' hcut
      exact hatomic _ (files_of_cut_fileOps.mp ⟨d', hcut, rfl⟩)
  rw [hcuts]
  cases hcan : io.canWrite f with
  | true =>
    rw [atomicUpdate_write_iff hcan hne, RewriteHidden]
    simp [hcan]
  | false =>
    have hnone : io.writeOps f text = [] := by simp [Io.writeOps, hcan]
    have hatomic : AtomicUpdate (io.writeOps f text) f text d.files := by
      rintro content ⟨done, hdone, rfl⟩
      rw [hnone] at hdone
      rw [List.prefix_nil.mp hdone]
      exact Or.inl rfl
    exact ⟨fun _ => Or.inl hcan, fun _ => hatomic⟩

/-- What comes before or after the rewrite and leaves the file alone does not matter. -/
theorem updatesAtomically_bind_iff {p : DeviceProg α} {f : File} {text : Bytes} {d : Device}
    {S : List File} (hf : f ∉ S) {k : α → DeviceProg β} (hk : ∀ a, (k a).Emits (TouchesOnly S)) :
    UpdatesAtomically (p >>= k) f text d ↔ UpdatesAtomically p f text d := by
  constructor
  · intro h d' hcut
    exact h d' (Prog.cut_bind_iff.mpr (Or.inl hcut))
  · intro h d' hcut
    rcases Prog.cut_bind_iff.mp hcut with hfirst | hrest
    · exact h d' hfirst
    · -- behind `p` the file is as `p` left it, and that is a cut of `p` too
      rw [files_cut_of_touchesOnly (hk _) hf hrest]
      exact h _ (Prog.Cut.final p d)

theorem updatesAtomically_of_frame {p : DeviceProg α} {f : File} {text : Bytes} {d : Device}
    {S : List File} (hf : f ∉ S) (hp : p.Emits (TouchesOnly S)) {k : α → DeviceProg β} :
    UpdatesAtomically (p >>= k) f text d ↔
      UpdatesAtomically (k (p.result d)) f text (p.final d) := by
  have hsame : (p.final d).files f = d.files f := files_final_of_touchesOnly hp hf d
  constructor
  · intro h d' hcut
    rw [hsame]
    exact h d' (Prog.cut_bind_iff.mpr (Or.inr hcut))
  · intro h d' hcut
    rcases Prog.cut_bind_iff.mp hcut with hfirst | hrest
    · exact Or.inl (files_cut_of_touchesOnly hp hf hfirst)
    · rw [← hsame]
      exact h d' hrest

/-! ## The two writers -/

theorem rebootInfoText_ne_nil (r : RebootInfo) : rebootInfoText r ≠ [] := by
  intro hnil
  have hlength := length_rebootInfoText r
  rw [hnil, List.length_nil] at hlength
  omega

/-- `rebootnow` writes previousreboot.info in one place. -/
theorem updatesAtomically_requestReboot_iff (env : HelperEnv) (req : Request) (d : Device) :
    UpdatesAtomically (requestReboot env req) .previousRebootInfoFile
        (rebootInfoText (req.record env)) d ↔
      RewriteHidden env.io .previousRebootInfoFile (rebootInfoText (req.record env)) d := by
  have hframe := emits_decideReboot env req
  have hout : File.previousRebootInfoFile ∉ decisionFiles := by decide
  have hnothing : ∀ b : Bool, (pure b : DeviceProg Bool).Emits (TouchesOnly proceedFiles) :=
    fun b => Prog.emits_pure b
  have hproceed : ∀ (b : Bool) (_ : Unit),
      (if b then (do
          updateMaintenanceRebootFlag env.io req.cause.reason
          notifyReboot env
          touchFile env.io .rebootNowFlag
          Prog.emit .reboot)
        else pure () : DeviceProg Unit).Emits (TouchesOnly proceedFiles) := by
    intro b _
    split
    · exact emits_proceed env _
    · exact Prog.emits_pure ()
  set b := (decideReboot env req).result d
  set d' := (decideReboot env req).final d with hd'
  have hsame : d'.files .previousRebootInfoFile = d.files .previousRebootInfoFile :=
    files_final_of_touchesOnly hframe hout d
  calc UpdatesAtomically (requestReboot env req) .previousRebootInfoFile
          (rebootInfoText (req.record env)) d
      ↔ UpdatesAtomically (finishRequest env req b >>= fun _ => (pure b : DeviceProg Bool))
          .previousRebootInfoFile (rebootInfoText (req.record env)) d' :=
        updatesAtomically_of_frame hout hframe
    _ ↔ UpdatesAtomically (finishRequest env req b) .previousRebootInfoFile
          (rebootInfoText (req.record env)) d' :=
        updatesAtomically_bind_iff (by decide) fun _ => hnothing b
    _ ↔ UpdatesAtomically
          (writeFile env.io .previousRebootInfoFile (rebootInfoText (req.record env)))
          .previousRebootInfoFile (rebootInfoText (req.record env)) d' :=
        updatesAtomically_bind_iff (by decide) (hproceed b)
    _ ↔ RewriteHidden env.io .previousRebootInfoFile (rebootInfoText (req.record env)) d' :=
        updatesAtomically_writeFile_iff (rebootInfoText_ne_nil _)
    _ ↔ RewriteHidden env.io .previousRebootInfoFile (rebootInfoText (req.record env)) d := by
        rw [RewriteHidden, RewriteHidden, hsame]

/-- **When the record is updated atomically.** For each of the two writers of previousreboot.info, and
whatever the file holds and the record says, every cut shows the complete old content or the complete
new record exactly when the rewrite is hidden. -/
theorem atomicRecord_iff (env : FetcherEnv) (info : RebootInfo) (helper : HelperEnv) (req : Request)
    (d : Device) :
    (UpdatesAtomically (writeRebootInfo env info) .previousRebootInfoFile (rebootInfoText info) d ↔
      RewriteHidden env.io .previousRebootInfoFile (rebootInfoText info) d) ∧
    (UpdatesAtomically (requestReboot helper req) .previousRebootInfoFile
        (rebootInfoText (req.record helper)) d ↔
      RewriteHidden helper.io .previousRebootInfoFile (rebootInfoText (req.record helper)) d) := by
  refine ⟨?_, updatesAtomically_requestReboot_iff helper req d⟩
  have hreturn : ∀ _ : Unit, (pure (env.io.canWrite .previousRebootInfoFile) :
      DeviceProg Bool).Emits (TouchesOnly proceedFiles) := fun _ => Prog.emits_pure _
  exact (updatesAtomically_bind_iff (by decide) hreturn).trans
    (updatesAtomically_writeFile_iff (rebootInfoText_ne_nil info))

/-- The record of an earlier boot. -/
def earlierRecord : Device :=
  Device.blank.setFile .previousRebootInfoFile (some (rebootInfoText ⟨[], [], [], [], []⟩))

/-- Right behind the open, both writers show an empty file where a record was. -/
theorem record_torn_behind_open :
    ¬ UpdatesAtomically (writeRebootInfo (FetcherEnv.plain .epoch fun _ => none) ⟨[], [], [], [], []⟩)
        .previousRebootInfoFile (rebootInfoText ⟨[], [], [], [], []⟩) earlierRecord ∧
      ¬ UpdatesAtomically (requestReboot (.plain .epoch 300) serviceRequest)
        .previousRebootInfoFile
        (rebootInfoText (serviceRequest.record (.plain .epoch 300))) earlierRecord := by
  constructor
  · intro hatomic
    -- one update done: the open
    have hseen := hatomic _ ⟨_, List.take_prefix 1 _, rfl⟩
    revert hseen
    decide +kernel
  · intro hatomic
    -- sixteen updates lead up to it, the open is the next
    have hseen := hatomic _ ⟨_, List.take_prefix 17 _, rfl⟩
    revert hseen
    decide +kernel

end RebootManager
