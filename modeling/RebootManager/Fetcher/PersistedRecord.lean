/-
# RebootManager.Fetcher.PersistedRecord -- no blank record is persisted

previousreboot.info changes in one of two ways: the rename moves reboot.info over it, or the record in
memory is written. In the branch of `ENOENT` that record is filled (`classifyRebootReason_filled`). In
the branch of any other `errno` it is still the blank one, and `main` goes on to the same unconditional
write: `neverEmptied_iff` says that this is the one way an empty record gets there.
-/
import RebootManager.Fetcher.RecordFiles

namespace RebootManager

open Foundation

/-- Every stream that opens is written whole. -/
def WritesWhole (io : Io File) : Prop := ∀ f text, (io.pieces f text).flatten = text

/-- previousreboot.info after a run. -/
def previousAfter (env : FetcherEnv) (d : Device) : Option Bytes :=
  ((fetcherMain env).final d).files .previousRebootInfoFile

/-- A replaced previousreboot.info is the content of reboot.info or a filled record, and a rename that
fails otherwise than with `ENOENT` replaces nothing. -/
structure NeverEmptied (env : FetcherEnv) (d : Device) : Prop where
  replaced : previousAfter env d ≠ d.files .previousRebootInfoFile →
    (∃ content, d.files .rebootInfoFile = some content ∧ previousAfter env d = some content) ∨
      ∃ info : RebootInfo, info.Filled ∧ previousAfter env d = some (rebootInfoText info)
  kept : renameOutcome env d = .failed → previousAfter env d = d.files .previousRebootInfoFile

/-! ## What a run leaves in previousreboot.info -/

/-- What is written stays: nothing behind the write of the record touches it again. -/
theorem files_previous_finishDerived {env : FetcherEnv} (hwhole : WritesWhole env.io)
    (ctx : EnvContext) (info : RebootInfo) (d : Device) :
    ((finishDerived env ctx info).final d).files .previousRebootInfoFile =
      if env.io.canWrite .previousRebootInfoFile then some (rebootInfoText info)
      else d.files .previousRebootInfoFile := by
  have hlog := files_final_sideOnly (logsOnly_updateKernelLog env ctx info).sideOnly
    (show File.previousRebootInfoFile ∉ sideFiles by decide) d
  have hfields := files_final_sideOnly (logsOnly_updatePreviousRebootLogFields env false).sideOnly
    (show File.previousRebootInfoFile ∉ sideFiles by decide) ((updateKernelLog env ctx info).final d)
  set d' := (updatePreviousRebootLogFields env false).final ((updateKernelLog env ctx info).final d)
    with hd'
  have hwrite : ((writeRebootInfo env info).final d').files .previousRebootInfoFile =
      if env.io.canWrite .previousRebootInfoFile then some (rebootInfoText info)
      else d'.files .previousRebootInfoFile := by
    simp only [writeRebootInfo, Prog.final_bind, Prog.final_pure, writeFile, final_fileOps,
      Io.execOps_writeOps, hwhole .previousRebootInfoFile]
    split <;> simp
  have hresult : (writeRebootInfo env info).result d' = env.io.canWrite .previousRebootInfoFile := rfl
  rw [finishDerived, Prog.final_bind, Prog.final_bind, ← hd', persistRebootInfo, Prog.final_bind,
    hresult]
  cases hcan : env.io.canWrite .previousRebootInfoFile with
  | true =>
    rw [hcan, if_pos rfl] at hwrite
    simp only [if_true, Prog.final_bind, Prog.final_pure]
    rw [(emits_handOnRebootInfo env info).final (fun d => d.files .previousRebootInfoFile)
      (fun o ho d => ho.files_eq (by decide) d), hwrite]
  | false =>
    rw [hcan, if_neg Bool.false_ne_true] at hwrite
    simp only [Bool.false_eq_true, if_false, Prog.final_pure]
    rw [hwrite, hfields, hlog]

/-- previousreboot.info after a run that gets to the rename, by the outcome of the rename. -/
theorem previousAfter_of_passes {env : FetcherEnv} (hwhole : WritesWhole env.io) {ctx : EnvContext}
    {d : Device} (h : Passes env ctx d) :
    previousAfter env d =
      match renameOutcome env d with
      | .renamed => d.files .rebootInfoFile
      | .noEntry =>
        if env.io.canWrite .previousRebootInfoFile then
          some (rebootInfoText ((deriveRebootInfo env ctx).result d))
        else d.files .previousRebootInfoFile
      | .failed =>
        if env.io.canWrite .previousRebootInfoFile then some (rebootInfoText env.blankInfo)
        else d.files .previousRebootInfoFile := by
  rw [previousAfter, files_fetcherMain_of_passes h (by decide), updatePreviousReboot,
    Prog.final_bind, Prog.result_get, Prog.final_get]
  cases hout : renameOutcome env d with
  | renamed =>
    obtain ⟨content, hcontent⟩ := exists_rebootInfo_of_renamed hout
    simp only [Prog.final_bind]
    rw [(emits_finishRenamed env ctx).final (fun d => d.files .previousRebootInfoFile)
      (fun o ho d => ho.files_eq (by decide) d), final_fileOps]
    simp [FileOp.run, Effect.apply, hcontent, Function.update_of_ne]
  | noEntry =>
    simp only [Prog.final_bind]
    rw [files_previous_finishDerived hwhole,
      files_final_sideOnly (logsOnly_deriveRebootInfo env ctx).sideOnly (by decide)]
  | failed => exact files_previous_finishDerived hwhole ctx env.blankInfo d

/-- A run that does not get there leaves it alone. -/
theorem previousAfter_of_not_passes {env : FetcherEnv} {d : Device}
    (h : ∀ ctx, ¬ Passes env ctx d) : previousAfter env d = d.files .previousRebootInfoFile :=
  execOps_frame (fun d => d.files .previousRebootInfoFile)
    (fun o ho d => (ops_fetcherMain_of_not_passes h o ho).files_eq (by decide) d) d

/-- The derived record is filled. -/
theorem deriveRebootInfo_filled (env : FetcherEnv) (ctx : EnvContext) (d : Device) :
    ((deriveRebootInfo env ctx).result d).Filled :=
  classifyRebootReason_filled _ _ _ _ _

/-! ## When a blank record is persisted -/

/-- The failed rename whose error is not acted on: past the gate, previousreboot.info writable and not
holding the very same blank record already. -/
structure BlankPersisted (env : FetcherEnv) (d : Device) : Prop where
  passes : ∃ ctx, Passes env ctx d
  failed : renameOutcome env d = .failed
  writable : env.io.canWrite .previousRebootInfoFile = true
  differs : d.files .previousRebootInfoFile ≠ some (rebootInfoText env.blankInfo)

/-- **A blank record is persisted by the failed rename only.** Where every stream that opens is written
whole, no run empties the record if and only if it is not a run whose rename fails otherwise than with
`ENOENT`. -/
theorem neverEmptied_iff {env : FetcherEnv} (hwhole : WritesWhole env.io) (d : Device) :
    NeverEmptied env d ↔ ¬ BlankPersisted env d := by
  constructor
  · rintro hnever ⟨⟨ctx, hpasses⟩, hfailed, hwritable, hdiffers⟩
    have hafter := previousAfter_of_passes hwhole hpasses
    rw [hfailed] at hafter
    simp only [hwritable, if_true] at hafter
    exact hdiffers ((hnever.kept hfailed).symm.trans hafter)
  · intro hnot
    by_cases hpasses : ∃ ctx, Passes env ctx d
    case neg =>
      have hkept := previousAfter_of_not_passes fun ctx h => hpasses ⟨ctx, h⟩
      exact ⟨fun hne => absurd hkept hne, fun _ => hkept⟩
    obtain ⟨ctx, hctx⟩ := hpasses
    have hafter := previousAfter_of_passes hwhole hctx
    cases hout : renameOutcome env d with
    | renamed =>
      rw [hout] at hafter
      refine ⟨fun _ => ?_, fun hfailed => by cases hout.symm.trans hfailed⟩
      obtain ⟨content, hcontent⟩ := exists_rebootInfo_of_renamed hout
      exact Or.inl ⟨content, hcontent, hafter.trans hcontent⟩
    | noEntry =>
      rw [hout] at hafter
      refine ⟨fun hne => Or.inr ?_, fun hfailed => by cases hout.symm.trans hfailed⟩
      refine ⟨_, deriveRebootInfo_filled env ctx d, ?_⟩
      cases hcan : env.io.canWrite .previousRebootInfoFile with
      | true => simpa [hcan] using hafter
      | false => exact absurd (by simpa [hcan] using hafter) hne
    | failed =>
      rw [hout] at hafter
      have hkept : previousAfter env d = d.files .previousRebootInfoFile := by
        cases hcan : env.io.canWrite .previousRebootInfoFile with
        | false => simpa [hcan] using hafter
        | true =>
          have hsame : d.files .previousRebootInfoFile = some (rebootInfoText env.blankInfo) := by
            by_contra hdiffers
            exact hnot ⟨⟨ctx, hctx⟩, hout, hcan, hdiffers⟩
          rw [hsame]
          simpa [hcan] using hafter
      exact ⟨fun hne => absurd hkept hne, fun _ => hkept⟩

/-- A plain file system writes everything whole. -/
theorem writesWhole_brcmRun (now : Tm) : WritesWhole (brcmRun now).io := Io.plain_ok.complete

/-- The operator's record is moved, not emptied. -/
theorem neverEmptied_operatorRebooted :
    WritesWhole (brcmRun .epoch).io ∧ NeverEmptied (brcmRun .epoch) operatorRebooted :=
  ⟨writesWhole_brcmRun .epoch,
    (neverEmptied_iff (writesWhole_brcmRun .epoch) operatorRebooted).mpr fun h =>
      absurd h.failed (by decide)⟩

/-- The same run with a rename that fails, say with `EIO`: the blank record is persisted. -/
theorem emptied_by_failed_rename :
    ¬ NeverEmptied { brcmRun .epoch with renameFault := true }
      (operatorRebooted.setFile .previousRebootInfoFile (some (rebootInfoText operatorRecord))) := by
  intro hnever
  have hkept := hnever.kept (by decide)
  revert hkept
  decide +kernel

end RebootManager
