/-
# RebootManager.Fetcher.ParodusHandOff -- the copy behind the removal (parodus_log_update.c)

`handle_parodus_reboot_file` copies parodusreboot.info through a buffer of 512 bytes, looks at none of
the results of its writes, and then removes the file. `rebootnow` writes up to 1023 bytes of it. So what
has been removed is there in full exactly when it fitted the buffer and the copy reached its file
(`handOff_whole_iff`). The one content beyond the buffer that comes through is one of 512 bytes whose
last byte is the newline that the copy adds by itself.
-/
import RebootManager.Fetcher.HandOver

namespace RebootManager

open Foundation

/-- The whole content, and a newline behind it if it has none. -/
def withNewline (content : Bytes) : Bytes :=
  if content.getLast? = some '\n' then content else content ++ ['\n']

/-- What `rebootnow` can leave in parodusreboot.info: the line of a request, or what its writes got
through of it. -/
def LeftByRequest (content : Bytes) : Prop :=
  ∃ (env : HelperEnv) (req : Request), content <+: snprintf 1024 (parodusLine (req.record env))

/-- A content the buffer has room for, the newline at its end not counted. -/
def FitsBuffer (content : Bytes) : Prop :=
  content ≠ [] ∧ (content.length ≤ 511 ∨
    ∃ line, content = line ++ ['\n'] ∧ line.length = 511 ∧ line.getLast? ≠ some '\n')

theorem LeftByRequest.noNul {content : Bytes} (h : LeftByRequest content) : '\x00' ∉ content := by
  obtain ⟨env, req, hinit⟩ := h
  intro hmem
  have hline : '\x00' ∈ (parodusLine (req.record env)).take (1024 - 1) := List.IsPrefix.mem hmem hinit
  exact req.noNul_parodusLine env (List.mem_of_mem_take hline)

/-! ## The copy -/

theorem endedLine_of_ne_nil {buf : Bytes} (h : buf ≠ []) : endedLine buf = withNewline buf := by
  unfold endedLine withNewline
  by_cases hend : buf.getLast? = some '\n'
  · rw [if_neg (fun hopen => hopen.2 hend), if_pos hend]
  · rw [if_pos ⟨h, hend⟩, if_neg hend]

theorem length_endedLine_le (buf : Bytes) : (endedLine buf).length ≤ buf.length + 1 := by
  unfold endedLine
  split
  · simp
  · omega

theorem length_le_withNewline (content : Bytes) : content.length ≤ (withNewline content).length := by
  unfold withNewline
  split
  · exact Nat.le_refl _
  · simp

theorem parodusBuffer_of_noNul {content : Bytes} (h : '\x00' ∉ content) :
    parodusBuffer content = content.take 511 :=
  cstr_eq_self fun hmem => h (List.mem_of_mem_take hmem)

/-- A content that fits is handed on whole. -/
theorem FitsBuffer.handedOn {content : Bytes} (h : FitsBuffer content) (hnul : '\x00' ∉ content) :
    endedLine (parodusBuffer content) = withNewline content := by
  obtain ⟨hne, hshort | ⟨line, rfl, hlen, hopen⟩⟩ := h
  · rw [parodusBuffer_of_noNul hnul, List.take_of_length_le hshort, endedLine_of_ne_nil hne]
  · have hline : line ≠ [] := by
      rintro rfl
      cases hlen
    have hend : (line ++ ['\n']).getLast? = some '\n' := List.getLast?_concat
    rw [parodusBuffer_of_noNul hnul, List.take_left' hlen, endedLine_of_ne_nil hline, withNewline,
      if_neg hopen, withNewline, if_pos hend]

/-- A content that is there in what is handed on has fitted. -/
theorem fitsBuffer_of_handedOn {content : Bytes} (hnul : '\x00' ∉ content)
    (h : withNewline content <+: endedLine (parodusBuffer content)) : FitsBuffer content := by
  rw [parodusBuffer_of_noNul hnul] at h
  have hne : content ≠ [] := by
    rintro rfl
    exact absurd (List.prefix_nil.mp h) (by decide)
  refine ⟨hne, ?_⟩
  by_cases hshort : content.length ≤ 511
  · exact Or.inl hshort
  right
  -- what is handed on has 512 bytes at most, so the content has 512 and ends in its newline
  have hbuffer : (content.take 511).length = 511 := by
    rw [List.length_take]
    omega
  have hhanded := length_endedLine_le (content.take 511)
  have hwhole := length_le_withNewline content
  have hall := h.length_le
  have hlen : content.length = 512 := by omega
  have hend : content.getLast? = some '\n' := by
    by_contra hopen
    rw [withNewline, if_neg hopen, List.length_append, List.length_singleton] at hall
    omega
  obtain ⟨line, rfl⟩ := List.getLast?_eq_some_iff.mp hend
  have hline : line.length = 511 := by
    rw [List.length_append, List.length_singleton] at hlen
    omega
  refine ⟨line, rfl, hline, fun hnewline => ?_⟩
  have hclosed : endedLine line = line := by
    rw [endedLine, if_neg]
    exact fun hopen => hopen.2 hnewline
  rw [List.take_left' hline, hclosed, withNewline, if_pos hend] at h
  have := h.length_le
  rw [List.length_append, List.length_singleton] at this
  omega

/-! ## The removal -/

section HandOff

variable {env : FetcherEnv} {info : RebootInfo} {d : Device} {content : Bytes}

/-- The call removes the file exactly when both files open; then the other one has what got through. -/
theorem files_handOff (hfile : d.files .parodusRebootInfoFile = some content) :
    (((handleParodusRebootFile env info).final d).files .parodusRebootInfoFile = none ↔
        env.io.canRead .parodusRebootInfoFile = true ∧
          env.io.canWrite .previousParodusRebootInfoFile = true) ∧
      (((handleParodusRebootFile env info).final d).files .parodusRebootInfoFile = none →
        ((handleParodusRebootFile env info).final d).files .previousParodusRebootInfoFile =
          some (env.io.pieces .previousParodusRebootInfoFile
            (endedLine (parodusBuffer content))).flatten) := by
  by_cases hopen : env.io.canRead .parodusRebootInfoFile = true ∧
      env.io.canWrite .previousParodusRebootInfoFile = true
  · have hlog : ∀ (text : Bytes) (d : Device),
        ((appendFile env.io .parodusLog text).final d).files .previousParodusRebootInfoFile
          = d.files .previousParodusRebootInfoFile := fun text d =>
      files_final_of_touchesOnly (touches_appendFile env.io text (List.mem_singleton_self _))
        (by decide) d
    have hfinal : ((handleParodusRebootFile env info).final d).files .parodusRebootInfoFile = none := by
      simp [handleParodusRebootFile, hfile, hopen]
    refine ⟨⟨fun _ => hopen, fun _ => hfinal⟩, fun _ => ?_⟩
    simp [handleParodusRebootFile, hfile, hopen, hlog, writeFile, final_fileOps,
      Io.execOps_writeOps]
  · have hkept : ((handleParodusRebootFile env info).final d).files .parodusRebootInfoFile
        = some content := by
      simp [handleParodusRebootFile, hfile, hopen]
    rw [hkept]
    exact ⟨⟨fun h => (Option.some_ne_none _ h).elim, fun h => absurd h hopen⟩,
      fun h => (Option.some_ne_none _ h).elim⟩

/-- **Removed and there in full.** For whatever a request has left in parodusreboot.info: if the call
removes it, previousparodusreboot.info has all of it, with a newline at the end, exactly when one of the
two files does not open, or the content fits the buffer and the copy of it reaches its file whole. -/
theorem handOff_whole_iff (env : FetcherEnv) (info : RebootInfo) (hleft : LeftByRequest content)
    (hfile : d.files .parodusRebootInfoFile = some content) :
    (((handleParodusRebootFile env info).final d).files .parodusRebootInfoFile = none →
        ((handleParodusRebootFile env info).final d).files .previousParodusRebootInfoFile
          = some (withNewline content)) ↔
      (env.io.canRead .parodusRebootInfoFile = false ∨
        env.io.canWrite .previousParodusRebootInfoFile = false ∨
        FitsBuffer content ∧
          (env.io.pieces .previousParodusRebootInfoFile (withNewline content)).flatten
            = withNewline content) := by
  obtain ⟨hremoved, hcopied⟩ := @files_handOff env info d content hfile
  constructor
  · intro h
    by_cases hread : env.io.canRead .parodusRebootInfoFile = true
    case neg => exact Or.inl (Bool.not_eq_true _ ▸ hread)
    by_cases hwrite : env.io.canWrite .previousParodusRebootInfoFile = true
    case neg => exact Or.inr (Or.inl (Bool.not_eq_true _ ▸ hwrite))
    have hgone := hremoved.mpr ⟨hread, hwrite⟩
    have hsame := Option.some.inj ((hcopied hgone).symm.trans (h hgone))
    have hinit := env.io.pieces_initial .previousParodusRebootInfoFile
      (endedLine (parodusBuffer content))
    have hfits : FitsBuffer content := fitsBuffer_of_handedOn hleft.noNul (hsame ▸ hinit)
    rw [hfits.handedOn hleft.noNul] at hsame
    exact Or.inr (Or.inr ⟨hfits, hsame⟩)
  · rintro h hgone
    obtain ⟨hread, hwrite⟩ := hremoved.mp hgone
    rcases h with h | h | ⟨hfits, hwhole⟩
    · rw [h] at hread
      cases hread
    · rw [h] at hwrite
      cases hwrite
    · rw [hcopied hgone, hfits.handedOn hleft.noNul, hwhole]

end HandOff

/-- What `rebootnow` leaves for this request, on an otherwise blank device. -/
def lineLeft (req : Request) : Bytes :=
  snprintf 1024 (parodusLine (req.record (HelperEnv.plain Tm.epoch 60)))

def deviceWithLine (req : Request) : Device :=
  Device.blank.setFile .parodusRebootInfoFile (some (lineLeft req))

theorem leftByRequest_lineLeft (req : Request) : LeftByRequest (lineLeft req) :=
  ⟨HelperEnv.plain Tm.epoch 60, req, List.prefix_refl _⟩

theorem files_deviceWithLine (req : Request) :
    (deviceWithLine req).files .parodusRebootInfoFile = some (lineLeft req) := by
  rw [deviceWithLine, Device.setFile_files, Function.update_self]

/-- A short line is handed on whole. -/
theorem handOff_serviceRequest :
    ((handleParodusRebootFile (FetcherEnv.plain Tm.epoch fun _ => none) (RebootInfo.blank [])).final
        (deviceWithLine serviceRequest)).files .previousParodusRebootInfoFile
      = some (withNewline (lineLeft serviceRequest)) := by
  have hfits : FitsBuffer (lineLeft serviceRequest) :=
    ⟨by decide +kernel, Or.inl (by decide +kernel)⟩
  have hremoved := (@files_handOff (FetcherEnv.plain Tm.epoch fun _ => none) (RebootInfo.blank []) _ _
    (files_deviceWithLine serviceRequest)).1.mpr ⟨rfl, rfl⟩
  exact (handOff_whole_iff _ _ (leftByRequest_lineLeft _) (files_deviceWithLine _)).mpr
    (Or.inr (Or.inr ⟨hfits, List.flatten_singleton⟩)) hremoved

/-- A request with 600 bytes of custom reason. -/
def longRequest : Request :=
  ⟨serviceRequest.source, false,
    ⟨List.replicate 600 'x', fun h => absurd (List.eq_of_mem_replicate h) (by decide)⟩, unknownReason⟩

/-- Its line is removed, and what has been handed on is shorter. -/
theorem longLine_lost :
    LeftByRequest (lineLeft longRequest) ∧
      ((handleParodusRebootFile (FetcherEnv.plain Tm.epoch fun _ => none) (RebootInfo.blank [])).final
        (deviceWithLine longRequest)).files .parodusRebootInfoFile = none ∧
      ((handleParodusRebootFile (FetcherEnv.plain Tm.epoch fun _ => none) (RebootInfo.blank [])).final
          (deviceWithLine longRequest)).files .previousParodusRebootInfoFile
        ≠ some (withNewline (lineLeft longRequest)) := by
  obtain ⟨hremoved, hcopied⟩ := @files_handOff (FetcherEnv.plain Tm.epoch fun _ => none)
    (RebootInfo.blank []) _ _ (files_deviceWithLine longRequest)
  have hgone := hremoved.mpr ⟨rfl, rfl⟩
  refine ⟨leftByRequest_lineLeft _, hgone, fun hwhole => ?_⟩
  have hsame := Option.some.inj ((hcopied hgone).symm.trans hwhole)
  have hinit : withNewline (lineLeft longRequest)
      <+: endedLine (parodusBuffer (lineLeft longRequest)) :=
    hsame ▸ (FetcherEnv.plain Tm.epoch fun _ => none).io.pieces_initial _ _
  -- a line of 600 bytes does not fit
  have hshort := hinit.length_le
  have hkept := length_le_withNewline (lineLeft longRequest)
  have hended := length_endedLine_le (parodusBuffer (lineLeft longRequest))
  have hbuffer : (parodusBuffer (lineLeft longRequest)).length ≤ 511 :=
    Nat.le_trans (List.takeWhile_prefix _).length_le (List.length_take_le _ _)
  have hlong : 600 ≤ (lineLeft longRequest).length := by
    have hcustom : (longRequest.record (HelperEnv.plain Tm.epoch 60)).customReason.length = 600 :=
      List.length_replicate
    have hline := length_parodusLine (longRequest.record (HelperEnv.plain Tm.epoch 60))
    rw [lineLeft, snprintf, List.length_take]
    omega
  omega

end RebootManager
