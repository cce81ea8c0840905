/-
# RebootManager.Helper.RdmCleanup -- whether the downloaded apps go (system_cleanup.c, rebootNow.sh)

After an image upgrade the apps under /media/apps belong to the old image, so both programs clear them when
the name of the running image does not occur in the name of the flashed one. The script takes the names
from `$(cat ...)`, without the newlines at their end; the binary compares the two files as they are. A
newline behind the running name then has to be in the flashed file too, in the same place
(`clearsApps_eq_script_iff`), and where it is not, an ordinary reboot clears the apps.
-/
import RebootManager.Helper.RebootNowScript

namespace RebootManager

open Foundation

/-! ## The two decisions -/

/-- What the decision is made from. -/
structure RdmFiles where
  /-- /etc/rdm/rdm-manifest.xml is there. -/
  manifest : Bool
  /-- /opt/cdl_flashed_file_name -/
  flashedFileName : Option Bytes
  /-- /tmp/currently_running_image_name -/
  runningImageName : Option Bytes

/-- `read_file_to_buf`, and what `strstr` sees of the buffer. -/
def readFileToBuf (size : Nat) (file : Option Bytes) : Option Bytes :=
  file.map fun content => cstr (content.take (size - 1))

/-- The RDM block of `cleanup_services`: true when it calls `clear_subdirectory("/media/apps")`. -/
def RdmFiles.clearsApps (files : RdmFiles) : Bool :=
  files.manifest &&
    match readFileToBuf 256 files.flashedFileName, readFileToBuf 256 files.runningImageName with
    | some cdl, some prev => (strstr cdl prev).isNone
    | _, _ => false

/-- The test of the script, `[[ ${CDLFILE} != *"${PREV_CDLFILE}"* ]]`; `cat` of a missing file prints
nothing. -/
def RdmFiles.scriptClearsApps (files : RdmFiles) : Bool :=
  files.manifest &&
    (strstr (commandSubst (files.flashedFileName.getD [])) (commandSubst (files.runningImageName.getD []))).isNone

/-! ## Names and the newlines behind them -/

/-- A file with the name of an image: no NUL, and the buffer holds it. -/
structure ImageFile where
  content : Bytes
  noNul : '\x00' ∉ content
  fits : content.length ≤ 255

namespace ImageFile

/-- The name, as `$(cat ...)` gives it. -/
def name (f : ImageFile) : Bytes := commandSubst f.content

/-- The newlines at the end of the file. -/
def ending (f : ImageFile) : Bytes := f.content.rtakeWhile (· = '\n')

theorem name_eq (f : ImageFile) : f.name = f.content.rdropWhile (· = '\n') := by
  have hall : f.content.filter (· ≠ '\x00') = f.content :=
    List.filter_eq_self.mpr (ne_of_not_mem f.noNul)
  rw [name, commandSubst, hall]
  rfl

theorem content_eq (f : ImageFile) : f.content = f.name ++ f.ending := by
  rw [name_eq, ending, List.rdropWhile_append_rtakeWhile]

theorem ending_eq (f : ImageFile) : ∀ c ∈ f.ending, c = '\n' := by
  intro c hc
  have hkept : decide (c = '\n') = true := List.mem_rtakeWhile_imp (p := fun c => decide (c = '\n')) hc
  exact of_decide_eq_true hkept

theorem name_last (f : ImageFile) (hne : f.name ≠ []) : f.name.getLast hne ≠ '\n' := by
  have hlast := List.rdropWhile_last_not (fun c => decide (c = '\n')) f.content (f.name_eq ▸ hne)
  simp only [decide_eq_true_eq] at hlast
  simp only [name_eq]
  exact hlast

/-- The buffer holds the file. -/
theorem readFileToBuf_eq (f : ImageFile) : readFileToBuf 256 (some f.content) = some f.content := by
  rw [readFileToBuf, Option.map_some, List.take_of_length_le f.fits, cstr_eq_self f.noNul]

end ImageFile

/-! ## When they agree -/

section Agree

variable {flashed running : ImageFile}

/-- The manifest and the two files. -/
def rdmFiles (flashed running : ImageFile) : RdmFiles := ⟨true, some flashed.content, some running.content⟩

theorem clearsApps_iff :
    (rdmFiles flashed running).clearsApps = true ↔ ¬ running.content <:+: flashed.content := by
  rw [← isSome_strstr_iff]
  simp [RdmFiles.clearsApps, rdmFiles, ImageFile.readFileToBuf_eq]

theorem scriptClearsApps_iff :
    (rdmFiles flashed running).scriptClearsApps = true ↔ ¬ running.name <:+: flashed.name := by
  rw [← isSome_strstr_iff]
  simp [RdmFiles.scriptClearsApps, rdmFiles, ImageFile.name]

/-- The running name stands in the flashed file with as many newlines behind it as in its own file. -/
def NewlinesFollow (flashed running : ImageFile) : Prop :=
  ∃ before after, flashed.name = before ++ running.name ++ after ∧ running.ending <+: after ++ flashed.ending

theorem infix_content_iff : running.content <:+: flashed.content ↔ NewlinesFollow flashed running := by
  rw [running.content_eq, flashed.content_eq]
  exact infix_trailing_iff flashed.ending_eq running.ending_eq running.name_last

theorem infix_name_of_newlinesFollow (h : NewlinesFollow flashed running) : running.name <:+: flashed.name := by
  obtain ⟨before, after, heq, -⟩ := h
  exact ⟨before, after, heq.symm⟩

/-- On one line, that is at the end of the flashed name; without a newline of its own, anywhere. -/
theorem newlinesFollow_iff (hline : '\n' ∉ flashed.name) :
    NewlinesFollow flashed running ↔
      (running.ending = [] ∧ running.name <:+: flashed.name) ∨
      (running.name <:+ flashed.name ∧ running.ending.length ≤ flashed.ending.length) := by
  constructor
  · rintro ⟨before, after, heq, hends⟩
    cases after with
    | nil => exact Or.inr ⟨⟨before, by rw [heq, List.append_nil]⟩, hends.length_le⟩
    | cons c after =>
      cases hrunning : running.ending with
      | nil => exact Or.inl ⟨rfl, before, c :: after, heq.symm⟩
      | cons c' rest =>
        rw [hrunning] at hends
        have hnewline : c' = '\n' := running.ending_eq c' (hrunning ▸ List.mem_cons_self)
        have hsame : c' = c := (List.cons_prefix_cons.mp hends).1
        have hmem : c ∈ flashed.name := heq ▸ List.mem_append_right _ List.mem_cons_self
        rw [← hsame, hnewline] at hmem
        exact absurd hmem hline
  · rintro (⟨hnone, before, after, heq⟩ | ⟨⟨before, heq⟩, hlength⟩)
    · exact ⟨before, after, heq.symm, hnone ▸ List.nil_prefix⟩
    · exact ⟨before, [], by rw [List.append_nil, heq],
        prefix_of_all_eq running.ending_eq flashed.ending_eq hlength⟩

/-- **The binary decides as the script does unless the newlines behind the running name are missing
behind it in the flashed file.** -/
theorem clearsApps_eq_script_iff (flashed running : ImageFile) :
    (rdmFiles flashed running).clearsApps = (rdmFiles flashed running).scriptClearsApps ↔
      (running.name <:+: flashed.name → NewlinesFollow flashed running) := by
  rw [Bool.eq_iff_iff, clearsApps_iff, scriptClearsApps_iff, infix_content_iff, not_iff_not]
  exact ⟨fun hsame => hsame.mpr, fun hfollow => ⟨infix_name_of_newlinesFollow, hfollow⟩⟩

end Agree

/-- The flashed file, with the suffix of an image. -/
def flashedImage : ImageFile := ⟨"image-A.bin\n".toList, by decide, by decide⟩

/-- The running image, from the same file without the suffix. -/
def runningImage : ImageFile := ⟨"image-A\n".toList, by decide, by decide⟩

/-- The image that runs is the one that was flashed, and the binary clears its apps. -/
theorem clearsApps_runningImage :
    (rdmFiles flashedImage runningImage).clearsApps = true ∧
      (rdmFiles flashedImage runningImage).scriptClearsApps = false := by
  decide

end RebootManager
