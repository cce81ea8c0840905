/-
# RebootManager.Helper.RebootInfoLog -- one field a line (reboot_main.c)

`main` builds each of the five lines of rebootInfo.log in `reason_str`, a buffer of 1024 bytes. The newline
is the last byte of the line, so it is what a long argument pushes out: the line then runs into the next
one. Only the first line, with the source and the other reason both in it, and the custom reason can get
so long before any other does (`fieldPerLine_saveRebootInfo`).
-/
import RebootManager.Helper.RebootMain
import RebootManager.Foundation.LineReader

namespace RebootManager

open Foundation

/-! ## The lines -/

/-- What the five lines begin with. -/
def logHeadings : List Bytes :=
  ["RebootReason: ".toList, "RebootInitiatedBy: ".toList, "RebootTime: ".toList,
   "CustomReason: ".toList, "OtherReason: ".toList]

/-- One field a line: every line has its newline, and they begin with the headings in their order. -/
def FieldPerLine (content : Bytes) : Prop :=
  (∀ line ∈ lines content, ['\n'] <:+ line) ∧ List.Forall₂ (· <+: ·) logHeadings (lines content)

/-- What the first line says. -/
def Request.reasonValue (req : Request) : Bytes :=
  "Triggered from ".toList ++ req.source.bytes ++
    (if req.isCrash then " process failure or crash..!".toList else " process".toList) ++
    if req.otherReason.bytes = "Unknown".toList then [] else ' ' :: req.otherReason.bytes

/-- What the lines say, in the order of the headings. -/
def logValues (req : Request) (ts : Bytes) : List Bytes :=
  [req.reasonValue, req.source.bytes, ts, req.customReason.bytes, req.otherReason.bytes]

/-- A line before it goes through `reason_str`. -/
def headedLine (heading value : Bytes) : Bytes := heading ++ value ++ ['\n']

/-- No argument has a newline. -/
structure Request.NewlineFree (req : Request) : Prop where
  source : '\n' ∉ req.source.bytes
  customReason : '\n' ∉ req.customReason.bytes
  otherReason : '\n' ∉ req.otherReason.bytes

/-- The bytes of the first line, its newline included. -/
def Request.reasonLength (req : Request) : Nat :=
  29 + req.source.bytes.length + (if req.isCrash then 28 else 8) +
    if req.otherReason.bytes = "Unknown".toList then 1 else req.otherReason.bytes.length + 2

/-- The first line and the one of the custom reason leave room for the terminator. -/
def Request.FitsReasonStr (req : Request) : Prop :=
  req.reasonLength < 1024 ∧ req.customReason.bytes.length + 15 < 1024

/-! ## Through the buffer -/

/-- A piece goes behind what the buffer holds, as far as there is room. -/
theorem updateRebootLog_snprintf {size : Nat} (text piece : Bytes) :
    updateRebootLog size (snprintf size text) piece = snprintf size (text ++ piece) := by
  simp only [updateRebootLog, snprintf, List.length_take]
  by_cases hfull : size - 1 ≤ text.length
  · rw [Nat.min_eq_left hfull, if_pos (Nat.le_refl _), List.take_append_of_le_length hfull]
  · have hwhole : text.take (size - 1) = text := List.take_of_length_le (by omega)
    have hroom : size - text.length - 1 = size - 1 - text.length := by omega
    rw [Nat.min_eq_right (by omega), if_neg (by omega), hroom, List.take_append, hwhole]

/-- Piece behind piece, what the buffer holds is what fits of them all. -/
theorem foldl_updateRebootLog {size : Nat} (text : Bytes) (pieces : List Bytes) :
    pieces.foldl (updateRebootLog size) (snprintf size text) = snprintf size (text ++ pieces.flatten) := by
  induction pieces generalizing text with
  | nil => rw [List.foldl_nil, List.flatten_nil, List.append_nil]
  | cons piece pieces ih =>
    rw [List.foldl_cons, updateRebootLog_snprintf, ih, List.flatten_cons, List.append_assoc]

/-- From an empty buffer on. -/
theorem foldl_updateRebootLog_nil {size : Nat} (pieces : List Bytes) :
    pieces.foldl (updateRebootLog size) [] = snprintf size pieces.flatten := by
  have hnil : snprintf size [] = [] := List.take_nil
  have hfold : pieces.foldl (updateRebootLog size) (snprintf size []) = snprintf size ([] ++ pieces.flatten) :=
    foldl_updateRebootLog [] pieces
  rwa [hnil, List.nil_append] at hfold

theorem rebootReasonLine_eq_headedLine (req : Request) :
    rebootReasonLine req = snprintf 1024 (headedLine "RebootReason: ".toList req.reasonValue) := by
  have hother : (if req.otherReason.bytes = "Unknown".toList then ['\n']
      else [' '] ++ req.otherReason.bytes ++ ['\n']) =
        (if req.otherReason.bytes = "Unknown".toList then [] else ' ' :: req.otherReason.bytes) ++ ['\n'] := by
    split <;> rfl
  unfold rebootReasonLine Request.reasonValue
  dsimp only
  rw [hother]
  generalize "RebootReason: ".toList = heading
  generalize "Triggered from ".toList = prefixed
  refine (foldl_updateRebootLog_nil [_, _, _]).trans ?_
  simp only [headedLine, List.flatten_cons, List.flatten_nil, List.append_nil, List.append_assoc]

/-- The log is five headed lines, each through a buffer of its own. -/
theorem rebootInfoLogLines_eq_headedLines (req : Request) (ts : Bytes) :
    rebootInfoLogLines req ts
      = (List.zipWith headedLine logHeadings (logValues req ts)).map (snprintf 1024) := by
  rw [rebootInfoLogLines, rebootReasonLine_eq_headedLine]
  rfl

/-! ## One field a line -/

section Lines

variable {req : Request} {ts : Bytes}

theorem length_headedLine (heading value : Bytes) :
    (headedLine heading value).length = heading.length + value.length + 1 := by
  rw [headedLine, List.length_append, List.length_append, List.length_singleton]

theorem prefix_headedLine (heading value : Bytes) : heading <+: headedLine heading value := by
  rw [headedLine, List.append_assoc]
  exact List.prefix_append _ _

theorem endedLine_headedLine {heading value : Bytes} (hheading : '\n' ∉ heading) (hvalue : '\n' ∉ value) :
    EndedLine (headedLine heading value) :=
  ⟨heading ++ value, rfl, fun hmem => (List.mem_append.mp hmem).elim hheading hvalue⟩

theorem not_mem_reasonValue (h : req.NewlineFree) : '\n' ∉ req.reasonValue := by
  have hpre : '\n' ∉ "Triggered from ".toList := by decide
  have hcrash : '\n' ∉ " process failure or crash..!".toList := by decide
  have hprocess : '\n' ∉ " process".toList := by decide
  unfold Request.reasonValue
  generalize "Triggered from ".toList = prefixed at *
  generalize " process failure or crash..!".toList = crash at *
  generalize " process".toList = process at *
  intro hmem
  rcases List.mem_append.mp hmem with hmem | hmem
  · rcases List.mem_append.mp hmem with hmem | hmem
    · exact (List.mem_append.mp hmem).elim hpre h.source
    · split at hmem
      · exact hcrash hmem
      · exact hprocess hmem
  · split at hmem
    · cases hmem
    · rcases List.mem_cons.mp hmem with hblank | hmem
      · exact absurd hblank (by decide)
      · exact h.otherReason hmem

/-- Without a newline in the arguments there is one in each line. -/
theorem endedLine_of_mem (h : req.NewlineFree) (hts : '\n' ∉ ts) :
    ∀ line ∈ List.zipWith headedLine logHeadings (logValues req ts), EndedLine line := by
  have hheadings : ∀ heading ∈ logHeadings, '\n' ∉ heading := by
    have hall : logHeadings.all (fun heading => '\n' ∉ heading) = true := by decide
    exact fun heading hmem => of_decide_eq_true (List.all_eq_true.mp hall heading hmem)
  have hvalues : ∀ value ∈ logValues req ts, '\n' ∉ value := by
    simp only [logValues, List.forall_mem_cons]
    exact ⟨not_mem_reasonValue h, h.source, hts, h.customReason, h.otherReason, fun _ hv => nomatch hv⟩
  intro line hline
  obtain ⟨i, hi, rfl⟩ := List.mem_iff_getElem.mp hline
  rw [List.getElem_zipWith]
  exact endedLine_headedLine (hheadings _ (List.getElem_mem _)) (hvalues _ (List.getElem_mem _))

theorem headings_of_lines {headings values : List Bytes} (h : headings.length = values.length) :
    List.Forall₂ (· <+: ·) headings (List.zipWith headedLine headings values) := by
  induction headings generalizing values with
  | nil => exact .nil
  | cons heading headings ih =>
    cases values with
    | nil => cases h
    | cons value values => exact .cons (prefix_headedLine heading value) (ih (Nat.succ.inj h))

/-- The log has one field a line when all five lines fit, and only then. -/
theorem fieldPerLine_iff_fits (h : req.NewlineFree) (hts : '\n' ∉ ts) :
    FieldPerLine (rebootInfoLogLines req ts).flatten ↔
      ∀ line ∈ List.zipWith headedLine logHeadings (logValues req ts), line.length < 1024 := by
  have hended := endedLine_of_mem h hts
  rw [rebootInfoLogLines_eq_headedLines]
  constructor
  · rintro ⟨hends, hheadings⟩
    have hlength : logHeadings.length = _ := hheadings.length_eq
    exact fits_of_lines_through_buffer hended hlength.symm hends
  · intro hfits
    rw [FieldPerLine, lines_through_buffer hended hfits]
    refine ⟨fun line hline => ?_, headings_of_lines rfl⟩
    obtain ⟨text, rfl, -⟩ := hended line hline
    exact List.suffix_append text ['\n']

theorem length_reasonValue : req.reasonValue.length + 15 = req.reasonLength := by
  have hpre : "Triggered from ".toList.length = 15 := by decide
  have hcrash : " process failure or crash..!".toList.length = 28 := by decide
  have hprocess : " process".toList.length = 8 := by decide
  unfold Request.reasonValue Request.reasonLength
  generalize "Triggered from ".toList = prefixed at *
  generalize " process failure or crash..!".toList = crash at *
  generalize " process".toList = process at *
  simp only [List.length_append, hpre]
  split <;> split <;> simp only [hcrash, hprocess, List.length_nil, List.length_cons] <;> omega

theorem lengths_le_reasonLength : req.source.bytes.length + 38 ≤ req.reasonLength ∧
    req.otherReason.bytes.length + 31 ≤ req.reasonLength := by
  have hunknown : "Unknown".toList.length = 7 := by decide
  have htrigger : 8 ≤ if req.isCrash then 28 else 8 := by
    split <;> omega
  unfold Request.reasonLength
  by_cases hother : req.otherReason.bytes = "Unknown".toList
  · rw [if_pos hother, hother, hunknown]
    omega
  · rw [if_neg hother]
    omega

/-- The other three lines are shorter than the first, or as short as a time. -/
theorem fits_iff (hts : ts.length < 64) :
    (∀ line ∈ List.zipWith headedLine logHeadings (logValues req ts), line.length < 1024) ↔
      req.FitsReasonStr := by
  have hfirst : "RebootReason: ".toList.length = 14 := by decide
  have hsource : "RebootInitiatedBy: ".toList.length = 19 := by decide
  have htime : "RebootTime: ".toList.length = 12 := by decide
  have hcustom : "CustomReason: ".toList.length = 14 := by decide
  have hother : "OtherReason: ".toList.length = 13 := by decide
  have hreason := @length_reasonValue req
  obtain ⟨hsourceline, hotherline⟩ := @lengths_le_reasonLength req
  unfold logHeadings logValues Request.FitsReasonStr
  simp only [List.zipWith_cons_cons, List.zipWith_nil_left, List.forall_mem_cons, length_headedLine,
    hfirst, hsource, htime, hcustom, hother]
  constructor
  · rintro ⟨hline, -, -, hline', -⟩
    omega
  · rintro ⟨hline, hline'⟩
    refine ⟨by omega, by omega, by omega, by omega, by omega, fun _ hmem => nomatch hmem⟩

theorem fieldPerLine_iff (h : req.NewlineFree) (t : Tm) :
    FieldPerLine (rebootInfoLogLines req (timestampUpdate t)).flatten ↔ req.FitsReasonStr :=
  (fieldPerLine_iff_fits h (not_mem_timestampUpdate t rfl)).trans (fits_iff (length_timestampUpdate_lt t))

end Lines

/-! ## The log of a request -/

theorem files_rebootInfoLog_saveRebootInfo {env : HelperEnv} (h : env.io.Ok) (req : Request) (d : Device) :
    ((saveRebootInfo env req).final d).files .rebootInfoLog
      = some (rebootInfoLogLines req (timestampUpdate env.now)).flatten := by
  rw [final_saveRebootInfo h]
  simp [Function.update_of_ne]

/-- **The log has one field a line exactly when two of its lines fit `reason_str`.** -/
theorem fieldPerLine_saveRebootInfo {env : HelperEnv} (h : env.io.Ok) {req : Request}
    (hfree : req.NewlineFree) (d : Device) :
    (∃ content, ((saveRebootInfo env req).final d).files .rebootInfoLog = some content ∧
      FieldPerLine content) ↔ req.FitsReasonStr := by
  rw [files_rebootInfoLog_saveRebootInfo h, ← fieldPerLine_iff hfree env.now]
  constructor
  · rintro ⟨content, hcontent, hlines⟩
    rwa [Option.some.inj hcontent]
  · exact fun hlines => ⟨_, rfl, hlines⟩

theorem newlineFree_serviceRequest : serviceRequest.NewlineFree :=
  ⟨by decide, by decide, by decide⟩

theorem fieldPerLine_serviceRequest :
    ∃ content, ((saveRebootInfo (HelperEnv.plain .epoch 30) serviceRequest).final Device.blank).files
      .rebootInfoLog = some content ∧ FieldPerLine content :=
  (fieldPerLine_saveRebootInfo (HelperEnv.plain_ok _ _).io newlineFree_serviceRequest _).mpr
    ⟨by decide, by decide⟩

/-- `rebootnow -s AAA...`, a thousand of them. -/
def overlongRequest : Request :=
  ⟨⟨List.replicate 1000 'A', fun hmem => absurd (List.eq_of_mem_replicate hmem) (by decide)⟩, false,
    unknownReason, unknownReason⟩

/-- The first line of a long request has no newline: the second one goes on in it. -/
theorem not_fieldPerLine_overlongRequest : overlongRequest.NewlineFree ∧
    ¬ ∃ content, ((saveRebootInfo (HelperEnv.plain .epoch 30) overlongRequest).final Device.blank).files
      .rebootInfoLog = some content ∧ FieldPerLine content := by
  have hfree : overlongRequest.NewlineFree :=
    ⟨fun hmem => absurd (List.eq_of_mem_replicate hmem) (by decide), by decide, by decide⟩
  refine ⟨hfree, ?_⟩
  rintro ⟨content, hcontent, hlines⟩
  rw [files_rebootInfoLog_saveRebootInfo (HelperEnv.plain_ok _ _).io] at hcontent
  obtain rfl := Option.some.inj hcontent
  have hfits := ((fieldPerLine_iff hfree _).mp hlines).1
  have hlong := (@lengths_le_reasonLength overlongRequest).1
  have hlength : overlongRequest.source.bytes.length = 1000 := List.length_replicate
  omega

end RebootManager
