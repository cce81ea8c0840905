/-
# RebootManager.Fetcher.CleanFields -- what a parsed field looks like (bootup_reason_checker.c)

A field of the old log is printed back as the end of a line, so it should not have a newline in it and no
white space around it. `getVal` sees to that for whatever a line holds (`clean_getVal`). The other extractor,
`resolve_hal_sys_reboot`, trims less: blanks before the word behind "Triggered from ", blanks behind the
reason, and nothing after a cut. What it makes is clean where the two parts of the line are
(`parsedFieldsClean_iff`); a reason that runs to the end of the line is not, for it takes the newline along.
-/
import RebootManager.Fetcher.LegacyLog

namespace RebootManager

open Foundation

/-! ## Clean fields -/

/-- One line, with no white space around it. -/
structure CleanField (v : Bytes) : Prop where
  noNewline : '\n' ∉ v
  first : ∀ c ∈ v.head?, isBlank c = false
  last : ∀ c ∈ v.getLast?, isTrailing c = false

theorem cleanField_nil : CleanField [] :=
  ⟨List.not_mem_nil, fun _ hc => (nomatch hc), fun _ hc => (nomatch hc)⟩

/-- The four fields that the log has. -/
def CleanFields (info : RebootInfo) : Prop := ∀ f : LogField, CleanField (info.field f)

/-- White space at neither end of a text, as far as the field reaches. -/
structure CutClean (text : Bytes) : Prop where
  first : text.head? ≠ some '\t'
  last : ∀ c ∈ (text.take (maxReasonLength - 1)).getLast?, isTrailing c = false

/-! ## Trimming -/

theorem trimEnd_isPrefix (drop : Char → Bool) (text : Bytes) : trimEnd drop text <+: text :=
  List.rdropWhile_prefix drop text

/-- A newline is white space at the end. -/
theorem not_mem_of_trailing {text : Bytes} (h : NewlineLast text)
    (hlast : ∀ c ∈ text.getLast?, isTrailing c = false) : '\n' ∉ text := by
  apply h.not_mem
  intro hnewline
  have hkept := hlast '\n' hnewline
  exact absurd hkept (by decide)

/-- A newline at the end, blanks and returns before it: all of it goes. -/
theorem cleanField_trimEnd {text : Bytes} (hlast : NewlineLast text)
    (hfirst : ∀ c ∈ text.head?, isBlank c = false) : CleanField (trimEnd isTrailing text) := by
  have htrimmed : ∀ c ∈ (trimEnd isTrailing text).getLast?, isTrailing c = false := by
    intro c hc
    have hne : trimEnd isTrailing text ≠ [] := fun heq => by simp [heq] at hc
    have hnot := List.rdropWhile_last_not isTrailing text hne
    rw [List.getLast?_eq_some_getLast hne, Option.mem_some_iff] at hc
    exact hc ▸ Bool.eq_false_iff.mpr hnot
  refine ⟨?_, fun c hc => hfirst c (head?_of_isPrefix (trimEnd_isPrefix _ _) hc), htrimmed⟩
  exact not_mem_of_trailing (hlast.of_infix (trimEnd_isPrefix isTrailing text).isInfix) htrimmed

/-- `getVal` trims. -/
theorem clean_getVal {line : Bytes} (h : NewlineLast line) (marker : Bytes) (size : Nat) :
    CleanField (getVal line marker size) := by
  have hvalue : (line.drop marker.length).dropWhile isBlank <:+ line :=
    (List.dropWhile_suffix _).trans (List.drop_suffix _ _)
  have hcut : snprintf size ((line.drop marker.length).dropWhile isBlank)
      <+: (line.drop marker.length).dropWhile isBlank := List.take_prefix _ _
  apply cleanField_trimEnd (h.of_infix (hcut.isInfix.trans hvalue.isInfix))
  exact fun c hc => head?_dropWhile (head?_of_isPrefix hcut hc)

theorem clean_value {line : Bytes} (h : NewlineLast line) (m : Marker) : CleanField (m.value line) := by
  unfold Marker.value Marker.found markedValue
  cases hfound : strstr line m.text.toList with
  | none => exact cleanField_nil
  | some found => exact clean_getVal (h.of_infix (suffix_of_strstr hfound).isInfix) _ _

/-- A cut text without a blank before it is clean where neither of its ends is white space. -/
theorem clean_snprintf_iff {text : Bytes} (hlast : NewlineLast text) (hblank : text.head? ≠ some ' ') :
    CleanField (snprintf maxReasonLength text) ↔ CutClean text := by
  have hcut : snprintf maxReasonLength text = text.take 127 := rfl
  have hhead : (text.take 127).head? = text.head? := by
    cases text <;> rfl
  rw [hcut]
  constructor
  · intro hclean
    refine ⟨fun htab => ?_, hclean.last⟩
    have hfirst := hclean.first '\t' (by rw [hhead, htab]; rfl)
    exact absurd hfirst (by decide)
  · intro hends
    refine ⟨not_mem_of_trailing (hlast.of_infix (List.take_prefix 127 text).isInfix) hends.last,
      fun c hc => ?_, hends.last⟩
    rw [hhead] at hc
    have hspace : c ≠ ' ' := fun heq => hblank (heq ▸ hc)
    have htab : c ≠ '\t' := fun heq => hends.first (heq ▸ hc)
    simp [isBlank, hspace, htab]

/-! ## The line of a HAL reboot -/

/-- The initiator and the reason behind "Triggered from " have no white space at their ends. -/
def TriggerClean (trigger : Bytes) : Prop :=
  match strchr trigger ' ' with
  | none => trigger.head? = some '\t' → ∀ c ∈ trigger.take (maxReasonLength - 1), isTrailing c = true
  | some space =>
    CutClean (trigger.takeWhile (· ≠ ' ')) ∧
      CutClean (trimEnd isBlank (((space.drop 1).dropWhile (· = ' ')).takeWhile (· ≠ '(')))

/-- A single word. -/
theorem clean_word_iff {trigger : Bytes} (hlast : NewlineLast trigger) (hspace : ' ' ∉ trigger) :
    CleanField (trimEnd isTrailing (snprintf maxReasonLength trigger)) ↔
      (trigger.head? = some '\t' → ∀ c ∈ trigger.take (maxReasonLength - 1), isTrailing c = true) := by
  have hcut : snprintf maxReasonLength trigger = trigger.take (maxReasonLength - 1) := rfl
  have hpre : trigger.take (maxReasonLength - 1) <+: trigger := List.take_prefix _ _
  rw [hcut]
  constructor
  · intro hclean htab
    by_contra hkept
    have hne : trimEnd isTrailing (trigger.take (maxReasonLength - 1)) ≠ [] :=
      fun hnil => hkept (List.rdropWhile_eq_nil_iff.mp hnil)
    obtain ⟨c, word, hword⟩ := List.exists_cons_of_ne_nil hne
    have hhead := head?_of_isPrefix ((trimEnd_isPrefix isTrailing _).trans hpre) (c := c) (by simp [hword])
    rw [htab, Option.mem_some_iff] at hhead
    have hfirst := hclean.first c (by simp [hword])
    rw [← hhead] at hfirst
    exact absurd hfirst (by decide)
  · intro hword
    by_cases htab : trigger.head? = some '\t'
    · have hnil : trimEnd isTrailing (trigger.take (maxReasonLength - 1)) = [] :=
        List.rdropWhile_eq_nil_iff.mpr (hword htab)
      rw [hnil]
      exact cleanField_nil
    · apply cleanField_trimEnd (hlast.of_infix hpre.isInfix)
      intro c hc
      have hhead := head?_of_isPrefix hpre hc
      have hnotab : c ≠ '\t' := fun heq => htab (heq ▸ hhead)
      have hnospace : c ≠ ' ' := fun heq => hspace (heq ▸ List.mem_of_mem_head? hhead)
      simp [isBlank, hnotab, hnospace]

/-- Two parts. -/
theorem clean_parts_iff {trigger space : Bytes} (hlast : NewlineLast trigger)
    (hspace : strchr trigger ' ' = some space) :
    (CleanField (snprintf maxReasonLength (trigger.take (trigger.length - space.length))) ∧
      CleanField (snprintf maxReasonLength
        (trimEnd isBlank (((space.drop 1).dropWhile (· = ' ')).takeWhile (· ≠ '('))))) ↔
      CutClean (trigger.takeWhile (· ≠ ' ')) ∧
        CutClean (trimEnd isBlank (((space.drop 1).dropWhile (· = ' ')).takeWhile (· ≠ '('))) := by
  rw [take_sub_strchr hspace]
  apply and_congr
  · apply clean_snprintf_iff (hlast.of_infix (List.takeWhile_prefix _).isInfix)
    intro hhead
    have hkept := List.mem_takeWhile_imp (List.mem_of_mem_head? (Option.mem_def.mpr hhead))
    simp at hkept
  · have hsuffix : space <:+ trigger := by
      unfold strchr at hspace
      split at hspace
      · exact Option.some.inj hspace ▸ List.dropWhile_suffix _
      · cases hspace
    have hreason : trimEnd isBlank (((space.drop 1).dropWhile (· = ' ')).takeWhile (· ≠ '('))
        <+: (space.drop 1).dropWhile (· = ' ') :=
      (trimEnd_isPrefix _ _).trans (List.takeWhile_prefix _)
    have hrest : (space.drop 1).dropWhile (· = ' ') <:+ trigger :=
      ((List.dropWhile_suffix _).trans (List.drop_suffix _ _)).trans hsuffix
    apply clean_snprintf_iff (hlast.of_infix (hreason.isInfix.trans hrest.isInfix))
    intro hhead
    have hnot := head?_dropWhile (head?_of_isPrefix hreason (Option.mem_def.mpr hhead))
    simp at hnot

/-- `resolve_hal_sys_reboot` leaves clean fields exactly where the trigger is clean. -/
theorem clean_resolve_iff {line source otherReason : Bytes} (hline : NewlineLast line)
    (hsource : CleanField source) (hother : CleanField otherReason) :
    (CleanField (resolveHalSysReboot line source otherReason).1 ∧
      CleanField (resolveHalSysReboot line source otherReason).2) ↔
      ∀ found, strstr line "Triggered from ".toList = some found →
        TriggerClean (found.drop "Triggered from ".toList.length) := by
  unfold resolveHalSysReboot
  generalize "Triggered from ".toList = marker
  cases hfound : strstr line marker with
  | none => exact ⟨fun _ found heq => (nomatch heq), fun _ => ⟨hsource, hother⟩⟩
  | some found =>
    have hlast : NewlineLast (found.drop marker.length) :=
      hline.of_infix (((List.drop_suffix _ _).trans (suffix_of_strstr hfound)).isInfix)
    simp only [Option.some.injEq, forall_eq']
    generalize found.drop marker.length = trigger at hlast
    unfold TriggerClean
    cases hspace : strchr trigger ' ' with
    | none =>
      have hno : ' ' ∉ trigger := by
        intro hmem
        rw [strchr, if_pos hmem] at hspace
        cases hspace
      exact (and_iff_left hother).trans (clean_word_iff hlast hno)
    | some space => exact clean_parts_iff hlast hspace

/-! ## The loop -/

namespace LegacyScan

/-- What the loop keeps: every value is clean, the kept line is a line, and a raw source has been counted. -/
structure Tidy (st : LegacyScan) : Prop where
  info : CleanFields st.info
  initiatedBy : CleanField st.rawInitiatedBy
  time : CleanField st.rawTime
  custom : CleanField st.rawCustom
  other : CleanField st.rawOther
  reason : NewlineLast st.rawRebootReason
  counted : st.rawInitiatedBy ≠ [] → st.rawFields ≠ 0

theorem tidy_start {info : RebootInfo} (h : CleanFields info) : (LegacyScan.start info).Tidy where
  info := h
  initiatedBy := cleanField_nil
  time := cleanField_nil
  custom := cleanField_nil
  other := cleanField_nil
  reason := List.not_mem_nil
  counted := fun hne => absurd rfl hne

theorem Tidy.store {st : LegacyScan} (h : st.Tidy) (m : Marker) {v : Bytes} (hv : CleanField v) :
    (st.store m v).Tidy := by
  cases m with
  | previous f =>
    refine { h with info := fun g => ?_ }
    by_cases hg : g = f
    · subst hg
      rw [show ((st.store (.previous g) v).info.field g) = v from RebootInfo.field_setField_self _ _ _]
      exact hv
    · rw [show ((st.store (.previous f) v).info.field g) = st.info.field g from
        RebootInfo.field_setField_of_ne _ hg _]
      exact h.info g
  | raw f =>
    have hcounted : st.rawFields + 1 ≠ 0 := Nat.succ_ne_zero _
    cases f with
    | source => exact { h with initiatedBy := hv, counted := fun _ => hcounted }
    | timestamp => exact { h with time := hv, counted := fun _ => hcounted }
    | customReason => exact { h with custom := hv, counted := fun _ => hcounted }
    | otherReason => exact { h with other := hv, counted := fun _ => hcounted }

theorem Tidy.takeLine {st : LegacyScan} (h : st.Tidy) {line : Bytes} (hline : NewlineLast line) :
    (st.takeLine line).Tidy := by
  rw [takeLine_eq]
  cases attribution line with
  | some m => exact h.store m (clean_value hline m)
  | none =>
    dsimp only
    unfold keepReason
    split
    · exact { h with reason := hline.of_infix (List.take_prefix _ _).isInfix }
    · exact h

theorem Tidy.run {ls : List Bytes} (hls : ∀ line ∈ ls, NewlineLast line) {st : LegacyScan} (h : st.Tidy) :
    (st.run ls).Tidy := by
  induction ls generalizing st with
  | nil => exact h
  | cons line ls ih =>
    have hnext := h.takeLine (hls line List.mem_cons_self)
    rw [LegacyScan.run]
    split
    · exact hnext
    · exact ih (fun l hl => hls l (List.mem_cons_of_mem line hl)) hnext

end LegacyScan

/-- The raw source of a line. -/
def sourceLine (line : Bytes) : Option Bytes :=
  if attribution line = some (.raw .source) then some (Marker.value (.raw .source) line) else none

/-- A line that no marker takes, with a reboot reason that names no HAL. -/
def keptLine (line : Bytes) : Bool :=
  attribution line = none ∧ (strstr line "RebootReason:".toList).isSome ∧
    ¬ (strstr line "HAL_SYS_Reboot".toList).isSome

section Last

/-- What one line does to the two. -/
theorem takeLine_last (st : LegacyScan) {line : Bytes} (hlength : line.length < maxBufferSize) :
    (st.takeLine line).rawInitiatedBy = (sourceLine line).getD st.rawInitiatedBy ∧
      (st.takeLine line).rawRebootReason = if keptLine line then line else st.rawRebootReason := by
  rw [LegacyScan.takeLine_eq]
  unfold sourceLine keptLine
  cases attribution line with
  | some m =>
    cases m with
    | previous f => exact ⟨rfl, rfl⟩
    | raw f => cases f <;> exact ⟨rfl, rfl⟩
  | none =>
    have hwhole : snprintf maxBufferSize line = line := snprintf_of_fits hlength
    dsimp only
    unfold LegacyScan.keepReason
    rw [hwhole]
    generalize (strstr line "RebootReason:".toList).isSome = isReason
    generalize (strstr line "HAL_SYS_Reboot".toList).isSome = isHal
    cases isReason <;> cases isHal <;> exact ⟨rfl, rfl⟩

/-- Without a hit, the raw source and the kept line are the last ones of the log. -/
theorem run_last {ls : List Bytes} (hhit : ∀ line ∈ ls, LegacyScan.hit line = none)
    (hlength : ∀ line ∈ ls, line.length < maxBufferSize) (st : LegacyScan) (hfound : st.foundFields = 0) :
    (st.run ls).rawInitiatedBy = (ls.filterMap sourceLine).getLast?.getD st.rawInitiatedBy ∧
      (st.run ls).rawRebootReason = (ls.filter keptLine).getLast?.getD st.rawRebootReason := by
  induction ls generalizing st with
  | nil => exact ⟨rfl, rfl⟩
  | cons line ls ih =>
    have hcount := (LegacyScan.takeLine_of_no_hit (hhit line List.mem_cons_self) st).2
    obtain ⟨hsource, hreason⟩ := takeLine_last st (hlength line List.mem_cons_self)
    have hrest := ih (fun l hl => hhit l (List.mem_cons_of_mem line hl))
      (fun l hl => hlength l (List.mem_cons_of_mem line hl)) (st.takeLine line) (hcount.trans hfound)
    have hgo : ¬ (st.takeLine line).foundFields ≥ 4 := by omega
    rw [LegacyScan.run, if_neg hgo, hrest.1, hrest.2, hsource, hreason]
    constructor
    · cases hline : sourceLine line with
      | none => rw [List.filterMap_cons_none hline, Option.getD_none]
      | some v => rw [List.filterMap_cons_some hline, List.getLast?_cons, Option.getD_some, Option.getD_some]
    · cases hline : keptLine line with
      | false => rw [List.filter_cons_of_neg (by simp [hline]), if_neg Bool.false_ne_true]
      | true => rw [List.filter_cons_of_pos hline, List.getLast?_cons, if_pos rfl, Option.getD_some]

end Last

/-! ## What is parsed -/

theorem cleanFields_iff {info : RebootInfo} :
    CleanFields info ↔ CleanField info.source ∧ CleanField info.timestamp ∧
      CleanField info.customReason ∧ CleanField info.otherReason := by
  constructor
  · intro h
    exact ⟨h .source, h .timestamp, h .customReason, h .otherReason⟩
  · rintro ⟨hsource, htime, hcustom, hother⟩ f
    cases f with
    | source => exact hsource
    | timestamp => exact htime
    | customReason => exact hcustom
    | otherReason => exact hother

/-- The record before the parse. -/
def blankInfo : RebootInfo := ⟨[], [], [], [], []⟩

/-- A parse that succeeds leaves clean fields. -/
def ParsedFieldsClean (content : Bytes) : Prop :=
  ∀ info, parseLegacyLog content blankInfo = some info → CleanFields info

/-- The log has no `Previous...` line, its last raw source is the HAL, and this is the last line with a reboot
reason. -/
structure Resolves (content line : Bytes) : Prop where
  noHit : ∀ buf ∈ fgetsLines maxBufferSize content, LegacyScan.hit buf = none
  hal : ((fgetsLines maxBufferSize content).filterMap sourceLine).getLast? = some "HAL_SYS_Reboot".toList
  reason : ((fgetsLines maxBufferSize content).filter keptLine).getLast? = some line

section Parsed

variable {content : Bytes}

/-- The loop over the log. -/
def scanned (content : Bytes) : LegacyScan :=
  (LegacyScan.start blankInfo).run (fgetsLines maxBufferSize content)

theorem tidy_scanned (content : Bytes) : (scanned content).Tidy := by
  have hblank : CleanFields blankInfo := fun f => by cases f <;> exact cleanField_nil
  refine LegacyScan.Tidy.run (fun line hline => ?_) (LegacyScan.tidy_start hblank)
  exact (newlineLast_of_mem_fgetsLines (by decide) hline).1

theorem foundFields_scanned (content : Bytes) :
    (scanned content).foundFields ≠ 0 ↔
      ∃ buf ∈ fgetsLines maxBufferSize content, (LegacyScan.hit buf).isSome = true := by
  have hcount := (LegacyScan.run_hits (fgetsLines maxBufferSize content) (LegacyScan.start blankInfo)
    (by show 0 < 4; omega)).2
  have hzero : (LegacyScan.start blankInfo).foundFields = 0 := rfl
  rw [scanned, hcount, hzero, Nat.zero_add, List.length_take]
  have hlength : min (4 - 0) ((fgetsLines maxBufferSize content).filterMap LegacyScan.hit).length ≠ 0 ↔
      (fgetsLines maxBufferSize content).filterMap LegacyScan.hit ≠ [] := by
    rw [← List.length_pos_iff_ne_nil]
    omega
  rw [hlength, Ne, List.filterMap_eq_nil_iff]
  simp [Option.isSome_iff_ne_none]

/-- Without a hit, the state has the last raw source and the last reboot reason of the log. -/
theorem last_scanned (h : ∀ buf ∈ fgetsLines maxBufferSize content, LegacyScan.hit buf = none) :
    (scanned content).rawInitiatedBy
        = ((fgetsLines maxBufferSize content).filterMap sourceLine).getLast?.getD [] ∧
      (scanned content).rawRebootReason
        = ((fgetsLines maxBufferSize content).filter keptLine).getLast?.getD [] :=
  run_last h (fun _ hline => (newlineLast_of_mem_fgetsLines (by decide) hline).2) _ rfl

theorem ne_nil_of_kept {line : Bytes} (h : keptLine line = true) : line ≠ [] := by
  rintro rfl
  revert h
  decide

theorem getD_nil_eq_iff {o : Option Bytes} {v : Bytes} (hv : v ≠ []) : o.getD [] = v ↔ o = some v := by
  cases o with
  | none => exact ⟨fun heq => absurd heq.symm hv, fun heq => nomatch heq⟩
  | some w => simp

/-- The state resolves the source exactly where the log has both lines. -/
theorem resolves_iff (h : ∀ buf ∈ fgetsLines maxBufferSize content, LegacyScan.hit buf = none)
    (line : Bytes) :
    Resolves content line ↔ (scanned content).rawInitiatedBy = "HAL_SYS_Reboot".toList ∧
      (scanned content).rawRebootReason = line ∧ line ≠ [] := by
  obtain ⟨hsource, hreason⟩ := last_scanned h
  have hne : "HAL_SYS_Reboot".toList ≠ [] := by decide
  rw [hsource, hreason, getD_nil_eq_iff hne]
  constructor
  · rintro ⟨-, hhal, hkept⟩
    have hmem := List.mem_of_getLast? hkept
    exact ⟨hhal, by rw [hkept, Option.getD_some], ne_nil_of_kept (List.mem_filter.mp hmem).2⟩
  · rintro ⟨hhal, hkept, hline⟩
    exact ⟨h, hhal, (getD_nil_eq_iff hline).mp hkept⟩

/-- The record that is made of the raw set. -/
def rawRecord (st : LegacyScan) : RebootInfo :=
  let (source, otherReason) :=
    if st.rawInitiatedBy = "HAL_SYS_Reboot".toList ∧ st.rawRebootReason ≠ [] then
      resolveHalSysReboot st.rawRebootReason st.rawInitiatedBy st.rawOther
    else (st.rawInitiatedBy, st.rawOther)
  { st.info with
    source := source, timestamp := st.rawTime, customReason := st.rawCustom
    otherReason := otherReason }

theorem parse_scanned (content : Bytes) :
    parseLegacyLog content blankInfo =
      if (scanned content).foundFields ≠ 0 then some (scanned content).info
      else if (scanned content).rawFields ≠ 0 then some (rawRecord (scanned content))
      else none := rfl

/-- The raw set is clean, and what becomes of it too unless it is resolved from an unclean trigger. -/
theorem cleanFields_rawRecord_iff {st : LegacyScan} (h : st.Tidy) :
    CleanFields (rawRecord st) ↔
      (st.rawInitiatedBy = "HAL_SYS_Reboot".toList ∧ st.rawRebootReason ≠ [] →
        ∀ found, strstr st.rawRebootReason "Triggered from ".toList = some found →
          TriggerClean (found.drop "Triggered from ".toList.length)) := by
  rw [← clean_resolve_iff h.reason h.initiatedBy h.other, cleanFields_iff]
  unfold rawRecord
  by_cases hresolved : st.rawInitiatedBy = "HAL_SYS_Reboot".toList ∧ st.rawRebootReason ≠ []
  · rw [if_pos hresolved]
    exact ⟨fun hclean _ => ⟨hclean.1, hclean.2.2.2⟩,
      fun hclean => ⟨(hclean hresolved).1, h.time, h.custom, (hclean hresolved).2⟩⟩
  · rw [if_neg hresolved]
    exact ⟨fun _ hagain => absurd hagain hresolved,
      fun _ => ⟨h.initiatedBy, h.time, h.custom, h.other⟩⟩

/-- **Parsed fields are clean exactly where a HAL reboot has a clean trigger.** -/
theorem parsedFieldsClean_iff (content : Bytes) :
    ParsedFieldsClean content ↔
      ∀ line found, Resolves content line → strstr line "Triggered from ".toList = some found →
        TriggerClean (found.drop "Triggered from ".toList.length) := by
  have htidy := tidy_scanned content
  unfold ParsedFieldsClean
  rw [parse_scanned]
  by_cases hfound : (scanned content).foundFields ≠ 0
  · -- the record is filled from the hits
    obtain ⟨buf, hbuf, hsome⟩ := (foundFields_scanned content).mp hfound
    rw [if_pos hfound]
    refine ⟨fun _ line found hresolves _ => ?_, fun _ info hinfo => Option.some.inj hinfo ▸ htidy.info⟩
    rw [hresolves.noHit buf hbuf] at hsome
    cases hsome
  · have hnone : ∀ buf ∈ fgetsLines maxBufferSize content, LegacyScan.hit buf = none := by
      intro buf hbuf
      rw [← Option.not_isSome_iff_eq_none]
      exact fun hsome => hfound ((foundFields_scanned content).mpr ⟨buf, hbuf, hsome⟩)
    rw [if_neg hfound]
    by_cases hraw : (scanned content).rawFields ≠ 0
    · rw [if_pos hraw]
      have hrecord := cleanFields_rawRecord_iff htidy
      constructor
      · intro hclean line found hresolves
        obtain ⟨hhal, hreason, hne⟩ := (resolves_iff hnone line).mp hresolves
        exact hreason ▸ hrecord.mp (hclean _ rfl) ⟨hhal, hreason ▸ hne⟩ found
      · intro htrigger info hinfo
        refine Option.some.inj hinfo ▸ hrecord.mpr fun hresolved found => ?_
        exact htrigger _ found ((resolves_iff hnone _).mpr ⟨hresolved.1, rfl, hresolved.2⟩)
    · rw [if_neg hraw]
      refine ⟨fun _ line found hresolves => ?_, fun _ info hinfo => nomatch hinfo⟩
      -- without a raw line there is no source to resolve
      have hhal := ((resolves_iff hnone line).mp hresolves).1
      have hsource : (scanned content).rawInitiatedBy ≠ [] := by
        rw [hhal]
        decide
      exact absurd (htidy.counted hsource) hraw

end Parsed

/-- A reboot that the HAL reports, with the reason at the end of its line. -/
def standbyLog : Bytes :=
  "RebootReason: Triggered from PowerMgr standby\nRebootInitiatedBy: HAL_SYS_Reboot\n".toList

/-- The other reason takes the newline along. -/
theorem not_parsedFieldsClean_standbyLog : ¬ ParsedFieldsClean standbyLog := by
  intro hclean
  have hparse : (parseLegacyLog standbyLog blankInfo).map RebootInfo.otherReason
      = some "standby\n".toList := by decide +kernel
  obtain ⟨info, hinfo, hother⟩ := Option.map_eq_some_iff.mp hparse
  have hfield := (hclean info hinfo .otherReason).noNewline
  rw [show info.field .otherReason = "standby\n".toList from hother] at hfield
  exact hfield (by decide)

end RebootManager
