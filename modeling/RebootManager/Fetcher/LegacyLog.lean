/-
# RebootManager.Fetcher.LegacyLog -- which line fills which field (bootup_reason_checker.c)

`parse_legacy_log` goes through rebootInfo.log line by line, and each line through a chain of eight
unanchored searches: the four `Previous...` markers first, then the four markers of `rebootnow`, every one
of which is a part of its `Previous...` counterpart. `attribution` is the first marker the chain finds
(`takeLine_eq`), so that what follows is by cases on the attribution and never unfolds the chain again.

The loop stops when four lines have been attributed to `Previous...` markers, not when four fields have
been filled. What it returns are the values of these four lines at most (`run_hits`), so a log that
repeats a marker among them loses a field that it has further down (`earlyExit_complete_iff`), and the
lines of `rebootnow` in such a log have no part in it (`previousLines_mask`).
-/
import RebootManager.Fetcher.RebootLog

namespace RebootManager

open Foundation

/-! ## Fields and markers -/

/-- The fields of a record that rebootInfo.log has. -/
inductive LogField where
  | source
  | timestamp
  | customReason
  | otherReason
  deriving DecidableEq

namespace LogField

/-- In the order of the chain. -/
def all : List LogField := [.source, .timestamp, .customReason, .otherReason]

/-- The size of the buffer a field is read into. -/
def size : LogField → Nat
  | .timestamp => maxTimestampLength
  | _ => maxReasonLength

end LogField

namespace RebootInfo

def field (info : RebootInfo) : LogField → Bytes
  | .source => info.source
  | .timestamp => info.timestamp
  | .customReason => info.customReason
  | .otherReason => info.otherReason

def setField (info : RebootInfo) (f : LogField) (v : Bytes) : RebootInfo :=
  match f with
  | .source => { info with source := v }
  | .timestamp => { info with timestamp := v }
  | .customReason => { info with customReason := v }
  | .otherReason => { info with otherReason := v }

@[simp] theorem field_setField_self (info : RebootInfo) (f : LogField) (v : Bytes) :
    (info.setField f v).field f = v := by
  cases f <;> rfl

theorem field_setField_of_ne (info : RebootInfo) {f g : LogField} (h : g ≠ f) (v : Bytes) :
    (info.setField f v).field g = info.field g := by
  cases f <;> cases g <;> first | rfl | exact absurd rfl h

end RebootInfo

/-- What a line can be attributed to. -/
inductive Marker where
  /-- A line of `update_previous_reboot_log_fields`. -/
  | previous (f : LogField)
  /-- A line of `rebootnow`. -/
  | raw (f : LogField)
  deriving DecidableEq

namespace Marker

def text : Marker → String
  | .previous .source => "PreviousRebootInitiatedBy:"
  | .previous .timestamp => "PreviousRebootTime:"
  | .previous .customReason => "PreviousCustomReason:"
  | .previous .otherReason => "PreviousOtherReason:"
  | .raw .source => "RebootInitiatedBy:"
  | .raw .timestamp => "RebootTime:"
  | .raw .customReason => "CustomReason:"
  | .raw .otherReason => "OtherReason:"

def field : Marker → LogField
  | .previous f => f
  | .raw f => f

/-- The chain of `parse_legacy_log`. -/
def chain : List Marker := LogField.all.map .previous ++ LogField.all.map .raw

/-- The value of a line that has the marker: what is behind it, trimmed and cut to the field. -/
def found (m : Marker) (line : Bytes) : Option Bytes := markedValue line m.text m.field.size

/-- The value of a line, empty where the line has no such marker. -/
def value (m : Marker) (line : Bytes) : Bytes := (m.found line).getD []

theorem isSome_found (m : Marker) (line : Bytes) :
    (m.found line).isSome = (strstr line m.text.toList).isSome := by
  rw [found, markedValue, Option.isSome_map]

end Marker

/-- The first marker of the chain that the line has. -/
def attribution (line : Bytes) : Option Marker :=
  Marker.chain.find? fun m => (strstr line m.text.toList).isSome

/-! ## One round -/

namespace LegacyScan

/-- A value goes to its field, of the record or of the raw set. -/
def store (st : LegacyScan) : Marker → Bytes → LegacyScan
  | .previous f, v => { st with info := st.info.setField f v, foundFields := st.foundFields + 1 }
  | .raw .source, v => { st with rawInitiatedBy := v, rawFields := st.rawFields + 1 }
  | .raw .timestamp, v => { st with rawTime := v, rawFields := st.rawFields + 1 }
  | .raw .customReason, v => { st with rawCustom := v, rawFields := st.rawFields + 1 }
  | .raw .otherReason, v => { st with rawOther := v, rawFields := st.rawFields + 1 }

/-- The last branch: a line with a reboot reason that names no HAL is kept. -/
def keepReason (st : LegacyScan) (line : Bytes) : LegacyScan :=
  if (strstr line "RebootReason:".toList).isSome ∧ ¬ (strstr line "HAL_SYS_Reboot".toList).isSome then
    { st with rawRebootReason := snprintf maxBufferSize line }
  else st

/-- One link of the chain: the marker is tried, and where it is not found the chain goes on. -/
def tryMarker (st : LegacyScan) (line : Bytes) (m : Marker) (rest : LegacyScan) : LegacyScan :=
  match m.found line with
  | some v => st.store m v
  | none => rest

/-- The chain is its links in order. -/
theorem takeLine_eq_foldr (st : LegacyScan) (line : Bytes) :
    st.takeLine line = Marker.chain.foldr (st.tryMarker line) (st.keepReason line) := rfl

/-- Trying markers in order is taking the first one that is found. -/
theorem foldr_tryMarker (st : LegacyScan) (line : Bytes) (ms : List Marker) (last : LegacyScan) :
    ms.foldr (st.tryMarker line) last =
      match ms.find? fun m => (strstr line m.text.toList).isSome with
      | some m => st.store m (m.value line)
      | none => last := by
  induction ms with
  | nil => rfl
  | cons m ms ih =>
    rw [List.foldr_cons, List.find?_cons, tryMarker, ← Marker.isSome_found]
    cases hfound : m.found line with
    | none => exact ih
    | some v => simp [Marker.value, hfound]

/-- One round of the loop, by the attribution of the line. -/
theorem takeLine_eq (st : LegacyScan) (line : Bytes) :
    st.takeLine line =
      match attribution line with
      | some m => st.store m (m.value line)
      | none => st.keepReason line := by
  rw [takeLine_eq_foldr, foldr_tryMarker]
  rfl

/-! ## The loop -/

/-- A hit: the line is attributed to a `Previous...` marker. -/
def hit (line : Bytes) : Option (LogField × Bytes) :=
  match attribution line with
  | some (.previous f) => some (f, Marker.value (.previous f) line)
  | _ => none

/-- A record with the values of hits put in, one after the other. -/
def fill (info : RebootInfo) (hits : List (LogField × Bytes)) : RebootInfo :=
  hits.foldl (fun info h => info.setField h.1 h.2) info

theorem takeLine_of_hit {line : Bytes} {f : LogField} {v : Bytes} (h : hit line = some (f, v))
    (st : LegacyScan) :
    st.takeLine line =
      { st with info := st.info.setField f v, foundFields := st.foundFields + 1 } := by
  rw [takeLine_eq]
  unfold hit at h
  split at h
  · rename_i g hattributed
    obtain ⟨rfl, rfl⟩ := Prod.mk.inj (Option.some.inj h)
    rw [hattributed]
    rfl
  · cases h

/-- Without a hit, the record and its counter stay. -/
theorem takeLine_of_no_hit {line : Bytes} (h : hit line = none) (st : LegacyScan) :
    (st.takeLine line).info = st.info ∧ (st.takeLine line).foundFields = st.foundFields := by
  rw [takeLine_eq]
  unfold hit at h
  cases hattributed : attribution line with
  | none =>
    dsimp only
    unfold keepReason
    split <;> exact ⟨rfl, rfl⟩
  | some m =>
    cases m with
    | previous f =>
      rw [hattributed] at h
      cases h
    | raw f => cases f <;> exact ⟨rfl, rfl⟩

/-- **The loop takes the first four hits.** What it has read from a state with fewer than four are the
hits that are missing to four, or as many as there are. -/
theorem run_hits (ls : List Bytes) (st : LegacyScan) (h : st.foundFields < 4) :
    (st.run ls).info = fill st.info ((ls.filterMap hit).take (4 - st.foundFields)) ∧
      (st.run ls).foundFields =
        st.foundFields + ((ls.filterMap hit).take (4 - st.foundFields)).length := by
  induction ls generalizing st with
  | nil => simp [run, fill]
  | cons line ls ih =>
    cases hhit : hit line with
    | none =>
      obtain ⟨hinfo, hcount⟩ := takeLine_of_no_hit hhit st
      have hrest := ih (st.takeLine line) (by omega)
      rw [run, if_neg (by omega), List.filterMap_cons_none hhit]
      rw [hinfo, hcount] at hrest
      exact hrest
    | some fv =>
      obtain ⟨f, v⟩ := fv
      have htaken := takeLine_of_hit hhit st
      rw [List.filterMap_cons_some hhit]
      obtain ⟨missing, hmissing⟩ : ∃ missing, 4 - st.foundFields = missing + 1 :=
        ⟨3 - st.foundFields, by omega⟩
      rw [hmissing, List.take_succ_cons, run, htaken]
      dsimp only
      split
      · -- the fourth hit ends the loop
        have hlast : missing = 0 := by omega
        rw [hlast, List.take_zero]
        exact ⟨rfl, rfl⟩
      · have hrest := ih { st with info := st.info.setField f v, foundFields := st.foundFields + 1 }
          (by show st.foundFields + 1 < 4; omega)
        have hleft : 4 - (st.foundFields + 1) = missing := by omega
        rw [hleft] at hrest
        refine ⟨hrest.1, ?_⟩
        rw [hrest.2, List.length_cons]
        show st.foundFields + 1 + _ = st.foundFields + (_ + 1)
        omega

end LegacyScan

/-- With a hit among what the loop sees, the raw set does not matter. -/
theorem parseLegacyLog_of_hits {content : Bytes}
    (h : (fgetsLines maxBufferSize content).filterMap LegacyScan.hit ≠ []) (info : RebootInfo) :
    parseLegacyLog content info = some (LegacyScan.fill info
      (((fgetsLines maxBufferSize content).filterMap LegacyScan.hit).take 4)) := by
  obtain ⟨hinfo, hcount⟩ := LegacyScan.run_hits (fgetsLines maxBufferSize content)
    (LegacyScan.start info) (by show 0 < 4; omega)
  have hfound : ((LegacyScan.start info).run (fgetsLines maxBufferSize content)).foundFields ≠ 0 := by
    have hlength := List.length_pos_of_ne_nil h
    rw [hcount, List.length_take]
    show 0 + min (4 - 0) _ ≠ 0
    omega
  rw [parseLegacyLog]
  dsimp only
  rw [if_pos hfound, hinfo]
  rfl

/-- Filling in hits gives every field the value of a hit of its own, or leaves it. -/
theorem field_fill (hits : List (LogField × Bytes)) (info : RebootInfo) (f : LogField) :
    (f, (LegacyScan.fill info hits).field f) ∈ hits ∨
      (∀ h ∈ hits, h.1 ≠ f) ∧ (LegacyScan.fill info hits).field f = info.field f := by
  induction hits generalizing info with
  | nil => exact Or.inr ⟨fun h hh => absurd hh List.not_mem_nil, rfl⟩
  | cons h hits ih =>
    have hstep : LegacyScan.fill info (h :: hits) = LegacyScan.fill (info.setField h.1 h.2) hits := rfl
    rw [hstep]
    rcases ih (info.setField h.1 h.2) with hmem | ⟨hnone, hkept⟩
    · exact Or.inl (List.mem_cons_of_mem h hmem)
    · by_cases hf : h.1 = f
      · subst hf
        rw [hkept, RebootInfo.field_setField_self]
        exact Or.inl List.mem_cons_self
      · refine Or.inr ⟨?_, ?_⟩
        · intro g hg
          rcases List.mem_cons.mp hg with rfl | hg
          · exact hf
          · exact hnone g hg
        · rw [hkept, RebootInfo.field_setField_of_ne info (Ne.symm hf)]

/-! ## The early exit -/

section EarlyExit

variable {content : Bytes}

/-- The lines of a log file, as the C strings the loop sees where every line fits its buffer. -/
def logLines (content : Bytes) : List Bytes := (lines content).map cstr

/-- Some line of the log is attributed to the `Previous...` marker of the field. -/
def HasLine (content : Bytes) (f : LogField) : Prop :=
  ∃ line ∈ logLines content, attribution line = some (.previous f)

instance (content : Bytes) (f : LogField) : Decidable (HasLine content f) :=
  inferInstanceAs (Decidable (∃ line ∈ logLines content, attribution line = some (.previous f)))

/-- The text is the value of such a line. -/
def ValueOf (content : Bytes) (f : LogField) (v : Bytes) : Prop :=
  ∃ line ∈ logLines content, attribution line = some (.previous f) ∧
    v = Marker.value (.previous f) line

instance (content : Bytes) (f : LogField) (v : Bytes) : Decidable (ValueOf content f v) :=
  inferInstanceAs (Decidable (∃ line ∈ logLines content, attribution line = some (.previous f) ∧
    v = Marker.value (.previous f) line))

/-- The first four hits of the log, by field and value. -/
def firstHits (content : Bytes) : List (LogField × Bytes) :=
  ((logLines content).filterMap LegacyScan.hit).take 4

theorem hit_eq_some_iff {line : Bytes} {f : LogField} {v : Bytes} :
    LegacyScan.hit line = some (f, v) ↔
      attribution line = some (.previous f) ∧ v = Marker.value (.previous f) line := by
  unfold LegacyScan.hit
  cases hattributed : attribution line with
  | none => simp
  | some m =>
    cases m with
    | raw g => simp
    | previous g =>
      simp only [Option.some.injEq, Prod.mk.injEq, Marker.previous.injEq]
      constructor
      · rintro ⟨rfl, rfl⟩
        exact ⟨rfl, rfl⟩
      · rintro ⟨rfl, rfl⟩
        exact ⟨rfl, rfl⟩

theorem valueOf_of_mem_firstHits {f : LogField} {v : Bytes} (h : (f, v) ∈ firstHits content) :
    ValueOf content f v := by
  obtain ⟨line, hline, hhit⟩ := List.mem_filterMap.mp (List.mem_of_mem_take h)
  obtain ⟨hattributed, hvalue⟩ := hit_eq_some_iff.mp hhit
  exact ⟨line, hline, hattributed, hvalue⟩

/-- Where every line fits and there is a hit, the record is filled in with the first four. -/
theorem parseLegacyLog_eq_fill (hshort : ∀ line ∈ lines content, line.length ≤ maxBufferSize - 1)
    {f : LogField} (hline : HasLine content f) (info : RebootInfo) :
    parseLegacyLog content info = some (LegacyScan.fill info (firstHits content)) := by
  have hbuffers : fgetsLines maxBufferSize content = logLines content := fgetsLines_of_fits hshort
  have hhits : (logLines content).filterMap LegacyScan.hit ≠ [] := by
    obtain ⟨line, hmem, hattributed⟩ := hline
    have hhit := hit_eq_some_iff.mpr ⟨hattributed, rfl⟩
    exact List.ne_nil_of_mem (List.mem_filterMap.mpr ⟨line, hmem, hhit⟩)
  rw [parseLegacyLog_of_hits (hbuffers ▸ hhits), hbuffers]
  rfl

/-- **The early exit misses a field that is not among the first four hits.** For a log whose lines fit
and that has a line for each of the four fields, `parse_legacy_log` succeeds with a value of its own for
every field exactly when each field is among the first four hits, or the record held one of its values
before. -/
theorem earlyExit_complete_iff (info : RebootInfo)
    (hshort : ∀ line ∈ lines content, line.length ≤ maxBufferSize - 1)
    (hlines : ∀ f, HasLine content f) :
    (∃ parsed, parseLegacyLog content info = some parsed ∧ ∀ f, ValueOf content f (parsed.field f)) ↔
      ∀ f, (∃ h ∈ firstHits content, h.1 = f) ∨ ValueOf content f (info.field f) := by
  rw [parseLegacyLog_eq_fill hshort (hlines .source) info]
  constructor
  · rintro ⟨parsed, hparsed, hvalues⟩ f
    obtain rfl := Option.some.inj hparsed
    rcases field_fill (firstHits content) info f with hmem | ⟨-, hkept⟩
    · exact Or.inl ⟨_, hmem, rfl⟩
    · exact Or.inr (hkept ▸ hvalues f)
  · intro h
    refine ⟨_, rfl, fun f => ?_⟩
    rcases field_fill (firstHits content) info f with hmem | ⟨hnone, hkept⟩
    · exact valueOf_of_mem_firstHits hmem
    · rcases h f with ⟨hit, hhit, hf⟩ | hvalue
      · exact absurd hf (hnone hit hhit)
      · exact hkept ▸ hvalue

end EarlyExit

/-! ## What the raw lines contribute -/

/-- The line is attributed to one of the four `Previous...` markers. -/
def IsPreviousLine (line : Bytes) : Prop := ∃ f, attribution line = some (.previous f)

theorem isPreviousLine_iff {line : Bytes} :
    IsPreviousLine line ↔ (LegacyScan.hit line).isSome = true := by
  constructor
  · rintro ⟨f, hattributed⟩
    rw [hit_eq_some_iff.mpr ⟨hattributed, rfl⟩]
    rfl
  · intro h
    obtain ⟨⟨f, v⟩, hhit⟩ := Option.isSome_iff_exists.mp h
    exact ⟨f, (hit_eq_some_iff.mp hhit).1⟩

instance : DecidablePred IsPreviousLine := fun _ => decidable_of_iff _ isPreviousLine_iff.symm

/-- The texts of the lines of a log, without their newlines. -/
def logTexts (content : Bytes) : List Bytes := (logLines content).map (·.takeWhile (· ≠ '\n'))

/-- The lines of a log that are attributed to a `Previous...` marker, in order. -/
def previousLogLines (content : Bytes) : List Bytes := (logTexts content).filter IsPreviousLine

section Newline

theorem Marker.newline_not_mem (m : Marker) : '\n' ∉ m.text.toList := by
  rcases m with f | f <;> cases f <;> decide

/-- `getVal` trims the newline of the line, where the cut to the field has left it. -/
theorem getVal_append_newline {found marker : Bytes} (h : marker <+: found) (size : Nat) :
    getVal (found ++ ['\n']) marker size = getVal found marker size := by
  have hdrop : (found ++ ['\n']).drop marker.length = found.drop marker.length ++ ['\n'] :=
    List.drop_append_of_le_length h.length_le
  have hblank : ∀ text : Bytes, (text ++ ['\n']).dropWhile isBlank = text.dropWhile isBlank ++ ['\n'] := by
    intro text
    induction text with
    | nil => exact List.dropWhile_cons_of_neg (by decide)
    | cons c text ih =>
      by_cases hc : isBlank c = true
      · rw [List.cons_append, List.dropWhile_cons_of_pos hc, List.dropWhile_cons_of_pos hc, ih]
      · rw [List.cons_append, List.dropWhile_cons_of_neg hc, List.dropWhile_cons_of_neg hc, List.cons_append]
  rw [getVal, getVal, hdrop, hblank]
  generalize (found.drop marker.length).dropWhile isBlank = value
  by_cases hroom : value.length + 1 ≤ size - 1
  · have hwhole : snprintf size (value ++ ['\n']) = value ++ ['\n'] := by
      apply snprintf_of_fits
      rw [List.length_append, List.length_singleton]
      omega
    rw [hwhole, snprintf_of_fits (by omega)]
    exact List.rdropWhile_concat_pos isTrailing value '\n' (by decide)
  · rw [snprintf, List.take_append_of_le_length (by omega), snprintf]

/-- The newline at the end of a line is nothing to the search -/
theorem attribution_append_newline (text : Bytes) : attribution (text ++ ['\n']) = attribution text := by
  apply List.find?_congr
  intro m _
  rw [strstr_append_singleton m.newline_not_mem, Option.isSome_map]

/-- and nothing to the value. -/
theorem value_append_newline (m : Marker) (text : Bytes) : m.value (text ++ ['\n']) = m.value text := by
  unfold Marker.value Marker.found markedValue
  rw [strstr_append_singleton m.newline_not_mem]
  cases hfound : strstr text m.text.toList with
  | none => rfl
  | some found => exact getVal_append_newline (prefix_of_strstr hfound) _

theorem hit_append_newline (text : Bytes) :
    LegacyScan.hit (text ++ ['\n']) = LegacyScan.hit text := by
  unfold LegacyScan.hit
  simp only [attribution_append_newline, value_append_newline]

/-- A line is a hit as its text is. -/
theorem hit_text {content line : Bytes} (h : line ∈ logLines content) :
    LegacyScan.hit (line.takeWhile (· ≠ '\n')) = LegacyScan.hit line := by
  obtain ⟨whole, hwhole, rfl⟩ := List.mem_map.mp h
  have hlast : NewlineLast (cstr whole) :=
    (isLine_of_mem_lines hwhole).newlineLast.of_infix (List.takeWhile_prefix _).isInfix
  obtain ⟨-, hline | hline⟩ := hlast.text_cases
  · rw [← hline]
  · rw [hline, hit_append_newline, ← hline]

end Newline

/-- The hits of a log are those of its `Previous...` lines. -/
theorem filterMap_hit_previousLogLines (content : Bytes) :
    (previousLogLines content).filterMap LegacyScan.hit = (logLines content).filterMap LegacyScan.hit := by
  have htexts : (logTexts content).filterMap LegacyScan.hit = (logLines content).filterMap LegacyScan.hit := by
    rw [logTexts, List.filterMap_map]
    exact List.filterMap_congr fun line hline => hit_text hline
  rw [previousLogLines, List.filterMap_filter, ← htexts]
  apply List.filterMap_congr
  intro text _
  by_cases hprevious : IsPreviousLine text
  · rw [if_pos (decide_eq_true hprevious)]
  · rw [if_neg (by simpa using hprevious)]
    have hnone := isPreviousLine_iff.not.mp hprevious
    exact (Option.not_isSome_iff_eq_none.mp hnone).symm

/-- **The raw lines are masked.** Two logs with the same `Previous...` lines, at least one, are parsed to
the same record, whatever other lines they have and wherever these stand. -/
theorem previousLines_mask {a b : Bytes}
    (ha : ∀ line ∈ lines a, line.length ≤ maxBufferSize - 1)
    (hb : ∀ line ∈ lines b, line.length ≤ maxBufferSize - 1)
    (hsame : previousLogLines a = previousLogLines b) (hsome : previousLogLines a ≠ [])
    (info : RebootInfo) :
    ∃ parsed, parseLegacyLog a info = some parsed ∧ parseLegacyLog b info = some parsed := by
  have hhits : firstHits a = firstHits b := by
    rw [firstHits, firstHits, ← filterMap_hit_previousLogLines a, hsame,
      filterMap_hit_previousLogLines b]
  have hline : ∀ {content : Bytes}, previousLogLines content ≠ [] → ∃ f, HasLine content f := by
    intro content hne
    obtain ⟨text, hmem⟩ := List.exists_mem_of_ne_nil _ hne
    obtain ⟨htext, hprevious⟩ := List.mem_filter.mp hmem
    obtain ⟨line, hin, rfl⟩ := List.mem_map.mp htext
    rw [decide_eq_true_eq, isPreviousLine_iff, hit_text hin, ← isPreviousLine_iff] at hprevious
    obtain ⟨f, hattributed⟩ := hprevious
    exact ⟨f, line, hin, hattributed⟩
  obtain ⟨f, hf⟩ := hline hsome
  obtain ⟨g, hg⟩ := hline (hsame ▸ hsome)
  refine ⟨_, parseLegacyLog_eq_fill ha hf info, ?_⟩
  rw [hhits]
  exact parseLegacyLog_eq_fill hb hg info

/-- A log with one line for each field. -/
def onceLog : Bytes :=
  "PreviousRebootInitiatedBy: A\nPreviousRebootTime: T\n".toList ++
    "PreviousCustomReason: C\nPreviousOtherReason: O\n".toList

/-- The same log in the middle of lines of `rebootnow`. -/
def mixedLog : Bytes :=
  "RebootReason: Triggered from X process\nRebootInitiatedBy: X\n".toList ++ onceLog ++
    "OtherReason: Y\n".toList

theorem previousLines_mask_mixedLog :
    ∃ parsed, parseLegacyLog onceLog (RebootInfo.mk [] [] [] [] []) = some parsed ∧
      parseLegacyLog mixedLog (RebootInfo.mk [] [] [] [] []) = some parsed :=
  previousLines_mask (by decide +kernel) (by decide +kernel) (by decide +kernel) (by decide +kernel) _

/-- The same log with the first line twice. -/
def twiceLog : Bytes := "PreviousRebootInitiatedBy: B\n".toList ++ onceLog

theorem earlyExit_onceLog :
    ∃ parsed, parseLegacyLog onceLog (RebootInfo.mk [] [] [] [] []) = some parsed ∧
      ∀ f, ValueOf onceLog f (parsed.field f) := by
  have hshort : ∀ line ∈ lines onceLog, line.length ≤ maxBufferSize - 1 := by decide +kernel
  have hlines : ∀ f, HasLine onceLog f := by
    intro f
    cases f <;> decide +kernel
  have hfirst : ∀ f, ∃ h ∈ firstHits onceLog, h.1 = f := by
    intro f
    cases f <;> decide +kernel
  exact (earlyExit_complete_iff (RebootInfo.mk [] [] [] [] []) hshort hlines).mpr fun f =>
    Or.inl (hfirst f)

/-- Of a log with five lines, the last one is never looked at. -/
theorem otherReason_missed :
    (∀ line ∈ lines twiceLog, line.length ≤ maxBufferSize - 1) ∧ (∀ f, HasLine twiceLog f) ∧
      ¬ ∃ parsed, parseLegacyLog twiceLog (RebootInfo.mk [] [] [] [] []) = some parsed ∧
        ∀ f, ValueOf twiceLog f (parsed.field f) := by
  refine ⟨by decide +kernel, fun f => by cases f <;> decide +kernel, ?_⟩
  rintro ⟨parsed, hparsed, hvalues⟩
  have hother : (parseLegacyLog twiceLog (RebootInfo.mk [] [] [] [] [])).map (·.otherReason) =
      some [] := by
    decide +kernel
  rw [hparsed] at hother
  have hempty : parsed.field .otherReason = [] := Option.some.inj hother
  have hvalue := hvalues .otherReason
  rw [hempty] at hvalue
  exact absurd hvalue (by decide +kernel)

end RebootManager
