/-
# RebootManager.Fetcher.LogRoundTrip -- both formats of rebootInfo.log read back

rebootInfo.log has two writers: `rebootnow`, which writes the request as it is made, and the fetcher, which
writes the boot before with a stamp in front of each line. `parse_legacy_log` reads either.

A line of either format is a few words and a value. No marker has a space or a newline in it, so a marker
that occurs in a line occurs in one of its words or in the value (`isSome_strstr_append`). Where the value
has none, the line is attributed to the word that is a marker.
-/
import RebootManager.Fetcher.LegacyLog
import RebootManager.Helper.RebootInfoLog

namespace RebootManager

open Foundation

/-! ## Texts without a marker -/

/-- None of the markers of `rebootnow` occurs in the text. -/
def NoMarker (text : Bytes) : Prop := ∀ f : LogField, ¬ (Marker.raw f).text.toList <:+: text

/-- The bytes that separate the words of a line. -/
def IsSeparator (c : Char) : Prop := c = ' ' ∨ c = '\n'

namespace Marker

/-- Every marker has a marker of `rebootnow` in it. -/
theorem raw_infix (m : Marker) : (raw m.field).text.toList <:+: m.text.toList := by
  rcases m with f | f
  · cases f <;> decide
  · exact List.infix_refl _

theorem not_mem_of_isSeparator (m : Marker) {c : Char} (hc : IsSeparator c) : c ∉ m.text.toList := by
  rcases hc with rfl | rfl
  · rcases m with f | f <;> cases f <;> decide
  · exact m.newline_not_mem

theorem length_text_le (m : Marker) : m.text.toList.length ≤ 26 := by
  rcases m with f | f <;> cases f <;> decide

theorem noNul_text (m : Marker) : '\x00' ∉ m.text.toList := by
  rcases m with f | f <;> cases f <;> decide

theorem attribution_text (m : Marker) : attribution m.text.toList = some m := by
  rcases m with f | f <;> cases f <;> decide

end Marker

theorem NoMarker.of_infix {a b : Bytes} (h : NoMarker b) (hin : a <:+: b) : NoMarker a :=
  fun f hf => h f (hf.trans hin)

theorem NoMarker.strstr_eq_false {text : Bytes} (h : NoMarker text) (m : Marker) :
    (strstr text m.text.toList).isSome = false := by
  rw [Bool.eq_false_iff]
  intro hfound
  exact h m.field (m.raw_infix.trans (isSome_strstr_iff.mp hfound))

theorem NoMarker.attribution {text : Bytes} (h : NoMarker text) : attribution text = none := by
  apply List.find?_eq_none.mpr
  intro m _
  rw [h.strstr_eq_false m]
  exact Bool.false_ne_true

/-- Every marker has an `R` and a colon; a text without one of them has no marker. -/
theorem noMarker_of_not_mem {text : Bytes} {c : Char} (hc : c = 'R' ∨ c = ':') (h : c ∉ text) :
    NoMarker text := by
  intro f hf
  have hmem : c ∈ (Marker.raw f).text.toList := by
    rcases hc with rfl | rfl <;> cases f <;> decide
  exact h (hf.subset hmem)

theorem noMarker_nil : NoMarker [] := noMarker_of_not_mem (Or.inl rfl) List.not_mem_nil

section Separated

variable {c : Char} {a b : Bytes}

theorem isSome_strstr_append (hc : IsSeparator c) (m : Marker) :
    (strstr (a ++ c :: b) m.text.toList).isSome =
      ((strstr a m.text.toList).isSome || (strstr b m.text.toList).isSome) := by
  rw [Bool.eq_iff_iff, Bool.or_eq_true, isSome_strstr_iff, isSome_strstr_iff, isSome_strstr_iff]
  exact infix_append_cons_iff (m.not_mem_of_isSeparator hc)

theorem noMarker_append_cons (hc : IsSeparator c) (ha : NoMarker a) (hb : NoMarker b) :
    NoMarker (a ++ c :: b) := by
  intro f hf
  rcases (infix_append_cons_iff ((Marker.raw f).not_mem_of_isSeparator hc)).mp hf with hf | hf
  · exact ha f hf
  · exact hb f hf

/-- Words without a marker in front of a line do not change its attribution, -/
theorem attribution_append_of_left (hc : IsSeparator c) (ha : NoMarker a) :
    attribution (a ++ c :: b) = attribution b := by
  apply List.find?_congr
  intro m _
  rw [isSome_strstr_append hc, ha.strstr_eq_false, Bool.false_or]

/-- nor do words behind it. -/
theorem attribution_append_of_right (hc : IsSeparator c) (hb : NoMarker b) :
    attribution (a ++ c :: b) = attribution a := by
  apply List.find?_congr
  intro m _
  rw [isSome_strstr_append hc, hb.strstr_eq_false, Bool.or_false]

end Separated

/-! ## Values -/

/-- A value that a line of the log carries for its field. -/
structure LogValue (f : LogField) (v : Bytes) : Prop where
  fits : v.length < f.size
  noNul : '\x00' ∉ v
  noNewline : '\n' ∉ v
  head : ∀ c ∈ v.head?, isBlank c = false
  last : ∀ c ∈ v.getLast?, isBlank c = false ∧ c ≠ '\r'
  noMarker : NoMarker v

namespace LogValue

variable {f : LogField} {v : Bytes}

theorem fits_reason (h : LogValue f v) : v.length < maxReasonLength := by
  have hsize : f.size ≤ maxReasonLength := by
    cases f <;> decide
  exact Nat.lt_of_lt_of_le h.fits hsize

/-- The blank behind the marker is skipped, and nothing of the value. -/
theorem dropWhile_isBlank (h : LogValue f v) : (' ' :: v).dropWhile isBlank = v := by
  have hblank : isBlank ' ' = true := by decide
  rw [List.dropWhile_cons_of_pos hblank]
  cases v with
  | nil => rfl
  | cons c cs =>
    have hc : ¬ isBlank c = true := by
      rw [h.head c rfl]
      exact Bool.false_ne_true
    rw [List.dropWhile_cons_of_neg hc]

/-- Nothing of the value is taken off at its end. -/
theorem trimEnd_isTrailing (h : LogValue f v) : trimEnd isTrailing v = v := by
  apply List.rdropWhile_eq_self_iff.mpr
  intro hne htrailing
  have hmem : v.getLast hne ∈ v.getLast? := List.getLast?_eq_some_getLast hne
  obtain ⟨hblank, hreturn⟩ := h.last _ hmem
  have hnewline : v.getLast hne ≠ '\n' := fun heq => h.noNewline (heq ▸ List.getLast_mem hne)
  simp [isTrailing, hblank, hreturn, hnewline] at htrailing

/-- `getVal` gets the value. -/
theorem getVal_eq (h : LogValue f v) (marker : Bytes) :
    getVal (marker ++ ' ' :: (v ++ ['\n'])) marker f.size = v := by
  have hline : marker ++ ' ' :: (v ++ ['\n']) = (marker ++ ' ' :: v) ++ ['\n'] := by simp
  rw [hline, getVal_append_newline (List.prefix_append _ _), getVal, List.drop_left, h.dropWhile_isBlank,
    snprintf_of_fits h.fits]
  exact h.trimEnd_isTrailing

end LogValue

/-! ## Lines -/

/-- A marker with a value behind it, up to the end of the line. -/
def markedText (m : Marker) (v : Bytes) : Bytes := m.text.toList ++ ' ' :: (v ++ ['\n'])

section Lines

variable {m : Marker} {v : Bytes}

theorem attribution_markedText (h : NoMarker v) : attribution (markedText m v) = some m := by
  have hend : NoMarker (v ++ ['\n']) :=
    noMarker_append_cons (Or.inr rfl) h noMarker_nil
  rw [markedText, attribution_append_of_right (Or.inl rfl) hend, m.attribution_text]

theorem value_markedText (h : LogValue m.field v) : m.value (markedText m v) = v := by
  have hfound : strstr (markedText m v) m.text.toList = some (markedText m v) :=
    strstr_head (List.prefix_append _ _)
  rw [Marker.value, Marker.found, markedValue, hfound]
  exact h.getVal_eq _

/-- A line of `rebootnow`. -/
theorem logLine_eq {key : Bytes} (hkey : m.text.toList = key ++ [':']) (h : LogValue m.field v) :
    logLine key v = markedText m v := by
  have hcolon : ": ".toList = [':', ' '] := by decide
  have hlength := m.length_text_le
  have hvalue := h.fits_reason
  have hsize : maxReasonLength = 128 := rfl
  have htext : key ++ ": ".toList ++ v ++ ['\n'] = markedText m v := by
    rw [markedText, hkey, hcolon]
    simp
  rw [logLine, htext]
  apply snprintf_of_fits
  rw [markedText, List.length_append, List.length_cons, List.length_append, List.length_singleton]
  omega

/-- A line that carries a value fits its buffer, also behind a stamp. -/
theorem fgetsLines_markedText (h : LogValue m.field v) {head : Bytes} (hnewline : '\n' ∉ head)
    (hnul : '\x00' ∉ head) (hlength : head.length ≤ 31) (rest : Bytes) :
    fgetsLines maxBufferSize (head ++ markedText m v ++ rest)
      = (head ++ markedText m v) :: fgetsLines maxBufferSize rest := by
  have hmarker := m.length_text_le
  have hvalue := h.fits_reason
  have hsize : maxReasonLength = 128 := rfl
  have hroom : maxBufferSize = 512 := rfl
  have hline : head ++ markedText m v = head ++ m.text.toList ++ ' ' :: v ++ ['\n'] := by
    simp [markedText]
  have hrest : head ++ markedText m v ++ rest
      = head ++ m.text.toList ++ ' ' :: v ++ '\n' :: rest := by
    rw [hline]
    simp
  rw [hrest, hline]
  apply fgetsLines_line
  · simp [hnewline, m.not_mem_of_isSeparator (Or.inr rfl), h.noNewline]
  · simp [hnul, m.noNul_text, h.noNul]
  · rw [List.length_append, List.length_append, List.length_cons]
    omega

end Lines

/-! ## Stamps -/

/-- What `format_iso8601_ms` makes: a stamp, or nothing where the clock cannot be read. -/
def IsStamp (stamp : Bytes) : Prop := stamp = [] ∨ ∃ time, stamp = timestampString time

/-- The bytes of a stamp. -/
def isLogStampChar (c : Char) : Bool :=
  c.isDigit || c = '-' || c = 'T' || c = ':' || c = '.' || c = 'Z'

theorem isLogStampChar_padded (width n : Nat) : ∀ c ∈ padded width n, isLogStampChar c = true := by
  intro c hc
  rcases List.mem_append.mp hc with hzero | hdigit
  · rw [List.eq_of_mem_replicate hzero]
    decide
  · rw [isLogStampChar, isDigit_of_mem_decimal hdigit]
    rfl

theorem length_padded_le {width n k : Nat} (hk : 0 < k) (hn : n < 10 ^ k) (hwidth : width ≤ k) :
    (padded width n).length ≤ k := by
  have hdecimal := length_decimal_le hk hn
  rw [padded, List.length_append, List.length_replicate]
  omega

theorem isLogStampChar_timestampString (t : Tm) (ms : Fin 1000) :
    ∀ c ∈ timestampString (t, ms), isLogStampChar c = true := by
  intro c hc
  unfold timestampString at hc
  simp only [List.mem_append, List.mem_singleton] at hc
  rcases hc with
    ((((((((((((h | rfl) | h) | rfl) | h) | rfl) | h) | rfl) | h) | rfl) | h) | rfl) | h) | rfl
  all_goals first | exact isLogStampChar_padded _ _ c h | decide

theorem length_timestampString_le (t : Tm) (ms : Fin 1000) : (timestampString (t, ms)).length ≤ 30 := by
  have hyear : (padded 4 t.year).length ≤ 10 :=
    length_padded_le (by decide) (Nat.lt_of_lt_of_le t.year.isLt (by decide)) (by decide)
  have htwo : ∀ n, n < 100 → (padded 2 n).length ≤ 2 := fun n hn =>
    length_padded_le (by decide) hn (by decide)
  have hmon := htwo (t.mon.val + 1) (by omega)
  have hmday := htwo t.mday (by omega)
  have hhour := htwo t.hour (by omega)
  have hmin := htwo t.min (by omega)
  have hsec := htwo t.sec (by omega)
  have hms : (padded 3 ms).length ≤ 3 :=
    length_padded_le (by decide) (Nat.lt_of_lt_of_le ms.isLt (by decide)) (by decide)
  unfold timestampString
  simp only [List.length_append, List.length_singleton]
  omega

namespace IsStamp

variable {stamp : Bytes}

theorem isLogStampChar_of_mem (h : IsStamp stamp) : ∀ c ∈ stamp, isLogStampChar c = true := by
  rcases h with hnil | ⟨time, htime⟩
  · rw [hnil]
    exact fun c hc => absurd hc List.not_mem_nil
  · rw [htime]
    exact isLogStampChar_timestampString time.1 time.2

theorem not_mem (h : IsStamp stamp) {c : Char} (hc : isLogStampChar c = false) : c ∉ stamp := by
  intro hmem
  rw [h.isLogStampChar_of_mem c hmem] at hc
  cases hc

theorem length_le (h : IsStamp stamp) : stamp.length ≤ 30 := by
  rcases h with hnil | ⟨time, htime⟩
  · rw [hnil]
    exact Nat.zero_le 30
  · rw [htime]
    exact length_timestampString_le time.1 time.2

theorem noMarker (h : IsStamp stamp) : NoMarker stamp :=
  noMarker_of_not_mem (Or.inl rfl) (h.not_mem (by decide))

end IsStamp

/-! ## The five lines of the fetcher -/

/-- What `write_previous_line` is called with for a field. -/
def LogField.key : LogField → String
  | .source => "PreviousRebootInitiatedBy"
  | .timestamp => "PreviousRebootTime"
  | .customReason => "PreviousCustomReason"
  | .otherReason => "PreviousOtherReason"

/-- The line of a field. -/
def previousFieldLine (stamp : Bytes) (r : RebootInfo) (f : LogField) : Bytes :=
  previousLine stamp f.key (r.field f)

theorem previousLines_eq (stamp : Nat → Bytes) (reason : Bytes) (r : RebootInfo) :
    previousLines stamp reason r =
      previousLine (stamp 0) "PreviousRebootReason" reason ++
        (previousFieldLine (stamp 1) r .source ++
          (previousFieldLine (stamp 2) r .timestamp ++
            (previousFieldLine (stamp 3) r .customReason ++
              (previousFieldLine (stamp 4) r .otherReason ++ [])))) := by
  rw [previousLines]
  simp only [List.append_assoc, List.append_nil]
  rfl

section PreviousFieldLine

variable {stamp : Bytes} {r : RebootInfo} {f : LogField}

theorem previousFieldLine_eq (stamp : Bytes) (r : RebootInfo) (f : LogField) :
    previousFieldLine stamp r f = stamp ++ [' '] ++ markedText (.previous f) (r.field f) := by
  have hkey : (Marker.previous f).text.toList = f.key.toList ++ [':'] := by
    cases f <;> decide
  have hcolon : ": ".toList = [':', ' '] := by decide
  rw [previousFieldLine, previousLine, markedText, hkey, hcolon]
  simp

theorem fgetsLines_previousFieldLine (hstamp : IsStamp stamp) (h : LogValue f (r.field f)) (rest : Bytes) :
    fgetsLines maxBufferSize (previousFieldLine stamp r f ++ rest)
      = previousFieldLine stamp r f :: fgetsLines maxBufferSize rest := by
  have hlength := hstamp.length_le
  have hnewline := hstamp.not_mem (show isLogStampChar '\n' = false by decide)
  have hnul := hstamp.not_mem (show isLogStampChar '\x00' = false by decide)
  rw [previousFieldLine_eq]
  apply @fgetsLines_markedText (.previous f) _ h
  · simp [hnewline]
  · simp [hnul]
  · rw [List.length_append, List.length_singleton]
    omega

/-- A stamp in front of a line does not hide its value. -/
theorem hit_previousFieldLine (hstamp : IsStamp stamp) (h : LogValue f (r.field f)) :
    LegacyScan.hit (previousFieldLine stamp r f) = some (f, r.field f) := by
  rw [previousFieldLine_eq]
  apply hit_eq_some_iff.mpr
  constructor
  · rw [List.append_assoc, List.singleton_append,
      attribution_append_of_left (Or.inl rfl) hstamp.noMarker]
    exact attribution_markedText h.noMarker
  · -- the marker begins with the first `P` of the line
    have hP : 'P' ∉ stamp ++ [' '] := by
      simp [hstamp.not_mem (show isLogStampChar 'P' = false by decide)]
    obtain ⟨rest, hrest⟩ : ∃ rest, (Marker.previous f).text.toList = 'P' :: rest := by
      cases f <;> exact ⟨_, rfl⟩
    have hfound : strstr (stamp ++ [' '] ++ markedText (.previous f) (r.field f))
          (Marker.previous f).text.toList
        = strstr (markedText (.previous f) (r.field f)) (Marker.previous f).text.toList := by
      rw [hrest]
      exact strstr_skip hP
    have hvalue := @value_markedText (.previous f) _ h
    rw [Marker.value, Marker.found, markedValue] at hvalue ⊢
    rw [hfound, hvalue]

end PreviousFieldLine

/-- Nothing that the loop sees of a text without a marker is a hit. -/
theorem hits_of_noMarker {content : Bytes} (h : NoMarker content) (size : Nat) :
    (fgetsLines size content).filterMap LegacyScan.hit = [] := by
  apply List.filterMap_eq_nil_iff.mpr
  intro buffer hbuffer
  have hattributed := (h.of_infix (infix_of_mem_fgetsLines hbuffer)).attribution
  unfold LegacyScan.hit
  rw [hattributed]

/-- The reason in the first line is for another reader. -/
theorem noMarker_reasonLine {stamp reason : Bytes} (hstamp : IsStamp stamp) (hreason : NoMarker reason) :
    NoMarker (previousLine stamp "PreviousRebootReason" reason) := by
  have hkey : NoMarker ("PreviousRebootReason".toList ++ [':']) := by
    intro f
    cases f <;> decide
  have hcolon : ": ".toList = [':', ' '] := by decide
  have hline : previousLine stamp "PreviousRebootReason" reason =
      stamp ++ ' ' :: ("PreviousRebootReason".toList ++ [':'] ++ ' ' :: (reason ++ '\n' :: [])) := by
    rw [previousLine, hcolon]
    generalize "PreviousRebootReason".toList = key
    simp
  rw [hline]
  apply noMarker_append_cons (Or.inl rfl) hstamp.noMarker
  apply noMarker_append_cons (Or.inl rfl) hkey
  exact noMarker_append_cons (Or.inr rfl) hreason noMarker_nil

/-- The record a log of the fetcher was written from is read back, with the reason of the caller. -/
theorem parse_previousLines {stamp : Nat → Bytes} {reason : Bytes} {r : RebootInfo}
    (hstamp : ∀ n, IsStamp (stamp n)) (hreason : NoMarker reason) (h : ∀ f, LogValue f (r.field f))
    (info : RebootInfo) :
    parseLegacyLog (previousLines stamp reason r) info = some { r with reason := info.reason } := by
  have hfirst : ∀ rest, fgetsLines maxBufferSize
      (previousLine (stamp 0) "PreviousRebootReason" reason ++ rest) =
        fgetsLines maxBufferSize (previousLine (stamp 0) "PreviousRebootReason" reason) ++
          fgetsLines maxBufferSize rest := by
    intro rest
    rw [previousLine, List.append_assoc _ ['\n'], List.singleton_append]
    exact fgetsLines_newline _ _
  have hhits : (fgetsLines maxBufferSize (previousLines stamp reason r)).filterMap LegacyScan.hit =
      [(.source, r.source), (.timestamp, r.timestamp), (.customReason, r.customReason),
       (.otherReason, r.otherReason)] := by
    rw [previousLines_eq, hfirst, fgetsLines_previousFieldLine (hstamp 1) (h _),
      fgetsLines_previousFieldLine (hstamp 2) (h _), fgetsLines_previousFieldLine (hstamp 3) (h _),
      fgetsLines_previousFieldLine (hstamp 4) (h _), List.filterMap_append,
      hits_of_noMarker (noMarker_reasonLine (hstamp 0) hreason), List.nil_append,
      List.filterMap_cons_some (hit_previousFieldLine (hstamp 1) (h _)),
      List.filterMap_cons_some (hit_previousFieldLine (hstamp 2) (h _)),
      List.filterMap_cons_some (hit_previousFieldLine (hstamp 3) (h _)),
      List.filterMap_cons_some (hit_previousFieldLine (hstamp 4) (h _))]
    rfl
  have hne : (fgetsLines maxBufferSize (previousLines stamp reason r)).filterMap LegacyScan.hit ≠ [] := by
    rw [hhits]
    exact List.cons_ne_nil _ _
  rw [parseLegacyLog_of_hits hne, hhits]
  rfl

/-! ## The five lines of rebootnow -/

section RebootNow

variable {req : Request} {ts : Bytes}

/-- What follows the source in the first line, as far as the other reason. -/
def Request.trigger (req : Request) : Bytes :=
  if req.isCrash then "process failure or crash..!".toList else "process".toList

/-- The other reason, where the first line has it. -/
def Request.shownReason (req : Request) : Bytes :=
  if req.otherReason.bytes = "Unknown".toList then [] else ' ' :: req.otherReason.bytes

/-- The first line, without its newline. -/
def Request.reasonText (req : Request) : Bytes :=
  "RebootReason:".toList ++ ' ' :: ("Triggered".toList ++ ' ' :: ("from".toList ++
    ' ' :: (req.source.bytes ++ ' ' :: (req.trigger ++ req.shownReason))))

theorem length_trigger_le : req.trigger.length ≤ 27 := by
  unfold Request.trigger
  split <;> decide

theorem length_shownReason_le (hother : req.otherReason.bytes.length < maxReasonLength) :
    req.shownReason.length ≤ 128 := by
  have hsize : maxReasonLength = 128 := rfl
  unfold Request.shownReason
  split
  · exact Nat.zero_le _
  · rw [List.length_cons]
    omega

theorem noMarker_reasonText (hsource : NoMarker req.source.bytes)
    (hother : NoMarker req.otherReason.bytes) : NoMarker req.reasonText := by
  have hlabel : NoMarker "RebootReason:".toList := by
    intro f
    cases f <;> decide
  have htrigger : NoMarker req.trigger := by
    apply noMarker_of_not_mem (Or.inl rfl)
    unfold Request.trigger
    split <;> decide
  have hend : NoMarker (req.trigger ++ req.shownReason) := by
    unfold Request.shownReason
    split
    · rw [List.append_nil]
      exact htrigger
    · exact noMarker_append_cons (Or.inl rfl) htrigger hother
  apply noMarker_append_cons (Or.inl rfl) hlabel
  apply noMarker_append_cons (Or.inl rfl) (noMarker_of_not_mem (Or.inl rfl) (by decide))
  apply noMarker_append_cons (Or.inl rfl) (noMarker_of_not_mem (Or.inl rfl) (by decide))
  exact noMarker_append_cons (Or.inl rfl) hsource hend

/-- A byte that is in neither value nor in the words is not in the first line. -/
theorem not_mem_reasonText {c : Char} (hc : c = '\n' ∨ c = '\x00') (hsource : c ∉ req.source.bytes)
    (hother : c ∉ req.otherReason.bytes) : c ∉ req.reasonText := by
  have hwords : ∀ w ∈ ["RebootReason:".toList, "Triggered".toList, "from".toList,
      "process failure or crash..!".toList, "process".toList], c ∉ w := by
    rcases hc with rfl | rfl <;> decide
  have hblank : c ≠ ' ' := by
    rcases hc with rfl | rfl <;> decide
  have htrigger : c ∉ req.trigger := by
    unfold Request.trigger
    split <;> exact hwords _ (by simp)
  have hshown : c ∉ req.shownReason := by
    unfold Request.shownReason
    split
    · exact List.not_mem_nil
    · simp [hblank, hother]
  have hlabel := hwords "RebootReason:".toList (by simp)
  have htriggered := hwords "Triggered".toList (by simp)
  have hfrom := hwords "from".toList (by simp)
  unfold Request.reasonText
  generalize "RebootReason:".toList = a at *
  generalize "Triggered".toList = b at *
  generalize "from".toList = d at *
  simp [hblank, hlabel, htriggered, hfrom, hsource, htrigger, hshown]

theorem length_reasonText_le (hsource : req.source.bytes.length < maxReasonLength)
    (hother : req.otherReason.bytes.length < maxReasonLength) : req.reasonText.length ≤ 312 := by
  have hsize : maxReasonLength = 128 := rfl
  have htrigger := @length_trigger_le req
  have hshown := length_shownReason_le hother
  have hwords : "RebootReason:".toList.length = 13 ∧ "Triggered".toList.length = 9 ∧
      "from".toList.length = 4 := by decide
  unfold Request.reasonText
  generalize "RebootReason:".toList = a at *
  generalize "Triggered".toList = b at *
  generalize "from".toList = c at *
  simp only [List.length_append, List.length_cons]
  omega

/-- The first line in its words. -/
theorem headedLine_reasonValue (req : Request) :
    headedLine "RebootReason: ".toList req.reasonValue = req.reasonText ++ ['\n'] := by
  have htrigger : (if req.isCrash then " process failure or crash..!".toList else " process".toList)
      = ' ' :: req.trigger := by
    unfold Request.trigger
    split <;> rfl
  have hreason : "RebootReason: ".toList = "RebootReason:".toList ++ [' '] := by decide
  have hby : "Triggered from ".toList = "Triggered".toList ++ ' ' :: ("from".toList ++ [' ']) := by
    decide
  unfold headedLine Request.reasonValue Request.reasonText
  rw [htrigger, hreason, hby]
  show _ ++ (_ ++ req.shownReason) ++ _ = _
  generalize "RebootReason:".toList = a
  generalize "Triggered".toList = b
  generalize "from".toList = c
  simp only [List.append_assoc, List.cons_append, List.nil_append]

theorem rebootReasonLine_eq (hsource : req.source.bytes.length < maxReasonLength)
    (hother : req.otherReason.bytes.length < maxReasonLength) :
    rebootReasonLine req = req.reasonText ++ ['\n'] := by
  have hlength := length_reasonText_le hsource hother
  rw [rebootReasonLine_eq_headedLine, headedLine_reasonValue]
  apply snprintf_of_fits
  rw [List.length_append, List.length_singleton]
  omega

/-- A request whose values the log carries, at a time of which the same is true. -/
structure Request.LogValues (req : Request) (ts : Bytes) : Prop where
  source : LogValue .source req.source.bytes
  timestamp : LogValue .timestamp ts
  customReason : LogValue .customReason req.customReason.bytes
  otherReason : LogValue .otherReason req.otherReason.bytes

theorem rebootInfoLogLines_eq (h : req.LogValues ts) :
    (rebootInfoLogLines req ts).flatten = req.reasonText ++ '\n' ::
      (markedText (.raw .source) req.source.bytes ++ (markedText (.raw .timestamp) ts ++
        (markedText (.raw .customReason) req.customReason.bytes ++
          (markedText (.raw .otherReason) req.otherReason.bytes ++ [])))) := by
  have hreason := rebootReasonLine_eq h.source.fits_reason h.otherReason.fits_reason
  have hsource : logLine "RebootInitiatedBy".toList req.source.bytes = _ :=
    @logLine_eq (.raw .source) _ _ (by decide) h.source
  have htimestamp : logLine "RebootTime".toList ts = _ :=
    @logLine_eq (.raw .timestamp) _ _ (by decide) h.timestamp
  have hcustom : logLine "CustomReason".toList req.customReason.bytes = _ :=
    @logLine_eq (.raw .customReason) _ _ (by decide) h.customReason
  have hother : logLine "OtherReason".toList req.otherReason.bytes = _ :=
    @logLine_eq (.raw .otherReason) _ _ (by decide) h.otherReason
  rw [rebootInfoLogLines, hreason, hsource, htimestamp, hcustom, hother]
  simp only [List.flatten_cons, List.flatten_nil, List.append_assoc, List.singleton_append]

/-- The five lines as the loop sees them. -/
theorem fgetsLines_rebootInfoLogLines (h : req.LogValues ts) :
    fgetsLines maxBufferSize (rebootInfoLogLines req ts).flatten =
      [req.reasonText ++ ['\n'], markedText (.raw .source) req.source.bytes,
       markedText (.raw .timestamp) ts, markedText (.raw .customReason) req.customReason.bytes,
       markedText (.raw .otherReason) req.otherReason.bytes] := by
  have hroom : maxBufferSize = 512 := rfl
  have hlength := length_reasonText_le h.source.fits_reason h.otherReason.fits_reason
  have hmarked : ∀ {f : LogField} {v : Bytes}, LogValue f v → ∀ rest,
      fgetsLines maxBufferSize (markedText (.raw f) v ++ rest) =
        markedText (.raw f) v :: fgetsLines maxBufferSize rest := by
    intro f v hvalue rest
    have hone := @fgetsLines_markedText (.raw f) v hvalue [] List.not_mem_nil List.not_mem_nil
      (Nat.zero_le 31) rest
    rw [List.nil_append] at hone
    exact hone
  rw [rebootInfoLogLines_eq h, fgetsLines_line
    (not_mem_reasonText (Or.inl rfl) h.source.noNewline h.otherReason.noNewline)
    (not_mem_reasonText (Or.inr rfl) h.source.noNul h.otherReason.noNul) (by omega),
    hmarked h.source, hmarked h.timestamp, hmarked h.customReason, hmarked h.otherReason]
  rfl

end RebootNow

namespace LegacyScan

/-- A line of `rebootnow` goes into the raw set. -/
theorem run_raw {st : LegacyScan} {line : Bytes} {f : LogField} (hst : st.foundFields < 4)
    (hline : attribution line = some (.raw f)) (ls : List Bytes) :
    st.run (line :: ls) = (st.store (.raw f) (Marker.value (.raw f) line)).run ls := by
  have hfound : (st.store (.raw f) (Marker.value (.raw f) line)).foundFields = st.foundFields := by
    cases f <;> rfl
  rw [run, takeLine_eq, hline]
  dsimp only
  rw [if_neg (by omega)]

/-- The line with the reason is kept or not. -/
theorem run_reason {st : LegacyScan} {line : Bytes} (hst : st.foundFields < 4)
    (hline : attribution line = none) (ls : List Bytes) :
    st.run (line :: ls) = (st.keepReason line).run ls := by
  have hfound : (st.keepReason line).foundFields = st.foundFields := by
    unfold keepReason
    split <;> rfl
  rw [run, takeLine_eq, hline]
  dsimp only
  rw [if_neg (by omega)]

end LegacyScan

/-- A HAL reboot is logged with the HAL's own name in the first line, so that no trigger is looked for. -/
theorem keepReason_reasonText (req : Request) (st : LegacyScan) :
    ∃ kept, st.keepReason (req.reasonText ++ ['\n']) = { st with rawRebootReason := kept } ∧
      (req.source.bytes = "HAL_SYS_Reboot".toList → kept = st.rawRebootReason) := by
  unfold LegacyScan.keepReason
  split
  · rename_i hkept
    refine ⟨_, rfl, fun hsource => absurd ?_ hkept.2⟩
    apply isSome_strstr_iff.mpr
    unfold Request.reasonText
    rw [hsource]
    generalize "RebootReason:".toList = a
    generalize "Triggered".toList = b
    generalize "from".toList = c
    generalize "HAL_SYS_Reboot".toList = hal
    exact ⟨a ++ ' ' :: (b ++ ' ' :: (c ++ [' '])), ' ' :: (req.trigger ++ req.shownReason) ++ ['\n'],
      by simp⟩
  · exact ⟨_, rfl, fun _ => rfl⟩

/-- The request a log of `rebootnow` was written from is read back, with the reason of the caller. -/
theorem parse_rebootInfoLogLines {req : Request} {ts : Bytes} (h : req.LogValues ts)
    (info : RebootInfo) :
    parseLegacyLog (rebootInfoLogLines req ts).flatten info =
      some { req.cause.record ts with reason := info.reason } := by
  have hreason : attribution (req.reasonText ++ ['\n']) = none := by
    have hnone := noMarker_reasonText h.source.noMarker h.otherReason.noMarker
    rw [attribution_append_of_right (Or.inr rfl) noMarker_nil]
    exact hnone.attribution
  obtain ⟨kept, hkept, hhal⟩ := keepReason_reasonText req (LegacyScan.start info)
  have hsource := @value_markedText (.raw .source) _ h.source
  have htimestamp := @value_markedText (.raw .timestamp) _ h.timestamp
  have hcustom := @value_markedText (.raw .customReason) _ h.customReason
  have hother := @value_markedText (.raw .otherReason) _ h.otherReason
  have hrun : (LegacyScan.start info).run (fgetsLines maxBufferSize (rebootInfoLogLines req ts).flatten)
      = ⟨info, 0, 4, req.source.bytes, ts, req.customReason.bytes, req.otherReason.bytes, kept⟩ := by
    have hfour : 0 < 4 := by omega
    rw [fgetsLines_rebootInfoLogLines h, LegacyScan.run_reason hfour hreason, hkept,
      LegacyScan.run_raw hfour (attribution_markedText h.source.noMarker), hsource,
      LegacyScan.run_raw hfour (attribution_markedText h.timestamp.noMarker), htimestamp,
      LegacyScan.run_raw hfour (attribution_markedText h.customReason.noMarker), hcustom,
      LegacyScan.run_raw hfour (attribution_markedText h.otherReason.noMarker), hother]
    rfl
  have hunresolved : ¬ (req.source.bytes = "HAL_SYS_Reboot".toList ∧ kept ≠ []) := by
    rintro ⟨hname, hne⟩
    exact hne (hhal hname)
  rw [parseLegacyLog]
  dsimp only
  rw [hrun]
  dsimp only
  rw [if_neg (by omega), if_pos (by omega), if_neg hunresolved]
  rfl

/-- **Both formats are read back.** What `rebootnow` writes for a request and what the fetcher writes for
a record parse to exactly the four values that went in, whatever the caller's record held. -/
theorem logRoundTrip (info : RebootInfo) :
    (∀ (req : Request) (ts : Bytes), req.LogValues ts →
      parseLegacyLog (rebootInfoLogLines req ts).flatten info =
        some { req.cause.record ts with reason := info.reason }) ∧
    (∀ (stamp : Nat → Bytes) (reason : Bytes) (r : RebootInfo), (∀ n, IsStamp (stamp n)) →
      NoMarker reason → (∀ f, LogValue f (r.field f)) →
      parseLegacyLog (previousLines stamp reason r) info = some { r with reason := info.reason }) :=
  ⟨fun _ _ h => parse_rebootInfoLogLines h info,
    fun _ _ _ hstamp hreason h => parse_previousLines hstamp hreason h info⟩

/-- A word is a value of any field that it fits. -/
theorem LogValue.of_word {f : LogField} {v : Bytes} (hfits : v.length < f.size)
    (hword : v.all (fun c => c.isAlpha || c = '_') = true) : LogValue f v := by
  have hnone : ∀ c, (c.isAlpha || c = '_') = false → c ∉ v := by
    intro c hc hmem
    have hkept := List.all_eq_true.mp hword c hmem
    rw [hc] at hkept
    cases hkept
  have hblank : ∀ c ∈ v, isBlank c = false ∧ c ≠ '\r' := by
    intro c hc
    refine ⟨?_, fun heq => hnone '\r' (by decide) (heq ▸ hc)⟩
    simp only [isBlank, Bool.or_eq_false_iff, decide_eq_false_iff_not]
    exact ⟨fun heq => hnone ' ' (by decide) (heq ▸ hc), fun heq => hnone '\t' (by decide) (heq ▸ hc)⟩
  exact {
    fits := hfits
    noNul := hnone _ (by decide)
    noNewline := hnone _ (by decide)
    head := fun c hc => (hblank c (List.mem_of_mem_head? hc)).1
    last := fun c hc => hblank c (List.mem_of_mem_getLast? hc)
    noMarker := noMarker_of_not_mem (Or.inr rfl) (hnone ':' (by decide)) }

/-- `rebootnow -c HAL_SYS_Reboot`. -/
def halRequest : Request := ⟨⟨"HAL_SYS_Reboot".toList, by decide⟩, true, unknownReason, unknownReason⟩

theorem logValues_halRequest : halRequest.LogValues [] where
  source := LogValue.of_word (by decide) (by decide)
  timestamp := LogValue.of_word (by decide) (by decide)
  customReason := LogValue.of_word (by decide) (by decide)
  otherReason := LogValue.of_word (by decide) (by decide)

/-- The name of the HAL survives both logs. -/
theorem logRoundTrip_halRequest :
    parseLegacyLog (rebootInfoLogLines halRequest []).flatten (RebootInfo.mk [] [] [] [] []) =
        some { halRequest.cause.record [] with reason := [] } ∧
      parseLegacyLog (previousLines (fun _ => timestampString (Tm.epoch, 0)) [] (halRequest.cause.record []))
        (RebootInfo.mk [] [] [] [] []) = some { halRequest.cause.record [] with reason := [] } := by
  obtain ⟨hraw, hprevious⟩ := logRoundTrip (RebootInfo.mk [] [] [] [] [])
  refine ⟨hraw halRequest [] logValues_halRequest, ?_⟩
  apply hprevious
  · exact fun _ => Or.inr ⟨_, rfl⟩
  · exact noMarker_nil
  · intro f
    cases f with
    | source => exact logValues_halRequest.source
    | timestamp => exact logValues_halRequest.timestamp
    | customReason => exact logValues_halRequest.customReason
    | otherReason => exact logValues_halRequest.otherReason

end RebootManager
