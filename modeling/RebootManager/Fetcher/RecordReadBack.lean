/-
# RebootManager.Fetcher.RecordReadBack -- what of a record reaches rebootInfo.log

`update_previous_reboot_log_fields` reads a record back into a buffer of 511 bytes. The writers have no
such limit: five fields of up to 127 bytes, with their keys, do not fit. A field is searched for by its key
and ends with its closing quote, so one whose quote is behind the end of the buffer is not shortened but
lost (`extractField_cut`); the fields before it are read as they were written.

`readBack_log_iff` says which records survive: those in which the closing quote of every field of the log
that is not empty is among the first 511 bytes.
-/
import RebootManager.Fetcher.LogRoundTrip

namespace RebootManager

open Foundation

/-! ## Where a field ends -/

namespace LogField

/-- The key of a field in a record. -/
def jsonKey : LogField → Bytes
  | .source => "source".toList
  | .timestamp => "timestamp".toList
  | .customReason => "customReason".toList
  | .otherReason => "otherReason".toList

end LogField

/-- How many bytes of its text a record needs up to the closing quote of a field. -/
def closingQuote (r : RebootInfo) : LogField → Nat
  | .timestamp => r.timestamp.length + 16
  | .source => r.timestamp.length + r.source.length + 29
  | .customReason =>
    r.timestamp.length + r.source.length + r.reason.length + r.customReason.length + 61
  | .otherReason =>
    r.timestamp.length + r.source.length + r.reason.length + r.customReason.length +
      r.otherReason.length + 79

/-- A record of C strings that a line of JSON can hold. -/
structure RebootInfo.Printable (r : RebootInfo) : Prop where
  noNul : ∀ v ∈ [r.timestamp, r.source, r.reason, r.customReason, r.otherReason], '\x00' ∉ v
  noQuote : ∀ v ∈ [r.timestamp, r.source, r.reason, r.customReason, r.otherReason], '"' ∉ v
  noNewline : ∀ v ∈ [r.timestamp, r.source, r.reason, r.customReason, r.otherReason], '\n' ∉ v

namespace RebootInfo

/-- A record cut to the fields it is read into. -/
def cut (r : RebootInfo) : RebootInfo :=
  ⟨r.timestamp.take (maxTimestampLength - 1), r.source.take (maxReasonLength - 1),
   r.reason.take (maxReasonLength - 1), r.customReason.take (maxReasonLength - 1),
   r.otherReason.take (maxReasonLength - 1)⟩

theorem field_cut (r : RebootInfo) (f : LogField) : r.cut.field f = (r.field f).take (f.size - 1) := by
  cases f <;> rfl

variable {r : RebootInfo}

theorem Printable.plain (h : r.Printable) : ∀ l ∈ recordLines r, l.Plain :=
  plain_recordLines (h.noQuote _ (by simp)) (h.noQuote _ (by simp)) (h.noQuote _ (by simp))
    (h.noQuote _ (by simp)) (h.noQuote _ (by simp))

theorem Printable.noNul_text (h : r.Printable) : '\x00' ∉ rebootInfoText r :=
  noNul_rebootInfoText (h.noNul _ (by simp)) (h.noNul _ (by simp)) (h.noNul _ (by simp))
    (h.noNul _ (by simp)) (h.noNul _ (by simp))

theorem field_mem (r : RebootInfo) (f : LogField) :
    r.field f ∈ [r.timestamp, r.source, r.reason, r.customReason, r.otherReason] := by
  cases f <;> simp [field]

end RebootInfo

section Cut

variable {r : RebootInfo}

/-- What stands behind the closing quote of a field. -/
theorem strstr_field (h : ∀ l ∈ recordLines r, l.Plain) (f : LogField) :
    ∃ after, strstr (rebootInfoText r) (keyPattern f.jsonKey) =
        some (keyPattern f.jsonKey ++ r.field f ++ '"' :: after) ∧
      closingQuote r f + after.length = (rebootInfoText r).length := by
  have htext := length_rebootInfoText r
  cases f with
  | timestamp =>
    have hsplit : recordLines r = [] ++ ⟨"timestamp".toList, r.timestamp, ",\n".toList⟩ :: _ := rfl
    refine ⟨_, strstr_record h hsplit, ?_⟩
    rw [htext, closingQuote]
    simp [linesText, Line.text, fieldLine, keyPattern]
    omega
  | source =>
    have hsplit : recordLines r = [_] ++ ⟨"source".toList, r.source, ",\n".toList⟩ :: _ := rfl
    refine ⟨_, strstr_record h hsplit, ?_⟩
    rw [htext, closingQuote]
    simp [linesText, Line.text, fieldLine, keyPattern]
    omega
  | customReason =>
    have hsplit : recordLines r =
        [_, _, _] ++ ⟨"customReason".toList, r.customReason, ",\n".toList⟩ :: _ := rfl
    refine ⟨_, strstr_record h hsplit, ?_⟩
    rw [htext, closingQuote]
    simp [linesText, Line.text, fieldLine, keyPattern]
    omega
  | otherReason =>
    have hsplit : recordLines r =
        [_, _, _, _] ++ ⟨"otherReason".toList, r.otherReason, "\n".toList⟩ :: _ := rfl
    refine ⟨_, strstr_record h hsplit, ?_⟩
    rw [htext, closingQuote]
    simp [linesText]

/-- **A field of a cut record is read whole or not at all**, by where its closing quote is. -/
theorem extractField_take (h : r.Printable) (f : LogField) (n size : Nat) :
    extractField ((rebootInfoText r).take n) f.jsonKey size =
      if closingQuote r f ≤ n then some ((r.field f).take (size - 1)) else none := by
  obtain ⟨after, hfound, hlength⟩ := strstr_field h.plain f
  rw [← List.take_append_drop n (rebootInfoText r)] at hfound
  rw [extractField_cut (h.noQuote _ (r.field_mem f)) hfound, List.length_drop]
  by_cases hn : closingQuote r f ≤ n
  · rw [if_pos hn, if_pos (by omega)]
  · rw [if_neg hn, if_neg (by omega)]

end Cut

/-! ## The record in the log -/

theorem field_loadPreviousInfo (content : Bytes) (f : LogField) :
    (loadPreviousInfo content).field f = (extractField (cstr content) f.jsonKey f.size).getD [] := by
  cases f <;> rfl

/-- What is loaded of a record's text. -/
theorem field_loadPreviousInfo_record {r : RebootInfo} (h : r.Printable) (f : LogField) :
    (loadPreviousInfo ((rebootInfoText r).take (maxBufferSize - 1))).field f =
      if closingQuote r f ≤ maxBufferSize - 1 then r.cut.field f else [] := by
  have hcstr : cstr ((rebootInfoText r).take (maxBufferSize - 1)) =
      (rebootInfoText r).take (maxBufferSize - 1) :=
    cstr_eq_self fun hmem => h.noNul_text (List.mem_of_mem_take hmem)
  rw [field_loadPreviousInfo, hcstr, extractField_take h, RebootInfo.field_cut]
  split <;> rfl

/-- A line of the log can be read off its beginning. -/
theorem previousFieldLine_inj {stamp rest rest' : Bytes} {a b : RebootInfo} {f : LogField}
    (ha : '\n' ∉ a.field f) (hb : '\n' ∉ b.field f)
    (h : previousFieldLine stamp a f ++ rest = previousFieldLine stamp b f ++ rest') :
    a.field f = b.field f ∧ rest = rest' := by
  have hline : ∀ (r : RebootInfo) (rest : Bytes), previousFieldLine stamp r f ++ rest =
      stamp ++ [' '] ++ (Marker.previous f).text.toList ++ [' '] ++ (r.field f ++ '\n' :: rest) := by
    intro r rest
    rw [previousFieldLine_eq, markedText]
    simp
  rw [hline, hline, List.append_cancel_left_eq] at h
  exact eq_of_append_cons ha hb h

/-- The log tells the records it is written from apart. -/
theorem previousLines_inj {stamp : Nat → Bytes} {reason : Bytes} {a b : RebootInfo}
    (ha : ∀ f, '\n' ∉ a.field f) (hb : ∀ f, '\n' ∉ b.field f)
    (h : previousLines stamp reason a = previousLines stamp reason b) : ∀ f, a.field f = b.field f := by
  rw [previousLines_eq, previousLines_eq, List.append_cancel_left_eq] at h
  obtain ⟨hsource, h⟩ := previousFieldLine_inj (ha _) (hb _) h
  obtain ⟨htimestamp, h⟩ := previousFieldLine_inj (ha _) (hb _) h
  obtain ⟨hcustom, h⟩ := previousFieldLine_inj (ha _) (hb _) h
  obtain ⟨hother, -⟩ := previousFieldLine_inj (ha _) (hb _) h
  intro f
  cases f with
  | source => exact hsource
  | timestamp => exact htimestamp
  | customReason => exact hcustom
  | otherReason => exact hother

theorem previousLines_congr {stamp : Nat → Bytes} {reason : Bytes} {a b : RebootInfo}
    (h : ∀ f, a.field f = b.field f) : previousLines stamp reason a = previousLines stamp reason b := by
  simp only [previousLines_eq, previousFieldLine, h]

/-- The log has the lines of a record, behind the reason the fetcher has found. -/
def LogHolds (env : FetcherEnv) (r : RebootInfo) (d : Device) : Prop :=
  d.files .rebootInfoLog = some (previousLines (fun n => timestampString (env.logTime n))
    (env.previousLog.elim [] loadPreviousRebootReasonLine) r)

section ReadBack

variable {env : FetcherEnv} {r : RebootInfo} {d : Device}

theorem logHolds_update (hio : env.io.Ok)
    (hfile : d.files .previousRebootInfoFile = some (rebootInfoText r)) :
    LogHolds env (loadPreviousInfo ((rebootInfoText r).take (maxBufferSize - 1)))
      ((updatePreviousRebootLogFields env true).final d) := by
  have hread : env.io.read .previousRebootInfoFile (maxBufferSize - 1) d.files =
      some ((rebootInfoText r).take (maxBufferSize - 1)) := by
    rw [hio.read_eq, hfile]
    rfl
  unfold LogHolds updatePreviousRebootLogFields
  rw [Prog.final_bind, Prog.final_get, Prog.result_get, final_writeFile hio, infoToUse, if_pos rfl, hread]
  simp

/-- **Which records reach the log.** The log has the values of a record, cut to their fields, exactly when
the closing quote of every field that is not empty is within the bytes that are read. -/
theorem readBack_log_iff (hio : env.io.Ok) (hr : r.Printable)
    (hfile : d.files .previousRebootInfoFile = some (rebootInfoText r)) :
    LogHolds env r.cut ((updatePreviousRebootLogFields env true).final d) ↔
      ∀ f, r.field f = [] ∨ closingQuote r f ≤ maxBufferSize - 1 := by
  have hwritten := logHolds_update hio hfile
  have hloaded := fun f => field_loadPreviousInfo_record hr f
  have hcutLine : ∀ f, '\n' ∉ r.cut.field f := by
    intro f hmem
    rw [RebootInfo.field_cut] at hmem
    exact hr.noNewline _ (r.field_mem f) (List.mem_of_mem_take hmem)
  have hloadedLine : ∀ f,
      '\n' ∉ (loadPreviousInfo ((rebootInfoText r).take (maxBufferSize - 1))).field f := by
    intro f
    rw [hloaded f]
    split
    · exact hcutLine f
    · exact List.not_mem_nil
  have hsame : LogHolds env r.cut ((updatePreviousRebootLogFields env true).final d) ↔
      ∀ f, (loadPreviousInfo ((rebootInfoText r).take (maxBufferSize - 1))).field f = r.cut.field f := by
    unfold LogHolds at hwritten ⊢
    rw [hwritten, Option.some.injEq]
    exact ⟨previousLines_inj hloadedLine hcutLine, previousLines_congr⟩
  rw [hsame]
  apply forall_congr'
  intro f
  rw [hloaded f]
  split
  · rename_i hclosed
    exact iff_of_true rfl (Or.inr hclosed)
  · rename_i hopen
    have hsize : f.size - 1 ≠ 0 := by
      cases f <;> decide
    rw [RebootInfo.field_cut, eq_comm, List.take_eq_nil_iff]
    exact ⟨fun h => Or.inl (h.resolve_left hsize), fun h => Or.inr (h.resolve_right hopen)⟩

end ReadBack

/-- A record with all of its fields full. -/
def fullRecord : RebootInfo :=
  ⟨List.replicate 63 't', List.replicate 127 's', List.replicate 127 'r', List.replicate 127 'c',
   List.replicate 127 'o'⟩

/-- The device that has just renamed the file of a record. -/
def recordDevice (r : RebootInfo) : Device :=
  Device.blank.setFile .previousRebootInfoFile (some (rebootInfoText r))

theorem printable_fullRecord : fullRecord.Printable :=
  ⟨by decide +kernel, by decide +kernel, by decide +kernel⟩

/-- The last field of a full record is not shortened but lost. -/
theorem fullRecord_lost : fullRecord.Printable ∧
    ¬ LogHolds (FetcherEnv.plain Tm.epoch fun _ => none) fullRecord.cut
      ((updatePreviousRebootLogFields (FetcherEnv.plain Tm.epoch fun _ => none) true).final
        (recordDevice fullRecord)) := by
  refine ⟨printable_fullRecord, fun h => ?_⟩
  have hwritten := @logHolds_update (FetcherEnv.plain Tm.epoch fun _ => none) fullRecord
    (recordDevice fullRecord) (FetcherEnv.plain_ok _ _).io rfl
  unfold LogHolds at h hwritten
  rw [h, Option.some.injEq] at hwritten
  have hcut : ∀ f, '\n' ∉ fullRecord.cut.field f := by
    intro f
    cases f <;> decide +kernel
  have hloaded : ∀ f, '\n' ∉
      (loadPreviousInfo ((rebootInfoText fullRecord).take (maxBufferSize - 1))).field f := by
    intro f
    cases f <;> decide +kernel
  have hother := previousLines_inj hcut hloaded hwritten .otherReason
  rw [field_loadPreviousInfo_record printable_fullRecord] at hother
  revert hother
  decide +kernel

/-- A record of the usual size is in the log as it is. -/
theorem readBack_log_service :
    LogHolds (FetcherEnv.plain Tm.epoch fun _ => none) (serviceRequest.cause.record []).cut
      ((updatePreviousRebootLogFields (FetcherEnv.plain Tm.epoch fun _ => none) true).final
        (recordDevice (serviceRequest.cause.record []))) := by
  have hprintable : (serviceRequest.cause.record []).Printable :=
    ⟨by decide +kernel, by decide +kernel, by decide +kernel⟩
  apply (readBack_log_iff (FetcherEnv.plain_ok _ _).io hprintable rfl).mpr
  intro f
  cases f <;> exact Or.inr (by decide +kernel)

end RebootManager
