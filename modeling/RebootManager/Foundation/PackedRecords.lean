/-
# RebootManager.Foundation.PackedRecords -- records of any length, one behind the other in a buffer

    for (offset = 0; offset < len; offset += sizeof(header) + length)
        if (the record at offset is the one) { found = 1; break; }

is how a C program goes through a buffer that the kernel has filled with records, each of a header that
has the length of what follows it. Nothing in the loop looks at `len` but its condition, so that it stays
within the buffer is a matter of what the buffer holds.

`PackedReader.walk` is the loop, with `none` for an access behind the end of the buffer. It always ends, as
no record is without a header; and on a buffer of whole records it stays inside and says whether one of
them is looked for (`walk_pack`).
-/
import RebootManager.Foundation.CString

namespace RebootManager.Foundation

/-! ## Accesses to a buffer -/

/-- A `uint32_t` as it lies in memory, low byte first. -/
def le32 (n : Nat) : Bytes :=
  [Char.ofNat (n % 256), Char.ofNat (n / 256 % 256), Char.ofNat (n / 256 / 256 % 256),
   Char.ofNat (n / 256 / 256 / 256 % 256)]

theorem length_le32 (n : Nat) : (le32 n).length = 4 := rfl

/-- The `uint32_t` at an offset; `none` where it is not inside the buffer. -/
def readLe32 (buf : Bytes) (offset : Nat) : Option Nat :=
  match buf.drop offset with
  | a :: b :: c :: d :: _ => some (a.toNat + 256 * (b.toNat + 256 * (c.toNat + 256 * d.toNat)))
  | _ => none

theorem toNat_ofNat_byte {n : Nat} (h : n < 256) : (Char.ofNat n).toNat = n := by
  have hvalid : n.isValidChar := Or.inl (by omega)
  rw [Char.ofNat, dif_pos hvalid]
  rfl

/-- What was put into the buffer is read. -/
theorem readLe32_append {n : Nat} (h : n < 2 ^ 32) (before after : Bytes) :
    readLe32 (before ++ (le32 n ++ after)) before.length = some n := by
  have hbyte : ∀ k, (Char.ofNat (k % 256)).toNat = k % 256 := fun k =>
    toNat_ofNat_byte (Nat.mod_lt k (by omega))
  rw [readLe32, List.drop_left]
  simp only [le32, List.cons_append, List.nil_append, hbyte, Option.some.injEq]
  omega

/-- `strcmp(buf, needle) == 0`; `none` where it compares behind the end of the buffer. -/
def strcmpEq : Bytes → Bytes → Option Bool
  | [], _ => none
  | c :: _, [] => some (c = '\x00')
  | c :: cs, n :: ns => if c = n then strcmpEq cs ns else some false

/-- A comparison with a terminated string stays inside and compares what is before the terminator. -/
theorem strcmpEq_of_mem {text needle : Bytes} (htext : '\x00' ∈ text) (hneedle : '\x00' ∉ needle)
    (rest : Bytes) : strcmpEq (text ++ rest) needle = some (decide (cstr text = needle)) := by
  induction needle generalizing text with
  | nil =>
    obtain ⟨c, cs, rfl⟩ := List.exists_cons_of_ne_nil (List.ne_nil_of_mem htext)
    by_cases hc : c = '\x00'
    · simp [strcmpEq, cstr, hc]
    · simp [strcmpEq, cstr, hc]
  | cons n ns ih =>
    obtain ⟨c, cs, rfl⟩ := List.exists_cons_of_ne_nil (List.ne_nil_of_mem htext)
    rw [List.cons_append, strcmpEq]
    by_cases hcn : c = n
    · -- the byte is no terminator, so the terminator is behind it
      subst hcn
      have hc : c ≠ '\x00' := fun heq => hneedle (heq ▸ List.mem_cons_self)
      have hcs : '\x00' ∈ cs := (List.mem_cons.mp htext).resolve_left (Ne.symm hc)
      rw [if_pos rfl, ih hcs fun hmem => hneedle (List.mem_cons_of_mem c hmem)]
      simp [cstr, hc]
    · rw [if_neg hcn]
      by_cases hc : c = '\x00'
      · simp [cstr, hc]
      · simp [cstr, hc, hcn]

/-! ## The loop -/

/-- How the records of a kind are read. -/
structure PackedReader where
  /-- The size of a header. -/
  header : Nat
  header_pos : 0 < header
  /-- The length field of the header at an offset. -/
  length : Bytes → Nat → Option Nat
  /-- Whether the record at an offset, with so many bytes behind its header, is looked for. -/
  test : Bytes → Nat → Nat → Option Bool

namespace PackedReader

/-- The loop from an offset on: whether a record is found, or `none` for an access outside. -/
def walk (reader : PackedReader) (buf : Bytes) (offset : Nat) : Option Bool :=
  if offset < buf.length then
    match reader.length buf offset with
    | none => none
    | some len =>
      match reader.test buf offset len with
      | none => none
      | some true => some true
      | some false => reader.walk buf (offset + (reader.header + len))
  else some false
termination_by buf.length - offset
decreasing_by
  have hpos := reader.header_pos
  omega

/-- The records in a buffer. -/
def pack {α : Type} (encode : α → Bytes) (records : List α) : Bytes := records.flatMap encode

/-- The reader reads such records: wherever one lies, it finds its length, and the test says `p`. -/
def Reads {α : Type} (reader : PackedReader) (encode : α → Bytes) (p : α → Bool) : Prop :=
  ∀ (before : Bytes) (a : α) (after : Bytes), ∃ len,
    reader.length (before ++ (encode a ++ after)) before.length = some len ∧
    reader.test (before ++ (encode a ++ after)) before.length len = some (p a) ∧
    (encode a).length = reader.header + len

section Walk

variable {α : Type} {reader : PackedReader} {encode : α → Bytes} {p : α → Bool}

/-- One round: the record is looked for, or the loop goes on behind it. -/
theorem walk_cons (h : reader.Reads encode p) (before : Bytes) (a : α) (after : Bytes) :
    reader.walk (before ++ (encode a ++ after)) before.length =
      if p a then some true
      else reader.walk (before ++ (encode a ++ after)) (before ++ encode a).length := by
  obtain ⟨len, hlength, htest, hsize⟩ := h before a after
  have hpos := reader.header_pos
  have hinside : before.length < (before ++ (encode a ++ after)).length := by
    rw [List.length_append, List.length_append]
    omega
  rw [walk, if_pos hinside, hlength]
  dsimp only
  rw [htest, List.length_append, hsize]
  cases p a with
  | true => rfl
  | false => rfl

/-- **The walk.** On a buffer of whole records the loop makes no access outside of it, and it finds what
is looked for wherever it lies. -/
theorem walk_pack (h : reader.Reads encode p) (records : List α) (before : Bytes) :
    reader.walk (before ++ pack encode records) before.length = some (records.any p) := by
  induction records generalizing before with
  | nil =>
    rw [walk, if_neg]
    · rfl
    · show ¬ before.length < (before ++ []).length
      rw [List.append_nil]
      omega
  | cons a records ih =>
    have hpack : pack encode (a :: records) = encode a ++ pack encode records := rfl
    rw [hpack, walk_cons h, List.any_cons]
    cases hp : p a with
    | true => rfl
    | false =>
      rw [if_neg Bool.false_ne_true, ← List.append_assoc, ih, Bool.false_or]

end Walk

end PackedReader

end RebootManager.Foundation
