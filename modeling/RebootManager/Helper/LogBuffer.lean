/-
# RebootManager.Helper.LogBuffer -- update_reboot_log in memory (reboot_main.c)

`update_reboot_log` appends to a buffer of its caller and returns how many bytes the buffer holds; the
caller hands that number to the next call. Whatever is appended, every byte it stores is one of the buffer
(`emits_updateRebootLogAt`). Where the printing does not fail, the buffer goes through the texts that
`updateRebootLog` computes (`updateRebootLogAt_buffered`), so that a sequence of calls leaves the pieces
one behind the other, cut to the buffer (`updateRebootLogCalls_truncates`).
-/
import RebootManager.Foundation.Memory
import RebootManager.Helper.RebootInfoLog

namespace RebootManager

open Foundation

/-! ## The function -/

/-- `update_reboot_log(buffer, buffer_size, bytes_used, format, ...)`; the format and its arguments are what
they print. -/
def updateRebootLogAt (buffer : Option Nat) (bufferSize bytesUsed : UInt64) (format : Except Bytes Printed) :
    MemoryProg UInt64 :=
  match buffer with
  | none => return 0
  | some base =>
    if bufferSize = 0 then
      return 0
    else if bytesUsed ≥ bufferSize - 1 then do
      Prog.emit ⟨base + (bufferSize - 1).toNat, '\x00'⟩
      return bufferSize - 1
    else do
      let bytesLeft := bufferSize - bytesUsed
      let n ← vsnprintf (base + bytesUsed.toNat) bytesLeft.toNat format
      if n < 0 then do
        -- failed, with whatever bytes it has left behind the text
        Prog.emit ⟨base + (bufferSize - 1).toNat, '\x00'⟩
        return bytesUsed
      else if UInt64.ofInt n ≥ bytesLeft then
        -- truncated, `vsnprintf` has put the terminator
        return bufferSize - 1
      else
        return bytesUsed + UInt64.ofInt n

/-- Calls in a row, each with the number that the one before has returned. -/
def updateRebootLogCalls (base : Nat) (size : UInt64) : List Printed → UInt64 → MemoryProg UInt64
  | [], bytesUsed => return bytesUsed
  | piece :: pieces, bytesUsed => do
    let bytesUsed ← updateRebootLogAt (some base) size bytesUsed (.ok piece)
    updateRebootLogCalls base size pieces bytesUsed

/-! ## Sizes -/

section Sizes

variable {base : Nat} {size used : UInt64}

theorem toNat_pos_of_ne_zero (hsize : size ≠ 0) : 0 < size.toNat :=
  UInt64.lt_iff_toNat_lt.mp (UInt64.pos_iff_ne_zero.mpr hsize)

theorem toNat_size_sub_one (hsize : size ≠ 0) : (size - 1).toNat = size.toNat - 1 :=
  UInt64.toNat_sub_of_le _ _ (UInt64.le_iff_toNat_le.mpr (toNat_pos_of_ne_zero hsize))

/-- The subtraction for the bytes left does not wrap where the buffer is not full. -/
theorem toNat_bytesLeft (hsize : size ≠ 0) (hfull : ¬ used ≥ size - 1) :
    used.toNat < size.toNat - 1 ∧ (size - used).toNat = size.toNat - used.toNat := by
  rw [ge_iff_le, UInt64.le_iff_toNat_le, toNat_size_sub_one hsize] at hfull
  have hle : used ≤ size := by
    rw [UInt64.le_iff_toNat_le]
    omega
  exact ⟨by omega, UInt64.toNat_sub_of_le _ _ hle⟩

/-- A length that `vsnprintf` returns is the same number as a `size_t`. -/
theorem toNat_ofInt_length (piece : Printed) :
    (UInt64.ofInt (piece.text.length : Int)).toNat = piece.text.length := by
  have hlength := piece.length_lt
  have hwrap : ((piece.text.length : Int) % 2 ^ 64).toNat = piece.text.length := by omega
  rw [UInt64.ofInt, hwrap]
  exact UInt64.toNat_ofNat_of_lt' (by show piece.text.length < 2 ^ 64; omega)

end Sizes

/-! ## Where it writes -/

section Stores

variable {base : Nat} {size : UInt64}

/-- Every byte that is stored is one of the buffer, also where the printing fails. -/
theorem emits_updateRebootLogAt (base : Nat) (size used : UInt64) (format : Except Bytes Printed) :
    (updateRebootLogAt (some base) size used format).Emits
      fun o => base ≤ o.address ∧ o.address < base + size.toNat := by
  rw [updateRebootLogAt]
  by_cases hsize : size = 0
  · rw [if_pos hsize]
    exact Prog.emits_pure _
  rw [if_neg hsize]
  have hlast := toNat_size_sub_one hsize
  have hpositive := toNat_pos_of_ne_zero hsize
  have hterminate : (Prog.emit ⟨base + (size - 1).toNat, '\x00'⟩ : MemoryProg Unit).Emits
      fun o => base ≤ o.address ∧ o.address < base + size.toNat := by
    apply Prog.emits_emit
    show base ≤ base + (size - 1).toNat ∧ base + (size - 1).toNat < base + size.toNat
    omega
  by_cases hfull : used ≥ size - 1
  · rw [if_pos hfull]
    exact hterminate.bind fun _ => Prog.emits_pure _
  rw [if_neg hfull]
  obtain ⟨hused, hleft⟩ := toNat_bytesLeft hsize hfull
  -- the bytes left end where the buffer ends
  have hprint : (vsnprintf (base + used.toNat) (size - used).toNat format).Emits
      fun o => base ≤ o.address ∧ o.address < base + size.toNat := by
    refine (emits_vsnprintf _ _ format).mono fun o ho => ?_
    omega
  refine hprint.bind fun n => ?_
  by_cases hfailed : n < 0
  · rw [if_pos hfailed]
    exact hterminate.bind fun _ => Prog.emits_pure _
  · rw [if_neg hfailed]
    split
    · exact Prog.emits_pure _
    · exact Prog.emits_pure _

theorem emits_updateRebootLogCalls (pieces : List Printed) (used : UInt64) :
    (updateRebootLogCalls base size pieces used).Emits
      fun o => base ≤ o.address ∧ o.address < base + size.toNat := by
  induction pieces generalizing used with
  | nil => exact Prog.emits_pure _
  | cons piece pieces ih => exact (emits_updateRebootLogAt _ _ _ _).bind ih

end Stores

/-! ## What the buffer holds -/

/-- The first `used` bytes of the buffer are `text`, and there is room for the terminator. -/
structure Buffered (m : Memory) (base : Nat) (size used : UInt64) (text : Bytes) : Prop where
  used : used.toNat = text.length
  room : text.length < size.toNat
  bytes : bytesAt m base text.length = text

section Step

variable {m : Memory} {base : Nat} {size used : UInt64} {text : Bytes}

theorem Buffered.size_ne_zero (h : Buffered m base size used text) : size ≠ 0 := by
  rintro rfl
  exact absurd h.room (Nat.not_lt_zero _)

/-- In an empty buffer there is nothing yet, not even a terminator. -/
theorem buffered_empty (m : Memory) (base : Nat) (hsize : size ≠ 0) : Buffered m base size 0 [] :=
  ⟨rfl, toNat_pos_of_ne_zero hsize, rfl⟩

/-- A full buffer keeps its text and gets its terminator. -/
theorem updateRebootLogAt_full (h : Buffered m base size used text) (hfull : used ≥ size - 1)
    (format : Except Bytes Printed) :
    StringAt ((updateRebootLogAt (some base) size used format).final m) base text ∧
      (updateRebootLogAt (some base) size used format).result m = used := by
  have hlast := toNat_size_sub_one h.size_ne_zero
  have hroom := h.room
  -- the text has room for its terminator, so `>=` is an equality
  have hused : used = size - 1 := by
    rw [← UInt64.toNat_inj, h.used, hlast]
    rw [ge_iff_le, UInt64.le_iff_toNat_le, hlast, h.used] at hfull
    omega
  have hend : base + (size - 1).toNat = base + text.length := by rw [← hused, h.used]
  rw [updateRebootLogAt, if_neg h.size_ne_zero, if_pos hfull, hend]
  refine ⟨⟨?_, Function.update_self _ _ _⟩, hused.symm⟩
  exact (bytesAt_store_behind (Nat.le_refl _) '\x00' m).trans h.bytes

/-- Otherwise there is one call of `vsnprintf`, and its result says whether the text was cut. -/
theorem updateRebootLogAt_prints (hsize : size ≠ 0) (hfull : ¬ used ≥ size - 1) (piece : Printed)
    (m : Memory) :
    (updateRebootLogAt (some base) size used (.ok piece)).final m
        = (vsnprintf (base + used.toNat) (size - used).toNat (.ok piece)).final m ∧
      (updateRebootLogAt (some base) size used (.ok piece)).result m
        = if UInt64.ofInt piece.text.length ≥ size - used then size - 1
          else used + UInt64.ofInt piece.text.length := by
  have hlength : ¬ (piece.text.length : Int) < 0 := by omega
  rw [updateRebootLogAt, if_neg hsize, if_neg hfull]
  rw [Prog.final_bind, Prog.result_bind, result_vsnprintf, if_neg hlength]
  by_cases hcut : UInt64.ofInt piece.text.length ≥ size - used
  · rw [if_pos hcut, if_pos hcut]
    exact ⟨rfl, rfl⟩
  · rw [if_neg hcut, if_neg hcut]
    exact ⟨rfl, rfl⟩

/-- The piece is behind the text then, as far as there is room. -/
theorem stringAt_updateRebootLogAt (h : Buffered m base size used text) (hfull : ¬ used ≥ size - 1)
    (piece : Printed) :
    StringAt ((updateRebootLogAt (some base) size used (.ok piece)).final m) base
      (text ++ snprintf (size.toNat - text.length) piece.text) := by
  obtain ⟨hused, hleft⟩ := toNat_bytesLeft h.size_ne_zero hfull
  rw [(updateRebootLogAt_prints h.size_ne_zero hfull piece m).1, hleft, h.used]
  rw [h.used] at hused
  refine StringAt.append ?_ (stringAt_vsnprintf (by omega) piece m)
  have houtside : ∀ o ∈ (vsnprintf (base + text.length) (size.toNat - text.length) (.ok piece)).ops m,
      o.address < base ∨ base + text.length ≤ o.address :=
    fun o ho => Or.inr (emits_vsnprintf _ _ _ m o ho).1
  exact (bytesAt_of_outside houtside m).trans h.bytes

/-- The number that is returned is the length of that. -/
theorem toNat_result_updateRebootLogAt (h : Buffered m base size used text) (hfull : ¬ used ≥ size - 1)
    (piece : Printed) :
    ((updateRebootLogAt (some base) size used (.ok piece)).result m).toNat
      = (text ++ snprintf (size.toNat - text.length) piece.text).length := by
  obtain ⟨hused, hleft⟩ := toNat_bytesLeft h.size_ne_zero hfull
  have hpiece := toNat_ofInt_length piece
  have hsize := size.toNat_lt
  rw [h.used] at hused hleft
  rw [(updateRebootLogAt_prints h.size_ne_zero hfull piece m).2, List.length_append, snprintf, List.length_take]
  by_cases hcut : UInt64.ofInt piece.text.length ≥ size - used
  · -- one byte over is cut as well: `n` counts no terminator
    rw [if_pos hcut, toNat_size_sub_one h.size_ne_zero]
    rw [ge_iff_le, UInt64.le_iff_toNat_le, hleft, hpiece] at hcut
    omega
  · -- below the size, so the sum does not wrap
    rw [if_neg hcut, UInt64.toNat_add, h.used, hpiece]
    rw [ge_iff_le, UInt64.le_iff_toNat_le, hleft, hpiece] at hcut
    omega

/-- **One call** takes the buffer to the text that `updateRebootLog` says, with its terminator. -/
theorem updateRebootLogAt_buffered (h : Buffered m base size used text) (piece : Printed) :
    let call := updateRebootLogAt (some base) size used (.ok piece)
    StringAt (call.final m) base (updateRebootLog size.toNat text piece.text) ∧
      Buffered (call.final m) base size (call.result m) (updateRebootLog size.toNat text piece.text) := by
  intro call
  have hroom := h.room
  have hiff : used ≥ size - 1 ↔ text.length ≥ size.toNat - 1 := by
    rw [ge_iff_le, UInt64.le_iff_toNat_le, toNat_size_sub_one h.size_ne_zero, h.used]
  by_cases hfull : used ≥ size - 1
  · obtain ⟨hstring, hresult⟩ := updateRebootLogAt_full h hfull (.ok piece)
    rw [updateRebootLog, if_pos (hiff.mp hfull)]
    exact ⟨hstring, ⟨hresult.symm ▸ h.used, hroom, hstring.bytes⟩⟩
  · have hstring := stringAt_updateRebootLogAt h hfull piece
    have hresult := toNat_result_updateRebootLogAt h hfull piece
    rw [updateRebootLog, if_neg (mt hiff.mpr hfull)]
    refine ⟨hstring, ⟨hresult, ?_, hstring.bytes⟩⟩
    rw [List.length_append, snprintf, List.length_take]
    omega

/-- So do calls in a row. -/
theorem updateRebootLogCalls_buffered (hstring : StringAt m base text) (h : Buffered m base size used text)
    (pieces : List Printed) :
    let calls := updateRebootLogCalls base size pieces used
    let held := (pieces.map Printed.text).foldl (updateRebootLog size.toNat) text
    StringAt (calls.final m) base held ∧ Buffered (calls.final m) base size (calls.result m) held := by
  -- along the calls, each from what the one before has left
  induction pieces generalizing m used text with
  | nil => exact ⟨hstring, h⟩
  | cons piece pieces ih =>
    obtain ⟨hstring', h'⟩ := updateRebootLogAt_buffered h piece
    intro calls held
    have hfinal : calls.final m = _ := Prog.final_bind _ _ m
    rw [hfinal]
    exact ih hstring' h'

/-- The first call puts the terminator into an empty buffer. -/
theorem updateRebootLogCalls_of_empty (hsize : size ≠ 0) (m : Memory) (base : Nat) {pieces : List Printed}
    (hpieces : pieces ≠ []) :
    let calls := updateRebootLogCalls base size pieces 0
    let held := snprintf size.toNat (pieces.map Printed.text).flatten
    StringAt (calls.final m) base held ∧ Buffered (calls.final m) base size (calls.result m) held := by
  intro calls held
  have hheld : held = (pieces.map Printed.text).foldl (updateRebootLog size.toNat) [] :=
    (foldl_updateRebootLog_nil _).symm
  obtain ⟨piece, rest, rfl⟩ := List.exists_cons_of_ne_nil hpieces
  obtain ⟨hstring, hcall⟩ := updateRebootLogAt_buffered (buffered_empty m base hsize) piece
  have hfinal : calls.final m = _ := Prog.final_bind _ _ m
  rw [hheld, hfinal]
  exact updateRebootLogCalls_buffered hstring hcall rest

end Step

/-! ## Piece behind piece -/

/-- **Piece behind piece, cut to the buffer.** After each call the number that is returned is that of the
bytes in the buffer, they are the first ones of all the pieces so far, with a terminator behind them, and no
byte has gone anywhere else. -/
theorem updateRebootLogCalls_truncates (base : Nat) (size : UInt64) (hsize : 1 ≤ size) (m : Memory)
    (pieces : List Printed) (i : Nat) (hfirst : 1 ≤ i) (hi : i ≤ pieces.length) :
    let calls := updateRebootLogCalls base size (pieces.take i) 0
    let text := ((pieces.take i).map Printed.text).flatten
    (calls.result m).toNat = min (size.toNat - 1) text.length ∧
      bytesAt (calls.final m) base (calls.result m).toNat = text.take (calls.result m).toNat ∧
      calls.final m (base + (calls.result m).toNat) = '\x00' ∧
      ∀ o ∈ calls.ops m, base ≤ o.address ∧ o.address < base + size.toNat := by
  intro calls text
  have hne : size ≠ 0 := by
    rintro rfl
    exact absurd hsize (by decide)
  have hcalled : pieces.take i ≠ [] := by
    apply List.ne_nil_of_length_pos
    rw [List.length_take]
    omega
  obtain ⟨hstring, hheld⟩ := updateRebootLogCalls_of_empty hne m base hcalled
  have hused : (calls.result m).toNat = min (size.toNat - 1) text.length := by
    rw [← List.length_take]
    exact hheld.used
  have hcut : text.take (min (size.toNat - 1) text.length) = snprintf size.toNat text :=
    List.take_eq_take_min.symm
  refine ⟨hused, ?_, ?_, emits_updateRebootLogCalls _ _ m⟩
  · rw [hheld.used, hstring.bytes, ← hheld.used, hused, hcut]
  · rw [hheld.used]
    exact hstring.nul

/-- "1234" fits into eight bytes, "ABCDEFGHijklmnop" does not fit behind it. -/
def edgeCasePieces : List Printed :=
  [⟨"1234".toList, by decide⟩, ⟨"ABCDEFGHijklmnop".toList, by decide⟩]

theorem updateRebootLogCalls_truncates_edgeCase :
    let calls := updateRebootLogCalls 100 8 edgeCasePieces 0
    let m : Memory := fun _ => 'X'
    (calls.result m).toNat = 7 ∧ bytesAt (calls.final m) 100 7 = "1234ABC".toList ∧
      calls.final m 107 = '\x00' ∧ ∀ o ∈ calls.ops m, 100 ≤ o.address ∧ o.address < 108 := by
  obtain ⟨hused, hbytes, hnul, hstores⟩ :=
    updateRebootLogCalls_truncates 100 8 (by decide) (fun _ => 'X') edgeCasePieces 2 (by decide) (by decide)
  have hseven : (Prog.result (updateRebootLogCalls 100 8 edgeCasePieces 0) fun _ => 'X').toNat = 7 := hused
  rw [show edgeCasePieces.take 2 = edgeCasePieces from rfl, hseven] at hbytes hnul
  exact ⟨hseven, hbytes, hnul, hstores⟩

/-! ## reason_str -/

/-- What the three calls of `main` print. -/
def Request.reasonTexts (req : Request) : List Bytes :=
  ["RebootReason: ".toList,
   "Triggered from ".toList ++ req.source.bytes ++
     if req.isCrash then " process failure or crash..!".toList else " process".toList,
   if req.otherReason.bytes = "Unknown".toList then ['\n'] else [' '] ++ req.otherReason.bytes ++ ['\n']]

/-- `main` builds the line in `reason_str`, a buffer of 1024 bytes. -/
def buildReasonStr (reasonStr : Nat) (pieces : List Printed) : MemoryProg Unit := do
  let _ ← updateRebootLogCalls reasonStr 1024 pieces 0
  Prog.emit ⟨reasonStr + 1023, '\x00'⟩

/-- The line that goes to the log is the string in `reason_str`. -/
theorem stringAt_buildReasonStr {req : Request} {pieces : List Printed}
    (hpieces : pieces.map Printed.text = req.reasonTexts) (reasonStr : Nat) (m : Memory) :
    StringAt ((buildReasonStr reasonStr pieces).final m) reasonStr (rebootReasonLine req) := by
  have hcalled : pieces ≠ [] := by
    rintro rfl
    cases hpieces
  have hsize : (1024 : UInt64) ≠ 0 := by decide
  obtain ⟨hstring, hheld⟩ := updateRebootLogCalls_of_empty hsize m reasonStr hcalled
  have hline : rebootReasonLine req = snprintf 1024 (pieces.map Printed.text).flatten := by
    rw [hpieces, ← foldl_updateRebootLog_nil]
    rfl
  rw [hline, buildReasonStr, Prog.final_bind, Prog.final_emit]
  exact hstring.terminate (Nat.le_of_lt_succ hheld.room)

/-- Building it stays inside the buffer. -/
theorem emits_buildReasonStr (reasonStr : Nat) (pieces : List Printed) :
    (buildReasonStr reasonStr pieces).Emits fun o => reasonStr ≤ o.address ∧ o.address < reasonStr + 1024 := by
  refine (emits_updateRebootLogCalls pieces 0).bind fun _ => Prog.emits_emit ?_
  show reasonStr ≤ reasonStr + 1023 ∧ reasonStr + 1023 < reasonStr + 1024
  omega

end RebootManager
