/-
# RebootManager.Foundation.Memory -- bytes at addresses, and `vsnprintf` into them

A buffer that a program fills itself is a stretch of memory. What is done to it is a list of stores, one
byte each, so that "never writes there" is a statement about the addresses of the stores and not about what
the memory holds in the end. `bytesAt` reads a stretch back: where it was stored it is what was stored
(`bytesAt_storesOf`), and elsewhere what it was (`bytesAt_of_outside`).
-/
import RebootManager.Foundation.CString
import RebootManager.Foundation.OpProg

namespace RebootManager.Foundation

/-! ## Stores -/

/-- Memory, by address. -/
abbrev Memory := Nat → Char

structure Store where
  address : Nat
  byte : Char
  deriving DecidableEq

instance : Effect Store Memory where
  apply o m := Function.update m o.address o.byte

abbrev MemoryProg (α : Type) := Prog Store Memory α

/-- A text goes to memory byte for byte. -/
def storesOf (address : Nat) : Bytes → List Store
  | [] => []
  | c :: text => ⟨address, c⟩ :: storesOf (address + 1) text

/-- The bytes from an address on. -/
def bytesAt (m : Memory) (address count : Nat) : Bytes := (List.range count).map fun i => m (address + i)

section Stores

variable {m : Memory} {address count : Nat}

@[simp] theorem length_bytesAt (m : Memory) (address count : Nat) : (bytesAt m address count).length = count := by
  simp [bytesAt]

theorem bytesAt_add (m : Memory) (address k n : Nat) :
    bytesAt m address (k + n) = bytesAt m address k ++ bytesAt m (address + k) n := by
  rw [bytesAt, List.range_add, List.map_append, List.map_map, bytesAt, bytesAt]
  simp [Function.comp_def, Nat.add_assoc]

theorem bytesAt_one (m : Memory) (address : Nat) : bytesAt m address 1 = [m address] := rfl

theorem address_of_mem_storesOf {text : Bytes} {o : Store} (h : o ∈ storesOf address text) :
    address ≤ o.address ∧ o.address < address + text.length := by
  induction text generalizing address with
  | nil => cases h
  | cons c text ih =>
    rw [List.length_cons]
    rcases List.mem_cons.mp h with rfl | h
    · exact ⟨Nat.le_refl address, Nat.lt_add_of_pos_right (Nat.succ_pos _)⟩
    · have hrest := ih h
      omega

/-- Stores elsewhere leave a stretch as it was. -/
theorem bytesAt_of_outside {ops : List Store}
    (h : ∀ o ∈ ops, o.address < address ∨ address + count ≤ o.address) (m : Memory) :
    bytesAt (execOps ops m) address count = bytesAt m address count := by
  apply execOps_frame (fun m => bytesAt m address count)
  intro o ho m
  apply List.map_congr_left
  intro i hi
  rw [List.mem_range] at hi
  have hne : address + i ≠ o.address := by
    have houtside := h o ho
    omega
  exact Function.update_of_ne hne _ _

theorem bytesAt_store_behind {k : Nat} (h : count ≤ k) (byte : Char) (m : Memory) :
    bytesAt (Effect.apply (Store.mk (address + k) byte) m) address count = bytesAt m address count := by
  have houtside : ∀ o ∈ [Store.mk (address + k) byte], o.address < address ∨ address + count ≤ o.address := by
    intro o ho
    rw [List.mem_singleton.mp ho]
    exact Or.inr (Nat.add_le_add_left h address)
  exact bytesAt_of_outside houtside m

/-- What was stored is there. -/
theorem bytesAt_storesOf (text : Bytes) (address : Nat) (m : Memory) :
    bytesAt (execOps (storesOf address text) m) address text.length = text := by
  induction text generalizing address m with
  | nil => rfl
  | cons c text ih =>
    -- the stores of the rest are all behind the first byte
    have hfirst : bytesAt (execOps (storesOf address (c :: text)) m) address 1 = [c] := by
      rw [storesOf, execOps_cons, bytesAt_of_outside fun o ho => ?_]
      · exact congrArg (· :: []) (Function.update_self _ _ _)
      · have hlater := address_of_mem_storesOf ho
        omega
    rw [List.length_cons, Nat.add_comm, bytesAt_add, hfirst, storesOf, execOps_cons, ih]
    rfl

end Stores

/-! ## Strings in memory -/

/-- A C string: the text, and the terminator behind it. -/
structure StringAt (m : Memory) (address : Nat) (text : Bytes) : Prop where
  bytes : bytesAt m address text.length = text
  nul : m (address + text.length) = '\x00'

/-- A terminator further behind leaves the string. -/
theorem StringAt.terminate {m : Memory} {address k : Nat} {text : Bytes} (h : StringAt m address text)
    (hk : text.length ≤ k) : StringAt (Effect.apply (Store.mk (address + k) '\x00') m) address text := by
  refine ⟨(bytesAt_store_behind hk _ m).trans h.bytes, ?_⟩
  show Function.update m (address + k) '\x00' (address + text.length) = '\x00'
  by_cases hlast : address + text.length = address + k
  · rw [hlast, Function.update_self]
  · rw [Function.update_of_ne hlast]
    exact h.nul

/-- A string behind a text makes one string with it. -/
theorem StringAt.append {m : Memory} {address : Nat} {text more : Bytes}
    (htext : bytesAt m address text.length = text) (h : StringAt m (address + text.length) more) :
    StringAt m address (text ++ more) := by
  refine ⟨?_, ?_⟩
  · rw [List.length_append, bytesAt_add, htext, h.bytes]
  · rw [List.length_append, ← Nat.add_assoc]
    exact h.nul

/-! ## Printing -/

/-- A text that a `printf` can make: its length is an `int`. -/
structure Printed where
  text : Bytes
  length_lt : text.length < 2 ^ 31

/-- `vsnprintf(dest, size, ...)` of a text; where it fails, with some bytes written. -/
def vsnprintf (dest size : Nat) : Except Bytes Printed → MemoryProg Int
  | .ok printed => do
    Prog.emitAll (if size = 0 then [] else storesOf dest (snprintf size printed.text ++ ['\x00']))
    return printed.text.length
  | .error left => do
    Prog.emitAll (storesOf dest (left.take size))
    return -1

section Vsnprintf

variable {dest size : Nat}

/-- Nothing is stored outside the buffer. -/
theorem emits_vsnprintf (dest size : Nat) (format : Except Bytes Printed) :
    (vsnprintf dest size format).Emits fun o => dest ≤ o.address ∧ o.address < dest + size := by
  cases format with
  | error left =>
    refine Prog.Emits.bind (fun s o ho => ?_) fun _ => Prog.emits_pure _
    have hstored := address_of_mem_storesOf ho
    rw [List.length_take] at hstored
    omega
  | ok printed =>
    refine Prog.Emits.bind (fun s o ho => ?_) fun _ => Prog.emits_pure _
    rw [Prog.ops_emitAll] at ho
    split at ho
    · cases ho
    · have hstored := address_of_mem_storesOf ho
      rw [List.length_append, List.length_singleton, snprintf, List.length_take] at hstored
      omega

theorem result_vsnprintf (dest size : Nat) (printed : Printed) (m : Memory) :
    (vsnprintf dest size (.ok printed)).result m = printed.text.length := rfl

/-- The text is in the buffer, cut to it, with its terminator. -/
theorem stringAt_vsnprintf (hsize : 0 < size) (printed : Printed) (m : Memory) :
    StringAt ((vsnprintf dest size (.ok printed)).final m) dest (snprintf size printed.text) := by
  have hstored : bytesAt ((vsnprintf dest size (.ok printed)).final m) dest
      ((snprintf size printed.text).length + 1) = snprintf size printed.text ++ ['\x00'] := by
    have hread := bytesAt_storesOf (snprintf size printed.text ++ ['\x00']) dest m
    rw [List.length_append, List.length_singleton] at hread
    rw [vsnprintf, if_neg (Nat.ne_of_gt hsize), Prog.final_bind, Prog.final_emitAll, Prog.final_pure]
    exact hread
  rw [bytesAt_add, bytesAt_one] at hstored
  obtain ⟨hbytes, hnul⟩ := List.append_inj hstored (length_bytesAt _ _ _)
  exact ⟨hbytes, List.singleton_inj.mp hnul⟩

end Vsnprintf

end RebootManager.Foundation
