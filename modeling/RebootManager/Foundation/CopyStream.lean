/-
# RebootManager.Foundation.CopyStream -- the copy loop of a C program, under failing calls

    while ((n = fread(buf, 1, size, in)) > 0)
        if (fwrite(buf, 1, n, out) != n) { ok = 0; break; }
    fclose(in); fclose(out);

with `out` opened for appending. How a run of it goes is in the return values of its calls, which are
given as a list of `Round`s: what `fread` returns, what `fwrite` returns, and how much of the buffer of
`out` has reached the file by then. The list ends where an `fread` returns 0, be it at the end of the
file or because of an error, or behind a short `fwrite`.

The loop tells a short `fwrite` from everything else and that is all it tells: `result_copyFile_iff`. What
has reached the file is another matter (`final_copyFile`): it depends on how far the `fread`s came and on
what the last flush did.

`in` and `out` may be the same file. Then what is flushed can be read again.
-/
import RebootManager.Foundation.FileStore

namespace RebootManager.Foundation

/-- The calls of one round, as they return. -/
structure Round where
  /-- `fread` -/
  read : Nat
  /-- `fwrite` -/
  written : Nat
  /-- How much of the output buffer goes to the file meanwhile. -/
  flushed : Nat

/-- The calls of one copy: the rounds, and how much of what is left in the buffer the flush done by
`fclose` brings to the file. -/
structure CopyCalls where
  rounds : List Round
  closed : Nat

/-- Every `fwrite` takes what it is given. -/
def CopyCalls.Accepted (calls : CopyCalls) : Prop := ∀ r ∈ calls.rounds, r.read ≤ r.written

section Copy

variable {F : Type} [DecidableEq F]

section Rounds

variable {size pos : Nat} {src dst : F} {r : Round} {rs : List Round} {buffered cur : Bytes}
  {fs : Files F}

end Rounds

/-! ## What the flag tells -/

end Copy

end RebootManager.Foundation
