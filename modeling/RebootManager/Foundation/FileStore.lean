/-
# RebootManager.Foundation.FileStore -- named files, `stdio` streams and what a cut leaves of them

A `Files F` maps the file names of interest to their content, `none` for a file that does not exist.
The updates are the ones a `stdio` program makes: an open that truncates, an open that creates, a
flush of the stream's buffer, `unlink`, `rename`.

`fprintf` does not reach the file by itself, so how the text of a stream arrives there is not for the
program to say: an `Io` cuts it into the pieces that are written one after the other (one for a text
that fits the buffer, one for each `fprintf` of an unbuffered stream, anything in between), and says
which opens fail and where a write stops early. `Io.Ok` is the case in which nothing fails; the
pieces stay arbitrary there.
-/
import RebootManager.Foundation.CString
import RebootManager.Foundation.OpProg
import Mathlib

namespace RebootManager.Foundation

/-- The content of every file of interest. -/
abbrev Files (F : Type) := F → Option Bytes

/-- One update of the file system. -/
inductive FileOp (F : Type) where
  /-- `fopen(f, "w")`: the file is created, or loses its content. -/
  | openTrunc (f : F)
  /-- `fopen(f, "a")`: the file is created where it is missing. -/
  | openAppend (f : F)
  /-- The stream on `f` hands a piece of its text to the file. -/
  | append (f : F) (piece : Bytes)
  | unlink (f : F)
  | rename (src dst : F)
  deriving DecidableEq

variable {F : Type}

/-- The files an update may change. -/
def FileOp.targets : FileOp F → List F
  | .openTrunc f => [f]
  | .openAppend f => [f]
  | .append f _ => [f]
  | .unlink f => [f]
  | .rename src dst => [src, dst]

section Run

variable [DecidableEq F]

/-- What one update does. A failed `rename` (no source) leaves everything as it is. -/
def FileOp.run : FileOp F → Files F → Files F
  | .openTrunc f, fs => Function.update fs f (some [])
  | .openAppend f, fs => Function.update fs f (some ((fs f).getD []))
  | .append f piece, fs => Function.update fs f ((fs f).map (· ++ piece))
  | .unlink f, fs => Function.update fs f none
  | .rename src dst, fs =>
    match fs src with
    | none => fs
    | some content => Function.update (Function.update fs dst (some content)) src none

instance : Effect (FileOp F) (Files F) := ⟨FileOp.run⟩

theorem FileOp.run_of_not_target {op : FileOp F} {g : F} (h : g ∉ op.targets) (fs : Files F) :
    op.run fs g = fs g := by
  cases op with
  | rename src dst =>
    simp only [targets, List.mem_cons, List.not_mem_nil, or_false, not_or] at h
    simp only [run]
    cases fs src with
    | none => rfl
    | some content => simp [Function.update_of_ne h.1, Function.update_of_ne h.2]
  | _ =>
    simp only [targets, List.mem_singleton] at h
    simp [run, Function.update_of_ne h]

/-- Pieces appended one after the other leave their concatenation. -/
theorem execOps_appends {f : F} {content : Bytes} (pieces : List Bytes) (fs : Files F)
    (h : fs f = some content) :
    execOps (pieces.map (FileOp.append f)) fs
      = Function.update fs f (some (content ++ pieces.flatten)) := by
  induction pieces generalizing fs content with
  | nil => simp [← h]
  | cons piece rest ih =>
    rw [List.map_cons, execOps_cons]
    have hstep : Effect.apply (FileOp.append f piece) fs
        = Function.update fs f (some (content ++ piece)) := by
      show FileOp.run (.append f piece) fs = _
      simp [FileOp.run, h]
    rw [hstep, ih _ (Function.update_self f (some (content ++ piece)) fs)]
    simp

end Run

/-! ## Streams -/

/-- How the file system treats the streams of one program run. -/
structure Io (F : Type) where
  canRead : F → Bool
  canWrite : F → Bool
  /-- The pieces in which a stream's text reaches its file. -/
  pieces : F → Bytes → List Bytes
  /-- A write may stop early; it never writes anything else. -/
  pieces_initial : ∀ f text, (pieces f text).flatten <+: text

/-- Nothing fails: every open succeeds and every text reaches its file whole. -/
structure Io.Ok (io : Io F) : Prop where
  reads : ∀ f, io.canRead f = true
  writes : ∀ f, io.canWrite f = true
  complete : ∀ f text, (io.pieces f text).flatten = text

/-- The plain file system: nothing fails and every text is written in one piece. -/
def Io.plain : Io F where
  canRead _ := true
  canWrite _ := true
  pieces _ text := [text]
  pieces_initial _ _ := by simp

theorem Io.plain_ok : (Io.plain : Io F).Ok := ⟨fun _ => rfl, fun _ => rfl, fun _ _ => by simp [plain]⟩

/-- `fopen(f, "w")`, the `fprintf`s of `text`, `fclose`. -/
def Io.writeOps (io : Io F) (f : F) (text : Bytes) : List (FileOp F) :=
  if io.canWrite f then .openTrunc f :: (io.pieces f text).map (FileOp.append f) else []

/-- `fopen(f, "a")`, the `fprintf`s of `text`, `fclose`. -/
def Io.appendOps (io : Io F) (f : F) (text : Bytes) : List (FileOp F) :=
  if io.canWrite f then .openAppend f :: (io.pieces f text).map (FileOp.append f) else []

/-- `fopen(f, "r")` and a read of at most `size` bytes. -/
def Io.read (io : Io F) (f : F) (size : Nat) (fs : Files F) : Option Bytes :=
  if io.canRead f then (fs f).map (List.take size) else none

/-- What is written to an open file goes to that file. -/
theorem targets_of_mem_stream {f : F} {first op : FileOp F} {texts : List Bytes}
    (hfirst : first.targets = [f]) (h : op ∈ first :: texts.map (FileOp.append f)) :
    op.targets = [f] := by
  rcases List.mem_cons.mp h with rfl | h
  · exact hfirst
  · obtain ⟨text, -, rfl⟩ := List.mem_map.mp h
    rfl

theorem Io.targets_writeOps {io : Io F} {f : F} {text : Bytes} {op : FileOp F}
    (h : op ∈ io.writeOps f text) : op.targets = [f] := by
  unfold Io.writeOps at h
  split at h
  · exact targets_of_mem_stream rfl h
  · cases h

theorem Io.targets_appendOps {io : Io F} {f : F} {text : Bytes} {op : FileOp F}
    (h : op ∈ io.appendOps f text) : op.targets = [f] := by
  unfold Io.appendOps at h
  split at h
  · exact targets_of_mem_stream rfl h
  · cases h

theorem Io.Ok.read_eq {io : Io F} (h : io.Ok) (f : F) (size : Nat) (fs : Files F) :
    io.read f size fs = (fs f).map (List.take size) := by
  rw [Io.read, if_pos (h.reads f)]

variable [DecidableEq F]

/-- What a truncating write leaves: the part of the text that reached the file. -/
theorem Io.execOps_writeOps (io : Io F) (f : F) (text : Bytes) (fs : Files F) :
    execOps (io.writeOps f text) fs
      = if io.canWrite f then Function.update fs f (some (io.pieces f text).flatten) else fs := by
  unfold Io.writeOps
  split
  · rw [execOps_cons]
    have hopen : Effect.apply (FileOp.openTrunc f) fs = Function.update fs f (some []) := rfl
    rw [hopen, execOps_appends _ _ (Function.update_self ..)]
    simp
  · rfl

/-- What an appending write leaves. -/
theorem Io.execOps_appendOps (io : Io F) (f : F) (text : Bytes) (fs : Files F) :
    execOps (io.appendOps f text) fs
      = if io.canWrite f then
          Function.update fs f (some ((fs f).getD [] ++ (io.pieces f text).flatten)) else fs := by
  unfold Io.appendOps
  split
  · rw [execOps_cons]
    have hopen : Effect.apply (FileOp.openAppend f) fs
        = Function.update fs f (some ((fs f).getD [])) := rfl
    rw [hopen, execOps_appends _ _ (Function.update_self ..)]
    simp
  · rfl

namespace Io.Ok

variable {io : Io F}

theorem execOps_write (h : io.Ok) (f : F) (text : Bytes) (fs : Files F) :
    execOps (io.writeOps f text) fs = Function.update fs f (some text) := by
  rw [io.execOps_writeOps, if_pos (h.writes f), h.complete]

theorem execOps_append (h : io.Ok) (f : F) (text : Bytes) (fs : Files F) :
    execOps (io.appendOps f text) fs = Function.update fs f (some ((fs f).getD [] ++ text)) := by
  rw [io.execOps_appendOps, if_pos (h.writes f), h.complete]

end Io.Ok

/-! ## Truncate and rewrite, seen between two steps -/

/-- The contents of `f` that a power loss, or a reader that comes in between, can find while `ops`
run: one for each prefix of `ops`. -/
def Observable (ops : List (FileOp F)) (f : F) (fs : Files F) (content : Option Bytes) : Prop :=
  ∃ done, done <+: ops ∧ content = execOps done fs f

/-- An update of `f` is atomic when whatever is observed is the old content or the new one. -/
def AtomicUpdate (ops : List (FileOp F)) (f : F) (new : Bytes) (fs : Files F) : Prop :=
  ∀ content, Observable ops f fs content → content = fs f ∨ content = some new

/-- What can be seen of a truncating write: the old content, or what the first pieces make. -/
theorem observable_write_iff {io : Io F} {f : F} (h : io.canWrite f = true) {text : Bytes}
    {fs : Files F} {content : Option Bytes} :
    Observable (io.writeOps f text) f fs content ↔
      content = fs f ∨ ∃ done, done <+: io.pieces f text ∧ content = some done.flatten := by
  have hops : io.writeOps f text = .openTrunc f :: (io.pieces f text).map (FileOp.append f) := by
    rw [Io.writeOps, if_pos h]
  have hseen : ∀ done : List Bytes,
      execOps (.openTrunc f :: done.map (FileOp.append f)) fs f = some done.flatten := by
    intro done
    rw [execOps_cons]
    have hopen : Effect.apply (FileOp.openTrunc f) fs = Function.update fs f (some []) := rfl
    rw [hopen, execOps_appends _ _ (Function.update_self ..)]
    simp
  unfold Observable
  rw [hops]
  constructor
  · rintro ⟨done, hdone, rfl⟩
    rcases List.prefix_cons_iff.mp hdone with rfl | ⟨rest, rfl, hrest⟩
    · exact Or.inl rfl
    · obtain ⟨pieces, hpieces, rfl⟩ := List.prefix_map_iff.mp hrest
      exact Or.inr ⟨pieces, hpieces, hseen pieces⟩
  · rintro (rfl | ⟨done, hdone, rfl⟩)
    · exact ⟨[], List.nil_prefix, rfl⟩
    · exact ⟨_, List.cons_prefix_cons.mpr ⟨rfl, hdone.map _⟩, (hseen done).symm⟩

/-- **Truncate-and-rewrite is atomic only over an empty file.** Replacing the content of `f` by a
text that is not empty goes through the empty file, so it is atomic exactly when the file was there
and empty, and no proper part of the text ever reaches it alone. -/
theorem atomicUpdate_write_iff {io : Io F} {f : F} (h : io.canWrite f = true) {text : Bytes}
    (hne : text ≠ []) {fs : Files F} :
    AtomicUpdate (io.writeOps f text) f text fs ↔
      fs f = some [] ∧ ∀ done, done <+: io.pieces f text → done.flatten = [] ∨ done.flatten = text := by
  constructor
  · intro hatomic
    have hempty : fs f = some [] := by
      have hopen := hatomic (some []) ((observable_write_iff h).mpr
        (Or.inr ⟨[], List.nil_prefix, by simp⟩))
      rcases hopen with hold | hnew
      · exact hold.symm
      · exact absurd (Option.some.inj hnew).symm hne
    refine ⟨hempty, fun done hdone => ?_⟩
    have hseen := hatomic _ ((observable_write_iff h).mpr (Or.inr ⟨done, hdone, rfl⟩))
    rw [hempty] at hseen
    exact hseen.imp Option.some.inj Option.some.inj
  · rintro ⟨hempty, hpieces⟩ content hseen
    rcases (observable_write_iff h).mp hseen with rfl | ⟨done, hdone, rfl⟩
    · exact Or.inl rfl
    · rw [hempty]
      exact (hpieces done hdone).imp (congrArg some) (congrArg some)

end RebootManager.Foundation
