/-
# RebootManager.Fetcher.BackupWait -- waiting for the backup sentinel (rebootreason_main.c)

Before it looks at the logs of the boot before, `main` waits for /tmp/.backup_logs_done. It looks for the
file, sets an inotify watch on /tmp, looks again, and then goes round a loop of `select`, `read` and a walk
over what was read. The writer may create the file at any point of this, and anything else may happen in
/tmp in between.

The second look is what closes the gap. From there on a sentinel that exists has been created under the
watch, so that its event is in the queue or in the batch being walked (`WaitInvariant`), and no `select`
waits for an event that has been and gone (`noLostWakeup`).
-/
import RebootManager.Foundation.PackedRecords
import RebootManager.Foundation.Transition

namespace RebootManager

open Foundation

/-! ## Events -/

/-- `BACKUP_LOGS_DONE_FILENAME` -/
def backupLogsDoneFilename : Bytes := ".backup_logs_done".toList

/-- `struct inotify_event` as `read` delivers one. The name has its terminator, and padding behind it; the
event of a watched file itself has none. -/
structure InotifyEvent where
  /-- An `int`, as its bits. -/
  wd : UInt32
  mask : UInt32
  cookie : UInt32
  name : Bytes
  terminated : name = [] ∨ '\x00' ∈ name
  /-- `NAME_MAX + 1` -/
  fits : name.length ≤ 256

namespace InotifyEvent

/-- The event in a buffer. -/
def encode (ev : InotifyEvent) : Bytes :=
  le32 ev.wd.toNat ++ (le32 ev.mask.toNat ++ (le32 ev.cookie.toNat ++ (le32 ev.name.length ++ ev.name)))

/-- The event of the sentinel. -/
def isSentinel (ev : InotifyEvent) : Bool := cstr ev.name = backupLogsDoneFilename

end InotifyEvent

/-- The inner loop of `wait_for_backup_logs_done`, as a reader of packed records. -/
def inotifyReader : PackedReader where
  header := 16
  header_pos := by omega
  length buf offset := readLe32 buf (offset + 12)
  test buf offset len :=
    if len > 0 then strcmpEq (buf.drop (offset + 16)) backupLogsDoneFilename else some false

/-- The inner loop on a batch of events: whether it sets `found`. -/
def walkBatch (batch : List InotifyEvent) : Option Bool :=
  inotifyReader.walk (PackedReader.pack InotifyEvent.encode batch) 0

theorem reads_inotifyReader : inotifyReader.Reads InotifyEvent.encode InotifyEvent.isSentinel := by
  intro before ev after
  have hheader : (before ++ (ev.encode ++ after)) =
      (before ++ (le32 ev.wd.toNat ++ (le32 ev.mask.toNat ++ le32 ev.cookie.toNat))) ++
        (le32 ev.name.length ++ (ev.name ++ after)) := by
    simp [InotifyEvent.encode]
  refine ⟨ev.name.length, ?_, ?_, ?_⟩
  · have hoffset : before.length + 12 =
        (before ++ (le32 ev.wd.toNat ++ (le32 ev.mask.toNat ++ le32 ev.cookie.toNat))).length := by
      simp [length_le32]
    have hlength : ev.name.length < 2 ^ 32 := by
      have := ev.fits
      omega
    show readLe32 _ (before.length + 12) = _
    rw [hheader, hoffset]
    exact readLe32_append hlength _ _
  · have hname : (before ++ (ev.encode ++ after)).drop (before.length + 16) = ev.name ++ after := by
      have hoffset : before.length + 16 = (before ++ (le32 ev.wd.toNat ++ (le32 ev.mask.toNat ++
          (le32 ev.cookie.toNat ++ le32 ev.name.length)))).length := by
        simp [length_le32]
      have hsplit : before ++ (ev.encode ++ after) = (before ++ (le32 ev.wd.toNat ++ (le32 ev.mask.toNat ++
          (le32 ev.cookie.toNat ++ le32 ev.name.length)))) ++ (ev.name ++ after) := by
        simp [InotifyEvent.encode]
      rw [hsplit, hoffset, List.drop_left]
    show (if ev.name.length > 0 then strcmpEq (List.drop (before.length + 16) _) _ else _) = _
    rw [hname]
    rcases ev.terminated with hnil | hnul
    · have hnone : ev.isSentinel = false := by
        unfold InotifyEvent.isSentinel
        rw [hnil]
        decide
      rw [hnil, hnone]
      rfl
    · rw [if_pos (List.length_pos_of_mem hnul), strcmpEq_of_mem hnul (by decide)]
      rfl
  · show ev.encode.length = 16 + ev.name.length
    simp only [InotifyEvent.encode, List.length_append, length_le32]
    omega

/-- The inner loop ends on every batch, stays inside it, and finds the event of the sentinel wherever it
is. -/
theorem walkBatch_eq (batch : List InotifyEvent) : walkBatch batch = some (batch.any (·.isSentinel)) :=
  PackedReader.walk_pack reads_inotifyReader batch []

/-! ## The system -/

/-- How `wait_for_backup_logs_done` returns, by what it logs last. -/
inductive WaitOutcome where
  /-- "sentinel already present", "sentinel detected (race resolved)" -/
  | present
  /-- "proceeding without waiting" -/
  | unwatched
  /-- "sentinel detected" -/
  | found
  /-- "sentinel absent after ..." -/
  | absent
  deriving DecidableEq

/-- Where the function stands. -/
inductive WaitPc where
  /-- Before the first `access`. -/
  | start
  /-- Before `inotify_init1`. -/
  | init
  /-- Before `inotify_add_watch`. -/
  | addWatch
  /-- Before the second `access`. -/
  | recheck
  /-- Before the deadline is made. -/
  | clock
  /-- At the head of the loop. -/
  | loop
  /-- In `select`. -/
  | select
  /-- Before `read`. -/
  | read
  /-- Before the inner loop, with this in the buffer. -/
  | walking (batch : List InotifyEvent)
  /-- The inner loop has read outside of the bytes in the buffer. -/
  | outside
  | returned (outcome : WaitOutcome)

/-- The function, the directory and the queue between them. -/
structure WaitSystem where
  pc : WaitPc
  /-- The sentinel exists. -/
  created : Bool
  /-- The watch is set. -/
  watching : Bool
  queue : List InotifyEvent

namespace WaitSystem

def goto (s : WaitSystem) (pc : WaitPc) : WaitSystem := { s with pc := pc }

/-- `inotify_rm_watch`, `close` and return: the queue is gone with its descriptor. -/
def leave (s : WaitSystem) (outcome : WaitOutcome) : WaitSystem :=
  { s with pc := .returned outcome, watching := false, queue := [] }

/-- What happens in a watched directory is queued. -/
def notify (s : WaitSystem) (ev : InotifyEvent) : WaitSystem :=
  if s.watching then { s with queue := s.queue ++ [ev] } else s

/-- The function has not begun. The sentinel may be there already. -/
structure Initial (s : WaitSystem) : Prop where
  pc : s.pc = .start
  watching : s.watching = false
  queue : s.queue = []

end WaitSystem

/-- What can happen next. -/
inductive WaitEvent where
  /-- The writer creates the sentinel, or moves it to its place. -/
  | create (ev : InotifyEvent)
  /-- Anything else in /tmp. -/
  | other (ev : InotifyEvent)
  | access
  | inotifyInit (ok : Bool)
  | addWatch (ok : Bool)
  | recheck
  | clock (ok : Bool)
  /-- The test of the deadline. -/
  | head (passed : Bool)
  | selectReady
  /-- `select` returns 0. -/
  | heartbeat
  /-- EINTR. -/
  | interrupted
  | selectFails
  | read (batch : List InotifyEvent)
  /-- `len <= 0`. -/
  | readFails
  | walk

/-- One event. The sentinel is created once; `read` delivers whole events, from the first in the queue on,
as many as it likes of those that fit the buffer. -/
def WaitEvent.Step (s : WaitSystem) : WaitEvent → WaitSystem → Prop
  | .create ev, t =>
    s.created = false ∧ ev.isSentinel = true ∧ t = { s.notify ev with created := true }
  | .other ev, t => ev.isSentinel = false ∧ t = s.notify ev
  | .access, t => s.pc = .start ∧ t = s.goto (if s.created then .returned .present else .init)
  | .inotifyInit ok, t => s.pc = .init ∧ t = s.goto (if ok then .addWatch else .returned .unwatched)
  | .addWatch ok, t =>
    s.pc = .addWatch ∧
      t = if ok then { s with pc := .recheck, watching := true } else s.goto (.returned .unwatched)
  | .recheck, t => s.pc = .recheck ∧ t = if s.created then s.leave .present else s.goto .clock
  | .clock ok, t => s.pc = .clock ∧ t = if ok then s.goto .loop else s.leave .unwatched
  | .head passed, t => s.pc = .loop ∧ t = if passed then s.leave .absent else s.goto .select
  | .selectReady, t => s.pc = .select ∧ s.queue ≠ [] ∧ t = s.goto .read
  | .heartbeat, t => s.pc = .select ∧ s.queue = [] ∧ t = s.goto .loop
  | .interrupted, t => s.pc = .select ∧ t = s.goto .loop
  | .selectFails, t => s.pc = .select ∧ t = s.leave .absent
  | .read batch, t =>
    s.pc = .read ∧ batch ≠ [] ∧
      -- sizeof(struct inotify_event) + NAME_MAX + 1
      (PackedReader.pack InotifyEvent.encode batch).length ≤ 272 ∧
      ∃ rest, s.queue = batch ++ rest ∧ t = { s with pc := .walking batch, queue := rest }
  | .readFails, t => s.pc = .read ∧ t = s.goto .loop
  | .walk, t =>
    ∃ batch, s.pc = .walking batch ∧
      t = match walkBatch batch with
        | some true => s.leave .found
        | some false => s.goto .loop
        | none => s.goto .outside

/-! ## The invariant -/

namespace WaitPc

/-- The watch is set. -/
def watched : WaitPc → Bool
  | .recheck | .clock | .loop | .select | .read | .walking _ => true
  | _ => false

/-- The second look has found nothing. -/
def waiting : WaitPc → Bool
  | .clock | .loop | .select | .read | .walking _ => true
  | _ => false

/-- The events that have been read and not walked over. -/
def batch : WaitPc → List InotifyEvent
  | .walking batch => batch
  | _ => []

theorem watched_of_waiting {pc : WaitPc} (h : pc.waiting = true) : pc.watched = true := by
  cases pc <;> first | rfl | cases h

end WaitPc

/-- The event of the sentinel is in the batch or in the queue. -/
def Pending (s : WaitSystem) : Prop := ∃ ev ∈ s.pc.batch ++ s.queue, ev.isSentinel = true

/-- While the function waits, the event of a sentinel that exists is still to be seen. -/
structure WaitInvariant (s : WaitSystem) : Prop where
  watching : s.pc.watched = true → s.watching = true
  pending : s.pc.waiting = true → s.created = true → Pending s
  inside : s.pc ≠ .outside

namespace WaitInvariant

variable {s : WaitSystem}

/-- A point at which nothing is watched has nothing to keep. -/
theorem of_unwatched (h : s.pc.watched = false) (hinside : s.pc ≠ .outside) : WaitInvariant s where
  watching := fun hwatched => absurd (h ▸ hwatched) Bool.false_ne_true
  pending := fun hwaiting => absurd (h ▸ WaitPc.watched_of_waiting hwaiting) Bool.false_ne_true
  inside := hinside

theorem leave (s : WaitSystem) (outcome : WaitOutcome) : WaitInvariant (s.leave outcome) :=
  of_unwatched rfl WaitPc.noConfusion

/-- From one waiting point to another, when no event of the sentinel is lost on the way. -/
theorem carry {t : WaitSystem} (h : WaitInvariant s) (hwaiting : s.pc.waiting = true)
    (hwatching : t.watching = s.watching) (hcreated : t.created = s.created)
    (hkept : ∀ ev, ev.isSentinel = true → ev ∈ s.pc.batch ++ s.queue → ev ∈ t.pc.batch ++ t.queue)
    (hinside : t.pc ≠ .outside) : WaitInvariant t where
  watching := by
    intro _
    rw [hwatching]
    exact h.watching (WaitPc.watched_of_waiting hwaiting)
  pending := by
    intro _ hexists
    rw [hcreated] at hexists
    obtain ⟨ev, hmem, hev⟩ := h.pending hwaiting hexists
    exact ⟨ev, hkept ev hev hmem, hev⟩
  inside := hinside

/-- From one waiting point to another, with the same events still to be seen. -/
theorem goto (h : WaitInvariant s) {pc next : WaitPc} (hpc : s.pc = pc) (hwaiting : pc.waiting = true)
    (hbatch : next.batch = pc.batch) (hinside : next ≠ .outside) : WaitInvariant (s.goto next) := by
  refine h.carry (hpc ▸ hwaiting) rfl rfl (fun ev _ hmem => ?_) hinside
  show ev ∈ next.batch ++ s.queue
  rw [hbatch, ← hpc]
  exact hmem

/-- What happens in /tmp leaves the function where it is and takes nothing from the queue. -/
theorem notify (h : WaitInvariant s) (ev : InotifyEvent) : WaitInvariant (s.notify ev) := by
  unfold WaitSystem.notify
  split
  · refine ⟨h.watching, fun hwaiting hcreated => ?_, h.inside⟩
    obtain ⟨seen, hmem, hseen⟩ := h.pending hwaiting hcreated
    refine ⟨seen, ?_, hseen⟩
    show seen ∈ s.pc.batch ++ (s.queue ++ [ev])
    rw [← List.append_assoc]
    exact List.mem_append_left _ hmem
  · exact h

/-- While the watch is set, the event of the creation itself is queued. -/
theorem create (h : WaitInvariant s) {ev : InotifyEvent} (hev : ev.isSentinel = true) :
    WaitInvariant { s.notify ev with created := true } := by
  have hkept := h.notify ev
  refine ⟨hkept.watching, fun hwaiting _ => ?_, hkept.inside⟩
  have hpc : (s.notify ev).pc = s.pc := by
    unfold WaitSystem.notify
    split <;> rfl
  change (s.notify ev).pc.waiting = true at hwaiting
  rw [hpc] at hwaiting
  -- no waiting point is reached before `inotify_add_watch` has succeeded
  have hwatching := h.watching (WaitPc.watched_of_waiting hwaiting)
  refine ⟨ev, ?_, hev⟩
  show ev ∈ (s.notify ev).pc.batch ++ (s.notify ev).queue
  rw [WaitSystem.notify, if_pos hwatching]
  simp

/-- What the second look has not seen will be created under the watch. -/
theorem recheck (h : WaitInvariant s) (hpc : s.pc = .recheck) (hmissed : s.created = false) :
    WaitInvariant (s.goto .clock) := by
  refine ⟨fun _ => h.watching (by rw [hpc]; rfl), fun _ hlater => ?_, WaitPc.noConfusion⟩
  change s.created = true at hlater
  rw [hmissed] at hlater
  cases hlater

/-- An event that was not in the batch is in the queue. -/
theorem walk (h : WaitInvariant s) {batch : List InotifyEvent} (hpc : s.pc = .walking batch)
    (hmissed : batch.any (·.isSentinel) = false) : WaitInvariant (s.goto .loop) := by
  refine h.carry (by rw [hpc]; rfl) rfl rfl (fun ev hev hmem => ?_) WaitPc.noConfusion
  rw [hpc] at hmem
  rcases List.mem_append.mp hmem with hbatch | hqueue
  · have hany : batch.any (·.isSentinel) = true := List.any_eq_true.mpr ⟨ev, hbatch, hev⟩
    rw [hmissed] at hany
    cases hany
  · exact hqueue

end WaitInvariant

/-- Every event keeps the invariant. -/
theorem waitInvariant_step {s t : WaitSystem} {e : WaitEvent} (h : WaitInvariant s)
    (hstep : e.Step s t) : WaitInvariant t := by
  cases e with
  | create ev =>
    obtain ⟨-, hev, rfl⟩ := hstep
    exact h.create hev
  | other ev =>
    obtain ⟨-, rfl⟩ := hstep
    exact h.notify ev
  | access =>
    obtain ⟨-, rfl⟩ := hstep
    apply WaitInvariant.of_unwatched
    · unfold WaitSystem.goto
      cases s.created <;> rfl
    · unfold WaitSystem.goto
      cases s.created <;> exact WaitPc.noConfusion
  | inotifyInit ok =>
    obtain ⟨-, rfl⟩ := hstep
    apply WaitInvariant.of_unwatched
    · cases ok <;> rfl
    · cases ok <;> exact WaitPc.noConfusion
  | addWatch ok =>
    obtain ⟨-, rfl⟩ := hstep
    cases ok with
    | true =>
      exact ⟨fun _ => rfl, fun hwaiting => Bool.noConfusion hwaiting, WaitPc.noConfusion⟩
    | false => exact WaitInvariant.of_unwatched rfl WaitPc.noConfusion
  | recheck =>
    obtain ⟨hpc, rfl⟩ := hstep
    cases hcreated : s.created with
    | true => exact WaitInvariant.leave s .present
    | false => exact h.recheck hpc hcreated
  | clock ok =>
    obtain ⟨hpc, rfl⟩ := hstep
    cases ok with
    | true => exact h.goto hpc rfl rfl WaitPc.noConfusion
    | false => exact WaitInvariant.leave s .unwatched
  | head passed =>
    obtain ⟨hpc, rfl⟩ := hstep
    cases passed with
    | true => exact WaitInvariant.leave s .absent
    | false => exact h.goto hpc rfl rfl WaitPc.noConfusion
  | selectReady =>
    obtain ⟨hpc, -, rfl⟩ := hstep
    exact h.goto hpc rfl rfl WaitPc.noConfusion
  | heartbeat =>
    obtain ⟨hpc, -, rfl⟩ := hstep
    exact h.goto hpc rfl rfl WaitPc.noConfusion
  | interrupted =>
    obtain ⟨hpc, rfl⟩ := hstep
    exact h.goto hpc rfl rfl WaitPc.noConfusion
  | selectFails =>
    obtain ⟨-, rfl⟩ := hstep
    exact WaitInvariant.leave s .absent
  | read batch =>
    obtain ⟨hpc, -, -, rest, hqueue, rfl⟩ := hstep
    refine h.carry (by rw [hpc]; rfl) rfl rfl (fun ev _ hmem => ?_) WaitPc.noConfusion
    rw [hpc, hqueue] at hmem
    exact hmem
  | readFails =>
    obtain ⟨hpc, rfl⟩ := hstep
    exact h.goto hpc rfl rfl WaitPc.noConfusion
  | walk =>
    obtain ⟨batch, hpc, rfl⟩ := hstep
    rw [walkBatch_eq]
    cases hfound : batch.any (·.isSentinel) with
    | true => exact WaitInvariant.leave s .found
    | false => exact h.walk hpc hfound

theorem waitInvariant_of_reachable {s : WaitSystem}
    (h : Reachable WaitSystem.Initial WaitEvent.Step s) : WaitInvariant s := by
  apply h.invariant
  · intro s hs
    apply WaitInvariant.of_unwatched
    · rw [hs.pc]
      rfl
    · rw [hs.pc]
      exact WaitPc.noConfusion
  · exact fun _ _ _ hinv hstep => waitInvariant_step hinv hstep

/-! ## No lost wake-up -/

/-- **No lost wake-up.** In every state of every interleaving: where the function is in `select` and the
sentinel exists, its event is in the queue; a batch with its event in it, wherever it is, ends the loop
with `found` set; and the walk over any batch ends and stays inside what was read. -/
theorem noLostWakeup {s : WaitSystem} (h : Reachable WaitSystem.Initial WaitEvent.Step s) :
    (s.pc = .select → s.created = true → ∃ ev ∈ s.queue, ev.isSentinel = true) ∧
    (∀ batch, s.pc = .walking batch → (∃ ev ∈ batch, ev.isSentinel = true) →
      ∀ t, WaitEvent.Step s .walk t → t.pc = .returned .found) ∧
    (∀ batch, ∃ found, walkBatch batch = some found) ∧ s.pc ≠ .outside := by
  have hinv := waitInvariant_of_reachable h
  refine ⟨fun hpc hcreated => ?_, fun batch hpc hsentinel t hstep => ?_,
    fun batch => ⟨_, walkBatch_eq batch⟩, hinv.inside⟩
  · obtain ⟨ev, hmem, hev⟩ := hinv.pending (by rw [hpc]; rfl) hcreated
    rw [hpc] at hmem
    exact ⟨ev, hmem, hev⟩
  · obtain ⟨read, hread, rfl⟩ := hstep
    obtain rfl : batch = read := by
      rw [hpc] at hread
      exact WaitPc.walking.inj hread
    have hany : batch.any (·.isSentinel) = true := List.any_eq_true.mpr hsentinel
    rw [walkBatch_eq, hany]
    rfl

/-- The event of the sentinel, as /tmp reports it. -/
def sentinelEvent : InotifyEvent where
  wd := 1
  mask := 256
  cookie := 0
  name := backupLogsDoneFilename ++ List.replicate 15 '\x00'
  terminated := Or.inr (by decide)
  fits := by decide

/-- The function in `select`, when the sentinel has just been created. -/
def wokenSystem : WaitSystem := ⟨.select, true, true, [sentinelEvent]⟩

theorem reachable_wokenSystem : Reachable WaitSystem.Initial WaitEvent.Step wokenSystem := by
  have hrun : Run WaitEvent.Step ⟨.start, false, false, []⟩
      [.access, .inotifyInit true, .addWatch true, .recheck, .clock true, .head false,
       .create sentinelEvent] wokenSystem := by
    apply Run.cons (t := ⟨.init, false, false, []⟩) ⟨rfl, rfl⟩
    apply Run.cons (t := ⟨.addWatch, false, false, []⟩) ⟨rfl, rfl⟩
    apply Run.cons (t := ⟨.recheck, false, true, []⟩) ⟨rfl, rfl⟩
    apply Run.cons (t := ⟨.clock, false, true, []⟩) ⟨rfl, rfl⟩
    apply Run.cons (t := ⟨.loop, false, true, []⟩) ⟨rfl, rfl⟩
    apply Run.cons (t := ⟨.select, false, true, []⟩) ⟨rfl, rfl⟩
    exact Run.cons ⟨rfl, by decide, rfl⟩ (Run.nil _)
  exact ⟨_, _, ⟨rfl, rfl, rfl⟩, hrun⟩

/-- Its event is there to wake it. -/
theorem noLostWakeup_woken : ∃ ev ∈ wokenSystem.queue, ev.isSentinel = true :=
  (noLostWakeup reachable_wokenSystem).1 rfl rfl

end RebootManager
