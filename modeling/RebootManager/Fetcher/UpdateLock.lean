/-
# RebootManager.Fetcher.UpdateLock -- two programs at one lock path

`update-reboot-info` opens /tmp/rebootInfo.lock and takes a `flock` on the open file. The script that
update-reboot-info.service starts, update_previous_reboot_info.sh, makes a directory of that very path, and
removes it where it unlocks. It unlocks at the STT gate and where the hardware register is empty; any other run
of it comes to an `fi` that closes nothing, where the shell stops.

Here any number of processes of both kinds meet at the path, in any order, and are killed anywhere. A process
under the `flock` makes the updates of `updateUnderLock`, one after the other; what a script does to the device
is left open.
-/
import RebootManager.Fetcher.Invocation
import RebootManager.Foundation.Transition

namespace RebootManager

open Foundation

/-- What /tmp/rebootInfo.lock is. -/
inductive LockPath where
  | absent
  | directory
  /-- The inode of a regular file. -/
  | file (i : Nat)
  deriving DecidableEq

/-- Where a process stands. -/
inductive UpdatePhase where
  /-- No such process. -/
  | idle
  /-- In `acquire_lock`, before `open`. -/
  | opening
  /-- Before `flock` returns. -/
  | waiting (i : Nat)
  /-- Under the lock: the device it found, the updates it has made and the ones it has still to make. -/
  | updating (i : Nat) (entry : Device) (done rest : List DeviceOp)
  /-- `release_lock` has returned; before the invocation flag. -/
  | unlocked
  /-- Returns `ERROR_LOCK_FAILED`. -/
  | failed
  /-- The script in its `mkdir` loop. -/
  | making
  /-- The script behind it. -/
  | running

/-- The lock, the processes around it and the device. -/
structure UpdateSystem (π : Type) where
  path : LockPath
  /-- Who holds the `flock` of an inode. -/
  owner : Nat → Option π
  /-- The next inode that is created. -/
  fresh : Nat
  phase : π → UpdatePhase
  device : Device

/-- `open(O_CREAT)` of the invocation flag, where it succeeds. -/
def Device.invoked (d : Device) (ok : Bool) : Device :=
  if ok then d.setFile .pathFlagInvocation (some ((d.files .pathFlagInvocation).getD [])) else d

namespace UpdateSystem

variable {π : Type} [DecidableEq π] (s : UpdateSystem π)

def goto (p : π) (φ : UpdatePhase) : UpdateSystem π :=
  { s with phase := fun q => if q = p then φ else s.phase q }

/-- `flock(LOCK_UN)` and the close, or the end of the process: it has one lock at most. -/
def releaseOwner (p : π) : UpdateSystem π :=
  { s with owner := fun i => if s.owner i = some p then none else s.owner i }

/-- `open(O_CREAT | O_RDWR)`; a directory is `EISDIR`. -/
def openLock (p : π) (ok : Bool) : UpdateSystem π :=
  if ok then
    match s.path with
    | .absent => { s with path := .file s.fresh, fresh := s.fresh + 1 }.goto p (.waiting s.fresh)
    | .file i => s.goto p (.waiting i)
    | .directory => s.goto p .failed
  else s.goto p .failed

/-- `flock(LOCK_EX)` returns. Behind it the process begins its update on the device it finds. -/
def flock (env : FetcherEnv) (p : π) (i : Nat) (ok : Bool) : UpdateSystem π :=
  if ok then
    { s with owner := fun j => if j = i then some p else s.owner j }.goto p
      (.updating i s.device [] ((updateUnderLock env).ops s.device))
  else s.goto p .failed

/-- `mkdir` -/
def mkdir (p : π) : UpdateSystem π :=
  match s.path with
  | .absent => { s with path := .directory }.goto p .running
  | _ => s

end UpdateSystem

/-- What can happen next. -/
inductive UpdateEvent (π : Type) where
  | spawn (p : π) (asScript : Bool)
  | openLock (p : π) (ok : Bool)
  | flock (p : π) (ok : Bool)
  /-- One update under the lock. -/
  | update (p : π)
  | release (p : π)
  /-- The invocation flag is written, where it can be. -/
  | invoked (p : π) (ok : Bool)
  /-- `main` returns `ERROR_LOCK_FAILED`. -/
  | giveUp (p : π)
  | mkdir (p : π)
  /-- Whatever the script does. -/
  | script (p : π) (device : Device)
  /-- The script ends, with or without `rm -rf` of the path. -/
  | finish (p : π) (unlocks : Bool)
  | kill (p : π)

section Steps

variable {π : Type} [DecidableEq π] (env : π → FetcherEnv)

/-- One event. `flock` returns 0 only where nobody holds the lock. -/
def UpdateEvent.Step (s : UpdateSystem π) : UpdateEvent π → UpdateSystem π → Prop
  | .spawn p asScript, t => s.phase p = .idle ∧ t = s.goto p (if asScript then .making else .opening)
  | .openLock p ok, t => s.phase p = .opening ∧ t = s.openLock p ok
  | .flock p ok, t =>
    ∃ i, s.phase p = .waiting i ∧ (ok = true → s.owner i = none) ∧ t = s.flock (env p) p i ok
  | .update p, t =>
    ∃ i entry done o rest, s.phase p = .updating i entry done (o :: rest) ∧
      t = { s with device := Effect.apply o s.device }.goto p (.updating i entry (done ++ [o]) rest)
  | .release p, t =>
    ∃ i entry done, s.phase p = .updating i entry done [] ∧ t = (s.releaseOwner p).goto p .unlocked
  | .invoked p ok, t =>
    s.phase p = .unlocked ∧ t = { s with device := s.device.invoked ok }.goto p .idle
  | .giveUp p, t => s.phase p = .failed ∧ t = s.goto p .idle
  | .mkdir p, t => s.phase p = .making ∧ t = s.mkdir p
  | .script p device, t => s.phase p = .running ∧ t = { s with device := device }
  | .finish p unlocks, t =>
    s.phase p = .running ∧
      t = (if unlocks then { s with path := .absent } else s).goto p .idle
  | .kill p, t => s.phase p ≠ .idle ∧ t = (s.releaseOwner p).goto p .idle

/-- A boot: /tmp is empty and nobody has started yet. -/
structure UpdateSystem.Booted (s : UpdateSystem π) : Prop where
  path : s.path = .absent
  owner : ∀ i, s.owner i = none
  phase : ∀ p, s.phase p = .idle

end Steps

/-- Under the lock, of whichever kind. -/
def UpdatePhase.inside : UpdatePhase → Bool
  | .updating _ _ _ _ | .running => true
  | _ => false

/-! ## Two devices that differ in the flag -/

/-- The same but for the invocation flag. -/
structure SameButFlag (d d' : Device) : Prop where
  files : ∀ f, f ≠ File.pathFlagInvocation → d.files f = d'.files f
  rfc : d.rfc = d'.rfc
  cron : d.cron = d'.cron

theorem SameButFlag.refl (d : Device) : SameButFlag d d := ⟨fun _ _ => rfl, rfl, rfl⟩

theorem SameButFlag.invoked {d d' : Device} (h : SameButFlag d d') (ok : Bool) :
    SameButFlag (d.invoked ok) d' := by
  unfold Device.invoked
  split
  · refine ⟨fun f hf => ?_, h.rfc, h.cron⟩
    rw [Device.setFile_files, Function.update_of_ne hf]
    exact h.files f hf
  · exact h

/-- An update of other files does the same to both. -/
theorem SameButFlag.apply {d d' : Device} (h : SameButFlag d d') {o : DeviceOp} (ho : FilesOnly updateFiles o) :
    SameButFlag (Effect.apply o d) (Effect.apply o d') := by
  have hflag : File.pathFlagInvocation ∉ updateFiles := by decide
  refine ⟨fun f hf => ?_, by rw [ho.rfc_eq, ho.rfc_eq, h.rfc], by rw [ho.cron_eq, ho.cron_eq, h.cron]⟩
  cases o with
  | file op =>
    show FileOp.run op d.files f = FileOp.run op d'.files f
    have hne : ∀ g ∈ op.targets, g ≠ .pathFlagInvocation := by
      rintro g hg rfl
      exact hflag (ho _ hg)
    cases op with
    | openTrunc g => simp only [FileOp.run, Function.update_apply, h.files f hf]
    | openAppend g =>
      simp only [FileOp.run, Function.update_apply, h.files f hf, h.files g (hne g (by simp [FileOp.targets]))]
    | append g piece =>
      simp only [FileOp.run, Function.update_apply, h.files f hf, h.files g (hne g (by simp [FileOp.targets]))]
    | unlink g => simp only [FileOp.run, Function.update_apply, h.files f hf]
    | rename src dst =>
      simp only [FileOp.run, h.files src (hne src (by simp [FileOp.targets]))]
      cases d'.files src with
      | none => exact h.files f hf
      | some content => simp only [Function.update_apply, h.files f hf]
  | reboot => exact h.files f hf
  | _ => exact ho.elim

/-! ## The invariant -/

section Invariant

variable {π : Type} [DecidableEq π] {env : π → FetcherEnv} {s t : UpdateSystem π}

/-- Whoever has opened the file finds it at the path, whoever runs as a script has its directory there, and
who updates is the owner and has seen no other update than its own. -/
structure LockInvariant (env : π → FetcherEnv) (s : UpdateSystem π) : Prop where
  owned : ∀ {i p}, s.owner i = some p → ∃ entry done rest, s.phase p = .updating i entry done rest
  owner : ∀ {p i entry done rest}, s.phase p = .updating i entry done rest → s.owner i = some p
  updating : ∀ {p i entry done rest}, s.phase p = .updating i entry done rest → s.path = .file i
  waiting : ∀ {p i}, s.phase p = .waiting i → s.path = .file i
  running : ∀ {p}, s.phase p = .running → s.path = .directory
  single : ∀ {p q}, s.phase p = .running → s.phase q = .running → p = q
  alone : ∀ {p i entry done rest}, s.phase p = .updating i entry done rest →
    done ++ rest = (updateUnderLock (env p)).ops entry ∧ SameButFlag s.device (execOps done entry)

omit [DecidableEq π] in
theorem lockInvariant_of_booted (h : s.Booted) : LockInvariant env s where
  owned ho := by rw [h.owner] at ho; cases ho
  owner hp := by rw [h.phase] at hp; cases hp
  updating hp := by rw [h.phase] at hp; cases hp
  waiting hp := by rw [h.phase] at hp; cases hp
  running hp := by rw [h.phase] at hp; cases hp
  single hp := by rw [h.phase] at hp; cases hp
  alone hp := by rw [h.phase] at hp; cases hp

theorem phase_goto (s : UpdateSystem π) (p q : π) (φ : UpdatePhase) :
    (s.goto p φ).phase q = if q = p then φ else s.phase q := rfl

/-- A phase that says nothing about the lock. -/
def UpdatePhase.Outside : UpdatePhase → Prop
  | .idle | .opening | .unlocked | .failed | .making => True
  | _ => False

/-- A process leaves, its lock with it. -/
theorem LockInvariant.leave (h : LockInvariant env s) (p : π) {φ : UpdatePhase} (hφ : φ.Outside) :
    LockInvariant env ((s.releaseOwner p).goto p φ) := by
  -- any other process is where it was
  have hother : ∀ {q ψ}, ((s.releaseOwner p).goto p φ).phase q = ψ → ¬ ψ.Outside → q ≠ p ∧ s.phase q = ψ := by
    intro q ψ hq hψ
    rw [phase_goto] at hq
    split at hq
    · exact absurd (hq ▸ hφ) hψ
    · exact ⟨‹_›, hq⟩
  have howner : ∀ {i q}, ((s.releaseOwner p).goto p φ).owner i = some q ↔ s.owner i = some q ∧ q ≠ p := by
    intro i q
    show (if s.owner i = some p then none else s.owner i) = some q ↔ _
    split
    · rename_i hp
      rw [hp, Option.some.injEq]
      simp only [reduceCtorEq, false_iff, not_and, not_not]
      exact fun h => h.symm
    · rename_i hp
      exact ⟨fun hq => ⟨hq, fun heq => hp (heq ▸ hq)⟩, fun hq => hq.1⟩
  refine ⟨?_, ?_, ?_, ?_, ?_, ?_, ?_⟩
  · intro i q hq
    obtain ⟨hq, hne⟩ := howner.mp hq
    obtain ⟨entry, done, rest, hphase⟩ := h.owned hq
    exact ⟨entry, done, rest, by rw [phase_goto, if_neg hne]; exact hphase⟩
  · intro q i entry done rest hq
    obtain ⟨hne, hq⟩ := hother hq id
    exact howner.mpr ⟨h.owner hq, hne⟩
  · intro q i entry done rest hq
    exact h.updating (hother hq id).2
  · intro q i hq
    exact h.waiting (hother hq id).2
  · intro q hq
    exact h.running (hother hq id).2
  · intro q r hq hr
    exact h.single (hother hq id).2 (hother hr id).2
  · intro q i entry done rest hq
    exact h.alone (hother hq id).2

/-- Nothing to release where the process does not update. -/
theorem LockInvariant.releaseOwner_eq (h : LockInvariant env s) {p : π}
    (hp : ∀ i entry done rest, s.phase p ≠ .updating i entry done rest) : s.releaseOwner p = s := by
  have hnone : ∀ i, s.owner i ≠ some p := by
    intro i hi
    obtain ⟨entry, done, rest, hphase⟩ := h.owned hi
    exact hp i entry done rest hphase
  unfold UpdateSystem.releaseOwner
  simp only [hnone, if_false]

/-- Nobody has opened the file and nobody has made the directory. -/
structure Unused (s : UpdateSystem π) : Prop where
  updating : ∀ p i entry done rest, s.phase p ≠ .updating i entry done rest
  waiting : ∀ p i, s.phase p ≠ .waiting i
  running : ∀ p, s.phase p ≠ .running

omit [DecidableEq π] in
theorem LockInvariant.unused (h : LockInvariant env s) (hpath : s.path = .absent) : Unused s where
  updating p i entry done rest hp := by cases hpath.symm.trans (h.updating hp)
  waiting p i hp := by cases hpath.symm.trans (h.waiting hp)
  running p hp := by cases hpath.symm.trans (h.running hp)

/-- From there one process can take the path, in either way. -/
theorem LockInvariant.take (h : LockInvariant env s) (hunused : Unused s) {p : π} {path : LockPath}
    {fresh : Nat} {φ : UpdatePhase}
    (hφ : (∃ i, φ = .waiting i ∧ path = .file i) ∨ φ = .running ∧ path = .directory) :
    LockInvariant env ({ s with path := path, fresh := fresh }.goto p φ) := by
  have hupdating : ∀ {q i entry done rest},
      ({ s with path := path, fresh := fresh }.goto p φ).phase q ≠ .updating i entry done rest := by
    intro q i entry done rest hq
    rw [phase_goto] at hq
    split at hq
    · rcases hφ with ⟨j, rfl, -⟩ | ⟨rfl, -⟩ <;> cases hq
    · exact hunused.updating q i entry done rest hq
  have hself : ∀ {q ψ}, ({ s with path := path, fresh := fresh }.goto p φ).phase q = ψ →
      (∀ i, ψ = .waiting i → s.phase q ≠ ψ) → (ψ = .running → s.phase q ≠ ψ) →
      ((∃ i, ψ = .waiting i) ∨ ψ = .running) → q = p ∧ φ = ψ := by
    intro q ψ hq hwaiting hrunning hψ
    rw [phase_goto] at hq
    split at hq
    · exact ⟨‹_›, hq⟩
    · rcases hψ with ⟨i, hi⟩ | hrun
      · exact absurd hq (hwaiting i hi)
      · exact absurd hq (hrunning hrun)
  refine ⟨?_, fun hq => absurd hq hupdating, fun hq => absurd hq hupdating, ?_, ?_, ?_,
    fun hq => absurd hq hupdating⟩
  · intro i q hq
    obtain ⟨entry, done, rest, hphase⟩ := h.owned hq
    exact absurd hphase (hunused.updating q i entry done rest)
  · intro q i hq
    obtain ⟨-, hφ'⟩ := hself hq (fun j hj => hj ▸ hunused.waiting q j) (fun hr => by cases hr)
      (Or.inl ⟨i, rfl⟩)
    rcases hφ with ⟨j, rfl, hpath⟩ | ⟨rfl, -⟩
    · cases hφ'
      exact hpath
    · cases hφ'
  · intro q hq
    obtain ⟨-, hφ'⟩ := hself hq (fun j hj => by cases hj) (fun _ => hunused.running q) (Or.inr rfl)
    rcases hφ with ⟨j, rfl, -⟩ | ⟨-, hpath⟩
    · cases hφ'
    · exact hpath
  · intro q r hq hr
    have hq' := (hself hq (fun j hj => by cases hj) (fun _ => hunused.running q) (Or.inr rfl)).1
    have hr' := (hself hr (fun j hj => by cases hj) (fun _ => hunused.running r) (Or.inr rfl)).1
    exact hq'.trans hr'.symm

/-- One more in the queue of the file. -/
theorem LockInvariant.wait (h : LockInvariant env s) {p : π} {i : Nat} (hpath : s.path = .file i)
    (hp : s.phase p = .opening) : LockInvariant env (s.goto p (.waiting i)) := by
  have hother : ∀ {q ψ}, (s.goto p (.waiting i)).phase q = ψ → (∀ j, ψ ≠ .waiting j) → s.phase q = ψ := by
    intro q ψ hq hψ
    rw [phase_goto] at hq
    split at hq
    · exact absurd hq.symm (hψ i)
    · exact hq
  refine ⟨?_, fun hq => h.owner (hother hq nofun), fun hq => h.updating (hother hq nofun), ?_,
    fun hq => h.running (hother hq nofun), fun hq hr => h.single (hother hq nofun) (hother hr nofun),
    fun hq => h.alone (hother hq nofun)⟩
  · intro j q hq
    obtain ⟨entry, done, rest, hphase⟩ := h.owned hq
    have hne : q ≠ p := by
      rintro rfl
      rw [hp] at hphase
      cases hphase
    exact ⟨entry, done, rest, by rw [phase_goto, if_neg hne]; exact hphase⟩
  · intro q j hq
    rw [phase_goto] at hq
    split at hq
    · cases hq
      exact hpath
    · exact h.waiting hq

/-- The lock is handed to one that waits, and it begins with the device as it is. -/
theorem LockInvariant.acquire (h : LockInvariant env s) {p : π} {i : Nat} (hp : s.phase p = .waiting i)
    (hfree : s.owner i = none) : LockInvariant env (s.flock (env p) p i true) := by
  have hpath := h.waiting hp
  -- nobody else updates: it would own the inode at the path, which is this one
  have hnone : ∀ {q j entry done rest}, s.phase q ≠ .updating j entry done rest := by
    intro q j entry done rest hq
    have hj : j = i := LockPath.file.inj ((h.updating hq).symm.trans hpath)
    rw [hj] at hq
    cases hfree.symm.trans (h.owner hq)
  have hphase : ∀ q, (s.flock (env p) p i true).phase q
      = if q = p then .updating i s.device [] ((updateUnderLock (env p)).ops s.device) else s.phase q :=
    fun _ => rfl
  have howner : ∀ j, (s.flock (env p) p i true).owner j = if j = i then some p else s.owner j :=
    fun _ => rfl
  have hself : ∀ {q j entry done rest}, (s.flock (env p) p i true).phase q = .updating j entry done rest →
      q = p ∧ j = i ∧ entry = s.device ∧ done = [] ∧ rest = (updateUnderLock (env p)).ops s.device := by
    intro q j entry done rest hq
    rw [hphase] at hq
    split at hq
    · cases hq
      exact ⟨‹_›, rfl, rfl, rfl, rfl⟩
    · exact absurd hq hnone
  have hother : ∀ {q ψ}, (s.flock (env p) p i true).phase q = ψ →
      (∀ j entry done rest, ψ ≠ .updating j entry done rest) → s.phase q = ψ := by
    intro q ψ hq hψ
    rw [hphase] at hq
    split at hq
    · exact absurd hq.symm (hψ _ _ _ _)
    · exact hq
  refine ⟨?_, ?_, ?_, fun hq => h.waiting (hother hq nofun), fun hq => h.running (hother hq nofun),
    fun hq hr => h.single (hother hq nofun) (hother hr nofun), ?_⟩
  · intro j q hq
    rw [howner] at hq
    split at hq
    · cases hq
      exact ⟨s.device, [], _, by rw [hphase, if_pos rfl, ‹j = i›]⟩
    · obtain ⟨entry, done, rest, hupdating⟩ := h.owned hq
      exact absurd hupdating hnone
  · intro q j entry done rest hq
    obtain ⟨rfl, rfl, -⟩ := hself hq
    rw [howner, if_pos rfl]
  · intro q j entry done rest hq
    obtain ⟨-, rfl, -⟩ := hself hq
    exact hpath
  · intro q j entry done rest hq
    obtain ⟨rfl, rfl, rfl, rfl, rfl⟩ := hself hq
    exact ⟨rfl, SameButFlag.refl _⟩

/-- An update under the lock. -/
theorem LockInvariant.update (h : LockInvariant env s) {p : π} {i : Nat} {entry : Device}
    {done rest : List DeviceOp} {o : DeviceOp} (hp : s.phase p = .updating i entry done (o :: rest)) :
    LockInvariant env ({ s with device := Effect.apply o s.device }.goto p
      (.updating i entry (done ++ [o]) rest)) := by
  obtain ⟨hops, hsame⟩ := h.alone hp
  have ho : FilesOnly updateFiles o :=
    emits_updateUnderLock (env p) entry o (hops ▸ List.mem_append_right _ List.mem_cons_self)
  have hself : ∀ {q j entry' done' rest'},
      ({ s with device := Effect.apply o s.device }.goto p (.updating i entry (done ++ [o]) rest)).phase q
        = .updating j entry' done' rest' →
      q = p ∧ j = i ∧ entry' = entry ∧ done' = done ++ [o] ∧ rest' = rest := by
    intro q j entry' done' rest' hq
    rw [phase_goto] at hq
    split at hq
    · cases hq
      exact ⟨‹_›, rfl, rfl, rfl, rfl⟩
    · -- two processes under one lock
      have hj : i = j := LockPath.file.inj ((h.updating hp).symm.trans (h.updating hq))
      subst hj
      cases (h.owner hp).symm.trans (h.owner hq)
      exact absurd rfl ‹_›
  have hother : ∀ {q ψ},
      ({ s with device := Effect.apply o s.device }.goto p (.updating i entry (done ++ [o]) rest)).phase q = ψ →
      (∀ j entry done rest, ψ ≠ .updating j entry done rest) → s.phase q = ψ := by
    intro q ψ hq hψ
    rw [phase_goto] at hq
    split at hq
    · exact absurd hq.symm (hψ _ _ _ _)
    · exact hq
  refine ⟨?_, ?_, ?_, fun hq => h.waiting (hother hq nofun), fun hq => h.running (hother hq nofun),
    fun hq hr => h.single (hother hq nofun) (hother hr nofun), ?_⟩
  · intro j q hq
    obtain ⟨entry', done', rest', hupdating⟩ := h.owned hq
    by_cases hqp : q = p
    · subst hqp
      rw [hp] at hupdating
      cases hupdating
      exact ⟨_, _, _, by rw [phase_goto, if_pos rfl]⟩
    · exact ⟨entry', done', rest', by rw [phase_goto, if_neg hqp]; exact hupdating⟩
  · intro q j entry' done' rest' hq
    obtain ⟨rfl, rfl, -⟩ := hself hq
    exact h.owner hp
  · intro q j entry' done' rest' hq
    obtain ⟨-, rfl, -⟩ := hself hq
    exact h.updating hp
  · intro q j entry' done' rest' hq
    obtain ⟨rfl, rfl, rfl, rfl, rfl⟩ := hself hq
    refine ⟨by rw [List.append_assoc, List.singleton_append, hops], ?_⟩
    rw [execOps_append]
    exact hsame.apply ho

omit [DecidableEq π] in
/-- A change of the device that no updating process can see. -/
theorem LockInvariant.setDevice (h : LockInvariant env s) {d : Device}
    (hd : ∀ {p i entry done rest}, s.phase p = .updating i entry done rest →
      SameButFlag d (execOps done entry)) : LockInvariant env { s with device := d } :=
  ⟨h.owned, h.owner, h.updating, h.waiting, h.running, h.single, fun hq => ⟨(h.alone hq).1, hd hq⟩⟩

omit [DecidableEq π] in
/-- A path that nobody relies on can become anything. -/
theorem LockInvariant.setPath (h : LockInvariant env s) (hunused : Unused s) (path : LockPath) :
    LockInvariant env { s with path := path } :=
  ⟨h.owned, h.owner, fun hq => absurd hq (hunused.updating _ _ _ _ _), fun hq => absurd hq (hunused.waiting _ _),
    fun hq => absurd hq (hunused.running _), h.single, h.alone⟩

/-- A process without a lock goes on. -/
theorem LockInvariant.move (h : LockInvariant env s) {p : π} {φ : UpdatePhase} (hφ : φ.Outside)
    (hp : ∀ i entry done rest, s.phase p ≠ .updating i entry done rest) : LockInvariant env (s.goto p φ) := by
  have hleave := h.leave p hφ
  rwa [h.releaseOwner_eq hp] at hleave

/-- The script removes its directory, and there is nobody left who relied on it. -/
theorem LockInvariant.unlock (h : LockInvariant env s) {p : π} (hp : s.phase p = .running) :
    LockInvariant env ({ s with path := .absent }.goto p .idle) := by
  have hpath := h.running hp
  have hmoved : LockInvariant env (s.goto p .idle) := h.move trivial fun _ _ _ _ hq => by rw [hp] at hq; cases hq
  have hunused : Unused (s.goto p .idle) := by
    refine ⟨fun q i entry done rest hq => ?_, fun q i hq => ?_, fun q hq => ?_⟩
    · cases hpath.symm.trans (hmoved.updating hq)
    · cases hpath.symm.trans (hmoved.waiting hq)
    · rw [phase_goto] at hq
      split at hq
      · cases hq
      · exact absurd (h.single hq hp) ‹_›
  exact hmoved.setPath hunused .absent

/-- **Every event keeps the invariant.** -/
theorem lockInvariant_step (h : LockInvariant env s) {e : UpdateEvent π} (hstep : e.Step env s t) :
    LockInvariant env t := by
  have hmove : ∀ {p ψ φ}, s.phase p = ψ → (∀ i entry done rest, ψ ≠ .updating i entry done rest) → φ.Outside →
      LockInvariant env (s.goto p φ) := by
    intro p ψ φ hp hψ hφ
    exact h.move hφ fun i entry done rest hq => hψ i entry done rest (hp.symm.trans hq)
  cases e with
  | spawn p asScript =>
    obtain ⟨hp, rfl⟩ := hstep
    refine hmove hp nofun ?_
    cases asScript <;> trivial
  | openLock p ok =>
    obtain ⟨hp, rfl⟩ := hstep
    unfold UpdateSystem.openLock
    cases ok with
    | false => exact hmove hp nofun trivial
    | true =>
      rw [if_pos rfl]
      cases hpath : s.path with
      | absent => exact h.take (h.unused hpath) (Or.inl ⟨s.fresh, rfl, rfl⟩)
      | directory => exact hmove hp nofun trivial
      | file i => exact h.wait hpath hp
  | flock p ok =>
    obtain ⟨i, hp, hfree, rfl⟩ := hstep
    cases ok with
    | false => exact hmove hp nofun trivial
    | true => exact h.acquire hp (hfree rfl)
  | update p =>
    obtain ⟨i, entry, done, o, rest, hp, rfl⟩ := hstep
    exact h.update hp
  | release p =>
    obtain ⟨i, entry, done, -, rfl⟩ := hstep
    exact h.leave p trivial
  | invoked p ok =>
    obtain ⟨hp, rfl⟩ := hstep
    refine LockInvariant.move (h.setDevice fun hq => ?_) trivial fun i entry done rest hq => ?_
    · exact (h.alone hq).2.invoked ok
    · cases hp.symm.trans hq
  | giveUp p =>
    obtain ⟨hp, rfl⟩ := hstep
    exact hmove hp nofun trivial
  | mkdir p =>
    obtain ⟨hp, rfl⟩ := hstep
    unfold UpdateSystem.mkdir
    cases hpath : s.path with
    | absent => exact h.take (h.unused hpath) (Or.inr ⟨rfl, rfl⟩)
    | directory => exact h
    | file i => exact h
  | script p device =>
    obtain ⟨hp, rfl⟩ := hstep
    refine h.setDevice fun hq => ?_
    cases (h.running hp).symm.trans (h.updating hq)
  | finish p unlocks =>
    obtain ⟨hp, rfl⟩ := hstep
    cases unlocks with
    | false => exact hmove hp nofun trivial
    | true => exact h.unlock hp
  | kill p =>
    obtain ⟨-, rfl⟩ := hstep
    exact h.leave p trivial

/-! ## One at a time, and alone with the device -/

/-- **Updates are isolated.** However many runs of both programs meet at the lock, at most one of them is under
it; and whoever updates has made the first updates of a run of `updateUnderLock` on the device it found there,
and but for the invocation flag the device is what just these have made of it. -/
theorem updates_isolated (h : Reachable UpdateSystem.Booted (fun s e t => UpdateEvent.Step env s e t) s) :
    (∀ p q, (s.phase p).inside = true → (s.phase q).inside = true → p = q) ∧
    ∀ p i entry done rest, s.phase p = .updating i entry done rest →
      done ++ rest = (updateUnderLock (env p)).ops entry ∧ SameButFlag s.device (execOps done entry) := by
  have hinv : LockInvariant env s := h.invariant (fun _ => lockInvariant_of_booted)
    fun _ _ _ hs hstep => lockInvariant_step hs hstep
  have hinside : ∀ {φ : UpdatePhase}, φ.inside = true →
      (∃ i entry done rest, φ = .updating i entry done rest) ∨ φ = .running := by
    intro φ hφ
    cases φ with
    | updating i entry done rest => exact Or.inl ⟨i, entry, done, rest, rfl⟩
    | running => exact Or.inr rfl
    | _ => cases hφ
  refine ⟨fun p q hp hq => ?_, fun p i entry done rest => hinv.alone⟩
  rcases hinside hp with ⟨i, entry, done, rest, hp⟩ | hp
  · rcases hinside hq with ⟨j, entry', done', rest', hq⟩ | hq
    · have hj : i = j := LockPath.file.inj ((hinv.updating hp).symm.trans (hinv.updating hq))
      subst hj
      exact Option.some.inj ((hinv.owner hp).symm.trans (hinv.owner hq))
    · cases (hinv.updating hp).symm.trans (hinv.running hq)
  · rcases hinside hq with ⟨j, entry', done', rest', hq⟩ | hq
    · cases (hinv.running hp).symm.trans (hinv.updating hq)
    · exact hinv.single hp hq

/-! ## Who is first -/

/-- The path changes only where it is free, or where a script unlocks it. -/
theorem path_step {e : UpdateEvent π} (hstep : e.Step env s t) :
    t.path = s.path ∨ s.path = .absent ∨ ∃ p, s.phase p = .running ∧ e = .finish p true := by
  cases e with
  | openLock p ok =>
    obtain ⟨-, rfl⟩ := hstep
    unfold UpdateSystem.openLock
    cases ok with
    | false => exact Or.inl rfl
    | true =>
      rw [if_pos rfl]
      cases hpath : s.path with
      | absent => exact Or.inr (Or.inl rfl)
      | directory => exact Or.inl hpath
      | file i => exact Or.inl hpath
  | flock p ok =>
    obtain ⟨i, -, -, rfl⟩ := hstep
    unfold UpdateSystem.flock
    split <;> exact Or.inl rfl
  | mkdir p =>
    obtain ⟨-, rfl⟩ := hstep
    unfold UpdateSystem.mkdir
    cases hpath : s.path with
    | absent => exact Or.inr (Or.inl rfl)
    | directory => exact Or.inl hpath
    | file i => exact Or.inl hpath
  | finish p unlocks =>
    obtain ⟨hp, rfl⟩ := hstep
    cases unlocks with
    | false => exact Or.inl rfl
    | true => exact Or.inr (Or.inr ⟨p, hp, rfl⟩)
  | update p =>
    obtain ⟨i, entry, done, o, rest, -, rfl⟩ := hstep
    exact Or.inl rfl
  | release p =>
    obtain ⟨i, entry, done, -, rfl⟩ := hstep
    exact Or.inl rfl
  | _ =>
    obtain ⟨-, rfl⟩ := hstep
    exact Or.inl rfl

/-- A script begins to run only where the path is free. -/
theorem running_step {e : UpdateEvent π} (hstep : e.Step env s t) {q : π} (hq : t.phase q = .running) :
    s.phase q = .running ∨ s.path = .absent := by
  have hgoto : ∀ {s' : UpdateSystem π} {p φ}, (s'.goto p φ).phase q = .running →
      s'.phase = s.phase → φ ≠ .running → s.phase q = .running := by
    intro s' p φ hrunning hsame hφ
    rw [phase_goto] at hrunning
    split at hrunning
    · exact absurd hrunning hφ
    · rwa [hsame] at hrunning
  cases e with
  | mkdir p =>
    obtain ⟨-, rfl⟩ := hstep
    unfold UpdateSystem.mkdir at hq
    split at hq
    · exact Or.inr ‹_›
    · exact Or.inl hq
  | script p device =>
    obtain ⟨-, rfl⟩ := hstep
    exact Or.inl hq
  | spawn p asScript =>
    obtain ⟨-, rfl⟩ := hstep
    refine Or.inl (hgoto hq rfl ?_)
    cases asScript <;> nofun
  | openLock p ok =>
    obtain ⟨-, rfl⟩ := hstep
    unfold UpdateSystem.openLock at hq
    split at hq
    · split at hq
      · exact Or.inl (hgoto hq rfl nofun)
      · exact Or.inl (hgoto hq rfl nofun)
      · exact Or.inl (hgoto hq rfl nofun)
    · exact Or.inl (hgoto hq rfl nofun)
  | flock p ok =>
    obtain ⟨i, -, -, rfl⟩ := hstep
    unfold UpdateSystem.flock at hq
    split at hq
    · exact Or.inl (hgoto hq rfl nofun)
    · exact Or.inl (hgoto hq rfl nofun)
  | update p =>
    obtain ⟨i, entry, done, o, rest, -, rfl⟩ := hstep
    exact Or.inl (hgoto hq rfl nofun)
  | release p =>
    obtain ⟨i, entry, done, -, rfl⟩ := hstep
    exact Or.inl (hgoto hq rfl nofun)
  | finish p unlocks =>
    obtain ⟨-, rfl⟩ := hstep
    cases unlocks with
    | false => exact Or.inl (hgoto hq rfl nofun)
    | true => exact Or.inl (hgoto hq rfl nofun)
  | _ =>
    obtain ⟨-, rfl⟩ := hstep
    exact Or.inl (hgoto hq rfl nofun)

/-- A directory that no script will remove. -/
structure Abandoned (s : UpdateSystem π) : Prop where
  path : s.path = .directory
  running : ∀ p, s.phase p ≠ .running

theorem abandoned_step (h : Abandoned s) {e : UpdateEvent π} (hstep : e.Step env s t) : Abandoned t := by
  refine ⟨?_, fun p hp => ?_⟩
  · rcases path_step hstep with hsame | habsent | ⟨p, hp, -⟩
    · exact hsame.trans h.path
    · cases h.path.symm.trans habsent
    · exact absurd hp (h.running p)
  · rcases running_step hstep hp with hrunning | habsent
    · exact h.running p hrunning
    · cases h.path.symm.trans habsent

/-- The file of the binary at the path, for good. -/
theorem file_step {i : Nat} (hinv : LockInvariant env s) (h : s.path = .file i) {e : UpdateEvent π}
    (hstep : e.Step env s t) : t.path = .file i := by
  rcases path_step hstep with hsame | habsent | ⟨p, hp, -⟩
  · exact hsame.trans h
  · cases h.symm.trans habsent
  · cases h.symm.trans (hinv.running hp)

/-- A script that ends without unlocking leaves its directory to nobody. -/
theorem abandoned_of_finish (hinv : LockInvariant env s) {p : π} (hp : s.phase p = .running)
    {e : UpdateEvent π} (he : e = .finish p false ∨ e = .kill p) (hstep : e.Step env s t) : Abandoned t := by
  have hpath := hinv.running hp
  have hgone : t.path = s.path ∧ ∀ q, t.phase q = .running → q ≠ p ∧ s.phase q = .running := by
    have hgoto : ∀ {s' : UpdateSystem π} {q}, s'.phase = s.phase → (s'.goto p .idle).phase q = .running →
        q ≠ p ∧ s.phase q = .running := by
      intro s' q hsame hq
      rw [phase_goto] at hq
      split at hq
      · cases hq
      · exact ⟨‹_›, hsame ▸ hq⟩
    rcases he with rfl | rfl
    · obtain ⟨-, rfl⟩ := hstep
      exact ⟨rfl, fun q hq => hgoto rfl hq⟩
    · obtain ⟨-, rfl⟩ := hstep
      exact ⟨rfl, fun q hq => hgoto rfl hq⟩
  refine ⟨hgone.1.trans hpath, fun q hq => ?_⟩
  obtain ⟨hne, hrunning⟩ := hgone.2 q hq
  exact hne (hinv.single hrunning hp)

/-- **Who is first decides for the boot.** Once a run of the binary has opened the lock file, no script gets
under the lock any more, whatever happens. Once a script has ended under the lock without unlocking, be it
killed or at its stray `fi`, nobody gets under the lock any more. -/
theorem lock_first_decides (h : Reachable UpdateSystem.Booted (fun s e t => UpdateEvent.Step env s e t) s) :
    (∀ p i, s.phase p = .waiting i → ∀ es u, Run (fun s e t => UpdateEvent.Step env s e t) s es u →
      ∀ q, u.phase q ≠ .running) ∧
    ∀ p e t, s.phase p = .running → (e = .finish p false ∨ e = .kill p) → UpdateEvent.Step env s e t →
      ∀ es u, Run (fun s e t => UpdateEvent.Step env s e t) t es u → ∀ q, (u.phase q).inside = false := by
  have hinv : LockInvariant env s := h.invariant (fun _ => lockInvariant_of_booted)
    fun _ _ _ hs hstep => lockInvariant_step hs hstep
  have hrun : ∀ {s u : UpdateSystem π} {es}, LockInvariant env s →
      Run (fun s e t => UpdateEvent.Step env s e t) s es u → LockInvariant env u :=
    fun hs hrun => hrun.invariant (fun _ _ _ hs hstep => lockInvariant_step hs hstep) hs
  refine ⟨fun p i hp es u hes q hq => ?_, fun p e t hp he hstep es u hes q => ?_⟩
  · have hfile : LockInvariant env u ∧ u.path = .file i :=
      hes.invariant (I := fun s => LockInvariant env s ∧ s.path = .file i)
        (fun _ _ _ hs hstep => ⟨lockInvariant_step hs.1 hstep, file_step hs.1 hs.2 hstep⟩)
        ⟨hinv, hinv.waiting hp⟩
    cases hfile.2.symm.trans (hfile.1.running hq)
  · have habandoned : Abandoned u := hes.invariant (fun _ _ _ hs hstep => abandoned_step hs hstep)
      (abandoned_of_finish hinv hp he hstep)
    have hinvU := hrun (lockInvariant_step hinv hstep) hes
    cases hphase : u.phase q with
    | updating i entry done rest => cases habandoned.path.symm.trans (hinvU.updating hphase)
    | running => exact absurd hphase (habandoned.running q)
    | _ => rfl

end Invariant

/-! ## Two processes -/

/-- After a boot. -/
def bootedSystem : UpdateSystem Nat := ⟨.absent, fun _ => none, 0, fun _ => .idle, Device.blank⟩

theorem booted_bootedSystem : bootedSystem.Booted := ⟨rfl, fun _ => rfl, fun _ => rfl⟩

def plainUpdates (_ : Nat) : FetcherEnv := .plain .epoch fun _ => none

/-- Process 0 is the binary, under the lock. -/
def binaryUpdating : UpdateSystem Nat :=
  ((bootedSystem.goto 0 .opening).openLock 0 true).flock (plainUpdates 0) 0 0 true

/-- Process 1 is the script, and waits for the path. -/
theorem updates_isolated_binary :
    (∀ p q, (((binaryUpdating.goto 1 .making).mkdir 1).phase p).inside = true →
      (((binaryUpdating.goto 1 .making).mkdir 1).phase q).inside = true → p = q) ∧
    ∀ p i entry done rest, ((binaryUpdating.goto 1 .making).mkdir 1).phase p = .updating i entry done rest →
      done ++ rest = (updateUnderLock (plainUpdates p)).ops entry ∧
        SameButFlag ((binaryUpdating.goto 1 .making).mkdir 1).device (execOps done entry) := by
  refine updates_isolated ⟨bootedSystem, [.spawn 0 false, .openLock 0 true, .flock 0 true, .spawn 1 true,
    .mkdir 1], booted_bootedSystem, ?_⟩
  exact .cons ⟨rfl, rfl⟩ (.cons ⟨rfl, rfl⟩ (.cons ⟨0, rfl, fun _ => rfl, rfl⟩ (.cons ⟨rfl, rfl⟩
    (.cons ⟨rfl, rfl⟩ (.nil _)))))

/-- Process 0 is the script, behind its `mkdir`. -/
def scriptRunning : UpdateSystem Nat := (bootedSystem.goto 0 .making).mkdir 0

/-- It has come to the stray `fi`. -/
def scriptGone : UpdateSystem Nat := scriptRunning.goto 0 .idle

theorem lock_first_decides_script :
    (((scriptGone.goto 1 .opening).openLock 1 true).phase 1).inside = false := by
  have hreach : Reachable UpdateSystem.Booted (fun s e t => UpdateEvent.Step plainUpdates s e t) scriptRunning :=
    ⟨bootedSystem, [.spawn 0 true, .mkdir 0], booted_bootedSystem,
      .cons ⟨rfl, rfl⟩ (.cons ⟨rfl, rfl⟩ (.nil _))⟩
  exact (lock_first_decides hreach).2 0 (.finish 0 false) scriptGone rfl (Or.inl rfl) ⟨rfl, rfl⟩
    [.spawn 1 false, .openLock 1 true] _ (.cons ⟨rfl, rfl⟩ (.cons ⟨rfl, rfl⟩ (.nil _))) 1

end RebootManager
