/-
# RebootManager.Helper.PidGuardSafety -- when the guard excludes

`singleInstance_of_harmless`: in every run all of whose steps are harmless, from any pid file that may
have been left behind, at most one process at a time has been let through and is still there.

The invariant follows the inode. A process that will run, or runs, without a further test *owns* the
inode it wrote or will write; at most one process owns or is exiting (`single`), and while it owns, the
path is that inode (`linked`). A process that found no live owner in an inode it has locked is right
about that (`clear`), because what stands in an owned inode is the owner's pid (`wrote`).
-/
import RebootManager.Helper.PidGuard

namespace RebootManager

open Foundation

namespace Phase

/-- The inode of a process that will run, or runs, without a further test. -/
def owns : Phase → Option Inode
  | .created i | .written i | .truncated i | .rewritten i | .guarded i | .running i => some i
  | _ => none

/-- A process that owns, or is past its exit handler. -/
def committed : Phase → Bool
  | .created _ | .written _ | .truncated _ | .rewritten _ | .guarded _ | .running _ | .exiting => true
  | _ => false

/-- The inode a process has locked. -/
def holdsLock : Phase → Option Inode
  | .locked i | .readPid i _ | .takeover i | .truncated i | .rewritten i => some i
  | _ => none

/-- The inode in which the process's pid stands. -/
def wrote : Phase → Option Inode
  | .written i | .rewritten i | .guarded i | .running i => some i
  | _ => none

/-- The inode that is empty until the process writes. -/
def blank : Phase → Option Inode
  | .created i | .truncated i => some i
  | _ => none

/-- The inode a process knows of. -/
def inode : Phase → Option Inode
  | .created i | .written i | .opened i | .locked i | .readPid i _ | .takeover i | .truncated i
  | .rewritten i | .guarded i | .running i => some i
  | _ => none

theorem committed_of_owns {φ : Phase} {i : Inode} (h : φ.owns = some i) : φ.committed = true := by
  cases φ <;> first | rfl | cases h

theorem committed_of_wrote {φ : Phase} {i : Inode} (h : φ.wrote = some i) : φ.committed = true := by
  cases φ <;> first | rfl | cases h

theorem committed_of_blank {φ : Phase} {i : Inode} (h : φ.blank = some i) : φ.committed = true := by
  cases φ <;> first | rfl | cases h

/-- An owner has written its pid, or has just created the file, or has just emptied it. -/
theorem owns_cases {φ : Phase} {i : Inode} (h : φ.owns = some i) :
    φ.wrote = some i ∨ φ = .created i ∨ φ = .truncated i := by
  cases φ <;> first
    | exact Or.inl h
    | exact Or.inr (Or.inl (congrArg _ (Option.some.inj h)))
    | exact Or.inr (Or.inr (congrArg _ (Option.some.inj h)))

theorem uncommitted_of_no_owner {φ : Phase} (howns : φ.owns = none) (hexit : φ ≠ .exiting) :
    φ.committed = false := by
  cases φ <;> first | rfl | exact absurd rfl hexit | cases howns

theorem inode_of_holdsLock {φ : Phase} {i : Inode} (h : φ.holdsLock = some i) :
    φ.inode = some i := by
  cases φ <;> first | exact h | cases h

theorem committed_of_holding {φ : Phase} (h : φ.holding = true) : φ.committed = true := by
  cases φ <;> first | rfl | cases h

end Phase

/-! ## The invariant -/

/-- What a process in phase `φ` can rely on in the file system. -/
structure Fits (s : PidSystem) (p : Pid) (φ : Phase) : Prop where
  locked : ∀ i, φ.holdsLock = some i → s.lock i = some p
  linked : ∀ i, φ.owns = some i → s.link = some i
  unlinked : φ = .exiting → s.link = none
  wrote : ∀ i, φ.wrote = some i → s.content i = decimal p
  blank : ∀ i, φ.blank = some i → s.content i = []
  fresh : ∀ i, φ.inode = some i → i < s.fresh

/-- What a process in phase `φ` can rely on about another one, `q`, in phase `ψ`. -/
structure Agrees (φ : Phase) (q : Pid) (ψ : Phase) : Prop where
  single : ¬ (φ.committed = true ∧ ψ.committed = true)
  /-- The pid read is the owner's. -/
  read : ∀ i pid, φ = .readPid i pid → ψ.owns = some i → ψ.wrote = some i ∧ (q.val : Int) = pid
  /-- There is no owner. -/
  clear : ∀ i, φ = .takeover i → ψ.owns ≠ some i

/-- The invariant of harmless runs. -/
structure PidInvariant (s : PidSystem) : Prop where
  fits : ∀ p, Fits s p (s.phase p)
  agrees : ∀ p q, p ≠ q → Agrees (s.phase p) q (s.phase q)
  linkFresh : ∀ i, s.link = some i → i < s.fresh

/-- **One process moves.** The invariant is kept if the others still fit the file system, the one
that moves fits it in its new phase, and each agrees with the other. -/
theorem PidInvariant.move {s t : PidSystem} {p : Pid} {φ : Phase} (h : PidInvariant s)
    (hphase : t.phase = fun q => if q = p then φ else s.phase q)
    (hothers : ∀ q, q ≠ p → Fits t q (s.phase q)) (hself : Fits t p φ)
    (hforward : ∀ q, q ≠ p → Agrees φ q (s.phase q))
    (hback : ∀ q, q ≠ p → Agrees (s.phase q) p φ)
    (hlink : ∀ i, t.link = some i → i < t.fresh) : PidInvariant t := by
  refine ⟨?_, ?_, hlink⟩
  · intro q
    rw [hphase]
    by_cases hq : q = p
    · subst hq
      simpa using hself
    · simpa [hq] using hothers q hq
  · intro q r hne
    rw [hphase]
    by_cases hq : q = p
    · subst hq
      simpa [Ne.symm hne] using hforward r (Ne.symm hne)
    · by_cases hr : r = p
      · subst hr
        simpa [hne] using hback q hne
      · simpa [hq, hr] using h.agrees q r hne

/-- A phase that claims no more than another does. -/
structure Phase.Weaker (φ φ₀ : Phase) : Prop where
  committed : φ.committed = true → φ₀.committed = true
  owns : ∀ i, φ.owns = some i → φ₀.owns = some i ∧ φ₀.wrote = φ.wrote
  read : ∀ i pid, φ ≠ .readPid i pid
  clear : ∀ i, φ ≠ .takeover i

theorem Phase.weaker_of_no_owner {φ φ₀ : Phase} (howns : φ.owns = none)
    (hcommitted : φ.committed = true → φ₀.committed = true)
    (hread : ∀ i pid, φ ≠ .readPid i pid) (hclear : ∀ i, φ ≠ .takeover i) : φ.Weaker φ₀ where
  committed := hcommitted
  owns := by
    intro i hi
    rw [howns] at hi
    cases hi
  read := hread
  clear := hclear

/-- Nothing is claimed about a process that is not committed. -/
theorem agrees_of_uncommitted {φ ψ : Phase} {q : Pid} (hψ : ψ.committed = false) : Agrees φ q ψ where
  single := fun ⟨_, hcommitted⟩ => absurd hcommitted (by simp [hψ])
  read := fun _ _ _ howns => absurd (Phase.committed_of_owns howns) (by simp [hψ])
  clear := fun _ _ howns => absurd (Phase.committed_of_owns howns) (by simp [hψ])

theorem Agrees.weaken {φ φ₀ ψ : Phase} {q : Pid} (h : Agrees φ₀ q ψ) (hw : φ.Weaker φ₀) :
    Agrees φ q ψ where
  single := fun ⟨hφ, hψ⟩ => h.single ⟨hw.committed hφ, hψ⟩
  read := fun i pid hread => absurd hread (hw.read i pid)
  clear := fun i hclear => absurd hclear (hw.clear i)

theorem Agrees.weaken_other {φ ψ ψ₀ : Phase} {q : Pid} (h : Agrees φ q ψ₀) (hw : ψ.Weaker ψ₀) :
    Agrees φ q ψ where
  single := fun ⟨hφ, hψ⟩ => h.single ⟨hφ, hw.committed hψ⟩
  read := by
    intro i pid hread howns
    obtain ⟨howns₀, hwrote⟩ := hw.owns i howns
    rw [← hwrote]
    exact h.read i pid hread howns₀
  clear := fun i hclear howns => h.clear i hclear (hw.owns i howns).1

/-- A step that claims nothing new. -/
theorem PidInvariant.move_weaker {s t : PidSystem} {p : Pid} {φ : Phase} (h : PidInvariant s)
    (hphase : t.phase = fun q => if q = p then φ else s.phase q)
    (hothers : ∀ q, q ≠ p → Fits t q (s.phase q)) (hself : Fits t p φ)
    (hweaker : φ.Weaker (s.phase p))
    (hlink : ∀ i, t.link = some i → i < t.fresh) : PidInvariant t :=
  h.move hphase hothers hself (fun q hq => (h.agrees p q (Ne.symm hq)).weaken hweaker)
    (fun q hq => (h.agrees q p hq).weaken_other hweaker) hlink

/-! ## How the others fit after a change -/

section Others

variable {s t : PidSystem} {q : Pid} {ψ : Phase}

/-- The same path and contents, and no lock of the process taken away. -/
theorem Fits.of_same (h : Fits s q ψ) (hlink : t.link = s.link) (hcontent : t.content = s.content)
    (hlock : ∀ i, s.lock i = some q → t.lock i = some q) (hfresh : t.fresh = s.fresh) :
    Fits t q ψ where
  locked := fun i hi => hlock i (h.locked i hi)
  linked := fun i hi => hlink ▸ h.linked i hi
  unlinked := fun hi => hlink ▸ h.unlinked hi
  wrote := fun i hi => hcontent ▸ h.wrote i hi
  blank := fun i hi => hcontent ▸ h.blank i hi
  fresh := fun i hi => hfresh ▸ h.fresh i hi

/-- A process that is not committed relies on its locks only. -/
theorem fits_of_uncommitted (hψ : ψ.committed = false)
    (hlocked : ∀ i, ψ.holdsLock = some i → t.lock i = some q)
    (hfresh : ∀ i, ψ.inode = some i → i < t.fresh) : Fits t q ψ where
  locked := hlocked
  linked := fun i hi => absurd (Phase.committed_of_owns hi) (by simp [hψ])
  unlinked := by
    rintro rfl
    cases hψ
  wrote := fun i hi => absurd (Phase.committed_of_wrote hi) (by simp [hψ])
  blank := fun i hi => absurd (Phase.committed_of_blank hi) (by simp [hψ])
  fresh := hfresh

theorem Fits.of_uncommitted (h : Fits s q ψ) (hψ : ψ.committed = false)
    (hlock : ∀ i, s.lock i = some q → t.lock i = some q) (hfresh : s.fresh ≤ t.fresh) :
    Fits t q ψ :=
  fits_of_uncommitted hψ (fun i hi => hlock i (h.locked i hi))
    (fun i hi => Nat.lt_of_lt_of_le (h.fresh i hi) hfresh)

/-- A process that knows no inode relies on nothing. -/
theorem fits_of_no_inode (s : PidSystem) (q : Pid) (hψ : ψ.inode = none)
    (hcommitted : ψ.committed = false) : Fits s q ψ := by
  refine fits_of_uncommitted hcommitted ?_ ?_
  · intro i hi
    rw [Phase.inode_of_holdsLock hi] at hψ
    cases hψ
  · intro i hi
    rw [hi] at hψ
    cases hψ

/-- An owner whose pid stands in its inode needs no lock. -/
theorem Fits.of_wrote {φ : Phase} (h : Fits s q ψ) (hlink : t.link = s.link)
    (hcontent : t.content = s.content) (hfresh : t.fresh = s.fresh) (howns : φ.owns = ψ.owns)
    (hwrote : φ.wrote = ψ.wrote) (hinode : φ.inode = ψ.inode) (hlock : φ.holdsLock = none)
    (hblank : φ.blank = none) (hexit : φ ≠ .exiting) : Fits t q φ where
  locked := by
    intro i hi
    rw [hlock] at hi
    cases hi
  linked := fun i hi => hlink ▸ h.linked i (howns ▸ hi)
  unlinked := fun hφ => absurd hφ hexit
  wrote := fun i hi => hcontent ▸ h.wrote i (hwrote ▸ hi)
  blank := by
    intro i hi
    rw [hblank] at hi
    cases hi
  fresh := fun i hi => hfresh ▸ h.fresh i (hinode ▸ hi)

end Others

/-! ## Step lemmas -/

namespace PidInvariant

variable {s : PidSystem} (h : PidInvariant s) {p : Pid}

include h

/-- Where one process is committed, no other is. -/
theorem uncommitted_other (hp : (s.phase p).committed = true) {q : Pid} (hq : q ≠ p) :
    (s.phase q).committed = false := by
  have hsingle := (h.agrees p q (Ne.symm hq)).single
  cases hc : (s.phase q).committed with
  | false => rfl
  | true => exact absurd ⟨hp, hc⟩ hsingle

/-- A step to a phase without an inode, the file system as it was. -/
theorem goto_plain {φ : Phase} (hinode : φ.inode = none) (hcommitted : φ.committed = false) :
    PidInvariant (s.goto p φ) := by
  have hweaker : φ.Weaker (s.phase p) := by
    refine ⟨?_, ?_, ?_, ?_⟩
    · intro hφ
      rw [hcommitted] at hφ
      cases hφ
    · intro i hi
      rw [Phase.committed_of_owns hi] at hcommitted
      cases hcommitted
    · rintro i pid rfl
      cases hinode
    · rintro i rfl
      cases hinode
  exact h.move_weaker rfl (fun q _ => (h.fits q).of_same rfl rfl (fun _ hi => hi) rfl)
    (fits_of_no_inode _ _ hinode hcommitted) hweaker h.linkFresh

/-- The creation of the file. -/
theorem create (hlink : s.link = none) (hexit : ∀ q, s.phase q ≠ .exiting) :
    PidInvariant (s.create p) := by
  -- without a link nobody is committed
  have hfree : ∀ q, (s.phase q).committed = false := by
    intro q
    refine Phase.uncommitted_of_no_owner ?_ (hexit q)
    cases howns : (s.phase q).owns with
    | none => rfl
    | some i =>
      have hlinked := (h.fits q).linked i howns
      rw [hlink] at hlinked
      cases hlinked
  have hself : Fits (s.create p) p (.created s.fresh) := by
    refine ⟨?_, ?_, ?_, ?_, ?_, ?_⟩
    · intro i hi
      cases hi
    · intro i hi
      exact hi
    · intro hi
      cases hi
    · intro i hi
      cases hi
    · intro i hi
      obtain rfl : s.fresh = i := Option.some.inj hi
      show (if s.fresh = s.fresh then [] else s.content s.fresh) = ([] : Bytes)
      rw [if_pos rfl]
    · intro i hi
      obtain rfl : s.fresh = i := Option.some.inj hi
      exact Nat.lt_succ_self _
  refine h.move rfl ?_ hself (fun q _ => agrees_of_uncommitted (hfree q)) ?_ ?_
  · intro q _
    exact (h.fits q).of_uncommitted (hfree q) (fun _ hi => hi) (Nat.le_succ _)
  · intro q _
    -- the new inode is one nobody has opened
    refine ⟨?_, ?_, ?_⟩
    · rintro ⟨hc, -⟩
      rw [hfree q] at hc
      cases hc
    · intro i pid hread howns
      obtain rfl : s.fresh = i := Option.some.inj howns
      have hlt := (h.fits q).fresh s.fresh (by rw [hread]; rfl)
      exact absurd hlt (Nat.lt_irrefl _)
    · intro i hclear howns
      obtain rfl : s.fresh = i := Option.some.inj howns
      have hlt := (h.fits q).fresh s.fresh (by rw [hclear]; rfl)
      exact absurd hlt (Nat.lt_irrefl _)
  · intro i hi
    obtain rfl : s.fresh = i := Option.some.inj hi
    exact Nat.lt_succ_self _

/-- The owner writes its pid into the empty file. -/
theorem write {i : Inode} {φ : Phase} (hblank : (s.phase p).blank = some i)
    (howns : φ.owns = some i) (hwrote : φ.wrote = some i) (hinode : φ.inode = some i)
    (hlock : φ.holdsLock = (s.phase p).holdsLock) (hnew : φ.blank = none) :
    PidInvariant ((s.write i (decimal p)).goto p φ) := by
  have hcommitted := Phase.committed_of_blank hblank
  have hempty := (h.fits p).blank i hblank
  have howns₀ : (s.phase p).owns = some i ∧ (s.phase p).wrote = none ∧
      (s.phase p).inode = some i := by
    revert hblank
    cases s.phase p <;> intro hb <;> first | exact ⟨hb, rfl, hb⟩ | cases hb
  have hcontent : ((s.write i (decimal p)).goto p φ).content i = decimal p := by
    show (if i = i then decimal p ++ (s.content i).drop (decimal p).length else s.content i) = _
    rw [if_pos rfl, hempty, List.drop_nil, List.append_nil]
  have hself : Fits ((s.write i (decimal p)).goto p φ) p φ := by
    refine ⟨?_, ?_, ?_, ?_, ?_, ?_⟩
    · intro j hj
      exact (h.fits p).locked j (hlock ▸ hj)
    · intro j hj
      obtain rfl : i = j := Option.some.inj (howns.symm.trans hj)
      exact (h.fits p).linked i howns₀.1
    · rintro rfl
      cases howns
    · intro j hj
      obtain rfl : i = j := Option.some.inj (hwrote.symm.trans hj)
      exact hcontent
    · intro j hj
      rw [hnew] at hj
      cases hj
    · intro j hj
      obtain rfl : i = j := Option.some.inj (hinode.symm.trans hj)
      exact (h.fits p).fresh i howns₀.2.2
  refine h.move rfl ?_ hself
    (fun q hq => agrees_of_uncommitted (h.uncommitted_other hcommitted hq)) ?_ h.linkFresh
  · intro q hq
    exact (h.fits q).of_uncommitted (h.uncommitted_other hcommitted hq) (fun _ hi => hi)
      (Nat.le_refl _)
  · intro q hq
    have hagrees := h.agrees q p hq
    refine ⟨?_, ?_, ?_⟩
    · rintro ⟨hc, -⟩
      rw [h.uncommitted_other hcommitted hq] at hc
      cases hc
    · -- nobody can have read a pid from the empty file
      intro j pid hread hj
      obtain rfl : i = j := Option.some.inj (howns.symm.trans hj)
      have hnone := (hagrees.read i pid hread howns₀.1).1
      rw [howns₀.2.1] at hnone
      cases hnone
    · intro j hclear hj
      obtain rfl : i = j := Option.some.inj (howns.symm.trans hj)
      exact hagrees.clear i hclear howns₀.1

/-- `open(O_RDWR)`. -/
theorem openExisting {i : Inode} (hlink : s.link = some i) : PidInvariant (s.goto p (.opened i)) := by
  have hweaker : (Phase.opened i).Weaker (s.phase p) :=
    Phase.weaker_of_no_owner rfl (by simp [Phase.committed]) (by simp) (by simp)
  refine h.move_weaker rfl (fun q _ => (h.fits q).of_same rfl rfl (fun _ hi => hi) rfl) ?_ hweaker
    h.linkFresh
  refine fits_of_uncommitted rfl ?_ ?_
  · intro j hj
    cases hj
  · intro j hj
    obtain rfl : i = j := Option.some.inj hj
    exact h.linkFresh i hlink

/-- `F_SETLK` on an inode that is not locked. -/
theorem lockFree {i : Inode} (hp : s.phase p = .opened i) (hfree : s.lock i = none) :
    PidInvariant ((s.setLock i (some p)).goto p (.locked i)) := by
  have hfresh := (h.fits p).fresh i (by rw [hp]; rfl)
  have hkeep : ∀ {q : Pid} (j : Inode), s.lock j = some q →
      ((s.setLock i (some p)).goto p (.locked i)).lock j = some q := by
    intro q j hj
    have hne : j ≠ i := by
      rintro rfl
      rw [hfree] at hj
      cases hj
    show (if j = i then some p else s.lock j) = some q
    rw [if_neg hne, hj]
  have hweaker : (Phase.locked i).Weaker (s.phase p) :=
    Phase.weaker_of_no_owner rfl (by simp [Phase.committed]) (by simp) (by simp)
  refine h.move_weaker rfl (fun q _ => (h.fits q).of_same rfl rfl (fun j hj => hkeep j hj) rfl) ?_
    hweaker h.linkFresh
  refine fits_of_uncommitted rfl ?_ ?_
  · intro j hj
    obtain rfl : i = j := Option.some.inj hj
    show (if i = i then some p else s.lock i) = some p
    rw [if_pos rfl]
  · intro j hj
    obtain rfl : i = j := Option.some.inj hj
    exact hfresh

/-- A process that holds the lock of an inode and owns nothing moves on without giving it up, and
learns something about the owner. -/
theorem inspect {i : Inode} {φ : Phase} (hp : (s.phase p).holdsLock = some i)
    (hinode : (s.phase p).inode = some i)
    (hφ : φ = .takeover i ∨ ∃ pid, φ = .readPid i pid)
    (hlearn : ∀ q, q ≠ p → (s.phase q).owns = some i →
      ∃ pid, φ = .readPid i pid ∧ (s.phase q).wrote = some i ∧ (q.val : Int) = pid) :
    PidInvariant (s.goto p φ) := by
  obtain ⟨hcommitted, hlock, hinode'⟩ :
      φ.committed = false ∧ φ.holdsLock = some i ∧ φ.inode = some i := by
    rcases hφ with rfl | ⟨pid, rfl⟩
    · exact ⟨rfl, rfl, rfl⟩
    · exact ⟨rfl, rfl, rfl⟩
  refine h.move rfl (fun q _ => (h.fits q).of_same rfl rfl (fun _ hj => hj) rfl) ?_ ?_
    (fun q _ => agrees_of_uncommitted hcommitted) h.linkFresh
  · refine fits_of_uncommitted hcommitted ?_ ?_
    · intro j hj
      obtain rfl : i = j := Option.some.inj (hlock.symm.trans hj)
      exact (h.fits p).locked i hp
    · intro j hj
      obtain rfl : i = j := Option.some.inj (hinode'.symm.trans hj)
      exact (h.fits p).fresh i hinode
  · intro q hq
    refine ⟨?_, ?_, ?_⟩
    · rintro ⟨hc, -⟩
      rw [hcommitted] at hc
      cases hc
    · rintro j pid rfl hq'
      obtain rfl : i = j := Option.some.inj hinode'.symm
      obtain ⟨pid', heq, hwr, hpid⟩ := hlearn q hq hq'
      cases heq
      exact ⟨hwr, hpid⟩
    · rintro j rfl hq'
      obtain rfl : i = j := Option.some.inj hinode'.symm
      obtain ⟨pid', heq, -⟩ := hlearn q hq hq'
      cases heq

/-- `fgets`, when the creator is not between creating and writing: the pid of the owner, if there is
one. -/
theorem readContent {i : Inode} (hp : s.phase p = .locked i) (hcreated : ∀ q, s.phase q ≠ .created i) :
    PidInvariant (match fgetsFirst 32 (s.content i) with
      | none => s.goto p (.takeover i)
      | some line => s.goto p (.readPid i (atoi (cstr line)))) := by
  have hlocked : (s.phase p).holdsLock = some i := by rw [hp]; rfl
  have hinode : (s.phase p).inode = some i := by rw [hp]; rfl
  -- an owner other than the creator has written: the taker's lock would be in the way
  have howner : ∀ q, q ≠ p → (s.phase q).owns = some i →
      (s.phase q).wrote = some i ∧ s.content i = decimal q := by
    intro q hq howns
    rcases Phase.owns_cases howns with hwrote | hcr | htr
    · exact ⟨hwrote, (h.fits q).wrote i hwrote⟩
    · exact absurd hcr (hcreated q)
    · have hl := (h.fits q).locked i (by rw [htr]; rfl)
      rw [(h.fits p).locked i hlocked] at hl
      exact absurd (Option.some.inj hl).symm hq
  cases hread : fgetsFirst 32 (s.content i) with
  | none =>
    refine h.inspect hlocked hinode (Or.inl rfl) ?_
    intro q hq howns
    obtain ⟨-, hcontent⟩ := howner q hq howns
    rw [hcontent, (read_decimal_pid q.isLt).1] at hread
    cases hread
  | some line =>
    refine h.inspect hlocked hinode (Or.inr ⟨_, rfl⟩) ?_
    intro q hq howns
    obtain ⟨hwrote, hcontent⟩ := howner q hq howns
    rw [hcontent, (read_decimal_pid q.isLt).1] at hread
    obtain rfl : decimal q = line := Option.some.inj hread
    exact ⟨_, rfl, hwrote, (read_decimal_pid q.isLt).2.symm⟩

/-- No live `rebootnow` under the pid read: there is no owner. -/
theorem ownerGone {i : Inode} {pid : Int} (hp : s.phase p = .readPid i pid) (hdead : ¬ s.live pid) :
    PidInvariant (s.goto p (.takeover i)) := by
  refine h.inspect (by rw [hp]; rfl) (by rw [hp]; rfl) (Or.inl rfl) ?_
  intro q hq howns
  obtain ⟨-, hpid⟩ := (h.agrees p q (Ne.symm hq)).read i pid hp howns
  refine absurd ⟨q, hpid, ?_⟩ hdead
  intro hidle
  rw [hidle] at howns
  cases howns

/-- The lock of an inode goes with its holder's step. -/
theorem keepOtherLocks {i : Inode} (hp : (s.phase p).holdsLock = some i) {q : Pid} (hq : q ≠ p)
    {j : Inode} (hj : s.lock j = some q) : (s.setLock i none).lock j = some q := by
  have hne : j ≠ i := by
    rintro rfl
    rw [(h.fits p).locked j hp] at hj
    exact hq (Option.some.inj hj).symm
  show (if j = i then none else s.lock j) = some q
  rw [if_neg hne, hj]

/-- The guard rejects and closes the file. -/
theorem reject {i : Inode} {pid : Int} (hp : s.phase p = .readPid i pid) :
    PidInvariant ((s.setLock i none).goto p .rejected) := by
  have hlocked : (s.phase p).holdsLock = some i := by rw [hp]; rfl
  have hweaker : Phase.rejected.Weaker (s.phase p) :=
    Phase.weaker_of_no_owner rfl (by simp [Phase.committed]) (by simp) (by simp)
  exact h.move_weaker rfl
    (fun q hq => (h.fits q).of_same rfl rfl (fun j hj => h.keepOtherLocks hlocked hq hj) rfl)
    (fits_of_no_inode _ _ rfl rfl) hweaker h.linkFresh

/-- `ftruncate`, on the inode the path still is. -/
theorem truncate {i : Inode} (hp : s.phase p = .takeover i) (hlink : s.link = some i) :
    PidInvariant ((s.setContent i []).goto p (.truncated i)) := by
  have hlocked : (s.phase p).holdsLock = some i := by rw [hp]; rfl
  have hfresh := (h.fits p).fresh i (by rw [hp]; rfl)
  -- an owner would own the path's inode, and the test has shown there is none
  have hfree : ∀ q, q ≠ p → (s.phase q).committed = false := by
    intro q hq
    apply Phase.uncommitted_of_no_owner
    · cases howns : (s.phase q).owns with
      | none => rfl
      | some j =>
        have hlinked := (h.fits q).linked j howns
        rw [hlink] at hlinked
        obtain rfl : i = j := Option.some.inj hlinked
        exact absurd howns ((h.agrees p q (Ne.symm hq)).clear i hp)
    · intro hexit
      have hunlinked := (h.fits q).unlinked hexit
      rw [hlink] at hunlinked
      cases hunlinked
  have hself : Fits ((s.setContent i []).goto p (.truncated i)) p (.truncated i) := by
    refine ⟨?_, ?_, ?_, ?_, ?_, ?_⟩
    · intro j hj
      obtain rfl : i = j := Option.some.inj hj
      exact (h.fits p).locked i hlocked
    · intro j hj
      obtain rfl : i = j := Option.some.inj hj
      exact hlink
    · intro hj
      cases hj
    · intro j hj
      cases hj
    · intro j hj
      obtain rfl : i = j := Option.some.inj hj
      show (if i = i then [] else s.content i) = ([] : Bytes)
      rw [if_pos rfl]
    · intro j hj
      obtain rfl : i = j := Option.some.inj hj
      exact hfresh
  refine h.move rfl ?_ hself (fun q hq => agrees_of_uncommitted (hfree q hq)) ?_ h.linkFresh
  · intro q hq
    exact (h.fits q).of_uncommitted (hfree q hq) (fun _ hj => hj) (Nat.le_refl _)
  · intro q hq
    -- the lock: nobody else is inspecting the inode
    have hother : ∀ j, (s.phase q).holdsLock = some j → j ≠ i := by
      rintro j hj rfl
      have hl := (h.fits q).locked j hj
      rw [(h.fits p).locked j hlocked] at hl
      exact hq (Option.some.inj hl).symm
    refine ⟨?_, ?_, ?_⟩
    · rintro ⟨hc, -⟩
      rw [hfree q hq] at hc
      cases hc
    · intro j pid hread hj
      obtain rfl : i = j := Option.some.inj hj
      exact absurd rfl (hother i (by rw [hread]; rfl))
    · intro j hclear hj
      obtain rfl : i = j := Option.some.inj hj
      exact absurd rfl (hother i (by rw [hclear]; rfl))

/-- `fclose` after a takeover. -/
theorem closeTaken {i : Inode} (hp : s.phase p = .rewritten i) :
    PidInvariant ((s.setLock i none).goto p (.guarded i)) := by
  have hlocked : (s.phase p).holdsLock = some i := by rw [hp]; rfl
  have hfits := h.fits p
  rw [hp] at hfits
  have hweaker : (Phase.guarded i).Weaker (s.phase p) := by
    rw [hp]
    exact ⟨fun _ => rfl, fun j hj => ⟨hj, rfl⟩, by simp, by simp⟩
  refine h.move_weaker rfl
    (fun q hq => (h.fits q).of_same rfl rfl (fun j hj => h.keepOtherLocks hlocked hq hj) rfl)
    ?_ hweaker h.linkFresh
  exact hfits.of_wrote rfl rfl rfl rfl rfl rfl rfl rfl Phase.noConfusion

/-- An owner that has written goes on. -/
theorem proceed {i : Inode} {φ : Phase} (hp : s.phase p = .written i ∧ φ = .guarded i ∨
    s.phase p = .guarded i ∧ φ = .running i) : PidInvariant (s.goto p φ) := by
  have hfits := h.fits p
  have hweaker : φ.Weaker (s.phase p) := by
    rcases hp with ⟨hp, rfl⟩ | ⟨hp, rfl⟩ <;>
    · rw [hp]
      exact ⟨fun _ => rfl, fun j hj => ⟨hj, rfl⟩, by simp, by simp⟩
  refine h.move_weaker rfl (fun q _ => (h.fits q).of_same rfl rfl (fun _ hj => hj) rfl) ?_ hweaker
    h.linkFresh
  rcases hp with ⟨hp, rfl⟩ | ⟨hp, rfl⟩ <;>
  · rw [hp] at hfits
    exact hfits.of_wrote rfl rfl rfl rfl rfl rfl rfl rfl Phase.noConfusion

/-- `cleanup_pidfile` by the one committed process. -/
theorem unlink (hp : (s.phase p).committed = true) : PidInvariant (s.unlink.goto p .exiting) := by
  have hweaker : Phase.exiting.Weaker (s.phase p) :=
    Phase.weaker_of_no_owner rfl (fun _ => hp) (by simp) (by simp)
  refine h.move_weaker rfl ?_ ?_ hweaker ?_
  · intro q hq
    exact (h.fits q).of_uncommitted (h.uncommitted_other hp hq) (fun _ hj => hj) (Nat.le_refl _)
  · refine ⟨?_, ?_, fun _ => rfl, ?_, ?_, ?_⟩
    all_goals
      intro j hj
      cases hj
  · intro i hi
    cases hi

/-- A process that has no handler is killed. -/
theorem kill : PidInvariant ((s.releaseLocks p).goto p .idle) := by
  have hweaker : Phase.idle.Weaker (s.phase p) :=
    Phase.weaker_of_no_owner rfl (by simp [Phase.committed]) (by simp) (by simp)
  refine h.move_weaker rfl ?_ (fits_of_no_inode _ _ rfl rfl) hweaker h.linkFresh
  intro q hq
  refine (h.fits q).of_same rfl rfl ?_ rfl
  intro j hj
  show (if s.lock j = some p then none else s.lock j) = some q
  rw [hj, if_neg (fun heq => hq (Option.some.inj heq))]

end PidInvariant

/-! ## Every harmless event keeps the invariant -/

theorem pidInvariant_advance {s : PidSystem} (h : PidInvariant s) {p : Pid} {seen : Bool}
    (hseen : ∀ i pid, s.phase p = .readPid i pid → s.live pid → seen = true)
    (hharmless : Harmless s (.advance p seen)) : PidInvariant (s.advance p seen) := by
  unfold PidSystem.advance
  dsimp only [Harmless] at hharmless
  cases hp : s.phase p with
  | idle => exact h
  | start =>
    rw [hp] at hharmless
    cases hlink : s.link with
    | none => exact h.create hlink (hharmless hlink)
    | some i => exact h.goto_plain rfl rfl
  | created i => exact h.write (by rw [hp]; rfl) rfl rfl rfl (by rw [hp]; rfl) rfl
  | written i => exact h.proceed (Or.inl ⟨hp, rfl⟩)
  | «exists» =>
    cases hlink : s.link with
    | none => exact h.goto_plain rfl rfl
    | some i => exact h.openExisting hlink
  | retry =>
    rw [hp] at hharmless
    cases hlink : s.link with
    | none => exact h.create hlink (hharmless hlink)
    | some i => exact h.goto_plain rfl rfl
  | opened i =>
    dsimp only
    cases hlock : s.lock i with
    | none => exact h.lockFree hp hlock
    | some q => exact h.goto_plain rfl rfl
  | locked i =>
    rw [hp] at hharmless
    exact h.readContent hp hharmless
  | readPid i pid =>
    dsimp only
    split
    · exact h.reject hp
    · rename_i hnot
      exact h.ownerGone hp fun hlive => hnot (hseen i pid hp hlive)
  | takeover i =>
    rw [hp] at hharmless
    exact h.truncate hp hharmless
  | truncated i => exact h.write (by rw [hp]; rfl) rfl rfl rfl (by rw [hp]; rfl) rfl
  | rewritten i => exact h.closeTaken hp
  | rejected => exact h.goto_plain rfl rfl
  | guarded i => exact h.proceed (Or.inr ⟨hp, rfl⟩)
  | running i => exact h.unlink (by rw [hp]; rfl)
  | exiting => exact h.goto_plain rfl rfl

theorem pidInvariant_signal {s : PidSystem} (h : PidInvariant s) {p : Pid}
    (hharmless : Harmless s (.signal p)) : PidInvariant (s.signal p) := by
  unfold PidSystem.signal
  cases hp : s.phase p with
  | idle => exact h
  | running i => exact absurd hp (hharmless i)
  | exiting =>
    -- its exit handler has unlinked the path before
    have hsame : s.unlink = s := by
      have hlink := (h.fits p).unlinked hp
      cases s
      dsimp only at hlink
      subst hlink
      rfl
    show PidInvariant s.unlink
    rw [hsame]
    exact h
  | _ => exact h.kill

theorem pidInvariant_step {s t : PidSystem} {e : PidEvent} (h : PidInvariant s) (hstep : e.Step s t)
    (hharmless : Harmless s e) : PidInvariant t := by
  cases e with
  | spawn p =>
    obtain ⟨-, rfl⟩ := hstep
    exact h.goto_plain rfl rfl
  | advance p seen =>
    obtain ⟨-, hseen, rfl⟩ := hstep
    exact pidInvariant_advance h hseen hharmless
  | signal p =>
    obtain ⟨-, rfl⟩ := hstep
    exact pidInvariant_signal h hharmless

theorem pidInvariant_initial {s : PidSystem} (h : s.Initial) : PidInvariant s := by
  refine ⟨?_, ?_, h.link⟩
  · intro p
    rw [h.phase p]
    exact fits_of_no_inode _ _ rfl rfl
  · intro p q _
    rw [h.phase p, h.phase q]
    exact ⟨by simp [Phase.committed], by simp, by simp⟩

/-- **Single instance.** In a run of any number of processes from any pid file, each step of which is
harmless, at most one process at a time has received 0 from the guard and not terminated. -/
theorem singleInstance_of_harmless {s t : PidSystem} {events : List PidEvent} (hinit : s.Initial)
    (hrun : Run (fun s e t => PidEvent.Step s e t ∧ Harmless s e) s events t) : SingleInstance t := by
  have hinv : PidInvariant t :=
    hrun.invariant (I := PidInvariant)
      (fun s e t hs hstep => pidInvariant_step hs hstep.1 hstep.2) (pidInvariant_initial hinit)
  intro p q hp hq
  by_contra hne
  exact (hinv.agrees p q hne).single
    ⟨Phase.committed_of_holding hp, Phase.committed_of_holding hq⟩

/-! ## Playing a run -/

/-- `live`, computed. -/
def PidSystem.isLive (s : PidSystem) (pid : Int) : Bool :=
  if h : 0 ≤ pid ∧ pid < 2 ^ 31 then s.phase ⟨pid.toNat, by omega⟩ ≠ .idle else false

theorem PidSystem.live_iff (s : PidSystem) (pid : Int) : s.live pid ↔ s.isLive pid = true := by
  unfold PidSystem.isLive
  constructor
  · rintro ⟨p, rfl, hp⟩
    have hrange : 0 ≤ (p.val : Int) ∧ (p.val : Int) < 2 ^ 31 := ⟨by omega, by have := p.isLt; omega⟩
    rw [dif_pos hrange]
    exact decide_eq_true hp
  · intro h
    split at h
    · rename_i hrange
      exact ⟨⟨pid.toNat, by omega⟩, Int.toNat_of_nonneg hrange.1, of_decide_eq_true h⟩
    · cases h

namespace PidEvent

/-- The state after an event. -/
def next : PidEvent → PidSystem → PidSystem
  | .spawn p, s => s.goto p .start
  | .advance p seen, s => s.advance p seen
  | .signal p, s => s.signal p

/-- The event can happen. -/
def enabled : PidEvent → PidSystem → Bool
  | .spawn p, s => s.phase p = .idle
  | .advance p seen, s =>
    match s.phase p with
    | .idle => false
    | .readPid _ pid => seen || !s.isLive pid
    | _ => true
  | .signal p, s => s.phase p ≠ .idle

theorem step_of_enabled {e : PidEvent} {s : PidSystem} (h : e.enabled s = true) :
    e.Step s (e.next s) := by
  cases e with
  | spawn p => exact ⟨of_decide_eq_true h, rfl⟩
  | advance p seen =>
    refine ⟨?_, ?_, rfl⟩
    · intro hp
      simp [enabled, hp] at h
    · intro i pid hp hlive
      rw [s.live_iff] at hlive
      simpa [enabled, hp, hlive] using h
  | signal p => exact ⟨of_decide_eq_true h, rfl⟩

/-- The events played one after the other. -/
def play : List PidEvent → PidSystem → PidSystem
  | [], s => s
  | e :: es, s => play es (e.next s)

/-- Each of them can happen when its turn comes. -/
def playable : List PidEvent → PidSystem → Bool
  | [], _ => true
  | e :: es, s => e.enabled s && playable es (e.next s)

theorem run_play {es : List PidEvent} {s : PidSystem} (h : playable es s = true) :
    Run Step s es (play es s) := by
  induction es generalizing s with
  | nil => exact Run.nil s
  | cons e es ih =>
    rw [playable, Bool.and_eq_true] at h
    exact Run.cons (step_of_enabled h.1) (ih h.2)

/-- Each of them is harmless when its turn comes. -/
def HarmlessAlong : List PidEvent → PidSystem → Prop
  | [], _ => True
  | e :: es, s => Harmless s e ∧ HarmlessAlong es (e.next s)

theorem run_play_harmless {es : List PidEvent} {s : PidSystem} (h : playable es s = true)
    (hharmless : HarmlessAlong es s) :
    Run (fun s e t => Step s e t ∧ Harmless s e) s es (play es s) := by
  induction es generalizing s with
  | nil => exact Run.nil s
  | cons e es ih =>
    rw [playable, Bool.and_eq_true] at h
    exact Run.cons ⟨step_of_enabled h.1, hharmless.1⟩ (ih h.2 hharmless.2)

end PidEvent

/-! ## The harmful steps -/

/-- No pid file, no process. -/
def PidSystem.vacant : PidSystem := ⟨none, fun _ => [], fun _ => none, fun _ => .idle, 0⟩

/-- A pid file of a process that is gone. -/
def PidSystem.stale : PidSystem :=
  ⟨some 0, fun _ => "4000".toList, fun _ => none, fun _ => .idle, 1⟩

theorem PidSystem.initial_vacant : PidSystem.vacant.Initial :=
  ⟨fun _ => rfl, fun _ => rfl, fun _ hi => by cases hi⟩

theorem PidSystem.initial_stale : PidSystem.stale.Initial :=
  ⟨fun _ => rfl, fun _ => rfl, fun _ hi => by cases hi; exact Nat.one_pos⟩

/-- `n` steps of a process that sees no other `rebootnow`. -/
def steps (p : Pid) (n : Nat) : List PidEvent := List.replicate n (.advance p false)

/-- 2 reads the file that 1 has created and not written. -/
def unwrittenRun : List PidEvent :=
  [.spawn 1, .spawn 2] ++ steps 1 1 ++ steps 2 7 ++ steps 1 2

/-- 1 is signalled while it runs, and 2 finds no file. -/
def signalledRun : List PidEvent :=
  [.spawn 1] ++ steps 1 4 ++ [.signal 1, .spawn 2] ++ steps 2 3

/-- 2 finds no file after the exit handler of 1 and before its end. -/
def exitingRun : List PidEvent := [.spawn 1] ++ steps 1 5 ++ [.spawn 2] ++ steps 2 3

/-- 2 opens the stale file, 1 takes it over, runs and ends, 3 creates a new one, and 2 takes over the
old. -/
def abandonedRun : List PidEvent :=
  [.spawn 2, .spawn 1] ++ steps 2 2 ++ steps 1 11 ++ [.spawn 3] ++ steps 3 3 ++ steps 2 6

theorem not_singleInstance {s : PidSystem} {p q : Pid} (hp : (s.phase p).holding = true)
    (hq : (s.phase q).holding = true) (hne : p ≠ q) : ¬ SingleInstance s :=
  fun hsingle => hne (hsingle p q hp hq)

/-- **No condition can be dropped.** Each of the four kinds of harmful step lets two processes
through. -/
theorem harmful_steps_break :
    ∀ run ∈ [(PidSystem.vacant, unwrittenRun), (PidSystem.vacant, signalledRun),
        (PidSystem.vacant, exitingRun), (PidSystem.stale, abandonedRun)],
      run.1.Initial ∧ Run PidEvent.Step run.1 run.2 (PidEvent.play run.2 run.1) ∧
        ¬ SingleInstance (PidEvent.play run.2 run.1) := by
  intro run hrun
  simp only [List.mem_cons, List.not_mem_nil, or_false] at hrun
  rcases hrun with rfl | rfl | rfl | rfl
  · exact ⟨PidSystem.initial_vacant, PidEvent.run_play (by decide +kernel),
      @not_singleInstance _ 1 2 (by decide +kernel) (by decide +kernel) (by decide)⟩
  · exact ⟨PidSystem.initial_vacant, PidEvent.run_play (by decide +kernel),
      @not_singleInstance _ 1 2 (by decide +kernel) (by decide +kernel) (by decide)⟩
  · exact ⟨PidSystem.initial_vacant, PidEvent.run_play (by decide +kernel),
      @not_singleInstance _ 1 2 (by decide +kernel) (by decide +kernel) (by decide)⟩
  · exact ⟨PidSystem.initial_stale, PidEvent.run_play (by decide +kernel),
      @not_singleInstance _ 2 3 (by decide +kernel) (by decide +kernel) (by decide)⟩

/-- Two instances at a time: 2 takes the empty file for a dead owner's while 1 is about to write. -/
theorem twoInstances_unwritten :
    ¬ ∀ (s t : PidSystem) (events : List PidEvent), s.Initial → Run PidEvent.Step s events t →
      SingleInstance t := by
  intro hclaim
  have hsingle := hclaim _ _ _ PidSystem.initial_vacant
    (@PidEvent.run_play unwrittenRun .vacant (by decide +kernel))
  have heq : (1 : Pid) = 2 := hsingle 1 2 (by decide +kernel) (by decide +kernel)
  exact absurd heq (by decide)

/-- One process alone, up to its reboot. -/
theorem singleInstance_alone :
    SingleInstance (PidEvent.play ([.spawn 1] ++ steps 1 4) .vacant) := by
  have hnobody : ∀ q, (PidSystem.vacant.goto 1 .start).phase q ≠ .exiting := by
    intro q
    show (if q = 1 then Phase.start else Phase.idle) ≠ .exiting
    split <;> simp
  exact singleInstance_of_harmless PidSystem.initial_vacant
    (PidEvent.run_play_harmless (by decide +kernel)
      ⟨trivial, fun _ => hnobody, trivial, trivial, trivial, trivial⟩)

end RebootManager
