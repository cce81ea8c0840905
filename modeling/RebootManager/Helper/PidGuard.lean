/-
# RebootManager.Helper.PidGuard -- several processes at one pid file

`pidfile_write_and_guard`, `cleanup_pidfile` and the signal handler of `main`, cut into their
file-system steps, for any number of processes and in any order. The file system is what these steps
need of it: the path is a link to an inode or to nothing, an inode has a content and an advisory lock,
and a process that has opened an inode keeps it when the path moves on.

A process is named by its pid. `Phase` is its program counter; the inode it works on is part of it.
The phases from `guarded` on are those of a process to which the guard has returned 0.
-/
import RebootManager.Foundation.Transition
import RebootManager.Helper.PidFile

namespace RebootManager

open Foundation

/-- `pid_t` of a process. -/
abbrev Pid := Fin (2 ^ 31)

/-- An inode that has been the pid file. -/
abbrev Inode := Nat

/-- Where a process stands. -/
inductive Phase where
  /-- No such process. -/
  | idle
  /-- Before `open(O_CREAT | O_EXCL)`. -/
  | start
  /-- It has created the file and has not written its pid. -/
  | created (i : Inode)
  /-- It has written its pid and not closed the file. -/
  | written (i : Inode)
  /-- EEXIST: before `open(O_RDWR)`. -/
  | exists
  /-- ENOENT there: before the second `open(O_CREAT | O_EXCL)`. -/
  | retry
  /-- Before `F_SETLK`. -/
  | opened (i : Inode)
  /-- Before `fgets`. -/
  | locked (i : Inode)
  /-- It has read a pid; before /proc/<pid>/cmdline. -/
  | readPid (i : Inode) (pid : Int)
  /-- No live owner seen; before `ftruncate`. -/
  | takeover (i : Inode)
  /-- Before its own pid is written. -/
  | truncated (i : Inode)
  /-- Before `fclose`, which releases the lock. -/
  | rewritten (i : Inode)
  /-- The guard returned -1. -/
  | rejected
  /-- The guard returned 0; the signal handlers and the exit handler are not yet installed. -/
  | guarded (i : Inode)
  /-- They are. -/
  | running (i : Inode)
  /-- `cleanup_pidfile` has run at exit; the process has not terminated. -/
  | exiting
  deriving DecidableEq

/-- The pid file and the processes around it. -/
structure PidSystem where
  /-- What /tmp/.rebootNow.pid is. -/
  link : Option Inode
  content : Inode → Bytes
  lock : Inode → Option Pid
  phase : Pid → Phase
  /-- The next inode that is created. -/
  fresh : Inode

namespace PidSystem

def goto (s : PidSystem) (p : Pid) (phase : Phase) : PidSystem :=
  { s with phase := fun q => if q = p then phase else s.phase q }

def setLock (s : PidSystem) (i : Inode) (owner : Option Pid) : PidSystem :=
  { s with lock := fun j => if j = i then owner else s.lock j }

def setContent (s : PidSystem) (i : Inode) (text : Bytes) : PidSystem :=
  { s with content := fun j => if j = i then text else s.content j }

/-- A write at offset 0: the text replaces as much of the content as it is long. -/
def write (s : PidSystem) (i : Inode) (text : Bytes) : PidSystem :=
  s.setContent i (text ++ (s.content i).drop text.length)

/-- `open(O_CREAT | O_EXCL)` where there is no file. -/
def create (s : PidSystem) (p : Pid) : PidSystem :=
  ({ s with link := some s.fresh, fresh := s.fresh + 1 }.setContent s.fresh []).goto p
    (.created s.fresh)

/-- `cleanup_pidfile` -/
def unlink (s : PidSystem) : PidSystem := { s with link := none }

/-- All locks of a process go with it. -/
def releaseLocks (s : PidSystem) (p : Pid) : PidSystem :=
  { s with lock := fun i => if s.lock i = some p then none else s.lock i }

/-- A process that is running `rebootnow` has this pid. -/
def live (s : PidSystem) (pid : Int) : Prop := ∃ p : Pid, (p.val : Int) = pid ∧ s.phase p ≠ .idle

/-! ## Steps -/

/-- The next step of a process. `seen` is what the test of /proc/<pid>/cmdline says, where there is
one. -/
def advance (s : PidSystem) (p : Pid) (seen : Bool) : PidSystem :=
  match s.phase p with
  | .idle => s
  | .start =>
    match s.link with
    | none => s.create p
    | some _ => s.goto p .exists
  | .created i => (s.write i (decimal p)).goto p (.written i)
  | .written i => s.goto p (.guarded i)
  | .exists =>
    match s.link with
    | some i => s.goto p (.opened i)
    | none => s.goto p .retry
  | .retry =>
    match s.link with
    | none => s.create p
    | some _ => s.goto p .rejected
  | .opened i =>
    match s.lock i with
    | none => (s.setLock i (some p)).goto p (.locked i)
    | some _ => s.goto p .rejected
  | .locked i =>
    match fgetsFirst 32 (s.content i) with
    | none => s.goto p (.takeover i)
    | some line => s.goto p (.readPid i (atoi (cstr line)))
  | .readPid i _ =>
    if seen then (s.setLock i none).goto p .rejected else s.goto p (.takeover i)
  | .takeover i => (s.setContent i []).goto p (.truncated i)
  | .truncated i => (s.write i (decimal p)).goto p (.rewritten i)
  | .rewritten i => (s.setLock i none).goto p (.guarded i)
  | .rejected => s.goto p .idle
  | .guarded i => s.goto p (.running i)
  | .running _ => s.unlink.goto p .exiting
  | .exiting => s.goto p .idle

/-- SIGINT or SIGTERM: the handler unlinks the file and returns; where it is not installed, the
process is gone. -/
def signal (s : PidSystem) (p : Pid) : PidSystem :=
  match s.phase p with
  | .idle => s
  | .running _ => s.unlink
  | .exiting => s.unlink
  | _ => (s.releaseLocks p).goto p .idle

end PidSystem

/-- What can happen next. -/
inductive PidEvent where
  | spawn (p : Pid)
  | advance (p : Pid) (seen : Bool)
  | signal (p : Pid)

/-- One event. The command line of a live `rebootnow` is recognised; that of any other process may be
anything. -/
def PidEvent.Step (s : PidSystem) : PidEvent → PidSystem → Prop
  | .spawn p, t => s.phase p = .idle ∧ t = s.goto p .start
  | .advance p seen, t =>
    s.phase p ≠ .idle ∧ (∀ i pid, s.phase p = .readPid i pid → s.live pid → seen = true) ∧
      t = s.advance p seen
  | .signal p, t => s.phase p ≠ .idle ∧ t = s.signal p

/-- Nobody has started yet. A pid file may be there, with anything in it. -/
structure PidSystem.Initial (s : PidSystem) : Prop where
  phase : ∀ p, s.phase p = .idle
  lock : ∀ i, s.lock i = none
  link : ∀ i, s.link = some i → i < s.fresh

/-- The process has received 0 from the guard and has not terminated. -/
def Phase.holding : Phase → Bool
  | .guarded _ | .running _ | .exiting => true
  | _ => false

/-- At most one process at a time. -/
def SingleInstance (s : PidSystem) : Prop :=
  ∀ p q, (s.phase p).holding = true → (s.phase q).holding = true → p = q

/-! ## The steps that break it -/

/-- A step that leaves the guard its exclusion. It is not
* a read of the pid file while its creator has not written its pid yet,
* the start of a takeover of an inode the path has left,
* the creation of the file while another process is between its exit handler and its end,
* a signal to a process whose handler is installed. -/
def Harmless (s : PidSystem) : PidEvent → Prop
  | .spawn _ => True
  | .advance p _ =>
    match s.phase p with
    | .locked i => ∀ q, s.phase q ≠ .created i
    | .takeover i => s.link = some i
    | .start => s.link = none → ∀ q, s.phase q ≠ .exiting
    | .retry => s.link = none → ∀ q, s.phase q ≠ .exiting
    | _ => True
  | .signal p => ∀ i, s.phase p ≠ .running i

end RebootManager
