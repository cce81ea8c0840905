/-
# RebootManager.Fetcher.LogDiscovery -- which rebootInfo.log is the old one (bootup_reason_checker.c)

`find_previous_reboot_log` goes through $LOG_PATH/PreviousLogs in the order `readdir` has and stops at the
first subdirectory with a `last_reboot` in it: the rebootInfo.log of that one is taken, and where it has none,
the flat files. So the result is a function of the first such subdirectory (`walkSubdirs_eq`), and two orders
that agree on it agree on the result (`findPreviousRebootLog_orders`).
-/
import RebootManager.Fetcher.Evidence

namespace RebootManager

open Foundation

/-! ## The search -/

/-- `MAX_PATH_LENGTH` -/
def maxPathLength : Nat := 256

/-- `logfile_path_check`: the two parts as a path, where the buffer holds it. -/
def logfilePathCheck (dstLen : Nat) (left right : Bytes) : Option Bytes :=
  if left.length + 1 + right.length + 1 > dstLen then none else some (left ++ '/' :: right)

/-- What the search asks the system for. -/
structure LogTree where
  /-- `getenv("LOG_PATH")` -/
  logPath : Option Bytes
  /-- `stat` succeeds and finds a directory. -/
  isDir : Bytes → Bool
  /-- `access(path, F_OK) == 0` -/
  access : Bytes → Bool

/-- `ERROR_GENERAL` and `ERROR_FILE_NOT_FOUND` -/
inductive FindError where
  | general
  | fileNotFound
  deriving DecidableEq

/-- The `readdir` loop: the log of the first subdirectory with a marker, nothing where it has none or where
no subdirectory has one. -/
def walkSubdirs (tree : LogTree) (prevLogs : Bytes) : List Bytes → Option Bytes
  | [] => none
  | name :: rest =>
    if name.head? = some '.' then walkSubdirs tree prevLogs rest
    else
      match logfilePathCheck maxPathLength prevLogs name with
      | none => walkSubdirs tree prevLogs rest
      | some subdir =>
        if !tree.isDir subdir then walkSubdirs tree prevLogs rest
        else
          match logfilePathCheck maxPathLength subdir "last_reboot".toList with
          | none => walkSubdirs tree prevLogs rest
          | some marker =>
            if tree.access marker then
              (logfilePathCheck maxPathLength subdir "rebootInfo.log".toList).filter tree.access
            else walkSubdirs tree prevLogs rest

/-- `log_base` -/
def LogTree.logBase (tree : LogTree) : Bytes :=
  match tree.logPath with
  | none => "/opt/logs".toList
  | some [] => "/opt/logs".toList
  | some path => path

/-- `find_previous_reboot_log`, with the entries of the directory in the order of `readdir`, `none` where
`opendir` fails. -/
def findPreviousRebootLog (tree : LogTree) (entries : Option (List Bytes)) (len : Nat) :
    Except FindError Bytes :=
  if len = 0 then .error .general
  else
    match logfilePathCheck maxPathLength tree.logBase "PreviousLogs".toList with
    | none => .error .general
    | some prevLogs =>
      match walkSubdirs tree prevLogs (entries.getD []) with
      | some candidate => .ok (snprintf len candidate)
      | none =>
        match logfilePathCheck maxPathLength prevLogs "rebootInfo.log".toList with
        | none => .error .general
        | some candidate =>
          if tree.access candidate then
            let baks := ["bak1_rebootInfo.log", "bak2_rebootInfo.log", "bak3_rebootInfo.log"].filterMap
              fun name => logfilePathCheck maxPathLength prevLogs name.toList
            .ok (snprintf len ((baks.find? tree.access).getD candidate))
          else .error .fileNotFound

/-! ## The first marker -/

namespace LogTree

variable (tree : LogTree)

/-- $LOG_PATH/PreviousLogs -/
def prevLogs : Bytes := tree.logBase ++ '/' :: "PreviousLogs".toList

def subdir (name : Bytes) : Bytes := tree.prevLogs ++ '/' :: name

/-- The log of a subdirectory. -/
def logOf (name : Bytes) : Bytes := tree.subdir name ++ '/' :: "rebootInfo.log".toList

/-- A subdirectory that holds last_reboot. -/
def markerDir (name : Bytes) : Bool :=
  name.head? ≠ some '.' && tree.isDir (tree.subdir name) &&
    tree.access (tree.subdir name ++ '/' :: "last_reboot".toList)

def hasLog (name : Bytes) : Bool := tree.access (tree.logOf name)

/-- The paths the search makes fit its buffers. -/
structure Fits (order : List Bytes) (len : Nat) : Prop where
  base : tree.prevLogs.length < maxPathLength
  log : ∀ name ∈ order, (tree.logOf name).length < maxPathLength ∧ (tree.logOf name).length < len

/-- The subdirectory that decides: the first one with a marker, if it has a log. -/
def decides (order : List Bytes) : Option Bytes := (order.find? tree.markerDir).filter tree.hasLog

end LogTree

theorem logfilePathCheck_of_fits {dstLen : Nat} {left right : Bytes}
    (h : (left ++ '/' :: right).length < dstLen) :
    logfilePathCheck dstLen left right = some (left ++ '/' :: right) := by
  rw [List.length_append, List.length_cons] at h
  rw [logfilePathCheck, if_neg (by omega)]

/-- The loop finds the log of the subdirectory that decides. -/
theorem walkSubdirs_eq {tree : LogTree} {order : List Bytes}
    (hfits : ∀ name ∈ order, (tree.logOf name).length < maxPathLength) :
    walkSubdirs tree tree.prevLogs order = (tree.decides order).map tree.logOf := by
  induction order with
  | nil => rfl
  | cons name rest ih =>
    have hrest := ih fun other hother => hfits other (List.mem_cons_of_mem name hother)
    have hlog : (tree.subdir name ++ '/' :: "rebootInfo.log".toList).length < maxPathLength :=
      hfits name List.mem_cons_self
    have hmarker : (tree.subdir name ++ '/' :: "last_reboot".toList).length < maxPathLength := by
      have hlengths : "last_reboot".toList.length = 11 ∧ "rebootInfo.log".toList.length = 14 := by decide
      rw [List.length_append, List.length_cons, hlengths.2] at hlog
      rw [List.length_append, List.length_cons, hlengths.1]
      omega
    have hsubdir : (tree.prevLogs ++ '/' :: name).length < maxPathLength := by
      rw [List.length_append] at hlog
      exact Nat.lt_of_le_of_lt (Nat.le_add_right _ _) hlog
    have hpath : logfilePathCheck maxPathLength tree.prevLogs name = some (tree.subdir name) :=
      logfilePathCheck_of_fits hsubdir
    have hmarkerPath := logfilePathCheck_of_fits hmarker
    have hlogPath : logfilePathCheck maxPathLength (tree.subdir name) "rebootInfo.log".toList
        = some (tree.logOf name) := logfilePathCheck_of_fits hlog
    rw [walkSubdirs, hpath]
    dsimp only
    rw [hmarkerPath, hlogPath]
    dsimp only
    rw [hrest]
    by_cases hmark : tree.markerDir name = true
    · obtain ⟨⟨hdot, hdir⟩, haccess⟩ : (name.head? ≠ some '.' ∧ tree.isDir (tree.subdir name) = true) ∧
          tree.access (tree.subdir name ++ '/' :: "last_reboot".toList) = true := by
        simpa only [LogTree.markerDir, Bool.and_eq_true, decide_eq_true_eq] using hmark
      rw [if_neg hdot, if_neg (by simp [hdir]), if_pos haccess, LogTree.decides, List.find?_cons_of_pos hmark]
      cases hlogged : tree.hasLog name with
      | false => simp [Option.filter, hlogged, show tree.access (tree.logOf name) = false from hlogged]
      | true => simp [Option.filter, hlogged, show tree.access (tree.logOf name) = true from hlogged]
    · -- no marker: in each of the three ways the loop goes on
      have hskip : tree.decides (name :: rest) = tree.decides rest := by
        rw [LogTree.decides, List.find?_cons_of_neg hmark, LogTree.decides]
      rw [hskip]
      split
      · rfl
      · rename_i hdot
        split
        · rfl
        · rename_i hdir
          split
          · rename_i haccess
            have hfound : tree.markerDir name = true := by
              simp only [LogTree.markerDir, Bool.and_eq_true, decide_eq_true_eq]
              exact ⟨⟨hdot, by simpa using hdir⟩, haccess⟩
            exact absurd hfound hmark
          · rfl

/-- The search begins with the loop. -/
theorem findPreviousRebootLog_of_decides {tree : LogTree} {order : List Bytes} {len : Nat}
    (hfits : tree.Fits order len) {name : Bytes} (hname : tree.decides order = some name)
    (hmem : name ∈ order) : findPreviousRebootLog tree (some order) len = .ok (tree.logOf name) := by
  obtain ⟨hshort, hout⟩ := hfits.log name hmem
  have hbase : logfilePathCheck maxPathLength tree.logBase "PreviousLogs".toList = some tree.prevLogs :=
    logfilePathCheck_of_fits hfits.base
  have hwalk := walkSubdirs_eq fun name hname => (hfits.log name hname).1
  rw [hname, Option.map_some] at hwalk
  have hlen : len ≠ 0 := by omega
  rw [findPreviousRebootLog, if_neg hlen, hbase]
  dsimp only
  rw [Option.getD_some, hwalk]
  dsimp only
  rw [snprintf_of_fits hout]

/-- Two orders in which the same subdirectory decides, or none, have the same result. -/
theorem findPreviousRebootLog_congr {tree : LogTree} {order order' : List Bytes} {len : Nat}
    (hfits : tree.Fits order len) (hfits' : tree.Fits order' len)
    (hsame : tree.decides order' = tree.decides order) :
    findPreviousRebootLog tree (some order') len = findPreviousRebootLog tree (some order) len := by
  have hbase : logfilePathCheck maxPathLength tree.logBase "PreviousLogs".toList = some tree.prevLogs :=
    logfilePathCheck_of_fits hfits.base
  have hwalk := walkSubdirs_eq fun name hname => (hfits.log name hname).1
  have hwalk' := walkSubdirs_eq fun name hname => (hfits'.log name hname).1
  rw [findPreviousRebootLog, findPreviousRebootLog, hbase]
  dsimp only
  rw [Option.getD_some, Option.getD_some, hwalk, hwalk', hsame]

/-! ## Two orders -/

/-- With one such entry at most, every order finds the same. -/
theorem find?_perm {α : Type*} {p : α → Bool} {l l' : List α} (hperm : l'.Perm l)
    (hone : ∀ a ∈ l, ∀ b ∈ l, p a = true → p b = true → a = b) : l'.find? p = l.find? p := by
  cases hfound : l.find? p with
  | none =>
    rw [List.find?_eq_none] at hfound ⊢
    exact fun a ha => hfound a (hperm.subset ha)
  | some a =>
    cases hfound' : l'.find? p with
    | none =>
      rw [List.find?_eq_none] at hfound'
      exact absurd (List.find?_some hfound) (hfound' a (hperm.symm.subset (List.mem_of_find?_eq_some hfound)))
    | some b =>
      rw [hone b (hperm.subset (List.mem_of_find?_eq_some hfound')) a (List.mem_of_find?_eq_some hfound)
        (List.find?_some hfound') (List.find?_some hfound)]

/-- A subdirectory that decides holds both files. -/
theorem holdsBoth_of_decides {tree : LogTree} {order : List Bytes} {name : Bytes}
    (h : tree.decides order = some name) :
    name ∈ order ∧ tree.markerDir name = true ∧ tree.hasLog name = true := by
  obtain ⟨hfind, hlog⟩ := Option.filter_eq_some_iff.mp h
  exact ⟨List.mem_of_find?_eq_some hfind, List.find?_some hfind, hlog⟩

/-- **The first marker decides.** Two orders of the same entries have the same result where the same
subdirectory decides in both, or none does; so they have it where one subdirectory at most has a marker.
And where the first subdirectory with a marker has a log, the result is the log of that one, which every
order comes to where all subdirectories with a marker have one. -/
theorem findPreviousRebootLog_orders {tree : LogTree} {order order' : List Bytes} {len : Nat}
    (hperm : order'.Perm order) (hfits : tree.Fits order len) :
    (tree.decides order' = tree.decides order →
      findPreviousRebootLog tree (some order') len = findPreviousRebootLog tree (some order) len) ∧
    ((∀ a ∈ order, ∀ b ∈ order, tree.markerDir a = true → tree.markerDir b = true → a = b) →
      findPreviousRebootLog tree (some order') len = findPreviousRebootLog tree (some order) len) ∧
    (∀ name, order.find? tree.markerDir = some name → tree.hasLog name = true →
      findPreviousRebootLog tree (some order) len = .ok (tree.logOf name)) ∧
    ((∃ name ∈ order, tree.markerDir name = true) →
      (∀ name ∈ order, tree.markerDir name = true → tree.hasLog name = true) →
      ∃ name ∈ order, tree.markerDir name = true ∧ tree.hasLog name = true ∧
        findPreviousRebootLog tree (some order') len = .ok (tree.logOf name)) := by
  have hfits' : tree.Fits order' len := ⟨hfits.base, fun name hname => hfits.log name (hperm.subset hname)⟩
  refine ⟨findPreviousRebootLog_congr hfits hfits', fun hone => ?_, fun name hfirst hlog => ?_,
    fun hsome hall => ?_⟩
  · apply findPreviousRebootLog_congr hfits hfits'
    rw [LogTree.decides, find?_perm hperm hone, LogTree.decides]
  · have hdecides : tree.decides order = some name := Option.filter_eq_some_iff.mpr ⟨hfirst, hlog⟩
    exact findPreviousRebootLog_of_decides hfits hdecides (holdsBoth_of_decides hdecides).1
  · -- some marker is the first one of the other order, and it has a log
    obtain ⟨marked, hmem, hmarker⟩ := hsome
    obtain ⟨name, hfirst⟩ : ∃ name, order'.find? tree.markerDir = some name := by
      rw [← Option.isSome_iff_exists, List.find?_isSome]
      exact ⟨marked, hperm.symm.subset hmem, hmarker⟩
    have hname := hperm.subset (List.mem_of_find?_eq_some hfirst)
    have hlog := hall name hname (List.find?_some hfirst)
    have hdecides : tree.decides order' = some name := Option.filter_eq_some_iff.mpr ⟨hfirst, hlog⟩
    exact ⟨name, hname, List.find?_some hfirst, hlog,
      findPreviousRebootLog_of_decides hfits' hdecides (holdsBoth_of_decides hdecides).1⟩

/-- A tree with these subdirectories, each with a marker, and these of them with a log. -/
def markedTree (marked logged : List Bytes) (flat : Bool) : LogTree where
  logPath := none
  isDir path := marked.any fun name => path = "/opt/logs/PreviousLogs/".toList ++ name
  access path :=
    (marked.any fun name => path = "/opt/logs/PreviousLogs/".toList ++ name ++ "/last_reboot".toList) ||
    (logged.any fun name => path = "/opt/logs/PreviousLogs/".toList ++ name ++ "/rebootInfo.log".toList) ||
    (flat && path = "/opt/logs/PreviousLogs/rebootInfo.log".toList)

/-- Two boots that left a marker and a log each. -/
def twoBoots : LogTree := markedTree ["old".toList, "new".toList] ["old".toList, "new".toList] false

theorem fits_twoBoots : twoBoots.Fits ["old".toList, "new".toList] 256 :=
  ⟨by decide, by decide⟩

theorem findPreviousRebootLog_twoBoots :
    findPreviousRebootLog twoBoots (some ["old".toList, "new".toList]) 256
      = .ok (twoBoots.logOf "old".toList) :=
  (findPreviousRebootLog_orders (List.Perm.refl _) fits_twoBoots).2.2.1 "old".toList
    (by decide +kernel) (by decide +kernel)

/-- A boot that left a marker alone, another one that left both, and a flat log. -/
def cutBoot : LogTree := markedTree ["cut".toList, "whole".toList] ["whole".toList] true

/-- In another order the other log is found, and behind a marker without a log the flat one. -/
theorem findPreviousRebootLog_by_order :
    (twoBoots.Fits ["old".toList, "new".toList] 256 ∧
      findPreviousRebootLog twoBoots (some ["new".toList, "old".toList]) 256
        ≠ findPreviousRebootLog twoBoots (some ["old".toList, "new".toList]) 256) ∧
    (cutBoot.markerDir "whole".toList = true ∧ cutBoot.hasLog "whole".toList = true ∧
      findPreviousRebootLog cutBoot (some ["cut".toList, "whole".toList]) 256
        = .ok "/opt/logs/PreviousLogs/rebootInfo.log".toList) := by
  refine ⟨⟨fits_twoBoots, ?_⟩, ?_⟩
  · have hnew : findPreviousRebootLog twoBoots (some ["new".toList, "old".toList]) 256
        = .ok "/opt/logs/PreviousLogs/new/rebootInfo.log".toList := by decide +kernel
    have hold : findPreviousRebootLog twoBoots (some ["old".toList, "new".toList]) 256
        = .ok "/opt/logs/PreviousLogs/old/rebootInfo.log".toList := by decide +kernel
    rw [hnew, hold]
    exact fun heq => absurd (Except.ok.inj heq) (by decide)
  · decide +kernel

end RebootManager
