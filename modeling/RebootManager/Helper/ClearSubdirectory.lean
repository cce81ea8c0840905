/-
# RebootManager.Helper.ClearSubdirectory -- removing the downloaded apps (system_cleanup.c)

`clear_subdirectory` empties a directory of its subdirectories, `remove_dir_at` removes one of them with
everything in it. Both run as root on a tree that anybody may have put links into, and both go on behind a
call that fails. `removeDirAt_run` says what one removal does, by induction on the depth of the tree: it stays
at the entry and below it, and what it returns says whether the entry is gone. The loops over a directory are
one lemma (`removeEntries_run`).
-/
import RebootManager.Foundation.FileTree
import RebootManager.Helper.RdmCleanup

namespace RebootManager

open Foundation

/-! ## The two functions -/

/-- The `readdir` loop: every entry but the two dot names, and -1 as soon as one of them fails. -/
def removeEntries (remove : FileTree → Bytes → Option (Int × FileTree)) :
    List Bytes → FileTree → Int → Option (Int × FileTree)
  | [], t, rc => some (rc, t)
  | name :: rest, t, rc =>
    if name ∈ dotNames then removeEntries remove rest t rc
    else
      match remove t name with
      | none => none
      | some (status, t') => removeEntries remove rest t' (if status ≠ 0 then -1 else rc)

/-- `remove_dir_at`, in a directory that is open; `none` when the fuel is used up. -/
def removeDirAt (calls : DirCalls) : Nat → FileTree → TreePath → Bytes → Option (Int × FileTree)
  | 0, _, _, _ => none
  | fuel + 1, t, parent, name =>
    match calls.openat t (entryAt parent name) true with
    | .error e =>
      if e = .enotdir ∨ e = .eloop then
        let (ok, t') := calls.unlinkat t (entryAt parent name) false
        some (if ok then 0 else -1, t')
      else some (-1, t)
    | .ok fd =>
      if calls.fdopendirFails fd then some (-1, t)
      else
        match removeEntries (fun t entry => removeDirAt calls fuel t fd entry) (calls.readdir t fd) t 0 with
        | none => none
        | some (rc, t') =>
          let (ok, t'') := calls.unlinkat t' (entryAt parent name) true
          some (if ok then rc else -1, t'')

/-- The length of the longest path. -/
def treeDepth (t : FileTree) : Nat := (t.nodes.keys.map List.length).foldr max 0

/-- `clear_subdirectory`. The recursion goes no deeper than the tree. -/
def clearSubdirectory (calls : DirCalls) (t : FileTree) (root : TreePath) : Option (Int × FileTree) :=
  match calls.openat t root true with
  | .error _ => some (-1, t)
  | .ok fd =>
    if calls.fdopendirFails fd then some (-1, t)
    else
      removeEntries
        (fun t' entry =>
          -- fstatat(dirfd(d), de->d_name, &st, AT_SYMLINK_NOFOLLOW) and S_ISDIR
          if t'.kind (entryAt fd entry) = some .dir then removeDirAt calls (treeDepth t) t' fd entry
          else some (0, t'))
        (calls.readdir t fd) t 0

/-! ## What a removal does -/

/-- One entry: nothing changes outside the region, 0 means done, and where no call fails it is 0. -/
structure RemovesEntry (calls : DirCalls) (region : TreePath → Prop) (done : Option NodeKind → Prop)
    (t : FileTree) (p : TreePath) (result : Int × FileTree) : Prop where
  below : result.2.Below t
  frame : ∀ q, ¬ region q → result.2.kind q = t.kind q
  gone : result.1 = 0 → done (result.2.kind p)
  ok : calls.Ok → t.kind p ≠ none → result.1 = 0

/-- The entries of a directory, from a status on. -/
structure RemovesEntries (calls : DirCalls) (region : Bytes → TreePath → Prop)
    (done : Option NodeKind → Prop) (d : TreePath) (names : List Bytes) (t : FileTree) (rc : Int)
    (result : Int × FileTree) : Prop where
  below : result.2.Below t
  frame : ∀ q, (∀ name ∈ names, name ∉ dotNames → ¬ region name q) → result.2.kind q = t.kind q
  gone : result.1 = 0 →
    rc = 0 ∧ ∀ name ∈ names, name ∉ dotNames → done (result.2.kind (d ++ [name]))
  ok : calls.Ok → (∀ name ∈ names, name ∉ dotNames → t.kind (d ++ [name]) ≠ none) → result.1 = rc

/-- Two entries of a directory are not one in the other. -/
theorem not_prefix_of_ne {d : TreePath} {name other : Bytes} (h : name ≠ other) :
    ¬ d ++ [name] <+: d ++ [other] := by
  rw [List.prefix_append_right_inj]
  intro hpre
  exact h (List.cons_prefix_cons.mp hpre).1

section Loop

variable {calls : DirCalls} {region : Bytes → TreePath → Prop} {done : Option NodeKind → Prop}
  {d : TreePath} {remove : FileTree → Bytes → Option (Int × FileTree)}

/-- **The loop**: where every entry keeps to its region, so does the loop, and it returns 0 when it began so
and every entry did. -/
theorem removeEntries_run (hregion : ∀ name q, region name q → d ++ [name] <+: q) {names : List Bytes}
    (hnames : names.Nodup) {t : FileTree}
    (hremove : ∀ s : FileTree, s.Below t → ∀ name ∈ names, name ∉ dotNames →
      ∃ result, remove s name = some result ∧
        RemovesEntry calls (region name) done s (d ++ [name]) result) (rc : Int) :
    ∃ result, removeEntries remove names t rc = some result ∧
      RemovesEntries calls region done d names t rc result := by
  induction names generalizing t rc with
  | nil =>
    refine ⟨(rc, t), rfl, ?_⟩
    exact ⟨FileTree.Below.refl t, fun _ _ => rfl, fun hrc => ⟨hrc, fun _ hname => (nomatch hname)⟩,
      fun _ _ => rfl⟩
  | cons name rest ih =>
    obtain ⟨hnotin, hrest⟩ := List.nodup_cons.mp hnames
    have hlater : ∀ s : FileTree, s.Below t → ∀ other ∈ rest, other ∉ dotNames →
        ∃ result, remove s other = some result ∧
          RemovesEntry calls (region other) done s (d ++ [other]) result :=
      fun s hs other hother => hremove s hs other (List.mem_cons_of_mem name hother)
    rw [removeEntries]
    by_cases hdot : name ∈ dotNames
    · rw [if_pos hdot]
      obtain ⟨result, hresult, hrun⟩ := ih hrest hlater rc
      refine ⟨result, hresult, hrun.below, fun q hq => ?_, fun hzero => ?_, fun hok hthere => ?_⟩
      · exact hrun.frame q fun other hother => hq other (List.mem_cons_of_mem name hother)
      · refine ⟨(hrun.gone hzero).1, fun other hother hnodot => ?_⟩
        rcases List.mem_cons.mp hother with rfl | hother
        · exact absurd hdot hnodot
        · exact (hrun.gone hzero).2 other hother hnodot
      · exact hrun.ok hok fun other hother => hthere other (List.mem_cons_of_mem name hother)
    · rw [if_neg hdot]
      obtain ⟨⟨status, t'⟩, hstep, hentry⟩ := hremove t (FileTree.Below.refl t) name List.mem_cons_self hdot
      obtain ⟨result, hresult, hrun⟩ := ih hrest
        (fun s hs => hlater s (hs.trans hentry.below)) (if status ≠ 0 then -1 else rc)
      rw [hstep]
      refine ⟨result, hresult, hrun.below.trans hentry.below, fun q hq => ?_, fun hzero => ?_,
        fun hok hthere => ?_⟩
      · rw [hrun.frame q fun other hother => hq other (List.mem_cons_of_mem name hother)]
        exact hentry.frame q (hq name List.mem_cons_self hdot)
      · obtain ⟨hstatus, hdone⟩ := hrun.gone hzero
        obtain ⟨rfl, rfl⟩ : status = 0 ∧ rc = 0 := by
          by_cases hfail : status = 0
          · exact ⟨hfail, by simpa [hfail] using hstatus⟩
          · simp [hfail] at hstatus
        refine ⟨rfl, fun other hother hnodot => ?_⟩
        rcases List.mem_cons.mp hother with rfl | hother
        · -- the later entries leave this one as it is
          have hkept : result.2.kind (d ++ [other]) = t'.kind (d ++ [other]) := by
            refine hrun.frame _ fun later hmem _ hin => ?_
            have hne : later ≠ other := fun heq => hnotin (heq ▸ hmem)
            exact not_prefix_of_ne hne (hregion later _ hin)
          rw [hkept]
          exact hentry.gone rfl
        · exact hdone other hother hnodot
      · have hstatus : status = 0 := hentry.ok hok (hthere name List.mem_cons_self hdot)
        have hstill : ∀ other ∈ rest, other ∉ dotNames → t'.kind (d ++ [other]) ≠ none := by
          intro other hother hnodot
          have hne : name ≠ other := fun heq => hnotin (heq ▸ hother)
          rw [hentry.frame (d ++ [other]) fun hin => not_prefix_of_ne hne (hregion name _ hin)]
          exact hthere other (List.mem_cons_of_mem name hother) hnodot
        rw [hrun.ok hok hstill, if_neg (not_not.mpr hstatus)]

end Loop

/-! ## One directory -/

section RemoveDirAt

variable {calls : DirCalls} {t : FileTree} {p : TreePath}

/-- What `remove_dir_at` does to an entry. -/
def RemovesDir (calls : DirCalls) (t : FileTree) (p : TreePath) (result : Int × FileTree) : Prop :=
  RemovesEntry calls (p <+: ·) (· = none) t p result

/-- A call that fails before anything is removed. -/
theorem removesDir_of_failed (h : calls.Ok → t.kind p = none) : RemovesDir calls t p (-1, t) where
  below := FileTree.Below.refl t
  frame := fun _ _ => rfl
  gone := fun hzero => by cases hzero
  ok := fun hok hthere => absurd (h hok) hthere

/-- The entry is unlinked: with `AT_REMOVEDIR` behind the loop, without it where it is no directory. -/
theorem removesDir_unlinkat {t' : FileTree} {rc : Int} {removedir : Bool} (hbelow : t'.Below t)
    (hframe : ∀ q, ¬ p <+: q → t'.kind q = t.kind q)
    (hok : calls.Ok → t.kind p ≠ none → rc = 0 ∧ DirCalls.Removable t' p removedir) :
    RemovesDir calls t p
      (if (calls.unlinkat t' p removedir).1 then rc else -1, (calls.unlinkat t' p removedir).2) where
  below := (DirCalls.below_unlinkat removedir).trans hbelow
  frame := by
    intro q hq
    have hne : q ≠ p := fun heq => hq (heq ▸ List.prefix_refl q)
    rw [DirCalls.kind_unlinkat, if_neg fun h => hne h.1]
    exact hframe q hq
  gone := by
    intro hzero
    have hunlinked : (calls.unlinkat t' p removedir).1 = true := by
      by_contra hfail
      simp [hfail] at hzero
    rw [DirCalls.kind_unlinkat, if_pos ⟨rfl, hunlinked⟩]
  ok := by
    intro hcalls hthere
    obtain ⟨hrc, hremovable⟩ := hok hcalls hthere
    rw [if_pos ((DirCalls.unlinkat_of_ok (hcalls.unlinkat p)).mpr hremovable)]
    exact hrc

/-- A file or a link fails to open as a directory in one of two ways, and a directory does not fail at all. -/
theorem kind_of_openat_error {e : Errno} (hcalls : calls.Ok) (h : calls.openat t p true = .error e) :
    t.kind p ≠ some .dir ∧ (t.kind p ≠ none → e = .enotdir ∨ e = .eloop) := by
  unfold DirCalls.openat at h
  rw [hcalls.openat p] at h
  cases hkind : t.kind p with
  | none => exact ⟨by simp, fun hthere => absurd rfl hthere⟩
  | some k =>
    rw [hkind] at h
    cases k with
    | dir => cases h
    | file => exact ⟨by simp, fun _ => Or.inl (Except.error.inj h).symm⟩
    | link target => exact ⟨by simp, fun _ => Or.inr (Except.error.inj h).symm⟩

/-- What `openat` cannot open as a directory is unlinked as it is. -/
theorem removesDir_of_error {e : Errno} (h : calls.openat t p true = .error e) :
    RemovesDir calls t p
      (if e = .enotdir ∨ e = .eloop then
        (if (calls.unlinkat t p false).1 then 0 else -1, (calls.unlinkat t p false).2)
      else (-1, t)) := by
  split
  · refine removesDir_unlinkat (FileTree.Below.refl t) (fun _ _ => rfl) fun hcalls hthere => ?_
    obtain ⟨hnodir, -⟩ := kind_of_openat_error hcalls h
    exact ⟨rfl, FileTree.children_eq_nil hnodir, hthere, by simp [hnodir]⟩
  · rename_i hother
    apply removesDir_of_failed
    intro hcalls
    by_contra hthere
    exact hother ((kind_of_openat_error hcalls h).2 hthere)

/-- Behind a loop that returned 0, the directory is empty. -/
theorem removable_of_removesEntries {t' : FileTree} (hdir : t.kind p = some .dir)
    (h : RemovesEntries calls (fun name q => p ++ [name] <+: q) (· = none) p (calls.readdir t p) t 0 (0, t')) :
    DirCalls.Removable t' p true := by
  have hkept : t'.kind p = some .dir := by
    refine (h.frame p fun name _ _ hin => ?_).trans hdir
    have hlength := hin.length_le
    rw [List.length_append, List.length_singleton] at hlength
    omega
  refine ⟨List.eq_nil_iff_forall_not_mem.mpr fun name hname => ?_, by simp [hkept], by simp [hkept]⟩
  -- an entry that is left was there before, and the loop has removed it
  have hleft := FileTree.mem_children_iff.mp hname
  have hthere : t.kind (p ++ [name]) ≠ none := by
    rw [← h.below.ne_none hleft]
    exact hleft
  exact hleft ((h.gone rfl).2 name (DirCalls.mem_readdir_iff.mpr (Or.inr hthere))
    (FileTree.notMem_dotNames hthere))

/-- **One removal**, for trees of any depth: with fuel for the paths below the entry it comes to an end, and
it keeps to the entry and what is below it. -/
theorem removeDirAt_run (calls : DirCalls) (fuel : Nat) {t : FileTree} {parent : TreePath} {name : Bytes}
    (hname : name ∉ dotNames) (hpos : 0 < fuel)
    (hfuel : ∀ q, t.kind q ≠ none → parent ++ [name] <+: q → q.length < (parent ++ [name]).length + fuel) :
    ∃ result, removeDirAt calls fuel t parent name = some result ∧
      RemovesDir calls t (parent ++ [name]) result := by
  induction fuel generalizing t parent name with
  | zero => exact absurd hpos (Nat.lt_irrefl 0)
  | succ fuel ih =>
    rw [removeDirAt, entryAt_of_notMem hname]
    generalize parent ++ [name] = p at hfuel
    cases hopen : calls.openat t p true with
    | error e =>
      refine ⟨_, ?_, removesDir_of_error hopen⟩
      dsimp only
      split <;> rfl
    | ok fd =>
      obtain ⟨-, hdir, rfl⟩ := DirCalls.openat_eq_ok_iff.mp hopen
      dsimp only
      by_cases hfdopendir : calls.fdopendirFails fd = true
      · rw [if_pos hfdopendir]
        refine ⟨_, rfl, removesDir_of_failed fun hcalls => ?_⟩
        rw [hcalls.fdopendir] at hfdopendir
        cases hfdopendir
      · rw [if_neg hfdopendir]
        -- each entry of the directory, with the fuel that is left
        have hentries : ∀ s : FileTree, s.Below t → ∀ entry ∈ calls.readdir t fd, entry ∉ dotNames →
            ∃ result, removeDirAt calls fuel s fd entry = some result ∧
              RemovesDir calls s (fd ++ [entry]) result := by
          intro s hs entry hentry hnodot
          have hthere := (DirCalls.mem_readdir_iff.mp hentry).resolve_left hnodot
          have hroom := hfuel _ hthere (List.prefix_append fd [entry])
          rw [List.length_append, List.length_singleton] at hroom
          refine ih hnodot (by omega) fun q hq hpre => ?_
          have hlonger := hfuel q (hs.ne_none hq ▸ hq) ((List.prefix_append fd [entry]).trans hpre)
          rw [List.length_append, List.length_singleton]
          omega
        obtain ⟨⟨rc, t'⟩, hloop, hrun⟩ := removeEntries_run (fun _ _ hin => hin)
          (DirCalls.nodup_readdir calls t fd) hentries 0
        rw [hloop]
        refine ⟨_, rfl, removesDir_unlinkat hrun.below (fun q hq => ?_) fun hcalls _ => ?_⟩
        · exact hrun.frame q fun entry _ _ hin => hq ((List.prefix_append fd [entry]).trans hin)
        · have hrc : rc = 0 := hrun.ok hcalls fun entry hentry hnodot =>
            (DirCalls.mem_readdir_iff.mp hentry).resolve_left hnodot
          subst hrc
          exact ⟨rfl, removable_of_removesEntries hdir hrun⟩

end RemoveDirAt

/-! ## The subdirectories -/

section Clear

variable {calls : DirCalls} {t : FileTree} {root : TreePath}

/-- The path is one of the subdirectories or below one. -/
def UnderSubdirectory (t : FileTree) (root q : TreePath) : Prop :=
  ∃ name, t.kind (root ++ [name]) = some .dir ∧ root ++ [name] <+: q

/-- What `clear_subdirectory` does, whichever calls fail. -/
structure ClearsSubdirectories (calls : DirCalls) (t : FileTree) (root : TreePath)
    (result : Int × FileTree) : Prop where
  /-- What changes is gone, and was a subdirectory or below one. -/
  onlyUnder : ∀ q, result.2.kind q ≠ t.kind q → result.2.kind q = none ∧ UnderSubdirectory t root q
  /-- 0 only where no subdirectory is left. -/
  zero : result.1 = 0 → ∀ name, result.2.kind (root ++ [name]) ≠ some .dir
  /-- Where no call fails, all of them go with everything in them. -/
  all : calls.Ok → t.kind root = some .dir →
    result.1 = 0 ∧ ∀ q, UnderSubdirectory t root q → result.2.kind q = none

theorem length_le_treeDepth {q : TreePath} (h : t.kind q ≠ none) : q.length ≤ treeDepth t :=
  List.le_max_of_le' 0 (List.mem_map_of_mem (AList.mem_keys.mp (FileTree.mem_nodes_iff.mpr h)))
    (Nat.le_refl _)

/-- One entry of the directory: a subdirectory is removed, anything else left alone. -/
theorem clearEntry_run (calls : DirCalls) {s : FileTree} (hs : s.Below t) {name : Bytes}
    (hname : name ∉ dotNames) :
    ∃ result,
      (if s.kind (entryAt root name) = some .dir then removeDirAt calls (treeDepth t) s root name
        else some (0, s)) = some result ∧
      RemovesEntry calls (fun q => t.kind (root ++ [name]) = some .dir ∧ root ++ [name] <+: q)
        (· ≠ some .dir) s (root ++ [name]) result := by
  rw [entryAt_of_notMem hname]
  by_cases hdir : s.kind (root ++ [name]) = some .dir
  · rw [if_pos hdir]
    have hthere : t.kind (root ++ [name]) = some .dir := by
      rw [← hs.ne_none (by rw [hdir]; exact Option.some_ne_none _), hdir]
    have hdepth : (root ++ [name]).length ≤ treeDepth t := length_le_treeDepth (by simp [hthere])
    rw [List.length_append, List.length_singleton] at hdepth
    have hfuel : ∀ q, s.kind q ≠ none → root ++ [name] <+: q →
        q.length < (root ++ [name]).length + treeDepth t := by
      intro q hq _
      have hlength := length_le_treeDepth (hs.ne_none hq ▸ hq)
      rw [List.length_append, List.length_singleton]
      omega
    obtain ⟨result, hresult, hrun⟩ := removeDirAt_run calls (treeDepth t) hname (by omega) hfuel
    refine ⟨result, hresult, hrun.below, fun q hq => ?_, fun hzero => ?_, hrun.ok⟩
    · exact hrun.frame q fun hpre => hq ⟨hthere, hpre⟩
    · rw [hrun.gone hzero]
      exact (Option.some_ne_none _).symm
  · rw [if_neg hdir]
    exact ⟨(0, s), rfl, FileTree.Below.refl s, fun _ _ => rfl, fun _ => hdir, fun _ _ => rfl⟩

theorem clearsSubdirectories_of_failed (h : calls.Ok → t.kind root ≠ some .dir) :
    ClearsSubdirectories calls t root (-1, t) where
  onlyUnder := fun _ hchanged => absurd rfl hchanged
  zero := fun hzero => by cases hzero
  all := fun hcalls hroot => absurd hroot (h hcalls)

/-- The loop over the directory comes to that. -/
theorem clearsSubdirectories_of_run {result : Int × FileTree}
    (hrun : RemovesEntries calls (fun name q => t.kind (root ++ [name]) = some .dir ∧ root ++ [name] <+: q)
      (· ≠ some .dir) root (calls.readdir t root) t 0 result) :
    ClearsSubdirectories calls t root result := by
  have honly : ∀ q, result.2.kind q ≠ t.kind q → UnderSubdirectory t root q := by
    intro q hchanged
    by_contra hout
    exact hchanged (hrun.frame q fun name _ _ hin => hout ⟨name, hin⟩)
  have hzero : result.1 = 0 → ∀ name, result.2.kind (root ++ [name]) ≠ some .dir := by
    intro hstatus name hleft
    have hthere : t.kind (root ++ [name]) ≠ none := by
      rw [← hrun.below.ne_none (by simp [hleft]), hleft]
      exact Option.some_ne_none _
    exact (hrun.gone hstatus).2 name (DirCalls.mem_readdir_iff.mpr (Or.inr hthere))
      (FileTree.notMem_dotNames hthere) hleft
  refine ⟨fun q hchanged => ⟨(hrun.below q).resolve_right hchanged, honly q hchanged⟩, hzero,
    fun hcalls hroot => ?_⟩
  have hstatus : result.1 = 0 := hrun.ok hcalls fun name hname hnodot =>
    (DirCalls.mem_readdir_iff.mp hname).resolve_left hnodot
  refine ⟨hstatus, ?_⟩
  rintro q ⟨name, hdir, hpre⟩
  by_contra hleft
  -- what is left below a subdirectory would keep the subdirectory
  by_cases heq : root ++ [name] = q
  · subst heq
    exact hzero hstatus name ((hrun.below.ne_none hleft).trans hdir)
  · exact hzero hstatus name (FileTree.kind_above hpre heq hleft)

theorem clearSubdirectory_run (calls : DirCalls) (t : FileTree) (root : TreePath) :
    ∃ result, clearSubdirectory calls t root = some result ∧ ClearsSubdirectories calls t root result := by
  unfold clearSubdirectory
  cases hopen : calls.openat t root true with
  | error e =>
    exact ⟨_, rfl, clearsSubdirectories_of_failed fun hcalls => (kind_of_openat_error hcalls hopen).1⟩
  | ok fd =>
    obtain ⟨-, hroot, rfl⟩ := DirCalls.openat_eq_ok_iff.mp hopen
    dsimp only
    by_cases hfdopendir : calls.fdopendirFails fd = true
    · rw [if_pos hfdopendir]
      refine ⟨_, rfl, clearsSubdirectories_of_failed fun hcalls => ?_⟩
      rw [hcalls.fdopendir] at hfdopendir
      cases hfdopendir
    · rw [if_neg hfdopendir]
      obtain ⟨result, hloop, hrun⟩ := removeEntries_run (fun _ _ hin => hin.2)
        (DirCalls.nodup_readdir calls t fd)
        (fun s hs name _ hname => clearEntry_run calls hs hname) 0
      exact ⟨result, hloop, clearsSubdirectories_of_run hrun⟩

namespace ClearsSubdirectories

variable {result : Int × FileTree}

/-- What is not under a subdirectory stays as it was. -/
theorem frame (h : ClearsSubdirectories calls t root result) {q : TreePath}
    (hout : ¬ UnderSubdirectory t root q) : result.2.kind q = t.kind q := by
  by_contra hchanged
  exact hout (h.onlyUnder q hchanged).2

/-- An entry of the directory that is no directory stays. -/
theorem keeps (h : ClearsSubdirectories calls t root result) {name : Bytes} {k : NodeKind}
    (hkind : t.kind (root ++ [name]) = some k) (hk : k ≠ .dir) :
    result.2.kind (root ++ [name]) = some k := by
  rw [h.frame ?_, hkind]
  rintro ⟨other, hdir, hpre⟩
  have hsame : other = name := by
    by_contra hne
    exact not_prefix_of_ne hne hpre
  rw [hsame, hkind] at hdir
  exact hk (Option.some.inj hdir)

end ClearsSubdirectories

/-- **`clear_subdirectory` stays inside the subdirectories**, for any tree and any failing calls: it ends,
what changes is gone and was a subdirectory or below one, the rest of the directory stays, nothing happens
where a link leads, it returns 0 only where no subdirectory is left, and leaves none where no call fails. -/
theorem clearSubdirectory_inside (calls : DirCalls) (t : FileTree) (root : TreePath) :
    ∃ rc t', clearSubdirectory calls t root = some (rc, t') ∧
      (∀ q, t'.kind q ≠ t.kind q → t'.kind q = none ∧ UnderSubdirectory t root q) ∧
      (∀ name k, t.kind (root ++ [name]) = some k → k ≠ .dir → t'.kind (root ++ [name]) = some k) ∧
      (∀ p target, t.kind p = some (.link target) → ∀ q, target <+: q →
        ¬ UnderSubdirectory t root q → t'.kind q = t.kind q) ∧
      (rc = 0 → ∀ name, t'.kind (root ++ [name]) ≠ some .dir) ∧
      (calls.Ok → t.kind root = some .dir → rc = 0 ∧ ∀ q, UnderSubdirectory t root q → t'.kind q = none) := by
  obtain ⟨⟨rc, t'⟩, hrun, hclear⟩ := clearSubdirectory_run calls t root
  refine ⟨rc, t', hrun, hclear.onlyUnder, fun name k hkind hk => hclear.keeps hkind hk, ?_, hclear.zero,
    hclear.all⟩
  exact fun p target _ q _ hout => hclear.frame hout

end Clear

/-! ## The RDM block -/

/-- /media/apps -/
def mediaApps : TreePath := ["media".toList, "apps".toList]

/-- The RDM block of `cleanup_services`; its status is only logged. -/
def cleanupServicesApps (files : RdmFiles) (calls : DirCalls) (t : FileTree) : Option FileTree :=
  if files.clearsApps then (clearSubdirectory calls t mediaApps).map Prod.snd else some t

/-- The block changes something only where it decides to, and then only below /media/apps; where no call
fails, nothing of the apps is left. -/
theorem cleanupServicesApps_run (files : RdmFiles) (calls : DirCalls) (t : FileTree) :
    ∃ t', cleanupServicesApps files calls t = some t' ∧
      (∀ q, t'.kind q ≠ t.kind q →
        files.clearsApps = true ∧ t'.kind q = none ∧ UnderSubdirectory t mediaApps q) ∧
      (files.clearsApps = true → calls.Ok → t.kind mediaApps = some .dir →
        ∀ q, UnderSubdirectory t mediaApps q → t'.kind q = none) := by
  unfold cleanupServicesApps
  cases hclears : files.clearsApps with
  | false => exact ⟨t, rfl, fun q hchanged => absurd rfl hchanged, fun hno => by cases hno⟩
  | true =>
    obtain ⟨⟨status, t'⟩, hrun, hclear⟩ := clearSubdirectory_run calls t mediaApps
    rw [if_pos rfl, hrun]
    refine ⟨t', rfl, fun q hchanged => ⟨rfl, hclear.onlyUnder q hchanged⟩, fun _ hcalls hroot => ?_⟩
    exact (hclear.all hcalls hroot).2

end RebootManager
