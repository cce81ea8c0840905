/-
# RebootManager.Foundation.FileTree -- directories, links and the calls that remove them

A tree of files is a table from paths to kinds: a path is the list of its components, every entry stands in a
directory, and no component is one of the two dot names. A link is an entry with a path of its own as its
target; nothing says that the target exists or where it is.

On it the three calls a recursive removal is made of, each of which can be made to fail: `openat` of a
directory, `readdir`, which has the two dot names besides the entries, in any order, and `unlinkat`. A call
names an entry by an open directory and a name (`entryAt`). What removals leave is below what was there
(`FileTree.Below`), and a removal changes nothing but its own entry (`kind_unlinkat`).
-/
import RebootManager.Foundation.CString

namespace RebootManager.Foundation

/-! ## Trees -/

/-- The components from the top down; `[]` is the top. -/
abbrev TreePath := List Bytes

inductive NodeKind where
  | file
  | dir
  | link (target : TreePath)
  deriving DecidableEq

/-- `"."` and `".."` -/
def dotNames : List Bytes := [['.'], ['.', '.']]

instance decidableDotName (name : Bytes) : Decidable (name ∈ dotNames) :=
  inferInstanceAs (Decidable (name ∈ [['.'], ['.', '.']]))

/-- A table in which every entry is in a directory and has a name. -/
structure FileTree where
  nodes : AList fun _ : TreePath => NodeKind
  inDir : ∀ p ∈ nodes, p ≠ [] → nodes.lookup p.dropLast = some .dir
  named : ∀ p ∈ nodes, ∀ name ∈ p, name ∉ dotNames

namespace FileTree

/-- What is there, if anything. -/
def kind (t : FileTree) (p : TreePath) : Option NodeKind := t.nodes.lookup p

/-- The names in a directory. -/
def children (t : FileTree) (d : TreePath) : List Bytes :=
  t.nodes.keys.filterMap fun p => if p.dropLast = d then p.getLast? else none

variable {t : FileTree} {p q d : TreePath} {name : Bytes}

theorem mem_nodes_iff : p ∈ t.nodes ↔ t.kind p ≠ none := by
  rw [kind, Ne, AList.lookup_eq_none, not_not]

theorem kind_parent (h : t.kind (d ++ [name]) ≠ none) : t.kind d = some .dir := by
  have hdir := t.inDir _ (mem_nodes_iff.mpr h) (by simp)
  rwa [List.dropLast_concat] at hdir

/-- Everything above an entry is a directory. -/
theorem kind_above (hpre : p <+: q) (hne : p ≠ q) (h : t.kind q ≠ none) : t.kind p = some .dir := by
  obtain ⟨rest, rfl⟩ := hpre
  induction rest using List.reverseRecOn with
  | nil => exact absurd (List.append_nil p).symm hne
  | append_singleton rest name ih =>
    rw [← List.append_assoc] at h
    have hdir := kind_parent h
    by_cases hrest : p = p ++ rest
    · rwa [← hrest] at hdir
    · exact ih hrest (by rw [hdir]; exact Option.some_ne_none _)

theorem notMem_dotNames (h : t.kind (d ++ [name]) ≠ none) : name ∉ dotNames :=
  t.named _ (mem_nodes_iff.mpr h) name (List.mem_append_right d (List.mem_singleton_self name))

theorem mem_children_iff : name ∈ t.children d ↔ t.kind (d ++ [name]) ≠ none := by
  rw [← mem_nodes_iff, children, List.mem_filterMap]
  constructor
  · rintro ⟨p, hp, hlast⟩
    split at hlast
    · rename_i hd
      have hpath := List.dropLast_append_getLast? name (Option.mem_def.mpr hlast)
      rw [hd] at hpath
      exact hpath ▸ AList.mem_keys.mpr hp
    · cases hlast
  · intro hmem
    refine ⟨d ++ [name], AList.mem_keys.mp hmem, ?_⟩
    rw [if_pos List.dropLast_concat, List.getLast?_concat]

theorem nodup_children (t : FileTree) (d : TreePath) : (t.children d).Nodup := by
  refine List.Nodup.filterMap (fun p q name hp hq => ?_) t.nodes.keys_nodup
  split at hp
  · split at hq
    · rename_i hp' hq'
      rw [← List.dropLast_append_getLast? name hp, ← List.dropLast_append_getLast? name hq, hp', hq']
    · cases hq
  · cases hp

/-- Only a directory has anything in it. -/
theorem children_eq_nil (h : t.kind d ≠ some .dir) : t.children d = [] := by
  rw [List.eq_nil_iff_forall_not_mem]
  exact fun name hname => h (kind_parent (mem_children_iff.mp hname))

/-! ## Taking an entry away -/

/-- An entry with nothing in it can go. -/
def erase (t : FileTree) (p : TreePath) (h : t.children p = []) : FileTree where
  nodes := t.nodes.erase p
  inDir := by
    intro q hq hne
    obtain ⟨-, hmem⟩ := AList.mem_erase.mp hq
    have hparent : q.dropLast ≠ p := by
      rintro rfl
      obtain hnil | ⟨d, name, rfl⟩ := List.eq_nil_or_concat q
      · exact hne hnil
      · rw [List.concat_eq_append] at hmem h
        rw [List.dropLast_concat] at h
        have hchild : name ∈ t.children d := mem_children_iff.mpr (mem_nodes_iff.mp hmem)
        rw [h] at hchild
        cases hchild
    rw [AList.lookup_erase_ne hparent]
    exact t.inDir q hmem hne
  named := fun q hq => t.named q (AList.mem_erase.mp hq).2

theorem kind_erase (h : t.children p = []) (q : TreePath) :
    (t.erase p h).kind q = if q = p then none else t.kind q := by
  split
  · rename_i heq
    exact heq ▸ AList.lookup_erase p t.nodes
  · rename_i hne
    exact AList.lookup_erase_ne hne

/-- What is left of a tree: every entry is as it was, or gone. -/
def Below (t' t : FileTree) : Prop := ∀ q, t'.kind q = none ∨ t'.kind q = t.kind q

theorem Below.refl (t : FileTree) : t.Below t := fun _ => Or.inr rfl

theorem Below.trans {t'' t' t : FileTree} (h : t''.Below t') (h' : t'.Below t) : t''.Below t := by
  intro q
  rcases h q with hgone | hsame
  · exact Or.inl hgone
  · rw [hsame]
    exact h' q

theorem Below.ne_none {t' : FileTree} (h : t'.Below t) (hq : t'.kind q ≠ none) : t'.kind q = t.kind q :=
  (h q).resolve_left hq

end FileTree

/-! ## Calls -/

inductive Errno where
  | enotdir
  | eloop
  | other
  deriving DecidableEq

/-- What the system makes of the calls: which of them fail, and the order of `readdir`. -/
structure DirCalls where
  openFails : TreePath → Option Errno
  fdopendirFails : TreePath → Bool
  unlinkFails : TreePath → Bool
  order : TreePath → List Bytes → List Bytes
  order_perm : ∀ d names, (order d names).Perm names

/-- No call fails. -/
structure DirCalls.Ok (calls : DirCalls) : Prop where
  openat : ∀ p, calls.openFails p = none
  fdopendir : ∀ p, calls.fdopendirFails p = false
  unlinkat : ∀ p, calls.unlinkFails p = false

/-- The entry a name stands for in an open directory. -/
def entryAt (fd : TreePath) (name : Bytes) : TreePath :=
  if name = ['.'] then fd else if name = ['.', '.'] then fd.dropLast else fd ++ [name]

theorem entryAt_of_notMem {fd : TreePath} {name : Bytes} (h : name ∉ dotNames) :
    entryAt fd name = fd ++ [name] := by
  obtain ⟨hdot, hdots⟩ : name ≠ ['.'] ∧ name ≠ ['.', '.'] := by
    simpa [dotNames] using h
  rw [entryAt, if_neg hdot, if_neg hdots]

namespace DirCalls

variable (calls : DirCalls)

/-- `openat` with `O_DIRECTORY`; without `O_NOFOLLOW` a link stands for its target. -/
def openat (t : FileTree) (p : TreePath) (nofollow : Bool) : Except Errno TreePath :=
  match calls.openFails p with
  | some e => .error e
  | none =>
    match t.kind p with
    | none => .error .other
    | some .dir => .ok p
    | some .file => .error .enotdir
    | some (.link target) =>
      if nofollow then .error .eloop
      else if t.kind target = some .dir then .ok target else .error .enotdir

/-- Everything `readdir` returns, call after call. -/
def readdir (t : FileTree) (fd : TreePath) : List Bytes := calls.order fd (dotNames ++ t.children fd)

/-- A directory goes with `AT_REMOVEDIR` and empty, everything else without. -/
def Removable (t : FileTree) (p : TreePath) (removedir : Bool) : Prop :=
  t.children p = [] ∧ t.kind p ≠ none ∧ (t.kind p = some .dir ↔ removedir = true)

instance (t : FileTree) (p : TreePath) (removedir : Bool) : Decidable (Removable t p removedir) :=
  inferInstanceAs (Decidable (_ ∧ _ ∧ (_ ↔ _)))

/-- `unlinkat`: whether it returns 0, and the tree then. -/
def unlinkat (t : FileTree) (p : TreePath) (removedir : Bool) : Bool × FileTree :=
  if calls.unlinkFails p then (false, t)
  else if h : Removable t p removedir then (true, t.erase p h.1)
  else (false, t)

variable {calls} {t : FileTree} {p fd : TreePath} {name : Bytes}

/-- With `O_NOFOLLOW` what is opened is the entry. -/
theorem openat_eq_ok_iff : calls.openat t p true = .ok fd ↔
    calls.openFails p = none ∧ t.kind p = some .dir ∧ fd = p := by
  unfold openat
  cases calls.openFails p with
  | some e => simp
  | none =>
    cases t.kind p with
    | none => simp
    | some k => cases k <;> simp [eq_comm]

theorem mem_readdir_iff : name ∈ calls.readdir t fd ↔ name ∈ dotNames ∨ t.kind (fd ++ [name]) ≠ none := by
  rw [readdir, (calls.order_perm _ _).mem_iff, List.mem_append, FileTree.mem_children_iff]

theorem nodup_readdir (calls : DirCalls) (t : FileTree) (fd : TreePath) : (calls.readdir t fd).Nodup := by
  rw [readdir, (calls.order_perm _ _).nodup_iff, List.nodup_append]
  refine ⟨by decide, t.nodup_children fd, fun a ha b hb heq => ?_⟩
  exact FileTree.notMem_dotNames (FileTree.mem_children_iff.mp hb) (heq ▸ ha)

/-- A removal that returns 0 takes the one entry away, any other nothing. -/
theorem kind_unlinkat (removedir : Bool) (q : TreePath) :
    (calls.unlinkat t p removedir).2.kind q =
      if q = p ∧ (calls.unlinkat t p removedir).1 = true then none else t.kind q := by
  unfold unlinkat
  split
  · simp
  · split
    · simp [FileTree.kind_erase]
    · simp

theorem below_unlinkat (removedir : Bool) : (calls.unlinkat t p removedir).2.Below t := by
  intro q
  rw [kind_unlinkat]
  split
  · exact Or.inl rfl
  · exact Or.inr rfl

theorem unlinkat_of_ok (hok : calls.unlinkFails p = false) {removedir : Bool} :
    (calls.unlinkat t p removedir).1 = true ↔ Removable t p removedir := by
  unfold unlinkat
  rw [if_neg (by simp [hok])]
  split
  · simpa
  · simpa

end DirCalls

end RebootManager.Foundation
