/-
# RebootManager.Foundation.OpProg -- sequential programs as traces of state updates

A program that reads and updates a state shared with the rest of the system is modelled by what it
emits: from the state it starts in it computes a result and the *list of updates* it performs. A
complete run applies all of them. A run that is cut short (the power goes, the process is killed)
applies a prefix. Every invariant that must survive a cut is therefore a statement about prefixes,
and the rules below push such a statement through sequencing.

Nothing here knows what the updates are: `Effect ω σ` says how one update of type `ω` acts on `σ`.
-/
import Mathlib

namespace RebootManager.Foundation

/-- How one update acts on the state. -/
class Effect (ω σ : Type) where
  apply : ω → σ → σ

/-! ## Where a cut falls

A list of updates that must not be cut between an opening and a closing one has a critical section. A
cut keeps out of it when nothing that opens is done yet or nothing that closes is left to do. -/

section Sections

variable {ω : Type}

/-- A cut into what is `done` and the `rest`, outside the section from `opens` to `closes`. -/
def KeepsOut (opens closes : ω → Prop) (done rest : List ω) : Prop :=
  (∀ o ∈ done, ¬ opens o) ∨ ∀ o ∈ rest, ¬ closes o

theorem keepsOut_complete {opens closes : ω → Prop} (ops : List ω) : KeepsOut opens closes ops [] :=
  Or.inr fun _ ho => absurd ho List.not_mem_nil

section Cuts

variable {P : ω → Prop} {before after done rest : List ω} {m : ω}

/-- A cut with no marked update done falls before the first. -/
theorem prefix_of_unmarked_done (hsplit : done ++ rest = before ++ m :: after) (hm : P m)
    (hdone : ∀ o ∈ done, ¬ P o) : done <+: before := by
  have hboth : done <+: before ++ m :: after := ⟨rest, hsplit⟩
  rcases List.prefix_or_prefix_of_prefix hboth (List.prefix_append _ _) with h | ⟨more, rfl⟩
  · exact h
  · rw [List.append_assoc, List.append_cancel_left_eq] at hsplit
    cases more with
    | nil => simp
    | cons o more =>
      -- the first update beyond `before` would be the marked one
      rw [List.cons_append, List.cons.injEq] at hsplit
      exact absurd (hsplit.1 ▸ hm) (hdone o (by simp))

/-- A cut with no marked update left falls behind the last. -/
theorem prefix_of_unmarked_rest (hsplit : done ++ rest = before ++ m :: after) (hm : P m)
    (hrest : ∀ o ∈ rest, ¬ P o) : before ++ [m] <+: done := by
  have hboth : before ++ [m] <+: done ++ rest := ⟨after, by simp [hsplit]⟩
  rcases List.prefix_or_prefix_of_prefix hboth (List.prefix_append _ _) with h | ⟨more, hmore⟩
  · exact h
  · rw [← List.singleton_append, ← List.append_assoc, ← hmore, List.append_assoc,
      List.append_cancel_left_eq] at hsplit
    rcases List.eq_nil_or_concat more with rfl | ⟨init, last, rfl⟩
    · rw [← hmore, List.append_nil]
    · -- otherwise the marked one is still to be done
      have hlast : last = m := by
        have hend := congrArg List.getLast? hmore
        simpa [← List.append_assoc] using hend
      subst hlast
      exact absurd hm (hrest last (by simp [hsplit]))

/-- A cut in a sequence falls in its first part or leaves a cut of the second. -/
theorem prefix_append_cases {first second : List ω} (h : done <+: first ++ second) :
    done <+: first ∨ ∃ more, more <+: second ∧ done = first ++ more := by
  rcases List.prefix_or_prefix_of_prefix h (List.prefix_append _ _) with hfirst | ⟨more, rfl⟩
  · exact Or.inl hfirst
  · exact Or.inr ⟨more, (List.prefix_append_right_inj first).mp h, rfl⟩

/-- A cut of a marked stream with something before and behind it falls before the mark, or takes the mark
and a first part of the stream along. -/
theorem prefix_around {stream : List ω} (h : done <+: before ++ m :: stream ++ after) :
    done <+: before ∨
      ∃ part tail, part <+: stream ∧ tail <+: after ∧ done = before ++ m :: part ++ tail := by
  rcases prefix_append_cases h with hmarked | ⟨tail, htail, rfl⟩
  · rcases prefix_append_cases hmarked with hbefore | ⟨more, hmore, rfl⟩
    · exact Or.inl hbefore
    · rcases List.prefix_cons_iff.mp hmore with rfl | ⟨part, rfl, hpart⟩
      · exact Or.inl (by simp)
      · exact Or.inr ⟨part, [], hpart, List.nil_prefix, by simp⟩
  · exact Or.inr ⟨stream, tail, List.prefix_refl _, htail, by simp⟩

end Cuts

end Sections

section Exec

variable {ω σ : Type} [Effect ω σ]

/-- Apply a list of updates, first one first. -/
def execOps (ops : List ω) (s : σ) : σ := ops.foldl (fun s o => Effect.apply o s) s

@[simp] theorem execOps_nil (s : σ) : execOps ([] : List ω) s = s := rfl

@[simp] theorem execOps_cons (o : ω) (ops : List ω) (s : σ) :
    execOps (o :: ops) s = execOps ops (Effect.apply o s) := rfl

@[simp] theorem execOps_append (as bs : List ω) (s : σ) :
    execOps (as ++ bs) s = execOps bs (execOps as s) := by
  simp [execOps]

/-- What no update of the list changes, the list does not change. -/
theorem execOps_frame {α : Type} (view : σ → α) {ops : List ω}
    (h : ∀ o ∈ ops, ∀ s, view (Effect.apply o s) = view s) (s : σ) :
    view (execOps ops s) = view s := by
  induction ops generalizing s with
  | nil => rfl
  | cons o ops ih =>
    rw [execOps_cons, ih (fun o' ho' => h o' (List.mem_cons_of_mem o ho'))]
    exact h o (by simp) s

end Exec

/-- A program over states `σ` with updates `ω`: from the current state, the updates it performs and
its result. -/
def Prog (ω σ α : Type) := σ → List ω × α

namespace Prog

variable {ω σ α β : Type}

/-- The updates a run from `s` performs. -/
def ops (p : Prog ω σ α) (s : σ) : List ω := (p s).1

/-- The result of a run from `s`. -/
def result (p : Prog ω σ α) (s : σ) : α := (p s).2

/-- Read the whole state. -/
def get : Prog ω σ σ := fun s => ([], s)

/-- Perform one update. -/
def emit (o : ω) : Prog ω σ Unit := fun _ => ([o], ())

/-- Perform a list of updates. -/
def emitAll (os : List ω) : Prog ω σ Unit := fun _ => (os, ())

@[simp] theorem ops_get (s : σ) : (get : Prog ω σ σ).ops s = [] := rfl

@[simp] theorem result_get (s : σ) : (get : Prog ω σ σ).result s = s := rfl

@[simp] theorem ops_emit (o : ω) (s : σ) : (emit o : Prog ω σ Unit).ops s = [o] := rfl

@[simp] theorem ops_emitAll (os : List ω) (s : σ) : (emitAll os : Prog ω σ Unit).ops s = os := rfl

/-! ## Symbolic execution -/

variable [Effect ω σ]

/-- The state a complete run from `s` ends in. -/
def final (p : Prog ω σ α) (s : σ) : σ := execOps (p.ops s) s

instance : Monad (Prog ω σ) where
  pure a := fun _ => ([], a)
  bind p f := fun s =>
    let first := p s
    let second := f first.2 (execOps first.1 s)
    (first.1 ++ second.1, second.2)

@[simp] theorem ops_pure (a : α) (s : σ) : (pure a : Prog ω σ α).ops s = [] := rfl

@[simp] theorem result_pure (a : α) (s : σ) : (pure a : Prog ω σ α).result s = a := rfl

@[simp] theorem final_pure (a : α) (s : σ) : (pure a : Prog ω σ α).final s = s := rfl

@[simp] theorem ops_bind (p : Prog ω σ α) (f : α → Prog ω σ β) (s : σ) :
    (p >>= f).ops s = p.ops s ++ (f (p.result s)).ops (p.final s) := rfl

@[simp] theorem result_bind (p : Prog ω σ α) (f : α → Prog ω σ β) (s : σ) :
    (p >>= f).result s = (f (p.result s)).result (p.final s) := rfl

@[simp] theorem final_bind (p : Prog ω σ α) (f : α → Prog ω σ β) (s : σ) :
    (p >>= f).final s = (f (p.result s)).final (p.final s) :=
  execOps_append _ _ _

@[simp] theorem final_get (s : σ) : (get : Prog ω σ σ).final s = s := rfl

@[simp] theorem final_emit (o : ω) (s : σ) :
    (emit o : Prog ω σ Unit).final s = Effect.apply o s := rfl

@[simp] theorem final_emitAll (os : List ω) (s : σ) :
    (emitAll os : Prog ω σ Unit).final s = execOps os s := rfl

/-! ## Runs that are cut short -/

/-- `p.Cut s s'`: a run of `p` from `s` can be stopped in the state `s'`, between two updates, before
the first or after the last. -/
def Cut (p : Prog ω σ α) (s s' : σ) : Prop := ∃ done, done <+: p.ops s ∧ s' = execOps done s

theorem Cut.final (p : Prog ω σ α) (s : σ) : p.Cut s (p.final s) :=
  ⟨p.ops s, List.prefix_refl _, rfl⟩

/-- A cut in a sequence falls in its first part or, the first part being complete, in its second. -/
theorem cut_bind_iff {p : Prog ω σ α} {f : α → Prog ω σ β} {s s' : σ} :
    (p >>= f).Cut s s' ↔ p.Cut s s' ∨ (f (p.result s)).Cut (p.final s) s' := by
  unfold Cut
  rw [ops_bind]
  constructor
  · rintro ⟨done, hdone, rfl⟩
    rcases List.prefix_or_prefix_of_prefix hdone (List.prefix_append _ _) with h | ⟨rest, rfl⟩
    · exact Or.inl ⟨done, h, rfl⟩
    · have hrest := (List.prefix_append_right_inj _).mp hdone
      exact Or.inr ⟨rest, hrest, by rw [execOps_append]; rfl⟩
  · rintro (⟨done, hdone, rfl⟩ | ⟨rest, hrest, rfl⟩)
    · exact ⟨done, hdone.trans (List.prefix_append _ _), rfl⟩
    · exact ⟨p.ops s ++ rest, (List.prefix_append_right_inj _).mpr hrest,
        by rw [execOps_append]; rfl⟩

theorem cut_pure {a : α} {s s' : σ} : (pure a : Prog ω σ α).Cut s s' ↔ s' = s := by
  constructor
  · rintro ⟨done, hdone, rfl⟩
    have hnil : done = [] := List.prefix_nil.mp hdone
    rw [hnil, execOps_nil]
  · rintro rfl
    exact Cut.final (pure a) s'

/-- A run of one update is cut before it or after it. -/
theorem cut_emitAll_singleton {o : ω} {s s' : σ} :
    (emitAll [o] : Prog ω σ Unit).Cut s s' ↔ s' = s ∨ s' = Effect.apply o s := by
  constructor
  · rintro ⟨done, hdone, rfl⟩
    rcases List.prefix_cons_iff.mp hdone with rfl | ⟨rest, rfl, hrest⟩
    · exact Or.inl rfl
    · rw [List.prefix_nil.mp hrest]
      exact Or.inr rfl
  · rintro (rfl | rfl)
    · exact ⟨[], List.nil_prefix, rfl⟩
    · exact ⟨[o], List.prefix_refl _, rfl⟩

/-- A first part that never shows in a view either hides the cut or hands it on. -/
theorem cut_bind_view {γ : Type} {view : σ → γ} {p : Prog ω σ α} {f : α → Prog ω σ β} {s s' : σ}
    (hp : ∀ {t t' : σ}, p.Cut t t' → view t' = view t) (h : (p >>= f).Cut s s') :
    view s' = view s ∨
      view (p.final s) = view s ∧ (f (p.result s)).Cut (p.final s) s' := by
  rcases cut_bind_iff.mp h with hfirst | hrest
  · exact Or.inl (hp hfirst)
  · exact Or.inr ⟨hp (Cut.final p s), hrest⟩

/-! ## What a program never touches -/

/-- Every update the program can perform is one of `P`. -/
def Emits (P : ω → Prop) (p : Prog ω σ α) : Prop := ∀ s, ∀ o ∈ p.ops s, P o

omit [Effect ω σ] in
theorem Emits.mono {P Q : ω → Prop} {p : Prog ω σ α} (hPQ : ∀ o, P o → Q o) (h : p.Emits P) :
    p.Emits Q :=
  fun s o ho => hPQ o (h s o ho)

theorem emits_pure {P : ω → Prop} (a : α) : (pure a : Prog ω σ α).Emits P := by
  intro s o ho
  cases ho

omit [Effect ω σ] in
theorem emits_get {P : ω → Prop} : (get : Prog ω σ σ).Emits P := by
  intro s o ho
  cases ho

omit [Effect ω σ] in
theorem emits_emit {P : ω → Prop} {o : ω} (h : P o) : (emit o : Prog ω σ Unit).Emits P := by
  intro s o' ho
  rw [ops_emit, List.mem_singleton] at ho
  rwa [ho]

omit [Effect ω σ] in
/-- An update that is performed where a call succeeds. -/
theorem emits_emitAll_ite {P : ω → Prop} {c : Prop} [Decidable c] {o : ω} (h : P o) :
    (emitAll (if c then [o] else []) : Prog ω σ Unit).Emits P := by
  intro s o' ho
  rw [ops_emitAll] at ho
  split at ho
  · rwa [List.mem_singleton.mp ho]
  · cases ho

theorem Emits.bind {P : ω → Prop} {p : Prog ω σ α} {f : α → Prog ω σ β} (hp : p.Emits P)
    (hf : ∀ a, (f a).Emits P) : (p >>= f).Emits P := by
  intro s o ho
  rw [ops_bind, List.mem_append] at ho
  rcases ho with ho | ho
  · exact hp s o ho
  · exact hf _ _ o ho

/-- A part of the state that no update of `P` changes is the same at every cut. -/
theorem Emits.cut {P : ω → Prop} {γ : Type} {p : Prog ω σ α} (h : p.Emits P) (view : σ → γ)
    (hview : ∀ o, P o → ∀ s, view (Effect.apply o s) = view s) {s s' : σ} (hcut : p.Cut s s') :
    view s' = view s := by
  obtain ⟨done, hdone, rfl⟩ := hcut
  exact execOps_frame view (fun o ho s => hview o (h _ o (hdone.subset ho)) s) s

theorem Emits.final {P : ω → Prop} {γ : Type} {p : Prog ω σ α} (h : p.Emits P) (view : σ → γ)
    (hview : ∀ o, P o → ∀ s, view (Effect.apply o s) = view s) (s : σ) :
    view (p.final s) = view s :=
  h.cut view hview (Cut.final p s)

/-! ## What no cut breaks -/

/-- Wherever the program is cut, what held before holds. -/
def Keeps (I : σ → Prop) (p : Prog ω σ α) : Prop := ∀ s s', I s → p.Cut s s' → I s'

variable {I : σ → Prop}

/-- Updates that keep it one by one. -/
theorem Emits.keeps {P : ω → Prop} {p : Prog ω σ α} (h : p.Emits P)
    (hP : ∀ o, P o → ∀ s, I s → I (Effect.apply o s)) : p.Keeps I := by
  rintro s s' hs ⟨done, hdone, rfl⟩
  have hmem : ∀ o ∈ done, P o := fun o ho => h s o (hdone.subset ho)
  clear hdone
  induction done generalizing s with
  | nil => exact hs
  | cons o done ih =>
    rw [execOps_cons]
    exact ih (Effect.apply o s) (hP o (hmem o List.mem_cons_self) s hs)
      fun o' ho' => hmem o' (List.mem_cons_of_mem o ho')

/-- The second part of a sequence starts where the first is complete. -/
theorem Keeps.bind {p : Prog ω σ α} {f : α → Prog ω σ β} (hp : p.Keeps I) (hf : ∀ a, (f a).Keeps I) :
    (p >>= f).Keeps I := by
  intro s s' hs hcut
  rcases cut_bind_iff.mp hcut with hfirst | hrest
  · exact hp s s' hs hfirst
  · exact hf _ _ s' (hp s _ hs (Cut.final p s)) hrest

end Prog

end RebootManager.Foundation
