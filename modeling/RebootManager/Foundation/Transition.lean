/-
# RebootManager.Foundation.Transition -- runs of a labelled transition system

`step s e t` says that from the state `s` the event `e` can lead to `t`. A `Run` strings such steps
together. The rules are the two a safety argument needs: what every step keeps, a run keeps; and a run
of a restricted relation is a run in which every step meets the restriction.

The last section counts. If every step that is charged for lowers a budget, and no step raises it, then
a run is charged for no more than the budget it starts with.
-/
import Mathlib

namespace RebootManager.Foundation

section Runs

variable {σ ε : Type}

/-- A run with the events it took. -/
inductive Run (step : σ → ε → σ → Prop) : σ → List ε → σ → Prop where
  | nil (s : σ) : Run step s [] s
  | cons {s t u : σ} {e : ε} {es : List ε} :
    step s e t → Run step t es u → Run step s (e :: es) u

variable {step : σ → ε → σ → Prop}

/-- **Invariant rule.** What every step keeps, a run keeps. -/
theorem Run.invariant {I : σ → Prop} (hstep : ∀ s e t, I s → step s e t → I t) {s t : σ}
    {es : List ε} (h : Run step s es t) (hs : I s) : I t := by
  induction h with
  | nil s => exact hs
  | cons hfirst _ ih => exact ih (hstep _ _ _ hs hfirst)

/-- A run goes on where it stopped. -/
theorem Run.append {s t u : σ} {es fs : List ε} (h : Run step s es t) (h' : Run step t fs u) :
    Run step s (es ++ fs) u := by
  induction h with
  | nil s => exact h'
  | cons hfirst _ ih => exact Run.cons hfirst (ih h')

/-- A run can be taken apart anywhere. -/
theorem Run.split {s u : σ} {es fs : List ε} (h : Run step s (es ++ fs) u) :
    ∃ t, Run step s es t ∧ Run step t fs u := by
  induction es generalizing s with
  | nil => exact ⟨s, .nil s, h⟩
  | cons e es ih =>
    cases h with
    | cons hfirst hrest =>
      obtain ⟨t, hes, hfs⟩ := ih hrest
      exact ⟨t, .cons hfirst hes, hfs⟩

/-- **Refinement rule.** Where a step with a label is an abstract step of the view, and any other step leaves
the view alone, a run is an abstract run with the labels it shows. -/
theorem Run.refines {τ ν : Type} (view : σ → τ) (label : ε → Option ν) {abstract : τ → ν → τ → Prop}
    (hlabel : ∀ s e t, step s e t → ∀ l, label e = some l → abstract (view s) l (view t))
    (hquiet : ∀ s e t, step s e t → label e = none → view t = view s) {s t : σ} {es : List ε}
    (h : Run step s es t) : Run abstract (view s) (es.filterMap label) (view t) := by
  induction h with
  | nil s => exact .nil _
  | @cons s t u e es hfirst _ ih =>
    cases hl : label e with
    | none =>
      rw [List.filterMap_cons_none hl, ← hquiet s e t hfirst hl]
      exact ih
    | some l =>
      rw [List.filterMap_cons_some hl]
      exact .cons (hlabel s e t hfirst l hl) ih

/-- A run in which every breaking step is made good by a restoring one behind it. -/
inductive Mended (step : σ → ε → σ → Prop) (breaks restores : σ → ε → Prop) : σ → σ → Prop where
  | nil (s : σ) : Mended step breaks restores s s
  | keep {s t u : σ} {e : ε} :
    Mended step breaks restores s t → step t e u → ¬ breaks t e → Mended step breaks restores s u
  | restore {s t u : σ} {es : List ε} {e : ε} :
    Run step s es t → step t e u → restores t e → Mended step breaks restores s u

/-- **Recovery rule.** What every unbroken step keeps and every restoring step establishes from anywhere
holds at the end of a mended run. -/
theorem Mended.invariant {breaks restores : σ → ε → Prop} {I : σ → Prop}
    (hkeep : ∀ s e t, I s → step s e t → ¬ breaks s e → I t)
    (hrestore : ∀ s e t, step s e t → restores s e → I t) {s t : σ}
    (h : Mended step breaks restores s t) (hs : I s) : I t := by
  induction h with
  | nil => exact hs
  | keep _ hstep hwhole ih => exact hkeep _ _ _ ih hstep hwhole
  | restore _ hstep hrestores => exact hrestore _ _ _ hstep hrestores

/-- The states a run can reach from an initial one. -/
def Reachable (init : σ → Prop) (step : σ → ε → σ → Prop) (t : σ) : Prop :=
  ∃ s es, init s ∧ Run step s es t

theorem Reachable.invariant {init I : σ → Prop} (hinit : ∀ s, init s → I s)
    (hstep : ∀ s e t, I s → step s e t → I t) {t : σ} (h : Reachable init step t) : I t := by
  obtain ⟨s, es, hs, hrun⟩ := h
  exact hrun.invariant hstep (hinit s hs)

end Runs

/-! ## Deterministic systems with an output -/

section Outputs

variable {σ ε ο : Type}

/-- The outputs of a run: `next` gives the next state and, for the events that have one, an output. -/
def outputs (next : ε → σ → σ × Option ο) : List ε → σ → List ο
  | [], _ => []
  | e :: es, s => (next e s).2.toList ++ outputs next es (next e s).1

variable {next : ε → σ → σ × Option ο}

/-- **Budget rule.** Where a charged output lowers the budget and nothing raises it, a run has no more
charged outputs than the budget allows. -/
theorem count_outputs_le {I : σ → Prop} {E : ε → Prop} {charged : ο → Bool} (budget : σ → Nat)
    {es : List ε} (hes : ∀ e ∈ es, E e) (hkeep : ∀ e s, E e → I s → I (next e s).1)
    (hcharge : ∀ e s, E e → I s → ((next e s).2.toList.countP charged) + budget (next e s).1 ≤ budget s)
    {s : σ} (hs : I s) :
    (outputs next es s).countP charged ≤ budget s := by
  induction es generalizing s with
  | nil => exact Nat.zero_le _
  | cons e es ih =>
    have he := hes e (by simp)
    have hrest := ih (fun e' he' => hes e' (by simp [he'])) (hkeep e s he hs)
    have hhead := hcharge e s he hs
    rw [outputs, List.countP_append]
    omega

/-- **Absorption rule.** Once `A` holds it keeps holding, and every output made then is `P`. -/
theorem outputs_of_absorbed {A : σ → Prop} {E : ε → Prop} {P : ο → Prop}
    {es : List ε} (hes : ∀ e ∈ es, E e) (hkeep : ∀ e s, E e → A s → A (next e s).1)
    (hout : ∀ e s, E e → A s → ∀ o ∈ (next e s).2, P o) {s : σ} (hs : A s) : ∀ o ∈ outputs next es s, P o := by
  induction es generalizing s with
  | nil => simp [outputs]
  | cons e es ih =>
    have he := hes e (by simp)
    intro o ho
    rw [outputs, List.mem_append] at ho
    rcases ho with ho | ho
    · exact hout e s he hs o (Option.mem_toList.mp ho)
    · exact ih (fun e' he' => hes e' (by simp [he'])) (hkeep e s he hs) o ho

/-- **From the first trigger on.** If the state after an output that triggers is in `A`, then in the
list of outputs everything after a triggering one is `P`. -/
theorem pairwise_outputs {I A : σ → Prop} {E : ε → Prop} {P : ο → Prop} {triggers : ο → Prop}
    {es : List ε} (hes : ∀ e ∈ es, E e) (hkeep : ∀ e s, E e → I s → I (next e s).1)
    (hkeepA : ∀ e s, E e → A s → A (next e s).1)
    (htrigger : ∀ e s, E e → I s → ∀ o ∈ (next e s).2, triggers o → A (next e s).1)
    (hout : ∀ e s, E e → A s → ∀ o ∈ (next e s).2, P o)
    {s : σ} (hs : I s) :
    (outputs next es s).Pairwise fun o o' => triggers o → P o' := by
  induction es generalizing s with
  | nil => exact List.Pairwise.nil
  | cons e es ih =>
    have he := hes e (by simp)
    have hes' : ∀ e' ∈ es, E e' := fun e' he' => hes e' (by simp [he'])
    rw [outputs, List.pairwise_append]
    refine ⟨?_, ih hes' (hkeep e s he hs), ?_⟩
    · cases (next e s).2 <;> simp
    · intro o ho o' ho' htr
      have hA := htrigger e s he hs o (Option.mem_toList.mp ho) htr
      exact outputs_of_absorbed hes' hkeepA hout hA o' ho'

end Outputs

end RebootManager.Foundation
