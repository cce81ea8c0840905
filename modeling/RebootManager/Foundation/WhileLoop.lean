/-
# RebootManager.Foundation.WhileLoop -- `while` over an explicit state

A loop is its condition and its body. `Visits` are the states at the head of the loop, `Ends` is the state
behind it, if there is one. The rules are the three that an argument about a loop has: what the body keeps
holds at every head (`Visits.invariant`), a measure that the body lowers brings the loop to its end, in as
many turns as it measures (`ends_turns`), and there is no other end (`Ends.unique`).
-/
import Mathlib

namespace RebootManager.Foundation

/-- `while (guard) body` -/
structure WhileLoop (σ : Type) where
  guard : σ → Bool
  body : σ → σ

namespace WhileLoop

variable {σ : Type} {l : WhileLoop σ} {s t u : σ}

/-- The head of the loop is reached in `t`. -/
inductive Visits (l : WhileLoop σ) : σ → σ → Prop where
  | here (s : σ) : Visits l s s
  | turn {s t : σ} : l.guard s = true → Visits l (l.body s) t → Visits l s t

/-- The loop ends, in `t`. -/
inductive Ends (l : WhileLoop σ) : σ → σ → Prop where
  | done {s : σ} : l.guard s = false → Ends l s s
  | turn {s t : σ} : l.guard s = true → Ends l (l.body s) t → Ends l s t

/-- **Invariant rule.** What the body keeps where the guard holds, holds at every head. -/
theorem Visits.invariant {I : σ → Prop} (hbody : ∀ s, I s → l.guard s = true → I (l.body s))
    (h : l.Visits s t) (hs : I s) : I t := by
  induction h with
  | here s => exact hs
  | turn hguard _ ih => exact ih (hbody _ hs hguard)

/-- The end of a loop is a head at which the guard fails. -/
theorem ends_iff : l.Ends s t ↔ l.Visits s t ∧ l.guard t = false := by
  constructor
  · intro h
    induction h with
    | done hguard => exact ⟨.here _, hguard⟩
    | turn hguard _ ih => exact ⟨.turn hguard ih.1, ih.2⟩
  · rintro ⟨h, hguard⟩
    induction h with
    | here s => exact .done hguard
    | turn hturn _ ih => exact .turn hturn (ih hguard)

/-- A loop has one end. -/
theorem Ends.unique (h : l.Ends s t) (h' : l.Ends s u) : t = u := by
  induction h with
  | done hguard =>
    cases h' with
    | done _ => rfl
    | turn hgoes _ => exact absurd (hguard.symm.trans hgoes) Bool.false_ne_true
  | turn hgoes _ ih =>
    cases h' with
    | done hguard => exact absurd (hguard.symm.trans hgoes) Bool.false_ne_true
    | turn _ hrest => exact ih hrest

/-- The loop with a counter: no more than so many turns. -/
def turns (l : WhileLoop σ) : Nat → σ → σ
  | 0, s => s
  | n + 1, s => if l.guard s then turns l n (l.body s) else s

/-- **Termination rule.** A measure that every turn lowers is a number of turns that is enough. -/
theorem ends_turns (measure : σ → Nat)
    (hbody : ∀ s, l.guard s = true → measure (l.body s) < measure s) {n : Nat} (hn : measure s ≤ n) :
    l.Ends s (l.turns n s) := by
  induction n generalizing s with
  | zero =>
    rw [turns]
    refine .done (Bool.eq_false_iff.mpr fun hguard => ?_)
    have hlower := hbody s hguard
    omega
  | succ n ih =>
    rw [turns]
    cases hguard : l.guard s with
    | false => exact .done hguard
    | true =>
      have hlower := hbody s hguard
      exact .turn hguard (ih (by omega))

end WhileLoop

end RebootManager.Foundation
