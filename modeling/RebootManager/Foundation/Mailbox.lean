/-
# RebootManager.Foundation.Mailbox -- a place that holds one letter

A writer leaves letters in a place that has room for one, and a reader takes out what is there. A letter
that is still there when the next one comes is lost under it. Whatever the order in which the two come by,
the letters taken are letters left, in the order in which they were left and each one once; the ones that
were left and never taken are the last one and those that another fell upon.
-/
import RebootManager.Foundation.Transition

namespace RebootManager.Foundation

/-- What happens at the place. -/
inductive Mail (α : Type) where
  | left (letter : α)
  | taken (letter : α)
  deriving DecidableEq

namespace Mail

variable {α : Type}

/-- One step. A letter is left on whatever is there; only what is there can be taken. -/
inductive Step : Option α → Mail α → Option α → Prop where
  | left (slot : Option α) (letter : α) : Step slot (.left letter) (some letter)
  | taken (letter : α) : Step (some letter) (.taken letter) none

/-- The letters left, in their order. -/
def allLeft : List (Mail α) → List α
  | [] => []
  | .left letter :: ms => letter :: allLeft ms
  | .taken _ :: ms => allLeft ms

/-- The letters taken, in their order. -/
def allTaken : List (Mail α) → List α
  | [] => []
  | .left _ :: ms => allTaken ms
  | .taken letter :: ms => letter :: allTaken ms

/-- The letters another one fell upon. -/
def overwritten : Option α → List (Mail α) → List α
  | _, [] => []
  | slot, .left letter :: ms => slot.toList ++ overwritten (some letter) ms
  | _, .taken _ :: ms => overwritten none ms

variable {slot slot' : Option α} {ms : List (Mail α)}

/-- **In order and once.** What has been taken, with what is still there behind it, is a part of what was
there and what has been left. -/
theorem taken_sublist (h : Run Step slot ms slot') :
    (allTaken ms ++ slot'.toList).Sublist (slot.toList ++ allLeft ms) := by
  induction h with
  | nil slot => simp [allTaken, allLeft]
  | cons hfirst _ ih =>
    cases hfirst with
    | left slot letter => exact ih.trans (List.sublist_append_right _ _)
    | taken letter => exact ih.cons_cons letter

/-- **No letter is lost but under another one.** -/
theorem perm_taken (h : Run Step slot ms slot') :
    (slot.toList ++ allLeft ms).Perm (allTaken ms ++ slot'.toList ++ overwritten slot ms) := by
  induction h with
  | nil slot => simp [allTaken, allLeft, overwritten]
  | @cons slot _ _ _ ms hfirst _ ih =>
    cases hfirst with
    | left _ letter =>
      show (slot.toList ++ letter :: allLeft ms).Perm
        (allTaken ms ++ _ ++ (slot.toList ++ overwritten (some letter) ms))
      rw [← List.append_assoc]
      refine (ih.append_left slot.toList).trans ?_
      rw [← List.append_assoc]
      exact List.perm_append_comm.append_right _
    | taken letter => exact ih.cons letter

/-- A part of a list is carried where the list is. -/
theorem carried_of_sublist {β : Type} {R : α → β → Prop} {part letters : List α} {carriers : List β}
    (hpart : part.Sublist letters) (h : List.SublistForall₂ R letters carriers) :
    List.SublistForall₂ R part carriers := by
  induction h generalizing part with
  | nil =>
    rw [List.sublist_nil.mp hpart]
    exact .nil
  | cons hcarries _ ih =>
    cases hpart with
    | cons _ hrest => exact .cons_right (ih hrest)
    | cons_cons _ hrest => exact .cons hcarries (ih hrest)
  | cons_right _ ih => exact .cons_right (ih hpart)

/-- What is taken, or still there, is carried by a part of the carriers, in their order. -/
theorem taken_carried {β : Type} {R : α → β → Prop} {carriers : List β} (h : Run Step none ms slot')
    (hcarried : List.SublistForall₂ R (allLeft ms) carriers) :
    List.SublistForall₂ R (allTaken ms ++ slot'.toList) carriers :=
  carried_of_sublist (taken_sublist h) hcarried

end Mail

end RebootManager.Foundation
