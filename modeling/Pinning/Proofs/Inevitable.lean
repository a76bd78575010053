import Mathlib.Logic.Relation
/-!
Inevitability: whichever steps are chosen, a goal is reached after finitely many of them, and until
then there is always a step to choose. It follows from sizes that every step makes smaller.
-/

set_option autoImplicit false
set_option relaxedAutoImplicit false

namespace Pinning

/-- The goal is reached whichever steps are taken. -/
inductive Inevitable {α : Type} (step : α → α → Prop) (goal : α → Prop) : α → Prop
  | reached {a : α} (h : goal a) : Inevitable step goal a
  | ahead {a : α} (hable : ∃ b, step a b) (hall : ∀ b, step a b → Inevitable step goal b) :
      Inevitable step goal a

theorem Inevitable.mono {α : Type} {step : α → α → Prop} {goal wider : α → Prop} {a : α}
    (h : Inevitable step goal a) (hgoal : ∀ b, goal b → wider b) : Inevitable step wider a := by
  induction h with
  | reached hreached => exact .reached (hgoal _ hreached)
  | ahead hable _ ih => exact .ahead hable ih

/-- A goal is inevitable if every step leads downwards in a well-founded order and there is always a
step short of the goal. -/
theorem inevitable_of_wellFounded {α β : Type} {step : α → α → Prop} {goal keeps : α → Prop}
    {below : β → β → Prop} (hbelow : WellFounded below) (size : α → β)
    (hdown : ∀ a b, keeps a → step a b → keeps b ∧ below (size b) (size a))
    (hable : ∀ a, keeps a → goal a ∨ ∃ b, step a b) {a : α} (ha : keeps a) :
    Inevitable step goal a := by
  induction hsize : size a using hbelow.induction generalizing a with
  | _ n ih =>
    rcases hable a ha with hgoal | hstep
    · exact .reached hgoal
    · refine .ahead hstep fun b hb => ?_
      obtain ⟨hkeeps, hlt⟩ := hdown a b ha hb
      exact ih (size b) (hsize ▸ hlt) hkeeps rfl

theorem inevitable_of_size {α : Type} {step : α → α → Prop} {goal keeps : α → Prop} (size : α → Nat)
    (hdown : ∀ a b, keeps a → step a b → keeps b ∧ size b < size a)
    (hable : ∀ a, keeps a → goal a ∨ ∃ b, step a b) {a : α} (ha : keeps a) :
    Inevitable step goal a :=
  inevitable_of_wellFounded Nat.lt_wfRel.wf size hdown hable ha

def sizeOfAll {α : Type} (size : α → Nat) : List α → Nat
  | [] => 0
  | first :: rest => size first + sizeOfAll size rest

theorem sizeOfAll_set {α : Type} (size : α → Nat) {list : List α} {i : Nat} {old : α} (new : α)
    (hold : list[i]? = some old) :
    sizeOfAll size (list.set i new) + size old = sizeOfAll size list + size new := by
  induction list generalizing i with
  | nil => simp at hold
  | cons first rest ih =>
    cases i with
    | zero =>
      obtain rfl : first = old := by simpa using hold
      simp only [List.set_cons_zero, sizeOfAll]
      omega
    | succ i =>
      have hrest := ih (by simpa using hold)
      simp only [List.set_cons_succ, sizeOfAll]
      omega

end Pinning
