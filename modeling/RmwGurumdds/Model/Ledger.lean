import Mathlib.Data.List.Count
import Mathlib.Data.Fintype.Basic

/-!
# Resource ledgers

Every function of `rmw_service.cpp` obtains handles and buffers from its collaborators
(DDS entities, sequences, loans, heap blocks) and hands some of them back.  The model
records this as a *ledger*: the list of `acquire` and `release` events in the order the
code makes the calls.  A leak is an `acquire` without a matching `release`; a double
free is a second `release`.

A ledger is read by counting events per resource: `acquired` and `released`, with their
behaviour under appending and under mapping the resources into a larger kind, and the
predicate `Balanced`, which says a run neither leaks nor frees twice: every resource is
obtained at most once and given back exactly as often as it was obtained.
-/

namespace RmwGurumdds

/-- One entry of a ledger: a resource is obtained from a collaborator, or given back. -/
inductive Event (α : Type) where
  | acquire (resource : α)
  | release (resource : α)
  deriving DecidableEq, Repr

/-- The resource events of a run, oldest first. -/
abbrev Ledger (α : Type) := List (Event α)

/-- The same event, about the image of its resource: how one call's ledger enters the
ledger of a run that tracks several kinds of resource. -/
def Event.map {α β : Type} (f : α → β) : Event α → Event β
  | .acquire r => .acquire (f r)
  | .release r => .release (f r)

namespace Ledger

variable {α : Type} [DecidableEq α]

/-- How often `r` was obtained. -/
def acquired (ledger : Ledger α) (r : α) : ℕ := ledger.count (.acquire r)

/-- How often `r` was given back. -/
def released (ledger : Ledger α) (r : α) : ℕ := ledger.count (.release r)

/-- Every resource is obtained at most once and given back exactly as often as it was
obtained: nothing leaks and nothing is released twice. -/
def Balanced (ledger : Ledger α) : Prop :=
  ∀ r, ledger.released r = ledger.acquired r ∧ ledger.acquired r ≤ 1

instance [Fintype α] (ledger : Ledger α) : Decidable ledger.Balanced :=
  inferInstanceAs (Decidable (∀ r, ledger.released r = ledger.acquired r ∧ ledger.acquired r ≤ 1))

/-! ## Counting under appends -/

@[simp] theorem acquired_nil (r : α) : acquired ([] : Ledger α) r = 0 := rfl

@[simp] theorem released_nil (r : α) : released ([] : Ledger α) r = 0 := rfl

theorem acquired_pos_of_mem {l : Ledger α} {r : α} (h : .acquire r ∈ l) : 0 < l.acquired r :=
  List.count_pos_iff.mpr h

@[simp] theorem acquired_append (l₁ l₂ : Ledger α) (r : α) :
    (l₁ ++ l₂).acquired r = l₁.acquired r + l₂.acquired r :=
  List.count_append _ _ _

@[simp] theorem released_append (l₁ l₂ : Ledger α) (r : α) :
    (l₁ ++ l₂).released r = l₁.released r + l₂.released r :=
  List.count_append _ _ _

@[simp] theorem acquired_cons_acquire (s r : α) (l : Ledger α) :
    acquired (.acquire s :: l) r = acquired l r + if s = r then 1 else 0 := by
  simp [acquired, List.count_cons]

@[simp] theorem acquired_cons_release (s r : α) (l : Ledger α) :
    acquired (.release s :: l) r = acquired l r := by
  simp [acquired, List.count_cons]

@[simp] theorem released_cons_acquire (s r : α) (l : Ledger α) :
    released (.acquire s :: l) r = released l r := by
  simp [released, List.count_cons]

@[simp] theorem released_cons_release (s r : α) (l : Ledger α) :
    released (.release s :: l) r = released l r + if s = r then 1 else 0 := by
  simp [released, List.count_cons]

/-! ## Counting through `Event.map` -/

section Map

variable {β : Type} [DecidableEq β] {f : α → β}

theorem acquired_map (hf : f.Injective) (l : Ledger α) (r : α) :
    Ledger.acquired (l.map (Event.map f)) (f r) = l.acquired r := by
  induction l with
  | nil => rfl
  | cons e l ih => cases e <;> simp [Event.map, ih, hf.eq_iff]

theorem released_map (hf : f.Injective) (l : Ledger α) (r : α) :
    Ledger.released (l.map (Event.map f)) (f r) = l.released r := by
  induction l with
  | nil => rfl
  | cons e l ih => cases e <;> simp [Event.map, ih, hf.eq_iff]

omit [DecidableEq α] in
/-- A resource outside the image of `f` does not occur in a mapped ledger. -/
theorem acquired_map_of_ne (l : Ledger α) {x : β} (hx : ∀ r, f r ≠ x) :
    Ledger.acquired (l.map (Event.map f)) x = 0 := by
  induction l with
  | nil => rfl
  | cons e l ih => cases e <;> simp [Event.map, ih, hx]

omit [DecidableEq α] in
theorem released_map_of_ne (l : Ledger α) {x : β} (hx : ∀ r, f r ≠ x) :
    Ledger.released (l.map (Event.map f)) x = 0 := by
  induction l with
  | nil => rfl
  | cons e l ih => cases e <;> simp [Event.map, ih, hx]

end Map

end Ledger

end RmwGurumdds
