import Mathlib.Logic.Basic
import Mathlib.Tactic.Common

/-! # Runs of a machine

A machine takes one operation at a time; `run` takes a whole list of them. A
guard is a condition on an operation and the state it finds, and a run is
`Guarded` when each of its operations meets the guard in the state it starts
from.

Results:
 1. `run_induct`: an invariant that every guarded step preserves holds after
    every guarded run.
 2. `run_relates`: a reflexive and transitive relation that every guarded step
    moves along relates the ends of every guarded run.
 3. `guarded_append`: a prefix of a guarded run is guarded, so the results above
    speak of every state on the way.
-/

namespace Machine

variable {σ ι : Type} {step : σ → ι → σ} {guard guard' : σ → ι → Prop} {s : σ} {ops ops' : List ι}

/-- The state after the operations `ops`, in order. -/
def run (step : σ → ι → σ) (s : σ) (ops : List ι) : σ := ops.foldl step s

/-- Every operation of `ops` meets `guard` in the state it starts from. -/
def Guarded (step : σ → ι → σ) (guard : σ → ι → Prop) (s : σ) : List ι → Prop
  | [] => True
  | op :: ops => guard s op ∧ Guarded step guard (step s op) ops

instance decidableGuarded [∀ s op, Decidable (guard s op)] :
    (s : σ) → (ops : List ι) → Decidable (Guarded step guard s ops)
  | _, [] => .isTrue trivial
  | s, op :: ops =>
    have := decidableGuarded (step s op) ops
    inferInstanceAs (Decidable (guard s op ∧ Guarded step guard (step s op) ops))

@[simp] theorem run_nil : run step s [] = s := rfl

@[simp] theorem run_cons {op : ι} : run step s (op :: ops) = run step (step s op) ops := rfl

theorem run_append : run step s (ops ++ ops') = run step (run step s ops) ops' :=
  List.foldl_append

theorem guarded_append :
    Guarded step guard s (ops ++ ops') ↔
      Guarded step guard s ops ∧ Guarded step guard (run step s ops) ops' := by
  induction ops generalizing s with
  | nil => exact ⟨fun h => ⟨trivial, h⟩, fun h => h.2⟩
  | cons op ops ih =>
    constructor
    · rintro ⟨h, hs⟩
      obtain ⟨h₁, h₂⟩ := ih.mp hs
      exact ⟨⟨h, h₁⟩, h₂⟩
    · rintro ⟨⟨h, h₁⟩, h₂⟩
      exact ⟨h, ih.mpr ⟨h₁, h₂⟩⟩

/-- A run that meets two guards meets both at each step. -/
theorem guarded_and (h : Guarded step guard s ops) (h' : Guarded step guard' s ops) :
    Guarded step (fun s op => guard s op ∧ guard' s op) s ops := by
  induction ops generalizing s with
  | nil => trivial
  | cons op ops ih => exact ⟨⟨h.1, h'.1⟩, ih h.2 h'.2⟩

theorem guarded_of_forall (hg : ∀ s op, guard s op) : Guarded step guard s ops := by
  induction ops generalizing s with
  | nil => trivial
  | cons op ops ih => exact ⟨hg s op, ih⟩

/-- A guard that does not look at the state only has to hold of the operations. -/
theorem guarded_of_mem {p : ι → Prop} (hp : ∀ op ∈ ops, p op) :
    Guarded step (fun _ op => p op) s ops := by
  induction ops generalizing s with
  | nil => trivial
  | cons op ops ih =>
    exact ⟨hp op List.mem_cons_self, ih fun op' h => hp op' (List.mem_cons_of_mem op h)⟩

/-- An invariant that holds at the start and that every guarded step preserves
holds after every guarded run. -/
theorem run_induct {I : σ → Prop} (hstep : ∀ s op, I s → guard s op → I (step s op))
    (hs : I s) (h : Guarded step guard s ops) : I (run step s ops) := by
  induction ops generalizing s with
  | nil => exact hs
  | cons op ops ih => exact ih (hstep s op hs h.1) h.2

/-- A relation that every guarded step moves along relates the two ends of every
guarded run; the steps may use an invariant of the run. -/
theorem run_relates {I : σ → Prop} {R : σ → σ → Prop} (hrefl : ∀ s, R s s)
    (htrans : ∀ s t u, R s t → R t u → R s u)
    (hinv : ∀ s op, I s → guard s op → I (step s op))
    (hstep : ∀ s op, I s → guard s op → R s (step s op))
    (hs : I s) (h : Guarded step guard s ops) : R s (run step s ops) := by
  induction ops generalizing s with
  | nil => exact hrefl s
  | cons op ops ih =>
    exact htrans _ _ _ (hstep s op hs h.1) (ih (hinv s op hs h.1) h.2)

/-- A relation that every step moves along relates the two ends of every run. -/
theorem run_related {R : σ → σ → Prop} (hrefl : ∀ s, R s s)
    (htrans : ∀ s t u, R s t → R t u → R s u) (hstep : ∀ s op, R s (step s op)) :
    R s (run step s ops) := by
  induction ops generalizing s with
  | nil => exact hrefl s
  | cons op ops ih => exact htrans _ _ _ (hstep s op) ih

end Machine
