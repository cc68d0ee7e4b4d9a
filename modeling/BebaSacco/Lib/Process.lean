import BebaSacco.Lib.Run
import BebaSacco.Lib.Transaction

/-! # Processes over one state

A process is at a point of its program. Its next statement is one transaction on the state that
all processes share; it takes the process to another point or ends it, and a statement that fails
ends it too. `World.step` lets one process do one statement, so a run of a world is an interleaving
of its processes, at the grain of their transactions.

Results:
 1. `step_cases`: what one event can do to the state and to the processes.
 2. `Upheld`: an assertion on the state with an assertion on each process, and `upheld_step`, the
    obligation for one statement: it keeps the first, its process ends up in the second, and no
    other process loses it.
 3. `Alone`: one process at most is at a critical point for a key, and `alone_step`, the obligation
    for a statement that gets to one.
-/

namespace Process

open Txn

/-- Where a process starts and what its next statement does, on an input from outside. -/
structure Program (σ ε α ι τ : Type) where
  entry : α → τ
  next : τ → ι → Txn σ ε (Option τ)

/-- The shared state and the processes, `none` for one that has ended. -/
structure World (σ τ : Type) where
  state : σ
  tasks : List (Option τ)
  deriving DecidableEq, Repr

/-- A process starts, does its next statement, or is lost with its host. -/
inductive Event (α ι : Type) where
  | start (a : α)
  | advance (i : Nat) (input : ι)
  | crash (i : Nat)
  deriving DecidableEq, Repr

variable {σ ε α ι τ : Type} {P : Program σ ε α ι τ} {w : World σ τ} {e : Event α ι}

/-- Process `i` is at the point `t`. -/
def World.At (w : World σ τ) (i : Nat) (t : τ) : Prop := w.tasks[i]? = some (some t)

instance [DecidableEq τ] (w : World σ τ) (i : Nat) (t : τ) : Decidable (w.At i t) :=
  inferInstanceAs (Decidable (_ = _))

/-- The point that process `i` is at, if it has not ended. -/
def World.task (w : World σ τ) (i : Nat) : Option τ := w.tasks[i]?.join

def Program.step (P : Program σ ε α ι τ) (w : World σ τ) : Event α ι → World σ τ
  | .start a => { w with tasks := w.tasks ++ [some (P.entry a)] }
  | .advance i input =>
    match w.task i with
    | none => w
    | some t =>
      match (P.next t input).run w.state with
      | .ok (t', s) => { state := s, tasks := w.tasks.set i t' }
      | .error _ => { w with tasks := w.tasks.set i none }
  | .crash i => { w with tasks := w.tasks.set i none }

/-! ## 1. One event -/

theorem task_some {i : Nat} {t : τ} : w.task i = some t ↔ w.At i t := by
  unfold World.task World.At
  rw [Option.join_eq_some_iff]

/-- A statement that commits is done in one event. -/
theorem step_yields {i : Nat} {input : ι} {t : τ} {t' : Option τ} {s : σ} (hat : w.At i t)
    (h : Yields (P.next t input) w.state t' s) :
    P.step w (.advance i input) = ⟨s, w.tasks.set i t'⟩ := by
  unfold Yields at h
  unfold Program.step
  simp only [task_some.mpr hat, h]

/-- A process that has ended does nothing more. -/
theorem step_ended {i : Nat} {input : ι} (h : w.task i = none) :
    P.step w (.advance i input) = w := by
  unfold Program.step
  simp only [h]

/-- A statement that fails ends its process. -/
theorem step_fails {i : Nat} {input : ι} {t : τ} (hat : w.At i t)
    (h : Fails (P.next t input) w.state) :
    P.step w (.advance i input) = { w with tasks := w.tasks.set i none } := by
  unfold Program.step
  cases hrun : (P.next t input).run w.state with
  | ok r => exact absurd hrun (h r.1 r.2)
  | error err => simp only [task_some.mpr hat, hrun]

/-- The process has ended, its next statement commits, or the statement fails. -/
theorem advance_cases (P : Program σ ε α ι τ) (w : World σ τ) (i : Nat) (input : ι) :
    P.step w (.advance i input) = w ∨
    (∃ t t' s, w.At i t ∧ Yields (P.next t input) w.state t' s ∧
      P.step w (.advance i input) = ⟨s, w.tasks.set i t'⟩) ∨
    ∃ t, w.At i t ∧ Fails (P.next t input) w.state ∧
      P.step w (.advance i input) = { w with tasks := w.tasks.set i none } := by
  cases ht : w.task i with
  | none => exact .inl (step_ended ht)
  | some t =>
    have hat := task_some.mp ht
    rcases yields_or_fails (P.next t input) w.state with ⟨t', s, hy⟩ | hfails
    · exact .inr (.inl ⟨t, t', s, hat, hy, step_yields hat hy⟩)
    · exact .inr (.inr ⟨t, hat, hfails, step_fails hat hfails⟩)

/-- A process starts, a statement commits, or at most a process ends. -/
theorem step_cases (P : Program σ ε α ι τ) (w : World σ τ) (e : Event α ι) :
    (∃ a, e = .start a ∧ P.step w e = { w with tasks := w.tasks ++ [some (P.entry a)] }) ∨
    (∃ i input t t', e = .advance i input ∧ w.At i t ∧
      Yields (P.next t input) w.state t' (P.step w e).state ∧
      (P.step w e).tasks = w.tasks.set i t') ∨
    ((P.step w e).state = w.state ∧ ∀ j u, (P.step w e).At j u → w.At j u) := by
  have hend : ∀ i j u, (w.tasks.set i none)[j]? = some (some u) → w.At j u := by
    intro i j u h
    rw [List.getElem?_set] at h
    split at h
    · split at h
      · cases h
      · cases h
    · exact h
  cases e with
  | start a => exact .inl ⟨a, rfl, rfl⟩
  | crash i => exact .inr (.inr ⟨rfl, hend i⟩)
  | advance i input =>
    rcases advance_cases P w i input with hstep | ⟨t, t', s, hat, hy, hstep⟩ | ⟨t, hat, -, hstep⟩
    · rw [hstep]
      exact .inr (.inr ⟨rfl, fun _ _ h => h⟩)
    · rw [hstep]
      exact .inr (.inl ⟨i, input, t, t', rfl, hat, hy, rfl⟩)
    · rw [hstep]
      exact .inr (.inr ⟨rfl, hend i⟩)

/-- Who is at a point after the process `i` has moved on. -/
theorem at_set {tasks : List (Option τ)} {i j : Nat} {t' : Option τ} {u : τ}
    (h : (tasks.set i t')[j]? = some (some u)) :
    (j = i ∧ t' = some u) ∨ (j ≠ i ∧ tasks[j]? = some (some u)) := by
  rw [List.getElem?_set] at h
  split at h
  · next he =>
    split at h
    · exact .inl ⟨he.symm, Option.some.inj h⟩
    · cases h
  · next hne => exact .inr ⟨fun he => hne he.symm, h⟩

theorem at_set_self {tasks : List (Option τ)} {i : Nat} {t u : τ} (h : tasks[i]? = some (some t)) :
    (tasks.set i (some u))[i]? = some (some u) :=
  List.getElem?_set_self (List.getElem?_eq_some_iff.mp h).1

theorem at_set_other {tasks : List (Option τ)} {i j : Nat} {t' : Option τ} {u : τ} (hne : j ≠ i)
    (h : tasks[j]? = some (some u)) : (tasks.set i t')[j]? = some (some u) :=
  (List.getElem?_set_ne fun he => hne he.symm).trans h

/-! ## 2. Assertions on the state and on the processes -/

/-- `I` holds of the state and `J` of every process on it. -/
structure Upheld (I : σ → Prop) (J : σ → τ → Prop) (w : World σ τ) : Prop where
  state : I w.state
  tasks : ∀ i t, w.At i t → J w.state t

/-- What a statement of the process `i` owes: the assertion on the state, its own assertion at the
point it goes to, and the assertions of the other processes. -/
structure Owes (I : σ → Prop) (J : σ → τ → Prop) (w : World σ τ) (i : Nat) (t' : Option τ) (s' : σ) :
    Prop where
  state : I s'
  own : ∀ u, t' = some u → J s' u
  others : ∀ j u, j ≠ i → w.At j u → J w.state u → J s' u

theorem upheld_step {I : σ → Prop} {J : σ → τ → Prop} (h : Upheld I J w)
    (hstart : ∀ a, e = .start a → J w.state (P.entry a))
    (hnext : ∀ i input t t' s', e = .advance i input → w.At i t →
      Yields (P.next t input) w.state t' s' → Owes I J w i t' s') : Upheld I J (P.step w e) := by
  rcases step_cases P w e with ⟨a, he, hstep⟩ | ⟨i, input, t, t', he, hat, hy, htasks⟩ |
    ⟨hstate, htasks⟩
  · rw [hstep]
    refine ⟨h.state, fun i t ht => ?_⟩
    have hmem : (w.tasks ++ [some (P.entry a)])[i]? = some (some t) := ht
    rcases Nat.lt_or_ge i w.tasks.length with hlt | hge
    · rw [List.getElem?_append_left hlt] at hmem
      exact h.tasks i t hmem
    · rw [List.getElem?_append_right hge, List.getElem?_singleton] at hmem
      split at hmem
      · cases hmem
        exact hstart a he
      · cases hmem
  · obtain ⟨hI, hown, hothers⟩ := hnext i input t t' _ he hat hy
    refine ⟨hI, fun j u hu => ?_⟩
    unfold World.At at hu
    rw [htasks, List.getElem?_set] at hu
    split at hu
    · split at hu
      · exact hown u (Option.some.inj hu)
      · cases hu
    · next hne => exact hothers j u (fun he => hne he.symm) hu (h.tasks j u hu)
  · exact ⟨hstate ▸ h.state, fun i t ht => hstate ▸ h.tasks i t (htasks i t ht)⟩

/-! ## 3. Critical points -/

/-- No two processes are at a critical point for one key. -/
def Alone {κ : Type} (critical : τ → Option κ) (w : World σ τ) : Prop :=
  ∀ i j t u k, w.At i t → w.At j u → critical t = some k → critical u = some k → i = j

/-- Whoever gets to a critical point was at one for that key, or nobody else is. -/
theorem alone_step {κ : Type} {critical : τ → Option κ} (h : Alone critical w)
    (hentry : ∀ a, critical (P.entry a) = none)
    (hnext : ∀ i input t u s' k, e = .advance i input → w.At i t →
      Yields (P.next t input) w.state (some u) s' → critical u = some k →
        critical t = some k ∨ ∀ j v, w.At j v → critical v ≠ some k) :
    Alone critical (P.step w e) := by
  rcases step_cases P w e with ⟨a, -, hstep⟩ | ⟨n, input, t, t', he, hat, hy, htasks⟩ | ⟨-, htasks⟩
  · have hold : ∀ i t k, (P.step w e).At i t → critical t = some k → w.At i t := by
      intro i t k hi hk
      have hmem : (w.tasks ++ [some (P.entry a)])[i]? = some (some t) := by
        rw [hstep] at hi
        exact hi
      rcases Nat.lt_or_ge i w.tasks.length with hlt | hge
      · exact (List.getElem?_append_left hlt).symm.trans hmem
      · rw [List.getElem?_append_right hge, List.getElem?_singleton] at hmem
        split at hmem
        · cases hmem
          cases (hentry a).symm.trans hk
        · cases hmem
    intro i j t u k hi hj ht hu
    exact h i j t u k (hold i t k hi ht) (hold j u k hj hu) ht hu
  · have hother : ∀ i u k, i ≠ n → w.At i u → critical u = some k → ∀ v, t' = some v →
        critical v ≠ some k := by
      intro i u k hne hi hu v hv hk
      subst hv
      rcases hnext n input t v _ k he hat hy hk with ht | hnone
      · exact hne (h i n u t k hi hat hu ht)
      · exact hnone i u hi hu
    intro i j v u k hi hj hv hu
    unfold World.At at hi hj
    rw [htasks] at hi hj
    rcases at_set hi with ⟨rfl, hnew⟩ | ⟨hin, hiold⟩
    · rcases at_set hj with ⟨rfl, -⟩ | ⟨hjn, hjold⟩
      · rfl
      · exact absurd hv (hother j u k hjn hjold hu v hnew)
    · rcases at_set hj with ⟨rfl, hnew⟩ | ⟨-, hjold⟩
      · exact absurd hu (hother i v k hin hiold hv u hnew)
      · exact h i j v u k hiold hjold hv hu
  · intro i j t u k hi hj ht hu
    exact h i j t u k (htasks i t hi) (htasks j u hj) ht hu

end Process
