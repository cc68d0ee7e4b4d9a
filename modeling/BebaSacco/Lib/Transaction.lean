import Mathlib.Logic.Basic
import Mathlib.Tactic.Common

/-! # Transactions over a state

A transaction reads and writes a state `σ` and either commits with a result or
fails with an error `ε`; a failed transaction loses its writes. `Yields x s a s'`
says that `x`, started in `s`, commits with result `a` and leaves `s'`.

Results:
 1. `yields_bind` and the other `yields_*` rules invert a transaction one
    statement at a time: rewriting with them turns a committed run into the list
    of what its statements did.
 2. `Txn.Preserves`, `Txn.Ensures`: invariants and conditions of a transaction, composed
    statement by statement.
 3. `Txn.Moves`: a reflexive and transitive relation between the state before
    and the state after, composed the same way.
 4. `commit`: the state after running a transaction atomically, which is the
    state before when it fails.
-/

/-- A transaction on a state `σ` that may fail with `ε`. -/
abbrev Txn (σ ε α : Type) := StateT σ (Except ε) α

namespace Txn

variable {σ ε α β : Type} {x : Txn σ ε α} {s s' : σ} {a a' : α}

/-- `x` started in `s` commits with result `a` in state `s'`. -/
def Yields (x : Txn σ ε α) (s : σ) (a : α) (s' : σ) : Prop := x.run s = .ok (a, s')

instance [DecidableEq σ] [DecidableEq ε] [DecidableEq α] : Decidable (Yields x s a s') :=
  inferInstanceAs (Decidable (x.run s = .ok (a, s')))

/-- Throws `e` unless `c` holds. -/
def ensure (c : Prop) [Decidable c] (e : ε) : Txn σ ε Unit :=
  if c then pure () else throw e

/-- The value of `o`, or the error `e` when there is none. -/
def required (o : Option α) (e : ε) : Txn σ ε α :=
  match o with
  | some a => pure a
  | none => throw e

/-- A computation without a state, as a transaction. -/
def fromExcept (x : Except ε α) : Txn σ ε α :=
  match x with
  | .ok a => pure a
  | .error e => throw e

/-- A transaction on one part of a larger state. -/
def zoom {ρ : Type} (view : ρ → σ) (put : σ → ρ → ρ) (x : Txn σ ε α) : Txn ρ ε α := fun r =>
  match x.run (view r) with
  | .ok (a, s) => .ok (a, put s r)
  | .error e => .error e

/-- Runs `x`; when it fails it has written nothing and `handle` gives the result. -/
def rescue (x : Txn σ ε α) (handle : ε → α) : Txn σ ε α := fun s =>
  match x.run s with
  | .ok r => .ok r
  | .error e => .ok (handle e, s)

/-- Runs `x` atomically: the state it leaves, or the old state when it fails. -/
def commit (x : Txn σ ε α) (s : σ) : σ :=
  match x.run s with
  | .ok (_, s') => s'
  | .error _ => s

/-- `x` started in `s` fails. -/
def Fails (x : Txn σ ε α) (s : σ) : Prop := ∀ a s', ¬ Yields x s a s'

/-! ## 1. Inversion -/

@[simp] theorem yields_pure : Yields (pure a' : Txn σ ε α) s a s' ↔ a' = a ∧ s = s' := by
  change Except.ok (a', s) = Except.ok (a, s') ↔ _
  simp only [Except.ok.injEq, Prod.mk.injEq]

@[simp] theorem yields_throw {e : ε} : Yields (throw e : Txn σ ε α) s a s' ↔ False := by
  refine ⟨fun h => ?_, False.elim⟩
  change Except.error e = Except.ok (a, s') at h
  cases h

@[simp] theorem yields_bind {f : α → Txn σ ε β} {b : β} :
    Yields (x >>= f) s b s' ↔ ∃ a t, Yields x s a t ∧ Yields (f a) t b s' := by
  unfold Yields
  rw [StateT.run_bind]
  cases hx : x.run s with
  | error e =>
    constructor
    · intro h
      cases h
    · rintro ⟨a, t, h, _⟩
      cases h
  | ok r =>
    refine ⟨fun h => ⟨r.1, r.2, rfl, h⟩, ?_⟩
    rintro ⟨a, t, h, hf⟩
    cases h
    exact hf

@[simp] theorem yields_get {t : σ} : Yields (get : Txn σ ε σ) s t s' ↔ s = t ∧ s = s' := by
  change Except.ok (s, s) = Except.ok (t, s') ↔ _
  simp only [Except.ok.injEq, Prod.mk.injEq]

@[simp] theorem yields_modify {f : σ → σ} {u : Unit} :
    Yields (modify f : Txn σ ε Unit) s u s' ↔ f s = s' := by
  change Except.ok ((), f s) = Except.ok (u, s') ↔ _
  simp only [Except.ok.injEq, Prod.mk.injEq, true_and]

theorem ensure_congr {c c' : Prop} [Decidable c] [Decidable c'] {e : ε} (h : c ↔ c') :
    (ensure c e : Txn σ ε Unit) = ensure c' e := by
  unfold ensure
  exact if_congr h rfl rfl

@[simp] theorem yields_ensure {c : Prop} [Decidable c] {e : ε} {u : Unit} :
    Yields (ensure c e : Txn σ ε Unit) s u s' ↔ c ∧ s = s' := by
  unfold ensure
  by_cases hc : c
  · rw [if_pos hc, yields_pure]
    exact ⟨fun h => ⟨hc, h.2⟩, fun h => ⟨rfl, h.2⟩⟩
  · rw [if_neg hc, yields_throw]
    exact ⟨False.elim, fun h => hc h.1⟩

@[simp] theorem yields_required {o : Option α} {e : ε} :
    Yields (required o e : Txn σ ε α) s a s' ↔ o = some a ∧ s = s' := by
  unfold required
  cases o with
  | none =>
    rw [yields_throw]
    exact ⟨False.elim, fun h => nomatch h.1⟩
  | some b =>
    rw [yields_pure, Option.some.injEq]

@[simp] theorem yields_fromExcept {r : Except ε α} :
    Yields (fromExcept r : Txn σ ε α) s a s' ↔ r = .ok a ∧ s = s' := by
  unfold fromExcept
  cases r with
  | error e =>
    rw [yields_throw]
    exact ⟨False.elim, fun h => nomatch h.1⟩
  | ok b => rw [yields_pure, Except.ok.injEq]

theorem yields_ite {c : Prop} [Decidable c] {y : Txn σ ε α} :
    Yields (if c then x else y) s a s' ↔ (c ∧ Yields x s a s') ∨ (¬ c ∧ Yields y s a s') := by
  by_cases hc : c
  · rw [if_pos hc]
    exact ⟨fun h => .inl ⟨hc, h⟩, fun h => h.elim (·.2) (fun h' => absurd hc h'.1)⟩
  · rw [if_neg hc]
    exact ⟨fun h => .inr ⟨hc, h⟩, fun h => h.elim (fun h' => absurd h'.1 hc) (·.2)⟩

@[simp] theorem yields_zoom {ρ : Type} {view : ρ → σ} {put : σ → ρ → ρ} {r r' : ρ} :
    Yields (zoom view put x) r a r' ↔ ∃ t, Yields x (view r) a t ∧ r' = put t r := by
  unfold Yields
  change zoom view put x r = _ ↔ _
  unfold zoom
  cases hx : x.run (view r) with
  | error e =>
    constructor
    · intro h
      cases h
    · rintro ⟨t, h, _⟩
      cases h
  | ok p =>
    constructor
    · intro h
      cases h
      exact ⟨p.2, rfl, rfl⟩
    · rintro ⟨t, h, rfl⟩
      cases h
      rfl

/-- A computation that is seen to succeed. -/
theorem exists_yields {x : Txn σ ε α} {s : σ} (h : (x.run s).toOption.isSome = true) :
    ∃ a s', Yields x s a s' := by
  unfold Yields
  cases hrun : x.run s with
  | ok r => exact ⟨r.1, r.2, rfl⟩
  | error e => rw [hrun] at h; cases h

/-- A run either commits or fails. -/
theorem yields_or_fails (x : Txn σ ε α) (s : σ) : (∃ a s', Yields x s a s') ∨ Fails x s := by
  by_cases h : ∃ a s', Yields x s a s'
  · exact .inl h
  · exact .inr fun a s' hy => h ⟨a, s', hy⟩

/-- A run that is rescued commits, or it fails and nothing has changed. -/
theorem yields_rescue {handle : ε → α} :
    Yields (rescue x handle) s a s' ↔
      Yields x s a s' ∨ (Fails x s ∧ s = s' ∧ ∃ e, handle e = a ∧ x.run s = .error e) := by
  have hdef : (rescue x handle).run s =
      match x.run s with
      | .ok r => .ok r
      | .error e => .ok (handle e, s) := rfl
  unfold Fails Yields
  rw [hdef]
  cases hx : x.run s with
  | ok r =>
    refine ⟨Or.inl, fun h => h.elim id fun h => ?_⟩
    exact absurd rfl (h.1 r.1 r.2)
  | error e =>
    constructor
    · intro h
      cases h
      refine .inr ⟨fun a t h => ?_, rfl, e, rfl, rfl⟩
      cases h
    · rintro (h | ⟨_, rfl, _, rfl, he⟩)
      · cases h
      · cases he
        rfl

/-- A run that is rescued never fails. -/
theorem rescue_yields (x : Txn σ ε α) (handle : ε → α) (s : σ) :
    ∃ a s', Yields (rescue x handle) s a s' := by
  cases hx : x.run s with
  | ok r => exact ⟨r.1, r.2, yields_rescue.mpr (.inl hx)⟩
  | error e =>
    have hfails : Fails x s := by
      intro a s' h
      cases hx.symm.trans h
    exact ⟨handle e, s, yields_rescue.mpr (.inr ⟨hfails, rfl, e, rfl, hx⟩)⟩

theorem commit_of_yields (h : Yields x s a s') : commit x s = s' := by
  unfold Yields at h
  simp only [commit, h]

theorem commit_of_fails (h : Fails x s) : commit x s = s := by
  unfold commit
  split
  · next a t ht => exact absurd ht (h a t)
  · rfl

/-- The result of a transaction does not matter for the state that it leaves. -/
theorem commit_bind_pure (x : Txn σ ε α) (f : α → β) (s : σ) :
    commit (x >>= fun a => pure (f a)) s = commit x s := by
  unfold commit
  rw [StateT.run_bind]
  cases x.run s <;> rfl

/-! ## 2. Invariants -/

/-- Every committed run of `x` preserves `I`. -/
def Preserves (I : σ → Prop) (x : Txn σ ε α) : Prop :=
  ∀ ⦃s a s'⦄, Yields x s a s' → I s → I s'

namespace Preserves

variable {I : σ → Prop}

theorem pure' (a : α) : Preserves I (pure a : Txn σ ε α) := by
  intro s b s' h hs
  rw [yields_pure] at h
  exact h.2 ▸ hs

theorem get' : Preserves I (get : Txn σ ε σ) := by
  intro s b s' h hs
  rw [yields_get] at h
  exact h.2 ▸ hs

theorem ensure' {c : Prop} [Decidable c] {e : ε} : Preserves I (ensure c e : Txn σ ε Unit) := by
  intro s b s' h hs
  rw [yields_ensure] at h
  exact h.2 ▸ hs

theorem required' {o : Option α} {e : ε} : Preserves I (required o e : Txn σ ε α) := by
  intro s b s' h hs
  rw [yields_required] at h
  exact h.2 ▸ hs

theorem bind' {f : α → Txn σ ε β} (hx : Preserves I x) (hf : ∀ a, Preserves I (f a)) :
    Preserves I (x >>= f) := by
  intro s b s' h hs
  obtain ⟨a, t, h₁, h₂⟩ := yields_bind.mp h
  exact hf a h₂ (hx h₁ hs)

theorem ite' {c : Prop} [Decidable c] {y : Txn σ ε α} (hx : c → Preserves I x)
    (hy : ¬ c → Preserves I y) :
    Preserves I (if c then x else y) := by
  by_cases hc : c
  · rw [if_pos hc]; exact hx hc
  · rw [if_neg hc]; exact hy hc

theorem forM' {f : α → Txn σ ε Unit} (hf : ∀ a, Preserves I (f a)) (l : List α) :
    Preserves I (l.forM f) := by
  induction l with
  | nil => exact pure' ()
  | cons a l ih => exact bind' (hf a) fun _ => ih

theorem commit' (hx : Preserves I x) (hs : I s) : I (commit x s) := by
  rcases yields_or_fails x s with ⟨a, s', h⟩ | h
  · rw [commit_of_yields h]; exact hx h hs
  · rw [commit_of_fails h]; exact hs

end Preserves

/-- From a state in `P`, a committed run of `x` ends in a state in `Q` of its result. -/
def Ensures (P : σ → Prop) (x : Txn σ ε α) (Q : α → σ → Prop) : Prop :=
  ∀ ⦃s a s'⦄, Yields x s a s' → P s → Q a s'

theorem Ensures.bind' {P : σ → Prop} {Q : α → σ → Prop} {S : β → σ → Prop} {f : α → Txn σ ε β}
    (hx : Ensures P x Q) (hf : ∀ a, Ensures (Q a) (f a) S) : Ensures P (x >>= f) S := by
  intro s b s' h hs
  obtain ⟨a, t, h₁, h₂⟩ := yields_bind.mp h
  exact hf a h₂ (hx h₁ hs)

theorem Ensures.mono {P : σ → Prop} {Q Q' : α → σ → Prop} (hx : Ensures P x Q)
    (h : ∀ a s, Q a s → Q' a s) : Ensures P x Q' :=
  fun _ _ _ hy hs => h _ _ (hx hy hs)

/-- What moves along a relation preserves what the relation carries over. -/
theorem Preserves.of_moves {I : σ → Prop} {R : σ → σ → Prop} (hx : ∀ ⦃s a s'⦄, Yields x s a s' → R s s')
    (h : ∀ s s', R s s' → I s → I s') : Preserves I x :=
  fun _ _ _ hy hs => h _ _ (hx hy) hs

/-! ## 3. Relations between the state before and the state after -/

/-- A relation that single writes can be chained along. -/
class History (R : σ → σ → Prop) : Prop where
  refl : ∀ s, R s s
  trans : ∀ {s t u}, R s t → R t u → R s u

/-- The relation that carries an invariant over: what moves along it preserves the invariant. -/
def Carries (I : σ → Prop) (s s' : σ) : Prop := I s → I s'

instance {I : σ → Prop} : History (Carries I) := ⟨fun _ h => h, fun h k hs => k (h hs)⟩

/-- Every committed run of `x` moves the state along `R`. -/
def Moves (R : σ → σ → Prop) (x : Txn σ ε α) : Prop :=
  ∀ ⦃s a s'⦄, Yields x s a s' → R s s'

theorem Preserves.of_carries {I : σ → Prop} {x : Txn σ ε α} (h : Moves (Carries I) x) :
    Preserves I x := h

namespace Moves

variable {R : σ → σ → Prop} [History R]

theorem pure' (a : α) : Moves R (pure a : Txn σ ε α) := by
  intro s b s' h
  rw [yields_pure] at h
  exact h.2 ▸ History.refl s

omit [History R] in
theorem throw' (e : ε) : Moves R (throw e : Txn σ ε α) := by
  intro s b s' h
  exact (yields_throw.mp h).elim

theorem get' : Moves R (get : Txn σ ε σ) := by
  intro s b s' h
  rw [yields_get] at h
  exact h.2 ▸ History.refl s

omit [History R] in
theorem modify' {f : σ → σ} (hf : ∀ s, R s (f s)) : Moves R (modify f : Txn σ ε Unit) := by
  intro s b s' h
  rw [yields_modify] at h
  exact h ▸ hf s

theorem ensure' {c : Prop} [Decidable c] {e : ε} : Moves R (ensure c e : Txn σ ε Unit) := by
  intro s b s' h
  rw [yields_ensure] at h
  exact h.2 ▸ History.refl s

theorem required' {o : Option α} {e : ε} : Moves R (required o e : Txn σ ε α) := by
  intro s b s' h
  rw [yields_required] at h
  exact h.2 ▸ History.refl s

theorem fromExcept' {r : Except ε α} : Moves R (fromExcept r : Txn σ ε α) := by
  intro s b s' h
  rw [yields_fromExcept] at h
  exact h.2 ▸ History.refl s

theorem bind' {f : α → Txn σ ε β} (hx : Moves R x) (hf : ∀ a, Moves R (f a)) :
    Moves R (x >>= f) := by
  intro s b s' h
  obtain ⟨a, t, h₁, h₂⟩ := yields_bind.mp h
  exact History.trans (hx h₁) (hf a h₂)

omit [History R] in
theorem ite' {c : Prop} [Decidable c] {y : Txn σ ε α} (hx : Moves R x) (hy : Moves R y) :
    Moves R (if c then x else y) := by
  by_cases hc : c
  · rw [if_pos hc]; exact hx
  · rw [if_neg hc]; exact hy

theorem forM' {f : α → Txn σ ε Unit} (hf : ∀ a, Moves R (f a)) (l : List α) :
    Moves R (l.forM f) := by
  induction l with
  | nil => exact pure' ()
  | cons a l ih => exact bind' (hf a) fun _ => ih

theorem rescue' {handle : ε → α} (hx : Moves R x) : Moves R (rescue x handle) := by
  intro s a s' h
  rcases yields_rescue.mp h with h | ⟨_, rfl, _⟩
  · exact hx h
  · exact History.refl s

theorem commit' (hx : Moves R x) (s : σ) : R s (commit x s) := by
  rcases yields_or_fails x s with ⟨a, s', h⟩ | h
  · rw [commit_of_yields h]; exact hx h
  · rw [commit_of_fails h]; exact History.refl s

end Moves

end Txn
