import BebaSacco.Lib.Run
import BebaSacco.Lib.Table

/-! # Transactions that read what others have committed

A transaction that was opened without an isolation level sees, in each of its statements, what others
have committed since, under its own writes. Its writes wait for the commit; the lock of each keeps
the others away from what it writes until then. Transactions of the highest level are served whole,
between two statements, when no lock is in their way.

Results:
 1. `step_cases`: what one event does.
 2. `step_upheld_of`, `step_upheld`: an assertion on the state with an assertion on each running
    transaction is upheld by one event, when each statement, each commit and each change served
    between two statements keeps it.
-/

namespace ReadCommitted

/-- How a write changes the state, and what its lock keeps away: a change of the state by others,
and the writes of other transactions. -/
structure Store (σ ω : Type) where
  apply : ω → σ → σ
  allows : ω → σ → σ → Bool
  clash : ω → ω → Bool
  clash_symm : ∀ v w, clash v w = clash w v

/-- What a statement does: it writes and goes on to the next, or it is the last one. -/
structure Statement (ω τ : Type) where
  writes : List ω
  next : Option τ

/-- The statements of a transaction, each on the state it sees; one that throws gives nothing. -/
structure Program (σ ω α τ : Type) extends Store σ ω where
  entry : α → τ
  statement : τ → σ → Option (Statement ω τ)

/-- A transaction on its way: the point it is at, and the writes that wait for its commit. -/
structure Running (ω τ : Type) where
  point : τ
  writes : List ω
  deriving DecidableEq, Repr

/-- The committed state and the transactions, `none` for one that has ended. -/
structure World (σ ω τ : Type) where
  state : σ
  running : List (Option (Running ω τ))

/-- A change of others, or a transaction starts, does its next statement, or is rolled back. -/
inductive Event (κ α : Type) where
  | serve (k : κ)
  | start (a : α)
  | advance (i : Nat)
  | rollback (i : Nat)
  deriving DecidableEq, Repr

variable {σ ω α τ κ : Type} {P : Program σ ω α τ} {serve : κ → σ → σ} {w : World σ ω τ}
  {e : Event κ α} {s : σ} {r r' : Running ω τ} {i j : Nat}

/-- The state after the writes `ws`. -/
def Store.applyAll (S : Store σ ω) (ws : List ω) (s : σ) : σ := ws.foldl (fun s w => S.apply w s) s

/-- What a running transaction sees. -/
def Program.view (P : Program σ ω α τ) (r : Running ω τ) (s : σ) : σ := P.applyAll r.writes s

/-- Transaction `i` is running. -/
def World.At (w : World σ ω τ) (i : Nat) (r : Running ω τ) : Prop := w.running[i]? = some (some r)

/-- No lock is in the way of a change to `s`. -/
def World.free (P : Program σ ω α τ) (w : World σ ω τ) (s : σ) : Bool :=
  w.running.all fun o => o.all fun r => r.writes.all fun v => P.allows v w.state s

/-- The writes `ws` of transaction `i` wait for the lock of another one. -/
def World.blocked (P : Program σ ω α τ) (w : World σ ω τ) (i : Nat) (ws : List ω) : Bool :=
  (w.running.set i none).any fun o => o.any fun r => r.writes.any fun v => ws.any (P.clash v)

def Program.step (P : Program σ ω α τ) (serve : κ → σ → σ) (w : World σ ω τ) :
    Event κ α → World σ ω τ
  | .serve k => if w.free P (serve k w.state) then { w with state := serve k w.state } else w
  | .start a => { w with running := w.running ++ [some ⟨P.entry a, []⟩] }
  | .advance i =>
    match w.running[i]?.join with
    | none => w
    | some r =>
      match P.statement r.point (P.view r w.state) with
      | none => { w with running := w.running.set i none }
      | some st =>
        if w.blocked P i st.writes then w
        else
          match st.next with
          | some t => { w with running := w.running.set i (some ⟨t, r.writes ++ st.writes⟩) }
          | none => ⟨P.applyAll (r.writes ++ st.writes) w.state, w.running.set i none⟩
  | .rollback i => { w with running := w.running.set i none }

/-! ## 1. One event -/

/-- Two transactions hold no lock that the other one needs. -/
def Apart (P : Program σ ω α τ) (r r' : Running ω τ) : Prop :=
  ∀ v ∈ r.writes, ∀ v' ∈ r'.writes, P.clash v v' = false

theorem apart_symm (h : Apart P r r') : Apart P r' r :=
  fun v hv v' hv' => (P.clash_symm v v').trans (h v' hv' v hv)

theorem free_iff : w.free P s = true ↔ ∀ i r, w.At i r → ∀ v ∈ r.writes, P.allows v w.state s := by
  unfold World.free World.At
  rw [List.all_eq_true]
  constructor
  · intro h i r hat v hv
    have hall := h (some r) (List.mem_of_getElem? hat)
    exact List.all_eq_true.mp hall v hv
  · intro h o ho
    cases o with
    | none => rfl
    | some r =>
      obtain ⟨i, hat⟩ := List.getElem?_of_mem ho
      exact List.all_eq_true.mpr fun v hv => h i r hat v hv

theorem at_set {o : Option (Running ω τ)} (h : (w.running.set i o)[j]? = some (some r)) :
    (j = i ∧ o = some r) ∨ (j ≠ i ∧ w.At j r) := by
  rw [List.getElem?_set] at h
  split at h
  · next hij =>
    split at h
    · exact .inl ⟨hij.symm, Option.some.inj h⟩
    · cases h
  · next hij => exact .inr ⟨fun hji => hij hji.symm, h⟩

/-- The writes that are not blocked clash with those of no other transaction. -/
theorem not_blocked {ws : List ω} (h : w.blocked P i ws = false) (hne : j ≠ i) (hat : w.At j r) :
    ∀ v ∈ r.writes, ∀ v' ∈ ws, P.clash v v' = false := by
  intro v hv v' hv'
  have hmem : some r ∈ w.running.set i none := by
    refine List.mem_of_getElem? (i := j) ?_
    rw [List.getElem?_set_ne hne.symm]
    exact hat
  have hnone := List.any_eq_false.mp h (some r) hmem
  cases hc : P.clash v v' with
  | false => rfl
  | true =>
    refine absurd ?_ hnone
    exact List.any_eq_true.mpr ⟨v, hv, List.any_eq_true.mpr ⟨v', hv', hc⟩⟩

/-- A change is served, a transaction starts, does a statement or commits, or at most a transaction
is rolled back. -/
theorem step_cases (P : Program σ ω α τ) (serve : κ → σ → σ) (w : World σ ω τ) (e : Event κ α) :
    (∃ k, e = .serve k ∧ w.free P (serve k w.state) = true ∧
      P.step serve w e = { w with state := serve k w.state }) ∨
    (∃ a, e = .start a ∧
      P.step serve w e = { w with running := w.running ++ [some ⟨P.entry a, []⟩] }) ∨
    (∃ i r ws t, e = .advance i ∧ w.At i r ∧
      P.statement r.point (P.view r w.state) = some ⟨ws, some t⟩ ∧ w.blocked P i ws = false ∧
      P.step serve w e = { w with running := w.running.set i (some ⟨t, r.writes ++ ws⟩) }) ∨
    (∃ i r ws, e = .advance i ∧ w.At i r ∧
      P.statement r.point (P.view r w.state) = some ⟨ws, none⟩ ∧ w.blocked P i ws = false ∧
      P.step serve w e = ⟨P.applyAll (r.writes ++ ws) w.state, w.running.set i none⟩) ∨
    P.step serve w e = w ∨ ∃ i, P.step serve w e = { w with running := w.running.set i none } := by
  cases e with
  | serve k =>
    cases hfree : w.free P (serve k w.state) with
    | true => exact .inl ⟨k, rfl, hfree, if_pos hfree⟩
    | false =>
      refine .inr (.inr (.inr (.inr (.inl (if_neg ?_)))))
      rw [hfree]
      exact Bool.false_ne_true
  | start a => exact .inr (.inl ⟨a, rfl, rfl⟩)
  | rollback i => exact .inr (.inr (.inr (.inr (.inr ⟨i, rfl⟩))))
  | advance i =>
    -- a statement that is blocked waits, one that fails rolls back, and any other one goes on or
    -- commits
    refine .inr (.inr ?_)
    cases hat : w.running[i]?.join with
    | none =>
      refine .inr (.inr (.inl ?_))
      unfold Program.step
      simp only [hat]
    | some r =>
      have hrow : w.At i r := Option.join_eq_some_iff.mp hat
      cases hst : P.statement r.point (P.view r w.state) with
      | none =>
        refine .inr (.inr (.inr ⟨i, ?_⟩))
        unfold Program.step
        simp only [hat, hst]
      | some st =>
        obtain ⟨ws, next⟩ := st
        cases hblocked : w.blocked P i ws with
        | true =>
          refine .inr (.inr (.inl ?_))
          unfold Program.step
          simp only [hat, hst, hblocked, if_true]
        | false =>
          unfold Program.step
          simp only [hat, hst, hblocked, Bool.false_eq_true, if_false]
          cases next with
          | some t => exact .inl ⟨i, r, ws, t, rfl, hrow, hst, hblocked, rfl⟩
          | none => exact .inr (.inl ⟨i, r, ws, rfl, hrow, hst, hblocked, rfl⟩)

/-! ## 2. Assertions -/

/-- `I` holds of the committed state and `J` of every running transaction on it, and no two of
them hold a lock that the other one needs. -/
structure Upheld (P : Program σ ω α τ) (I : σ → Prop) (J : σ → Running ω τ → Prop)
    (w : World σ ω τ) : Prop where
  state : I w.state
  each : ∀ i r, w.At i r → J w.state r
  apart : ∀ i j r r', i ≠ j → w.At i r → w.At j r' → Apart P r r'

/-- What the changes, the statements and the commits have to keep. -/
structure Keeps (P : Program σ ω α τ) (serve : κ → σ → σ) (I : σ → Prop)
    (J : σ → Running ω τ → Prop) : Prop where
  served : ∀ k s, I s → I (serve k s)
  held : ∀ k s r, I s → J s r → (∀ v ∈ r.writes, P.allows v s (serve k s)) → J (serve k s) r
  begun : ∀ a s, I s → J s ⟨P.entry a, []⟩
  goes : ∀ s r ws t, I s → J s r → P.statement r.point (P.view r s) = some ⟨ws, some t⟩ →
    J s ⟨t, r.writes ++ ws⟩
  commits : ∀ s r ws, I s → J s r → P.statement r.point (P.view r s) = some ⟨ws, none⟩ →
    I (P.applyAll (r.writes ++ ws) s)
  aside : ∀ s ws r, I s → J s r → (∀ v ∈ r.writes, ∀ v' ∈ ws, P.clash v v' = false) →
    J (P.applyAll ws s) r

variable {I : σ → Prop} {J : σ → Running ω τ → Prop}

/-- What one event of a world owes. -/
structure Owes (P : Program σ ω α τ) (serve : κ → σ → σ) (I : σ → Prop)
    (J : σ → Running ω τ → Prop) (w : World σ ω τ) (e : Event κ α) : Prop where
  served : ∀ k, e = .serve k → I (serve k w.state) ∧
    ∀ r, J w.state r → (∀ v ∈ r.writes, P.allows v w.state (serve k w.state)) →
      J (serve k w.state) r
  begun : ∀ a, e = .start a → J w.state ⟨P.entry a, []⟩
  goes : ∀ i r ws t, e = .advance i → w.At i r → J w.state r →
    P.statement r.point (P.view r w.state) = some ⟨ws, some t⟩ → J w.state ⟨t, r.writes ++ ws⟩
  commits : ∀ i r ws, e = .advance i → w.At i r → J w.state r →
    P.statement r.point (P.view r w.state) = some ⟨ws, none⟩ →
    I (P.applyAll (r.writes ++ ws) w.state) ∧
      ∀ r', J w.state r' → (∀ v ∈ r'.writes, ∀ v' ∈ r.writes ++ ws, P.clash v v' = false) →
        J (P.applyAll (r.writes ++ ws) w.state) r'

theorem step_upheld_of (h : Upheld P I J w) (howes : Owes P serve I J w e) :
    Upheld P I J (P.step serve w e) := by
  have hrolled : ∀ i, Upheld P I J { w with running := w.running.set i none } := by
    refine fun i => ⟨h.state, fun j r hat => ?_, fun j k r r' hne hj hk' => ?_⟩
    · obtain ⟨_, hnone⟩ | ⟨_, hat⟩ := at_set hat
      · cases hnone
      · exact h.each j r hat
    · obtain ⟨_, hnone⟩ | ⟨_, hj⟩ := at_set hj
      · cases hnone
      obtain ⟨_, hnone⟩ | ⟨_, hk'⟩ := at_set hk'
      · cases hnone
      exact h.apart j k r r' hne hj hk'
  rcases step_cases P serve w e with ⟨k, he, hfree, hstep⟩ | ⟨a, he, hstep⟩ |
    ⟨i, r, ws, t, he, hat, hst, hblocked, hstep⟩ | ⟨i, r, ws, he, hat, hst, hblocked, hstep⟩ |
    hstep | ⟨i, hstep⟩
  · rw [hstep]
    obtain ⟨hstate, hheld⟩ := howes.served k he
    exact ⟨hstate, fun i r hat => hheld r (h.each i r hat) (free_iff.mp hfree i r hat), h.apart⟩
  · rw [hstep]
    refine ⟨h.state, fun i r hat => ?_, fun i j r r' hne hi hj => ?_⟩
    · rcases Table.getElem?_append_one_some hat with hold | ⟨_, hnew⟩
      · exact h.each i r hold
      · cases hnew
        exact howes.begun a he
    · rcases Table.getElem?_append_one_some hi with hi | ⟨_, hnew⟩
      · rcases Table.getElem?_append_one_some hj with hj | ⟨_, hnew⟩
        · exact h.apart i j r r' hne hi hj
        · cases hnew
          exact fun _ _ _ hv' => absurd hv' List.not_mem_nil
      · cases hnew
        exact fun _ hv => absurd hv List.not_mem_nil
  · rw [hstep]
    -- the locks that are new were not held by another transaction
    have hnew : ∀ j r', j ≠ i → w.At j r' → Apart P ⟨t, r.writes ++ ws⟩ r' := by
      intro j r' hne hj v hv v' hv'
      rcases List.mem_append.mp hv with hv | hv
      · exact h.apart i j r r' hne.symm hat hj v hv v' hv'
      · exact (P.clash_symm v v').trans (not_blocked hblocked hne hj v' hv' v hv)
    refine ⟨h.state, fun j r' hj => ?_, fun j k r₁ r₂ hne hj hk' => ?_⟩
    · obtain ⟨_, hown⟩ | ⟨_, hj⟩ := at_set hj
      · cases hown
        exact howes.goes i r ws t he hat (h.each i r hat) hst
      · exact h.each j r' hj
    · obtain ⟨hji, hown⟩ | ⟨hji, hj'⟩ := at_set hj
      · cases hown
        obtain ⟨hki, _⟩ | ⟨hki, hk'⟩ := at_set hk'
        · exact absurd (hji.trans hki.symm) hne
        · exact hnew k r₂ hki hk'
      · obtain ⟨_, hown⟩ | ⟨_, hk'⟩ := at_set hk'
        · cases hown
          exact apart_symm (hnew j r₁ hji hj')
        · exact h.apart j k r₁ r₂ hne hj' hk'
  · rw [hstep]
    obtain ⟨hstate, haside⟩ := howes.commits i r ws he hat (h.each i r hat) hst
    refine ⟨hstate, fun j r' hj => ?_, (hrolled i).apart⟩
    obtain ⟨_, hnone⟩ | ⟨hne, hj⟩ := at_set hj
    · cases hnone
    refine haside r' (h.each j r' hj) fun v hv v' hv' => ?_
    rcases List.mem_append.mp hv' with hv' | hv'
    · exact h.apart j i r' r hne hj hat v hv v' hv'
    · exact not_blocked hblocked hne hj v hv v' hv'
  · rw [hstep]
    exact h
  · rw [hstep]
    exact hrolled i

theorem step_upheld (hk : Keeps P serve I J) (h : Upheld P I J w) :
    Upheld P I J (P.step serve w e) := by
  refine step_upheld_of h ⟨fun k _ => ⟨hk.served k _ h.state, fun r hr => ?_⟩, fun a _ => ?_,
    fun i r ws t _ _ hr hst => ?_, fun i r ws _ _ hr hst => ⟨?_, fun r' hr' => ?_⟩⟩
  · exact hk.held k _ r h.state hr
  · exact hk.begun a _ h.state
  · exact hk.goes _ r ws t h.state hr hst
  · exact hk.commits _ r ws h.state hr hst
  · exact hk.aside _ _ r' h.state hr'

/-- Nothing runs at the start. -/
theorem opening_upheld (hs : I s) : Upheld P I J ⟨s, []⟩ where
  state := hs
  each _ _ hat := by cases hat
  apart _ _ _ _ _ hat := by cases hat

theorem run_upheld (hk : Keeps P serve I J) (h : Upheld P I J w) (events : List (Event κ α)) :
    Upheld P I J (Machine.run (P.step serve) w events) := by
  have hall : Machine.Guarded (P.step serve) (fun _ _ => True) w events :=
    Machine.guarded_of_forall fun _ _ => trivial
  exact Machine.run_induct (fun _ _ h _ => step_upheld hk h) h hall

/-! ## 3. A transaction by itself -/

/-- What a transaction leaves when nobody else is there, `none` when it throws or takes more statements
than `fuel`. -/
def Program.alone (P : Program σ ω α τ) (fuel : Nat) (r : Running ω τ) (s : σ) : Option σ :=
  match fuel with
  | 0 => none
  | fuel + 1 =>
    match P.statement r.point (P.view r s) with
    | none => none
    | some st =>
      match st.next with
      | some t => P.alone fuel ⟨t, r.writes ++ st.writes⟩ s
      | none => some (P.applyAll (r.writes ++ st.writes) s)

theorem alone_next {fuel : Nat} {ws : List ω} {t : τ}
    (h : P.statement r.point (P.view r s) = some ⟨ws, some t⟩) :
    P.alone (fuel + 1) r s = P.alone fuel ⟨t, r.writes ++ ws⟩ s := by
  rw [Program.alone, h]

theorem alone_last {fuel : Nat} {ws : List ω}
    (h : P.statement r.point (P.view r s) = some ⟨ws, none⟩) :
    P.alone (fuel + 1) r s = some (P.applyAll (r.writes ++ ws) s) := by
  rw [Program.alone, h]

theorem alone_throws {fuel : Nat} (h : P.statement r.point (P.view r s) = none) :
    P.alone fuel r s = none := by
  cases fuel with
  | zero => rfl
  | succ fuel => rw [Program.alone, h]

/-- Nothing more happens when it has ended. -/
theorem run_ended (fuel : Nat) (s : σ) :
    Machine.run (P.step serve) ⟨s, [none]⟩ (List.replicate fuel (.advance 0)) = ⟨s, [none]⟩ := by
  induction fuel with
  | zero => rfl
  | succ fuel ih =>
    rw [List.replicate_succ, Machine.run_cons]
    exact ih

theorem step_alone {st : Statement ω τ} (h : P.statement r.point (P.view r s) = some st) :
    P.step serve ⟨s, [some r]⟩ (.advance 0) =
      match st.next with
      | some t => ⟨s, [some ⟨t, r.writes ++ st.writes⟩]⟩
      | none => ⟨P.applyAll (r.writes ++ st.writes) s, [none]⟩ := by
  have hfree : World.blocked P ⟨s, [some r]⟩ 0 st.writes = false := rfl
  simp only [Program.step, List.getElem?_cons_zero, Option.join_some, h, hfree, List.set_cons_zero,
    Bool.false_eq_true, if_false]

/-- A world in which only this transaction runs comes to what it leaves. -/
theorem run_alone (fuel : Nat) (r : Running ω τ) (s s' : σ) (h : P.alone fuel r s = some s') :
    Machine.run (P.step serve) ⟨s, [some r]⟩ (List.replicate fuel (.advance 0)) = ⟨s', [none]⟩ := by
  induction fuel generalizing r with
  | zero => cases h
  | succ fuel ih =>
    rw [List.replicate_succ, Machine.run_cons]
    cases hst : P.statement r.point (P.view r s) with
    | none =>
      rw [alone_throws hst] at h
      cases h
    | some st =>
      obtain ⟨ws, next⟩ := st
      rw [step_alone hst]
      cases next with
      | some t => exact ih _ (alone_next hst ▸ h)
      | none =>
        obtain rfl := Option.some.inj ((alone_last hst).symm.trans h)
        exact run_ended fuel _

end ReadCommitted
