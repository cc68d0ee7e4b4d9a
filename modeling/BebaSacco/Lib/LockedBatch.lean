import BebaSacco.Lib.Run
import BebaSacco.Lib.Table
import BebaSacco.Lib.Transaction

/-! # A batch behind a lock

A batch is started any number of times. A start takes a lock that nobody gives back, reads its list
once and works through it, one item after the other: it prepares an item, performs what it prepared
in a transaction of its own, and goes on when either of them fails. A start that does not get the
lock returns at once. The lock goes away when its time is over; others change the state at any
moment, and a start can be lost between any two statements.

Results:
 1. `step_state`: what one event does to the state.
    `holds_step`: what is true of the items when they are listed is true of them later.
 2. `covered_step`: while the batch is `diligent`, an item is listed until it is settled, and it is
    settled once a start has returned.
-/

namespace LockedBatch

open Txn

/-- The items, what is prepared of one, and the count that is returned. -/
structure Batch (σ ε α π ρ : Type) where
  list : σ → List α
  prepare : α → σ → Option π
  perform : π → Txn σ ε Unit
  key : α → Nat
  planKey : π → Nat
  planKey_eq : ∀ a s p, prepare a s = some p → planKey p = key a
  zero : ρ
  idle : ρ → ρ
  done : π → ρ → ρ
  failed : ρ → ρ

/-- The next statement of a start. -/
inductive Point (α π ρ : Type) where
  | lock
  | list
  | prepare (rest : List α) (r : ρ)
  | perform (p : π) (rest : List α) (r : ρ)
  deriving DecidableEq, Repr

/-- A statement is done, it fails, or it is done and its reply is lost. -/
inductive Reply | ok | fails | lost
  deriving DecidableEq, Repr

/-- The lock, the starts (`none` for one that is over), what those returned that returned, and
whether one of them had worked through its list. -/
structure World (σ α π ρ : Type) where
  state : σ
  locked : Bool
  starts : List (Option (Point α π ρ))
  returned : List ρ
  completed : Bool

inductive Event (κ : Type) where
  | start
  | advance (i : Nat) (reply : Reply)
  | crash (i : Nat)
  | expire
  | serve (k : κ)
  deriving DecidableEq, Repr

variable {σ ε α π ρ κ : Type} {B : Batch σ ε α π ρ} {serve : κ → σ → σ} {w w' : World σ α π ρ}
  {e : Event κ} {i j : Nat} {p : Point α π ρ} {plan : π} {a : α} {rest : List α} {r : ρ} {s s' : σ}

/-- Start `i` is about to do the statement `p`. -/
def World.At (w : World σ α π ρ) (i : Nat) (p : Point α π ρ) : Prop := w.starts[i]? = some (some p)

def World.goes (w : World σ α π ρ) (i : Nat) (p : Point α π ρ) : World σ α π ρ :=
  { w with starts := w.starts.set i (some p) }

def World.ends (w : World σ α π ρ) (i : Nat) : World σ α π ρ :=
  { w with starts := w.starts.set i none }

def World.returns (w : World σ α π ρ) (i : Nat) (r : ρ) : World σ α π ρ :=
  { w with starts := w.starts.set i none, returned := w.returned ++ [r] }

/-- One statement of start `i`. An error of the lock counts as a lock that is taken, an error of the
list is thrown, and an error of an item is caught. -/
def Batch.advance (B : Batch σ ε α π ρ) (w : World σ α π ρ) (i : Nat) (reply : Reply) :
    Point α π ρ → World σ α π ρ
  | .lock =>
    match reply with
    | .ok => if w.locked then w.returns i B.zero else { w with locked := true }.goes i .list
    | .fails => w.returns i B.zero
    | .lost => { w with locked := true }.returns i B.zero
  | .list =>
    match reply with
    | .ok => w.goes i (.prepare (B.list w.state) B.zero)
    | _ => w.ends i
  | .prepare [] r => { w with completed := true }.returns i r
  | .prepare (a :: rest) r =>
    match reply with
    | .ok =>
      match B.prepare a w.state with
      | none => w.goes i (.prepare rest (B.idle r))
      | some plan => w.goes i (.perform plan rest r)
    | _ => w.goes i (.prepare rest (B.failed r))
  | .perform plan rest r =>
    match reply with
    | .ok =>
      match (B.perform plan).run w.state with
      | .ok (_, s) => { w with state := s }.goes i (.prepare rest (B.done plan r))
      | .error _ => w.goes i (.prepare rest (B.failed r))
    | .fails => w.goes i (.prepare rest (B.failed r))
    | .lost => { w with state := commit (B.perform plan) w.state }.goes i
        (.prepare rest (B.failed r))

def Batch.step (B : Batch σ ε α π ρ) (serve : κ → σ → σ) (w : World σ α π ρ) :
    Event κ → World σ α π ρ
  | .start => { w with starts := w.starts ++ [some .lock] }
  | .advance i reply =>
    match w.starts[i]?.join with
    | none => w
    | some p => B.advance w i reply p
  | .crash i => w.ends i
  | .expire => { w with locked := false }
  | .serve k => { w with state := serve k w.state }

/-! ## 1. Diligence -/

/-- The transaction of a plan commits. -/
def Batch.commits (B : Batch σ ε α π ρ) (plan : π) (s : σ) : Bool :=
  match (B.perform plan).run s with
  | .ok _ => true
  | .error _ => false

/-- The statement leaves no item behind that is not settled: a start that does not get the lock
comes after one that worked through its list, and an item is only passed over when it is settled. -/
def Batch.diligent (B : Batch σ ε α π ρ) (settled : Nat → σ → Bool) (w : World σ α π ρ)
    (reply : Reply) : Point α π ρ → Bool
  | .lock => w.completed || (reply == .ok && !w.locked)
  | .prepare (a :: _) _ =>
    settled (B.key a) w.state || (reply == .ok && (B.prepare a w.state).isSome)
  | .perform plan _ _ =>
    settled (B.planKey plan) w.state || (reply != .fails && B.commits plan w.state)
  | _ => true

/-- The event leaves no item behind that is not settled. -/
def Batch.careful (B : Batch σ ε α π ρ) (settled : Nat → σ → Bool) (w : World σ α π ρ) :
    Event κ → Bool
  | .advance i reply => (w.starts[i]?.join).all (B.diligent settled w reply)
  | _ => true

/-! ## 2. One event -/

theorem commits_iff : B.commits plan s = true ↔ ∃ s', Yields (B.perform plan) s () s' := by
  unfold Batch.commits Yields
  cases hrun : (B.perform plan).run s with
  | ok x =>
    refine ⟨fun _ => ⟨x.2, rfl⟩, fun _ => rfl⟩
  | error _ =>
    constructor
    · intro h
      cases h
    · rintro ⟨s', h⟩
      cases h

theorem at_set {o : Option (Point α π ρ)} (h : (w.starts.set i o)[j]? = some (some p)) :
    (j = i ∧ o = some p) ∨ (j ≠ i ∧ w.At j p) := by
  rw [List.getElem?_set] at h
  split at h
  · next hij =>
    split at h
    · exact .inl ⟨hij.symm, Option.some.inj h⟩
    · cases h
  · next hij => exact .inr ⟨fun hji => hij hji.symm, h⟩

/-- The transaction of a plan commits, others change the state, or nothing does. -/
theorem step_state (B : Batch σ ε α π ρ) (serve : κ → σ → σ) (w : World σ α π ρ) (e : Event κ) :
    (∃ i reply plan rest r, e = .advance i reply ∧ reply ≠ .fails ∧ w.At i (.perform plan rest r) ∧
      Yields (B.perform plan) w.state () (B.step serve w e).state) ∨
    (∃ k, e = .serve k ∧ (B.step serve w e).state = serve k w.state) ∨
    (B.step serve w e).state = w.state := by
  cases e with
  | start | crash _ | expire => exact .inr (.inr rfl)
  | serve k => exact .inr (.inl ⟨k, rfl, rfl⟩)
  | advance i reply =>
    unfold Batch.step
    dsimp only
    cases hat : w.starts[i]?.join with
    | none => exact .inr (.inr rfl)
    | some p =>
      have hrow : w.At i p := Option.join_eq_some_iff.mp hat
      cases p with
      | lock =>
        refine .inr (.inr ?_)
        cases reply with
        | ok =>
          unfold Batch.advance
          dsimp only
          split
          · rfl
          · rfl
        -- the reply is lost after the transaction ran, so the state may have changed
        | fails | lost => rfl
      | list =>
        cases reply with
        | ok | fails | lost => exact .inr (.inr rfl)
      | prepare items r =>
        refine .inr (.inr ?_)
        cases items with
        | nil => rfl
        | cons a rest =>
          cases reply with
          | ok =>
            unfold Batch.advance
            dsimp only
            split
            · rfl
            · rfl
          | fails | lost => rfl
      | perform plan rest r =>
        cases reply with
        | ok =>
          cases hrun : (B.perform plan).run w.state with
          | ok x =>
            refine .inl ⟨i, .ok, plan, rest, r, rfl, nofun, hrow, ?_⟩
            unfold Batch.advance
            simp only [hrun]
            exact hrun
          | error _ =>
            refine .inr (.inr ?_)
            unfold Batch.advance
            simp only [hrun]
            rfl
        | fails => exact .inr (.inr rfl)
        | lost =>
          rcases yields_or_fails (B.perform plan) w.state with ⟨u, s', hy⟩ | hfail
          · refine .inl ⟨i, .lost, plan, rest, r, rfl, nofun, hrow, ?_⟩
            show Yields (B.perform plan) w.state () (commit (B.perform plan) w.state)
            rw [commit_of_yields hy]
            exact hy
          · exact .inr (.inr (commit_of_fails hfail))

/-- `Q` of the items that are still to be prepared, and `R` of the plan that is to be performed. -/
def Point.Holds (Q : α → Prop) (R : π → Prop) : Point α π ρ → Prop
  | .lock | .list => True
  | .prepare rest _ => ∀ a ∈ rest, Q a
  | .perform plan rest _ => R plan ∧ ∀ a ∈ rest, Q a

theorem holds_set {Q : α → Prop} {R : π → Prop} {o : Option (Point α π ρ)}
    (h : ∀ j p, w.At j p → p.Holds Q R) (ho : ∀ p, o = some p → p.Holds Q R)
    (hat : (w.starts.set i o)[j]? = some (some p)) : p.Holds Q R := by
  obtain ⟨_, hown⟩ | ⟨_, hat⟩ := at_set hat
  · exact ho p hown
  · exact h j p hat

/-- What is true of every listed item, and of every plan that is prepared of one. -/
theorem holds_step {Q : α → Prop} {R : π → Prop} (hlist : ∀ s, ∀ a ∈ B.list s, Q a)
    (hplan : ∀ a s plan, Q a → B.prepare a s = some plan → R plan)
    (h : ∀ j p, w.At j p → p.Holds Q R) : ∀ j p, (B.step serve w e).At j p → p.Holds Q R := by
  intro j p hat
  cases e with
  | start =>
    rcases Table.getElem?_append_one_some hat with hold | ⟨_, hnew⟩
    · exact h j p hold
    · cases hnew
      trivial
  | crash i => exact holds_set h (fun _ ho => by cases ho) hat
  | expire | serve k => exact h j p hat
  | advance i reply =>
    unfold Batch.step at hat
    dsimp only at hat
    cases hrow : w.starts[i]?.join with
    | none =>
      rw [hrow] at hat
      exact h j p hat
    | some q =>
      rw [hrow] at hat
      have hq := h i q (Option.join_eq_some_iff.mp hrow)
      cases q with
      | lock =>
        cases reply with
        | ok =>
          unfold Batch.advance at hat
          dsimp only at hat
          split at hat
          · exact holds_set h (fun _ ho => by cases ho) hat
          · exact holds_set h (fun _ ho => by cases ho; trivial) hat
        | fails | lost => exact holds_set h (fun _ ho => by cases ho) hat
      | list =>
        cases reply with
        | ok => exact holds_set h (fun _ ho => by cases ho; exact hlist _) hat
        | fails | lost => exact holds_set h (fun _ ho => by cases ho) hat
      | prepare items r =>
        cases items with
        | nil => exact holds_set h (fun _ ho => by cases ho) hat
        | cons a rest =>
          have hrest : ∀ b ∈ rest, Q b := fun b hb => hq b (List.mem_cons_of_mem a hb)
          cases reply with
          | ok =>
            unfold Batch.advance at hat
            dsimp only at hat
            split at hat
            · exact holds_set h (fun _ ho => by cases ho; exact hrest) hat
            · next plan hprepare =>
              refine holds_set h (fun _ ho => ?_) hat
              cases ho
              exact ⟨hplan a _ plan (hq a List.mem_cons_self) hprepare, hrest⟩
          | fails | lost => exact holds_set h (fun _ ho => by cases ho; exact hrest) hat
      | perform plan rest r =>
        cases reply with
        | ok =>
          unfold Batch.advance at hat
          dsimp only at hat
          split at hat
          · exact holds_set h (fun _ ho => by cases ho; exact hq.2) hat
          · exact holds_set h (fun _ ho => by cases ho; exact hq.2) hat
        | fails | lost => exact holds_set h (fun _ ho => by cases ho; exact hq.2) hat

/-- What settles the items, and the item `id` on the list until it is. -/
structure Settles (B : Batch σ ε α π ρ) (serve : κ → σ → σ) (settled : Nat → σ → Bool) : Prop where
  served : ∀ k s id, settled id s = true → settled id (serve k s) = true
  performed : ∀ plan s s', Yields (B.perform plan) s () s' → settled (B.planKey plan) s' = true
  kept : ∀ plan s s' id, Yields (B.perform plan) s () s' → settled id s = true →
    settled id s' = true

/-- The item `id` is still before the start, or settled. -/
def Awaits (B : Batch σ ε α π ρ) (settled : Nat → σ → Bool) (id : Nat) (s : σ) :
    Point α π ρ → Prop
  | .lock => True
  | .list => True
  | .prepare rest _ => settled id s = true ∨ ∃ a ∈ rest, B.key a = id
  | .perform plan rest _ =>
    settled id s = true ∨ B.planKey plan = id ∨ ∃ a ∈ rest, B.key a = id

/-- The item `id` awaits every start that is under way, and it is settled when a start has
returned. -/
structure Covered (B : Batch σ ε α π ρ) (settled : Nat → σ → Bool) (id : Nat)
    (w : World σ α π ρ) : Prop where
  each : ∀ i p, w.At i p → Awaits B settled id w.state p
  completed : w.completed = true → settled id w.state = true
  returned : w.returned ≠ [] → w.completed = true

theorem awaits_kept {settled : Nat → σ → Bool} {id : Nat}
    (hk : settled id s = true → settled id s' = true) (h : Awaits B settled id s p) :
    Awaits B settled id s' p := by
  cases p with
  | lock => exact trivial
  | list => exact trivial
  | prepare rest r => exact h.imp hk fun hrest => hrest
  | perform plan rest r => exact h.imp hk fun hrest => hrest

section Events

variable {settled : Nat → σ → Bool} {id : Nat}

/-- The starts go on, on a state in which nothing is unsettled again. -/
theorem covered_goes (h : Covered B settled id w)
    (hk : settled id w.state = true → settled id s = true) (hp : Awaits B settled id s p)
    (locked : Bool) :
    Covered B settled id { w with state := s, locked, starts := w.starts.set i (some p) } := by
  refine ⟨fun j q hat => ?_, fun hc => hk (h.completed hc), h.returned⟩
  obtain ⟨_, hown⟩ | ⟨_, hat⟩ := at_set hat
  · cases hown
    exact hp
  · exact awaits_kept hk (h.each j q hat)

/-- A start ends, and returns something or nothing. -/
theorem covered_ends (h : Covered B settled id w) (locked completed : Bool) (returned : List ρ)
    (hc : completed = true → settled id w.state = true) (hr : returned ≠ [] → completed = true) :
    Covered B settled id
      { w with locked, starts := w.starts.set i none, returned, completed } := by
  refine ⟨fun j q hat => ?_, hc, hr⟩
  obtain ⟨_, hnone⟩ | ⟨_, hat⟩ := at_set hat
  · cases hnone
  · exact h.each j q hat

/-- A start passes over an item that is settled. -/
theorem awaits_rest {r' : ρ} (hp : settled (B.key a) s = true)
    (h : Awaits B settled id s (.prepare (a :: rest) r)) :
    Awaits B settled id s (.prepare rest r') := by
  rcases h with hs | ⟨b, hb, hkey⟩
  · exact .inl hs
  · rcases List.mem_cons.mp hb with rfl | hb
    · exact .inl (hkey ▸ hp)
    · exact .inr ⟨b, hb, hkey⟩

theorem awaits_performed {r' : ρ} (hp : settled (B.planKey plan) s' = true)
    (hk : settled id s = true → settled id s' = true)
    (h : Awaits B settled id s (.perform plan rest r)) :
    Awaits B settled id s' (.prepare rest r') := by
  rcases h with hs | rfl | hrest
  · exact .inl (hk hs)
  · exact .inl hp
  · exact .inr hrest

/-- A start takes the lock, or returns behind one that holds it. -/
theorem covered_lock {reply : Reply} (h : Covered B settled id w)
    (hd : B.diligent settled w reply .lock = true) :
    Covered B settled id (B.advance w i reply .lock) := by
  have hreturn : w.completed = true → ∀ locked, Covered B settled id
      { w with locked, starts := w.starts.set i none, returned := w.returned ++ [B.zero] } :=
    fun hc locked => covered_ends h locked w.completed _ h.completed fun _ => hc
  have hlock : w.completed = true ∨ (reply = .ok ∧ w.locked = false) := by
    simpa [Batch.diligent] using hd
  cases reply with
  | ok =>
    unfold Batch.advance
    dsimp only
    split
    · next htaken =>
      refine hreturn (hlock.resolve_right fun hfree => ?_) w.locked
      rw [hfree.2] at htaken
      cases htaken
    · exact covered_goes (p := .list) h (fun hs => hs) trivial true
  | fails =>
    refine hreturn (hlock.resolve_right fun hfree => ?_) w.locked
    cases hfree.1
  | lost =>
    refine hreturn (hlock.resolve_right fun hfree => ?_) true
    cases hfree.1

/-- A start looks at its next item, and goes to perform it or passes over it. -/
theorem covered_prepare {reply : Reply} (h : Covered B settled id w)
    (hown : Awaits B settled id w.state (.prepare (a :: rest) r))
    (hd : B.diligent settled w reply (.prepare (a :: rest) r) = true) :
    Covered B settled id (B.advance w i reply (.prepare (a :: rest) r)) := by
  have hitem : settled (B.key a) w.state = true ∨
      (reply = .ok ∧ (B.prepare a w.state).isSome = true) := by
    simpa [Batch.diligent] using hd
  have hskip : ∀ r', settled (B.key a) w.state = true →
      Covered B settled id (w.goes i (.prepare rest r')) := fun r' hsettled =>
    covered_goes h (fun hs => hs) (awaits_rest hsettled hown) w.locked
  cases reply with
  | ok =>
    unfold Batch.advance
    dsimp only
    cases hprep : B.prepare a w.state with
    | none =>
      rw [hprep] at hitem
      exact hskip _ (hitem.resolve_right fun hsome => Bool.false_ne_true hsome.2)
    | some plan =>
      refine covered_goes h (fun hs => hs) ?_ w.locked
      rcases hown with hs | ⟨b, hb, hkey⟩
      · exact .inl hs
      · rcases List.mem_cons.mp hb with rfl | hb
        · exact .inr (.inl ((B.planKey_eq _ _ _ hprep).trans hkey))
        · exact .inr (.inr ⟨b, hb, hkey⟩)
  | fails => exact hskip _ (hitem.resolve_right fun hok => by cases hok.1)
  | lost => exact hskip _ (hitem.resolve_right fun hok => by cases hok.1)

/-- A start performs a plan, which settles its item unless it was settled before. -/
theorem covered_perform {reply : Reply} (hs : Settles B serve settled) (h : Covered B settled id w)
    (hown : Awaits B settled id w.state (.perform plan rest r))
    (hd : B.diligent settled w reply (.perform plan rest r) = true) :
    Covered B settled id (B.advance w i reply (.perform plan rest r)) := by
  have hplan : settled (B.planKey plan) w.state = true ∨
      (reply ≠ .fails ∧ B.commits plan w.state = true) := by
    simpa [Batch.diligent] using hd
  have hfails : (∀ s', ¬ Yields (B.perform plan) w.state () s') ∨ reply = .fails →
      Covered B settled id (w.goes i (.prepare rest (B.failed r))) := by
    intro hfail
    have hskip := hplan.resolve_right fun hok => by
      obtain ⟨s', hy⟩ := commits_iff.mp hok.2
      exact hfail.elim (fun hno => hno s' hy) hok.1
    exact covered_goes h (fun hs => hs) (awaits_performed hskip (fun hs => hs) hown) w.locked
  have hcommit : ∀ s' r', Yields (B.perform plan) w.state () s' →
      Covered B settled id ({ w with state := s' }.goes i (.prepare rest r')) :=
    fun s' r' hy => covered_goes h (hs.kept plan _ s' id hy)
      (awaits_performed (hs.performed plan _ s' hy) (hs.kept plan _ s' id hy) hown) w.locked
  cases reply with
  | ok =>
    unfold Batch.advance
    dsimp only
    cases hrun : (B.perform plan).run w.state with
    | ok x => exact hcommit x.2 _ hrun
    | error _ =>
      refine hfails (.inl fun s' hy => ?_)
      unfold Yields at hy
      rw [hrun] at hy
      cases hy
  | fails => exact hfails (.inr rfl)
  | lost =>
    -- nobody hears of the commit, but it was made or it failed
    unfold Batch.advance
    dsimp only
    rcases yields_or_fails (B.perform plan) w.state with ⟨u, s', hy⟩ | hfail
    · rw [commit_of_yields hy]
      exact hcommit s' _ hy
    · rw [commit_of_fails hfail]
      exact hfails (.inl fun s' => hfail () s')

/-- One statement of a start. -/
theorem covered_advance {reply : Reply} (hs : Settles B serve settled)
    (h : Covered B settled id w) (hat : w.At i p) (hd : B.diligent settled w reply p = true)
    (hlist : settled id w.state = true ∨ ∃ a ∈ B.list w.state, B.key a = id) :
    Covered B settled id (B.advance w i reply p) := by
  have hown := h.each i p hat
  cases p with
  | lock => exact covered_lock h hd
  | list =>
    cases reply with
    | ok =>
      exact covered_goes (p := .prepare (B.list w.state) B.zero) h (fun hs => hs) hlist w.locked
    | fails => exact covered_ends h w.locked w.completed w.returned h.completed h.returned
    | lost => exact covered_ends h w.locked w.completed w.returned h.completed h.returned
  | prepare items r =>
    cases items with
    | nil =>
      -- the list is at its end: what is awaited is settled, so the start may return
      refine covered_ends h w.locked true _ (fun _ => ?_) fun _ => rfl
      rcases hown with hs | ⟨b, hb, _⟩
      · exact hs
      · cases hb
    | cons a rest => exact covered_prepare h hown hd
  | perform plan rest r => exact covered_perform hs h hown hd

/-- An event that is careful keeps the item before every start until it is settled, and settles it
before a start returns. -/
theorem covered_step (hs : Settles B serve settled) (h : Covered B settled id w)
    (hc : B.careful settled w e = true)
    (hlist : settled id w.state = true ∨ ∃ a ∈ B.list w.state, B.key a = id) :
    Covered B settled id (B.step serve w e) := by
  cases e with
  | start =>
    refine ⟨fun i p hat => ?_, h.completed, h.returned⟩
    rcases Table.getElem?_append_one_some hat with hold | ⟨_, hnew⟩
    · exact h.each i p hold
    · cases hnew
      exact trivial
  | crash i => exact covered_ends h w.locked w.completed w.returned h.completed h.returned
  | expire => exact ⟨h.each, h.completed, h.returned⟩
  | serve k =>
    have hk : settled id w.state = true → settled id (serve k w.state) = true := hs.served k _ id
    exact ⟨fun i p hat => awaits_kept hk (h.each i p hat), fun hc => hk (h.completed hc), h.returned⟩
  | advance i reply =>
    unfold Batch.step
    dsimp only
    cases hat : w.starts[i]?.join with
    | none => exact h
    | some p =>
      have hd : (w.starts[i]?.join).all (B.diligent settled w reply) = true := hc
      rw [hat] at hd
      exact covered_advance hs h (Option.join_eq_some_iff.mp hat) hd hlist

/-- Nothing has started. -/
theorem opening_covered (s : σ) : Covered B settled id ⟨s, false, [], [], false⟩ where
  each _ _ hat := by cases hat
  completed hc := by cases hc
  returned hr := absurd rfl hr

end Events

end LockedBatch
