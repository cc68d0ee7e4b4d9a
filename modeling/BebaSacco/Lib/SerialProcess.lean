import BebaSacco.Lib.Process

/-! # Processes that take turns

Of the processes on one state, some wait at a point where they have done nothing yet. While one
process at most is past such a point, the state can be described next to the point of that process
alone: a stage.

Results:
 1. `serial_moved`, `serial_waits`, `serial_lost`: a process that is past its wait goes on, one that
    waits does its statement, and one is lost.
 2. `serial_step`: what one event owes for the processes to go on taking turns.
-/

namespace Process

open Txn

variable {σ ε α ι τ : Type} {P : Program σ ε α ι τ} {w : World σ τ} {e : Event α ι}
  {waiting : τ → Prop} {stage : σ → Option τ → Prop} {i : Nat} {t : τ} {t' : Option τ} {s' : σ}
  {engaged : Option (Nat × τ)}

/-- The one process that is past its wait, if there is one. -/
structure Engaged (waiting : τ → Prop) (w : World σ τ) (engaged : Option (Nat × τ)) : Prop where
  only : ∀ i t, w.At i t → waiting t ∨ engaged = some (i, t)
  there : ∀ i t, engaged = some (i, t) → w.At i t ∧ ¬ waiting t

/-- All processes wait but one at most, and the state is at a stage that fits the point of that one. -/
def Serial (waiting : τ → Prop) (stage : σ → Option τ → Prop) (w : World σ τ) : Prop :=
  ∃ engaged : Option (Nat × τ), Engaged waiting w engaged ∧ stage w.state (engaged.map Prod.snd)

/-! ## 1. One process -/

theorem engaged_of_not_waiting (h : Engaged waiting w engaged) (hat : w.At i t) (ht : ¬ waiting t) :
    engaged = some (i, t) :=
  (h.only i t hat).resolve_left ht

/-- A process goes on and is past its wait, as nobody else is. -/
theorem serial_moved (h : Engaged waiting w engaged) (hat : w.At i t)
    (hengaged : engaged = none ∨ engaged = some (i, t)) (ht' : ∀ u, t' = some u → ¬ waiting u)
    (hstage : stage s' t') : Serial waiting stage ⟨s', w.tasks.set i t'⟩ := by
  refine ⟨t'.map fun u => (i, u), ⟨fun j u hj => ?_, fun j u hju => ?_⟩, ?_⟩
  · rcases at_set hj with ⟨rfl, rfl⟩ | ⟨hne, hj⟩
    · exact .inr rfl
    · rcases h.only j u hj with hwait | heq
      · exact .inl hwait
      · rcases hengaged with hnone | hsome
        · cases hnone.symm.trans heq
        · cases hsome.symm.trans heq
          exact absurd rfl hne
  · cases t' with
    | none => cases hju
    | some u' =>
      cases hju
      exact ⟨at_set_self hat, ht' _ rfl⟩
  · cases t' <;> exact hstage

/-- A process that waits ends or goes on waiting. -/
theorem serial_waits (h : Engaged waiting w engaged) (hat : w.At i t) (hwait : waiting t)
    (ht' : ∀ u, t' = some u → waiting u) (hstage : stage s' (engaged.map Prod.snd)) :
    Serial waiting stage ⟨s', w.tasks.set i t'⟩ := by
  refine ⟨engaged, ⟨fun j u hj => ?_, fun j u hju => ?_⟩, hstage⟩
  · rcases at_set hj with ⟨-, hu⟩ | ⟨-, hj⟩
    · exact .inl (ht' u hu)
    · exact h.only j u hj
  · obtain ⟨hu, hnot⟩ := h.there j u hju
    refine ⟨at_set_other (fun hji => ?_) hu, hnot⟩
    subst hji
    cases Option.some.inj (Option.some.inj (hat.symm.trans hu))
    exact hnot hwait

/-- A process is lost. -/
theorem serial_lost (h : Engaged waiting w engaged) (hstage : stage w.state (engaged.map Prod.snd))
    (hlost : ∀ t, w.At i t → ¬ waiting t → stage w.state (some t) → stage w.state none) :
    Serial waiting stage { w with tasks := w.tasks.set i none } := by
  by_cases hi : ∃ t, engaged = some (i, t)
  · obtain ⟨t, rfl⟩ := hi
    obtain ⟨hat, hnot⟩ := h.there i t rfl
    exact serial_moved h hat (.inr rfl) (fun u hu => by cases hu) (hlost t hat hnot hstage)
  · refine ⟨engaged, ⟨fun j u hj => ?_, fun j u hju => ?_⟩, hstage⟩
    · rcases at_set hj with ⟨-, hu⟩ | ⟨-, hj⟩
      · cases hu
      · exact h.only j u hj
    · obtain ⟨hu, hnot⟩ := h.there j u hju
      refine ⟨at_set_other (fun hji => ?_) hu, hnot⟩
      subst hji
      exact hi ⟨u, hju⟩

/-! ## 2. One event -/

theorem serial_start (h : Serial waiting stage w) {a : α} (hentry : waiting (P.entry a)) :
    Serial waiting stage { w with tasks := w.tasks ++ [some (P.entry a)] } := by
  obtain ⟨engaged, hengaged, hstage⟩ := h
  refine ⟨engaged, ⟨fun j u hj => ?_, fun j u hju => ?_⟩, hstage⟩
  · have hmem : (w.tasks ++ [some (P.entry a)])[j]? = some (some u) := hj
    rcases Nat.lt_or_ge j w.tasks.length with hlt | hge
    · exact hengaged.only j u ((List.getElem?_append_left hlt).symm.trans hmem)
    · rw [List.getElem?_append_right hge, List.getElem?_singleton] at hmem
      split at hmem
      · cases hmem
        exact .inl hentry
      · cases hmem
  · obtain ⟨hu, hnot⟩ := hengaged.there j u hju
    exact ⟨(List.getElem?_append_left (List.getElem?_eq_some_iff.mp hu).1).trans hu, hnot⟩

/-- What a statement owes: it takes the one process that is past its wait to the next stage; or its
process waits and changes nothing that matters; or nobody is past the wait and its process goes on
to the first stage. -/
def Turns (waiting : τ → Prop) (stage : σ → Option τ → Prop) (w : World σ τ) (t : τ) (t' : Option τ)
    (s' : σ) : Prop :=
  (¬ waiting t ∧ (∀ u, t' = some u → ¬ waiting u) ∧ (stage w.state (some t) → stage s' t')) ∨
  (waiting t ∧ (∀ u, t' = some u → waiting u) ∧ ∀ o, stage w.state o → stage s' o) ∨
  (waiting t ∧ (∀ u, t' = some u → ¬ waiting u) ∧
    ∀ o, stage w.state o → (∀ u, o = some u → ¬ waiting u ∧ ∃ j, w.At j u) → o = none ∧ stage s' t')

theorem serial_step (h : Serial waiting stage w) (hentry : ∀ a, waiting (P.entry a))
    (hlost : ∀ i t, (e = .crash i ∨
        ∃ input, e = .advance i input ∧ Fails (P.next t input) w.state) → w.At i t →
      ¬ waiting t → stage w.state (some t) → stage w.state none)
    (hnext : ∀ i input t t' s', e = .advance i input → w.At i t →
      Yields (P.next t input) w.state t' s' → Turns waiting stage w t t' s') :
    Serial waiting stage (P.step w e) := by
  cases e with
  | start a => exact serial_start h (hentry a)
  | crash i =>
    obtain ⟨engaged, hengaged, hstage⟩ := h
    exact serial_lost hengaged hstage fun t hat => hlost i t (.inl rfl) hat
  | advance i input =>
    rcases advance_cases P w i input with hstep | ⟨t, t', s', hat, hy, hstep⟩ |
      ⟨t, hat, hfails, hstep⟩
    · rw [hstep]
      exact h
    · obtain ⟨engaged, hengaged, hstage⟩ := h
      rw [hstep]
      rcases hnext i input t t' s' rfl hat hy with ⟨hnot, ht', hmove⟩ | ⟨hwait, ht', hsame⟩ |
        ⟨hwait, ht', hfirst⟩
      · -- the process that does the work goes on with it
        have heq := engaged_of_not_waiting hengaged hat hnot
        subst heq
        exact serial_moved hengaged hat (.inr rfl) ht' (hmove hstage)
      · exact serial_waits hengaged hat hwait ht' (hsame _ hstage)
      · -- a process that waited begins the work, which nobody else is at
        obtain ⟨hnone, hs'⟩ := hfirst _ hstage fun u hu => by
          obtain ⟨p, hp, rfl⟩ := Option.map_eq_some_iff.mp hu
          obtain ⟨hu, hnot⟩ := hengaged.there p.1 p.2 hp
          exact ⟨hnot, p.1, hu⟩
        exact serial_moved hengaged hat (.inl (Option.map_eq_none_iff.mp hnone)) ht' hs'
    · obtain ⟨engaged, hengaged, hstage⟩ := h
      rw [hstep]
      refine serial_lost hengaged hstage fun u hu => ?_
      cases Option.some.inj (Option.some.inj (hat.symm.trans hu))
      exact hlost i _ (.inr ⟨input, rfl, hfails⟩) hu

end Process
