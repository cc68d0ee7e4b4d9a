import Mathlib.Data.List.Infix
import Mathlib.Data.List.Nodup
import Mathlib.Tactic.Common

/-! # Hash chains

A chain is a list of records that each name the hash of the record before it. `headOf` is the hash
that the next record has to name.

A hash function is taken as injective, with texts of hexadecimal digits as its values.

Results:
 1. `split_first`, `split_last`: a joined text is split at a separator that a part does not contain.
 2. `linked_append`: a chain is a chain and a chain that goes on from its head.
 3. `heads_nodup`: the heads of a chain are all different when the hash covers the link.
 4. `headOf_inj`: a head tells how far the chain has come.
 5. `linked_beginning`: a chain made of records of a chain is a beginning of it.
-/

def hexChar (c : Char) : Bool := c.isDigit || (c.toNat ≥ 97 && c.toNat ≤ 102)

/-- A hash function without collisions, printed in hexadecimal. -/
structure HashFunction where
  digest : String → String
  inj : ∀ {s s'}, digest s = digest s' → s = s'
  hex : ∀ s, (digest s).toList.all hexChar = true
  nonempty : ∀ s, digest s ≠ ""

namespace HashChain

/-! ## 1. Separators -/

/-- The first part of two equal texts, when neither contains the separator. -/
theorem split_first {c : Char} {l l' r r' : List Char} (hl : c ∉ l) (hl' : c ∉ l')
    (h : l ++ c :: r = l' ++ c :: r') : l = l' ∧ r = r' := by
  induction l generalizing l' with
  | nil =>
    cases l' with
    | nil => exact ⟨rfl, (List.cons.inj h).2⟩
    | cons d l' => exact absurd ((List.cons.inj h).1 ▸ List.mem_cons_self) hl'
  | cons d l ih =>
    cases l' with
    | nil => exact absurd ((List.cons.inj h).1 ▸ List.mem_cons_self) hl
    | cons d' l' =>
      obtain ⟨rfl, hrest⟩ := List.cons.inj h
      obtain ⟨rfl, hr⟩ := ih (fun hc => hl (List.mem_cons_of_mem _ hc))
        (fun hc => hl' (List.mem_cons_of_mem _ hc)) hrest
      exact ⟨rfl, hr⟩

theorem split_last {c : Char} {l l' r r' : List Char} (hr : c ∉ r) (hr' : c ∉ r')
    (h : l ++ c :: r = l' ++ c :: r') : l = l' ∧ r = r' := by
  have hreverse : r.reverse ++ c :: l.reverse = r'.reverse ++ c :: l'.reverse := by
    simpa using congrArg List.reverse h
  obtain ⟨hrr, hll⟩ := split_first (by simpa using hr) (by simpa using hr') hreverse
  exact ⟨List.reverse_inj.mp hll, List.reverse_inj.mp hrr⟩

/-! ### A hash function -/

/-- A character as its code in unary. -/
def unary (c : Char) : List Char := List.replicate c.toNat 'a' ++ ['b']

theorem unary_inj {l l' : List Char} (h : l.flatMap unary = l'.flatMap unary) : l = l' := by
  induction l generalizing l' with
  | nil =>
    cases l' with
    | nil => rfl
    | cons c' l' => simp [unary] at h
  | cons c l ih =>
    cases l' with
    | nil => simp [unary] at h
    | cons c' l' =>
      simp only [List.flatMap_cons, unary, List.append_assoc, List.singleton_append] at h
      obtain ⟨hcode, hrest⟩ := split_first (by simp [List.mem_replicate])
        (by simp [List.mem_replicate]) h
      have hlength := congrArg List.length hcode
      rw [List.length_replicate, List.length_replicate] at hlength
      rw [Char.toNat_inj.mp hlength, ih hrest]

/-- There is such a function: it need not be short. -/
def unaryHash : HashFunction where
  digest s := String.ofList ('b' :: s.toList.flatMap unary)
  inj h := String.toList_inj.mp (unary_inj (List.cons.inj (String.ofList_injective h)).2)
  hex s := by
    rw [String.toList_ofList, List.all_cons, List.all_flatMap]
    simp [unary, hexChar]
  nonempty s := by simp

variable {γ : Type} {prev hash : γ → String} {g h : String} {L L' A B : List γ} {x y : γ}

def Linked (prev hash : γ → String) : String → List γ → Prop
  | _, [] => True
  | h, x :: L => prev x = h ∧ Linked prev hash (hash x) L

/-- The hash that the record after `L` names, `h` when there is none before it. -/
def headOf (hash : γ → String) (h : String) (L : List γ) : String :=
  L.foldl (fun _ x => hash x) h

/-! ## 2. Chains one after the other -/

theorem linked_append :
    Linked prev hash h (A ++ B) ↔ Linked prev hash h A ∧ Linked prev hash (headOf hash h A) B := by
  induction A generalizing h with
  | nil => exact ⟨fun hB => ⟨trivial, hB⟩, fun hB => hB.2⟩
  | cons x A ih =>
    constructor
    · rintro ⟨hx, hAB⟩
      obtain ⟨hA, hB⟩ := ih.mp hAB
      exact ⟨⟨hx, hA⟩, hB⟩
    · rintro ⟨⟨hx, hA⟩, hB⟩
      exact ⟨hx, ih.mpr ⟨hA, hB⟩⟩

theorem headOf_append : headOf hash h (A ++ B) = headOf hash (headOf hash h A) B :=
  List.foldl_append

theorem headOf_mem (h : String) (L : List γ) : headOf hash h L ∈ h :: L.map hash := by
  induction L generalizing h with
  | nil => exact List.mem_cons_self
  | cons x L ih => exact List.mem_cons_of_mem _ (ih (hash x))

/-! ## 3. The heads of a chain -/

theorem headOf_ne_of_append (hnodup : (g :: (A ++ x :: B).map hash).Nodup) :
    headOf hash g A ≠ headOf hash g (A ++ x :: B) := by
  intro heq
  rw [List.map_append, ← List.cons_append] at hnodup
  have hbefore : headOf hash g A ∈ g :: A.map hash := headOf_mem g A
  have hafter : headOf hash g (A ++ x :: B) ∈ (x :: B).map hash := by
    rw [headOf_append]
    exact headOf_mem (hash x) B
  exact (List.disjoint_of_nodup_append hnodup) hbefore (heq ▸ hafter)

theorem heads_nodup (hfresh : ∀ x ∈ L, hash x ≠ g)
    (hcovers : ∀ x ∈ L, ∀ y ∈ L, hash x = hash y → prev x = prev y) (h : Linked prev hash g L) :
    (g :: L.map hash).Nodup := by
  -- the induction adds a record at the end of the chain
  induction L using List.reverseRecOn with
  | nil => simp
  | append_singleton L x ih =>
    obtain ⟨hL, hx, -⟩ := linked_append.mp h
    have hold : (g :: L.map hash).Nodup :=
      ih (fun y hy => hfresh y (List.mem_append_left _ hy))
        (fun y hy z hz => hcovers y (List.mem_append_left _ hy) z (List.mem_append_left _ hz)) hL
    have hnew : hash x ∉ g :: L.map hash := by
      intro hmem
      rcases List.mem_cons.mp hmem with heq | hmem
      · exact hfresh x (by simp) heq
      · obtain ⟨y, hy, heq⟩ := List.mem_map.mp hmem
        have hprev := hcovers y (List.mem_append_left _ hy) x (by simp) heq
        obtain ⟨A, B, rfl⟩ := List.append_of_mem hy
        obtain ⟨-, hlink, -⟩ := linked_append.mp hL
        exact headOf_ne_of_append hold (hlink.symm.trans (hprev.trans hx))
    rw [List.map_append, ← List.cons_append, List.map_singleton]
    exact List.Nodup.append hold (List.nodup_singleton _)
      (List.disjoint_singleton.mpr hnew)

/-! ## 4. Chains of the same records -/

theorem headOf_inj (hnodup : (g :: L.map hash).Nodup) (hA : A <+: L) (hB : B <+: L)
    (heq : headOf hash g A = headOf hash g B) : A = B := by
  have hstrict : ∀ {A B : List γ}, B <+: L → A <+: B →
      headOf hash g A = headOf hash g B → A = B := by
    rintro A B ⟨T, rfl⟩ ⟨S, rfl⟩ heq
    cases S with
    | nil => rw [List.append_nil]
    | cons x S =>
      have hfirst : (g :: (A ++ x :: S).map hash).Nodup := by
        rw [List.map_append, ← List.cons_append] at hnodup
        exact hnodup.of_append_left
      exact absurd heq (headOf_ne_of_append hfirst)
  rcases List.prefix_or_prefix_of_prefix hA hB with hle | hle
  · exact hstrict hB hle heq
  · exact (hstrict hA hle heq.symm).symm

theorem linked_beginning (hnodup : (g :: L.map hash).Nodup) (hL : Linked prev hash g L)
    (hL' : Linked prev hash g L') (hmem : ∀ x ∈ L', x ∈ L) : L' <+: L := by
  -- with `A` read off `L` already, the rest of `L'` is a beginning of the rest of `L`
  have hrest : ∀ {L' A B : List γ}, A ++ B = L → Linked prev hash (headOf hash g A) L' →
      (∀ x ∈ L', x ∈ L) → L' <+: B := by
    intro L'
    induction L' with
    | nil => intro A B _ _ _; exact List.nil_prefix
    | cons x L' ih =>
      rintro A B hAB ⟨hx, hL'⟩ hmem
      obtain ⟨P, Q, hPQ⟩ := List.append_of_mem (hmem x List.mem_cons_self)
      have hlink : prev x = headOf hash g P := by
        rw [hPQ] at hL
        exact (linked_append.mp hL).2.1
      have hAP : A = P := headOf_inj hnodup ⟨B, hAB⟩ ⟨x :: Q, hPQ.symm⟩ (hx.symm.trans hlink)
      subst hAP
      obtain rfl : B = x :: Q := List.append_cancel_left (hAB.trans hPQ)
      refine List.cons_prefix_cons.mpr ⟨rfl, ih (A := A ++ [x]) ?_ ?_ ?_⟩
      · rw [List.append_assoc]
        exact hAB
      · rw [headOf_append]
        exact hL'
      · exact fun y hy => hmem y (List.mem_cons_of_mem _ hy)
  exact hrest (A := []) rfl hL' hmem

end HashChain
