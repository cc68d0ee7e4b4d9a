import Mathlib.Data.List.Basic

/-! # Spellings

A list of names has one name for each key: a name is added when none with its key is there, so each
key keeps the spelling that came first.

Results:
 1. `known_addAll`: which keys the list has after some names came.
 2. `find_addAll`: a key has the spelling of the first name with it.
 3. `addAll_eq`, `mem_added`: what was added, and that these are the names that came first among
    those with their key.
-/

namespace Spellings

variable {α κ : Type} (key : α → κ)

/-- A name with the key of `a` is in the list. -/
def Known (l : List α) (a : α) : Prop := ∃ b ∈ l, key b = key a

section

variable {key} {l names : List α} {a b : α}

theorem known_append : Known key (l ++ names) a ↔ Known key l a ∨ Known key names a := by
  unfold Known
  constructor
  · rintro ⟨b, hb, h⟩
    rcases List.mem_append.mp hb with hb | hb
    · exact .inl ⟨b, hb, h⟩
    · exact .inr ⟨b, hb, h⟩
  · rintro (⟨b, hb, h⟩ | ⟨b, hb, h⟩)
    · exact ⟨b, List.mem_append_left names hb, h⟩
    · exact ⟨b, List.mem_append_right l hb, h⟩

theorem known_singleton : Known key [b] a ↔ key b = key a := by
  constructor
  · rintro ⟨c, hc, h⟩
    rwa [List.mem_singleton.mp hc] at h
  · exact fun h => ⟨b, List.mem_singleton_self b, h⟩

end

variable [DecidableEq κ]

instance (l : List α) (a : α) : Decidable (Known key l a) :=
  inferInstanceAs (Decidable (∃ b ∈ l, key b = key a))

def add (l : List α) (a : α) : List α := if Known key l a then l else l ++ [a]

def addAll (l : List α) (names : List α) : List α := names.foldl (add key) l

/-- The names that are added, in their order. -/
def added (l : List α) : List α → List α
  | [] => []
  | a :: names => if Known key l a then added l names else a :: added (l ++ [a]) names

variable {key} {l names : List α} {a b : α}

theorem added_cons : added key l (a :: names) =
    if Known key l a then added key l names else a :: added key (l ++ [a]) names := rfl

theorem known_iff_find : Known key l a ↔ ∃ b, l.find? (fun b => key b == key a) = some b := by
  rw [← Option.isSome_iff_exists, List.find?_isSome]
  unfold Known
  simp only [beq_iff_eq]

theorem not_known_iff_find : ¬ Known key l a ↔ l.find? (fun b => key b == key a) = none := by
  rw [known_iff_find, ← Option.isSome_iff_exists, Option.not_isSome_iff_eq_none]

/-- The first name with a key, when another one comes. -/
theorem find_add : (add key l b).find? (fun c => key c == key a) =
    (l ++ [b]).find? fun c => key c == key a := by
  unfold add
  split
  · next h =>
    rw [List.find?_append]
    by_cases hab : key b = key a
    · have ha : Known key l a := by
        obtain ⟨c, hc, hcb⟩ := h
        exact ⟨c, hc, hcb.trans hab⟩
      obtain ⟨c, hc⟩ := known_iff_find.mp ha
      rw [hc]
      rfl
    · rw [List.find?_singleton, if_neg (by rwa [beq_iff_eq]), Option.or_none]
  · rfl

theorem find_addAll : (addAll key l names).find? (fun c => key c == key a) =
    (l ++ names).find? fun c => key c == key a := by
  unfold addAll
  induction names generalizing l with
  | nil => rw [List.append_nil, List.foldl_nil]
  | cons b names ih =>
    rw [List.foldl_cons, ih, List.find?_append, find_add, ← List.find?_append, List.append_assoc]
    rfl

theorem known_addAll : Known key (addAll key l names) a ↔ Known key l a ∨ Known key names a := by
  rw [known_iff_find, find_addAll, ← known_iff_find, known_append]

theorem addAll_eq : addAll key l names = l ++ added key l names := by
  induction names generalizing l with
  | nil => exact (List.append_nil l).symm
  | cons a names ih =>
    unfold addAll at ih ⊢
    rw [List.foldl_cons, ih]
    rw [added_cons]
    unfold add
    split
    · rfl
    · rw [List.append_assoc]
      rfl

theorem added_append (l names more : List α) :
    added key l (names ++ more) = added key l names ++ added key (addAll key l names) more := by
  have h : addAll key l (names ++ more) = addAll key (addAll key l names) more := List.foldl_append
  rw [addAll_eq, addAll_eq, addAll_eq, List.append_assoc] at h
  rw [addAll_eq]
  exact List.append_cancel_left h

/-- What is added came first among the names with its key, of which there was none before. -/
theorem mem_added : a ∈ added key l names ↔
    ¬ Known key l a ∧ names.find? (fun c => key c == key a) = some a := by
  induction names generalizing l with
  | nil => exact ⟨fun h => (List.not_mem_nil h).elim, fun h => by cases h.2⟩
  | cons b names ih =>
    rw [added_cons, List.find?_cons]
    split
    · next h =>
      rw [ih]
      by_cases hba : key b = key a
      · have ha : Known key l a := by
          obtain ⟨c, hc, hcb⟩ := h
          exact ⟨c, hc, hcb.trans hba⟩
        exact ⟨fun hn => (hn.1 ha).elim, fun hn => (hn.1 ha).elim⟩
      · rw [show (key b == key a) = false from beq_false_of_ne hba]
    · next h =>
      rw [List.mem_cons, ih, known_append, known_singleton]
      by_cases hba : key b = key a
      · have ha : ¬ Known key l a := fun ⟨c, hc, hca⟩ => h ⟨c, hc, hca.trans hba.symm⟩
        rw [show (key b == key a) = true from beq_iff_eq.mpr hba]
        constructor
        · rintro (rfl | ⟨hn, _⟩)
          · exact ⟨ha, rfl⟩
          · exact (hn (.inr hba)).elim
        · rintro ⟨_, hab⟩
          exact .inl (Option.some.inj hab).symm
      · rw [show (key b == key a) = false from beq_false_of_ne hba]
        constructor
        · rintro (rfl | ⟨hn, hfind⟩)
          · exact (hba rfl).elim
          · exact ⟨fun hl => hn (.inl hl), hfind⟩
        · rintro ⟨hn, hfind⟩
          exact .inr ⟨fun hk => hk.elim hn hba, hfind⟩

end Spellings
