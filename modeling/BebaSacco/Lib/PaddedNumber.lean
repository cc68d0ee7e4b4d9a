import Mathlib.Algebra.Group.Nat.Defs
import Mathlib.Algebra.GroupWithZero.Nat
import Mathlib.Tactic.Common

/-! # Padded numbers

Numbers are printed in decimal and filled up with zeros to a width, so that texts of that width sort
like the numbers. A number that does not fit the width is printed as it is, and then its text may
come before those of smaller numbers.

Results:
 1. `pad_precedes_iff`: up to the width the order of the texts is that of the numbers.
 2. `parseInt_pad`: the number is read off its text.
 3. `greatest_mem`, `greatest_last`: the greatest text of a list.
 4. `parts_cons`: a text split at a separator.
-/

namespace PaddedNumber

/-- `String(n).padStart(width, '0')` -/
def pad (width n : Nat) : List Char :=
  List.replicate (width - (Nat.toDigits 10 n).length) '0' ++ Nat.toDigits 10 n

/-- `parseInt`, which reads the digits that a text starts with. -/
def parseInt (text : List Char) : Option Nat :=
  let digits := text.takeWhile Char.isDigit
  if digits.isEmpty then none else some (Nat.ofDigitChars 10 digits 0)

/-- The order of texts. -/
def precedes : List Char → List Char → Bool
  | [], [] => false
  | [], _ :: _ => true
  | _ :: _, [] => false
  | c :: text, d :: text' => c.toNat < d.toNat || (c == d && precedes text text')

/-- The last text in that order. -/
def greatest : List (List Char) → Option (List Char)
  | [] => none
  | text :: texts =>
    match greatest texts with
    | none => some text
    | some last => some (if precedes last text then text else last)

/-- `String.split` -/
def parts (separator : Char) : List Char → List (List Char)
  | [] => [[]]
  | c :: text =>
    if c = separator then [] :: parts separator text
    else
      match parts separator text with
      | [] => [[c]]
      | first :: rest => (c :: first) :: rest

variable {w n m : Nat} {text text' : List Char} {texts : List (List Char)}

/-! ## 1. The order of texts -/

theorem precedes_irrefl (text : List Char) : precedes text text = false := by
  induction text with
  | nil => rfl
  | cons c text ih =>
    unfold precedes
    rw [ih, Bool.and_false, Bool.or_false]
    exact decide_eq_false (Nat.lt_irrefl _)

theorem precedes_cons {c d : Char} : precedes (c :: text) (d :: text') = true ↔
    c.toNat < d.toNat ∨ (c = d ∧ precedes text text' = true) := by
  rw [precedes, Bool.or_eq_true, Bool.and_eq_true, decide_eq_true_iff, beq_iff_eq]

theorem precedes_trans {text'' : List Char} (h : precedes text text' = true)
    (h' : precedes text' text'' = true) : precedes text text'' = true := by
  induction text generalizing text' text'' with
  | nil =>
    cases text' with
    | nil => cases h
    | cons d text' =>
      cases text'' with
      | nil => cases h'
      | cons e text'' => rfl
  | cons c text ih =>
    cases text' with
    | nil => cases h
    | cons d text' =>
      cases text'' with
      | nil => cases h'
      | cons e text'' =>
        rw [precedes_cons] at h h' ⊢
        rcases h with h | ⟨rfl, h⟩
        · rcases h' with h' | ⟨rfl, -⟩
          · exact .inl (Nat.lt_trans h h')
          · exact .inl h
        · rcases h' with h' | ⟨rfl, h'⟩
          · exact .inl h'
          · exact .inr ⟨rfl, ih h h'⟩

theorem greatest_isSome (h : texts ≠ []) : (greatest texts).isSome = true := by
  cases texts with
  | nil => exact absurd rfl h
  | cons text texts =>
    unfold greatest
    split <;> rfl

theorem greatest_mem (h : greatest texts = some text) : text ∈ texts := by
  induction texts generalizing text with
  | nil => cases h
  | cons first texts ih =>
    unfold greatest at h
    cases hrest : greatest texts with
    | none =>
      rw [hrest] at h
      cases h
      exact List.mem_cons_self
    | some last =>
      rw [hrest] at h
      cases h
      split
      · exact List.mem_cons_self
      · exact List.mem_cons_of_mem _ (ih hrest)

/-- No text of the list comes after it. -/
theorem greatest_last (h : greatest texts = some text) :
    ∀ other ∈ texts, precedes text other = false := by
  induction texts generalizing text with
  | nil => exact fun other hother => (by cases hother)
  | cons first texts ih =>
    unfold greatest at h
    cases hrest : greatest texts with
    | none =>
      rw [hrest] at h
      cases h
      intro other hother
      rcases List.mem_cons.mp hother with rfl | hother
      · exact precedes_irrefl _
      · have hsome := greatest_isSome (List.ne_nil_of_mem hother)
        rw [hrest] at hsome
        cases hsome
    | some last =>
      rw [hrest] at h
      cases h
      intro other hother
      split
      · next hlast =>
        rcases List.mem_cons.mp hother with rfl | hother
        · exact precedes_irrefl _
        · exact Bool.eq_false_iff.mpr fun hp =>
            absurd (precedes_trans hlast hp) (Bool.eq_false_iff.mp (ih hrest other hother))
      · next hlast =>
        rcases List.mem_cons.mp hother with rfl | hother
        · exact Bool.eq_false_iff.mpr hlast
        · exact ih hrest other hother

/-! ## 2. Digits -/

theorem digit_bounds {c : Char} (h : c.isDigit = true) : 48 ≤ c.toNat ∧ c.toNat ≤ 57 := by
  unfold Char.isDigit at h
  rw [Bool.and_eq_true, decide_eq_true_iff, decide_eq_true_iff] at h
  exact ⟨h.1, h.2⟩

theorem value_cons (c : Char) (text : List Char) : Nat.ofDigitChars 10 (c :: text) 0 =
    10 ^ text.length * (c.toNat - 48) + Nat.ofDigitChars 10 text 0 := by
  rw [Nat.ofDigitChars_cons, Nat.ofDigitChars_eq_ofDigitChars_zero, Nat.mul_zero, Nat.zero_add]
  rfl

theorem value_lt (h : ∀ c ∈ text, c.isDigit = true) :
    Nat.ofDigitChars 10 text 0 < 10 ^ text.length := by
  induction text with
  | nil => exact Nat.one_pos
  | cons c text ih =>
    obtain ⟨hlow, hhigh⟩ := digit_bounds (h c List.mem_cons_self)
    have hrest := ih fun d hd => h d (List.mem_cons_of_mem _ hd)
    rw [value_cons, List.length_cons, Nat.pow_succ]
    have hdigit : c.toNat - 48 ≤ 9 := by omega
    have hmul := Nat.mul_le_mul_left (10 ^ text.length) hdigit
    omega

/-- Texts of one length are ordered like the numbers they print. -/
theorem precedes_iff_value (hlength : text.length = text'.length)
    (h : ∀ c ∈ text, c.isDigit = true) (h' : ∀ c ∈ text', c.isDigit = true) :
    precedes text text' = true ↔
      Nat.ofDigitChars 10 text 0 < Nat.ofDigitChars 10 text' 0 := by
  induction text generalizing text' with
  | nil =>
    rw [List.eq_nil_of_length_eq_zero hlength.symm]
    exact iff_of_false (fun hp => (by cases hp)) (Nat.lt_irrefl _)
  | cons c text ih =>
    cases text' with
    | nil => cases hlength
    | cons d text' =>
      have hlen : text.length = text'.length := Nat.succ.inj hlength
      have hrest := ih hlen (fun e he => h e (List.mem_cons_of_mem _ he))
        fun e he => h' e (List.mem_cons_of_mem _ he)
      have hlt := value_lt fun e he => h e (List.mem_cons_of_mem _ he)
      have hlt' := value_lt fun e he => h' e (List.mem_cons_of_mem _ he)
      obtain ⟨hc, -⟩ := digit_bounds (h c List.mem_cons_self)
      obtain ⟨hd, -⟩ := digit_bounds (h' d List.mem_cons_self)
      rw [precedes_cons, hrest, value_cons, value_cons, ← hlen]
      rw [← hlen] at hlt'
      generalize Nat.ofDigitChars 10 text 0 = a at *
      generalize Nat.ofDigitChars 10 text' 0 = b at *
      generalize 10 ^ text.length = p at *
      rcases Nat.lt_trichotomy c.toNat d.toNat with hcd | hcd | hcd
      · have hmul := Nat.mul_le_mul_left p (show c.toNat - 48 + 1 ≤ d.toNat - 48 by omega)
        rw [Nat.mul_succ] at hmul
        exact iff_of_true (.inl hcd) (by omega)
      · rw [Char.toNat_inj.mp hcd]
        constructor
        · rintro (h | ⟨-, h⟩)
          · exact absurd h (Nat.lt_irrefl _)
          · exact Nat.add_lt_add_left h _
        · exact fun h => .inr ⟨rfl, Nat.lt_of_add_lt_add_left h⟩
      · have hmul := Nat.mul_le_mul_left p (show d.toNat - 48 + 1 ≤ c.toNat - 48 by omega)
        rw [Nat.mul_succ] at hmul
        refine iff_of_false ?_ (by omega)
        rintro (h | ⟨rfl, -⟩)
        · omega
        · omega

/-! ## 3. Padding -/

theorem pad_digits (w n : Nat) : ∀ c ∈ pad w n, c.isDigit = true := by
  intro c hc
  rcases List.mem_append.mp hc with hc | hc
  · rw [(List.mem_replicate.mp hc).2]
    decide
  · exact Nat.isDigit_of_mem_toDigits (by decide) (by decide) hc

theorem pad_value (w n : Nat) : Nat.ofDigitChars 10 (pad w n) 0 = n := by
  unfold pad
  rw [Nat.ofDigitChars_append, Nat.ofDigitChars_replicate_zero, Nat.mul_zero,
    Nat.ofDigitChars_ten_toDigits]

theorem pad_inj (h : pad w n = pad w m) : n = m := by
  rw [← pad_value w n, h, pad_value]

theorem pad_length (hw : 0 < w) (h : n < 10 ^ w) : (pad w n).length = w := by
  have hle := (Nat.length_toDigits_le_iff (b := 10) (by decide) hw).mpr h
  unfold pad
  rw [List.length_append, List.length_replicate]
  exact Nat.sub_add_cancel hle

theorem pad_precedes_iff (hw : 0 < w) (hn : n < 10 ^ w) (hm : m < 10 ^ w) :
    precedes (pad w n) (pad w m) = true ↔ n < m := by
  rw [precedes_iff_value ((pad_length hw hn).trans (pad_length hw hm).symm) (pad_digits w n)
    (pad_digits w m), pad_value, pad_value]

theorem takeWhile_of_forall {p : Char → Bool} (h : ∀ c ∈ text, p c = true) :
    text.takeWhile p = text := by
  induction text with
  | nil => rfl
  | cons c text ih =>
    rw [List.takeWhile_cons_of_pos (h c List.mem_cons_self),
      ih fun d hd => h d (List.mem_cons_of_mem _ hd)]

theorem parseInt_pad (w n : Nat) : parseInt (pad w n) = some n := by
  have hne : pad w n ≠ [] := fun h =>
    Nat.toDigits_ne_nil (List.append_eq_nil_iff.mp h).2
  unfold parseInt
  rw [takeWhile_of_forall (pad_digits w n)]
  dsimp only
  rw [List.isEmpty_eq_false_iff.mpr hne, pad_value]
  rfl

/-! ## 4. Parts of a text -/

theorem parts_cons {separator : Char} (h : separator ∉ text) (rest : List Char) :
    parts separator (text ++ separator :: rest) = text :: parts separator rest := by
  induction text with
  | nil =>
    rw [List.nil_append]
    exact if_pos rfl
  | cons c text ih =>
    have hne : ¬ c = separator := fun he => h (he ▸ List.mem_cons_self)
    rw [List.cons_append, parts, if_neg hne, ih fun hs => h (List.mem_cons_of_mem _ hs)]

theorem parts_last {separator : Char} (h : separator ∉ text) : parts separator text = [text] := by
  induction text with
  | nil => rfl
  | cons c text ih =>
    have hne : ¬ c = separator := fun he => h (he ▸ List.mem_cons_self)
    rw [parts, if_neg hne, ih fun hs => h (List.mem_cons_of_mem _ hs)]

end PaddedNumber
