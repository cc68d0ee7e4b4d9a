import Mathlib.Algebra.Group.Nat.Defs
import Mathlib.Data.List.Basic
import Mathlib.Tactic.Common

/-! # ISO dates

A time value is a number of milliseconds since the first of January 1970, up to the largest one that
a `Date` holds. `toISOString` splits the days into years and months and prints the parts with a
fixed number of digits.

Results:
 1. `periods_total`, `periods_lt`: splitting a number of days into periods.
 2. `digits_inj`: numbers printed with a fixed number of digits.
 3. `toISOString_inj`: a time value is read off its text.
 4. `plain_of_mem_toISOString`: the characters of the text.
-/

/-- A time value of `Date`, from 1970 on. -/
structure Timestamp where
  ms : Nat
  valid : ms ≤ 8640000000000000
  deriving DecidableEq, Repr

namespace IsoDate

def isLeap (y : Nat) : Bool := y % 4 == 0 && (y % 100 != 0 || y % 400 == 0)

def yearLength (y : Nat) : Nat := if isLeap y then 366 else 365

/-- The days of month `m` of the year `y`; 1 is January. -/
def monthLength (y m : Nat) : Nat :=
  if m == 2 then (if isLeap y then 29 else 28)
  else if m == 4 || m == 6 || m == 9 || m == 11 then 30
  else 31

/-- The period that the day `d` after the start of period `n` falls in, and the days of it that have
passed. -/
def periods (length : Nat → Nat) : (fuel n d : Nat) → Nat × Nat
  | 0, n, d => (n, d)
  | fuel + 1, n, d => if d < length n then (n, d) else periods length fuel (n + 1) (d - length n)

/-- The days of the `k` periods from `n` on. -/
def total (length : Nat → Nat) : (n k : Nat) → Nat
  | _, 0 => 0
  | n, k + 1 => length n + total length (n + 1) k

/-- The last `width` digits of `n`. -/
def digits : (width n : Nat) → List Char
  | 0, _ => []
  | width + 1, n => digits width (n / 10) ++ [Char.ofNat (48 + n % 10)]

/-- The year, the month and the day of the month, from the days since 1970. -/
def civil (days : Nat) : Nat × Nat × Nat :=
  let (y, dayOfYear) := periods yearLength (days + 1) 1970 days
  let (m, dayOfMonth) := periods (monthLength y) 12 1 dayOfYear
  (y, m, dayOfMonth + 1)

/-- Years of more than four digits are printed with a sign. -/
def yearText (y : Nat) : List Char :=
  if y < 10000 then digits 4 y else '+' :: digits 6 y

def isoChars (t : Timestamp) : List Char :=
  let (y, m, d) := civil (t.ms / 86400000)
  let rest := t.ms % 86400000
  yearText y ++ '-' :: digits 2 m ++ '-' :: digits 2 d ++ 'T' :: digits 2 (rest / 3600000) ++
    ':' :: digits 2 (rest / 60000 % 60) ++ ':' :: digits 2 (rest / 1000 % 60) ++
    '.' :: digits 3 (rest % 1000) ++ ['Z']

end IsoDate

/-- `Date.prototype.toISOString` -/
def Timestamp.toISOString (t : Timestamp) : String := String.ofList (IsoDate.isoChars t)

namespace IsoDate

variable {length : Nat → Nat} {fuel n d k m r w : Nat}

/-! ## 1. Periods -/

theorem periods_total (h : periods length fuel n d = (m, r)) :
    ∃ k, k ≤ fuel ∧ m = n + k ∧ d = total length n k + r := by
  induction fuel generalizing n d with
  | zero =>
    cases h
    exact ⟨0, Nat.le_refl _, rfl, by simp [total]⟩
  | succ fuel ih =>
    rw [periods] at h
    split at h
    · cases h
      exact ⟨0, Nat.zero_le _, rfl, by simp [total]⟩
    · next hge =>
      obtain ⟨k, hk, hm, hd⟩ := ih h
      refine ⟨k + 1, Nat.succ_le_succ hk, ?_, ?_⟩
      · omega
      · rw [total]
        omega

/-- With enough fuel the day falls inside its period. -/
theorem periods_lt (h : periods length fuel n d = (m, r)) (hd : d < total length n fuel) :
    r < length m := by
  induction fuel generalizing n d with
  | zero => exact absurd hd (Nat.not_lt_zero _)
  | succ fuel ih =>
    rw [periods] at h
    split at h
    · next hlt =>
      cases h
      exact hlt
    · next hge =>
      refine ih h ?_
      rw [total] at hd
      omega

theorem total_ge (h : ∀ n, w ≤ length n) (n k : Nat) : w * k ≤ total length n k := by
  induction k generalizing n with
  | zero => simp [total]
  | succ k ih =>
    have hn := h n
    have hk := ih (n + 1)
    rw [total, Nat.mul_succ]
    omega

theorem yearLength_ge (y : Nat) : 365 ≤ yearLength y := by
  unfold yearLength
  split <;> decide

theorem months_total (y : Nat) : total (monthLength y) 1 12 = yearLength y := by
  cases h : isLeap y <;> simp [total, monthLength, yearLength, h]

theorem monthLength_le (y m : Nat) : monthLength y m ≤ 31 := by
  unfold monthLength
  split
  · split <;> decide
  · split <;> decide

/-! ## 2. Digits -/

theorem digits_length (w n : Nat) : (digits w n).length = w := by
  induction w generalizing n with
  | zero => rfl
  | succ w ih => rw [digits, List.length_append, ih, List.length_singleton]

theorem digit_inj : ∀ a < 10, ∀ b < 10, Char.ofNat (48 + a) = Char.ofNat (48 + b) → a = b := by
  decide

theorem digits_inj {a b : Nat} (ha : a < 10 ^ w) (hb : b < 10 ^ w) (h : digits w a = digits w b) :
    a = b := by
  induction w generalizing a b with
  | zero =>
    rw [Nat.pow_zero] at ha hb
    omega
  | succ w ih =>
    rw [digits, digits] at h
    obtain ⟨hinit, hlast⟩ := List.append_inj h (by rw [digits_length, digits_length])
    have hmod := digit_inj _ (Nat.mod_lt a (by decide)) _ (Nat.mod_lt b (by decide))
      (List.singleton_inj.mp hlast)
    rw [Nat.pow_succ] at ha hb
    have hdiv := ih (Nat.div_lt_of_lt_mul (Nat.mul_comm _ _ ▸ ha))
      (Nat.div_lt_of_lt_mul (Nat.mul_comm _ _ ▸ hb)) hinit
    calc a = 10 * (a / 10) + a % 10 := (Nat.div_add_mod a 10).symm
      _ = 10 * (b / 10) + b % 10 := by rw [hdiv, hmod]
      _ = b := Nat.div_add_mod b 10

theorem digit_isDigit : ∀ a < 10, (Char.ofNat (48 + a)).isDigit = true := by decide

theorem isDigit_of_mem_digits {c : Char} (h : c ∈ digits w n) : c.isDigit = true := by
  induction w generalizing n with
  | zero => cases h
  | succ w ih =>
    rw [digits, List.mem_append] at h
    rcases h with h | h
    · exact ih h
    · obtain rfl := List.mem_singleton.mp h
      exact digit_isDigit _ (Nat.mod_lt n (by decide))

theorem digits_append_inj {a b : Nat} {l l' : List Char} (ha : a < 10 ^ w) (hb : b < 10 ^ w)
    (h : digits w a ++ l = digits w b ++ l') : a = b ∧ l = l' := by
  obtain ⟨hdigits, hrest⟩ := List.append_inj h (by rw [digits_length, digits_length])
  exact ⟨digits_inj ha hb hdigits, hrest⟩

/-! ## 3. The text of a time value -/

/-- The parts of a civil date add up to the days, and they fit their fields. -/
theorem civil_spec {days y m d : Nat} (h : civil days = (y, m, d)) :
    days = total yearLength 1970 (y - 1970) + total (monthLength y) 1 (m - 1) + (d - 1) ∧
    1970 + 365 * (y - 1970) ≤ 1970 + days ∧ 1970 ≤ y ∧ 1 ≤ m ∧ m ≤ 13 ∧ 1 ≤ d ∧ d ≤ 31 := by
  rw [civil] at h
  rcases hyear : periods yearLength (days + 1) 1970 days with ⟨y', dayOfYear⟩
  rcases hmonth : periods (monthLength y') 12 1 dayOfYear with ⟨m', dayOfMonth⟩
  simp only [hyear, hmonth, Prod.mk.injEq] at h
  obtain ⟨rfl, rfl, rfl⟩ := h
  obtain ⟨k, -, rfl, hdays⟩ := periods_total hyear
  obtain ⟨j, hj, rfl, hdayOfYear⟩ := periods_total hmonth
  have hk := total_ge yearLength_ge 1970 k
  have hfuel := total_ge yearLength_ge 1970 (days + 1)
  -- the fuel is more than there are years, so the day of the year lies within its year
  have hlt := periods_lt hyear (by omega)
  have hdayOfMonth := periods_lt hmonth (by rw [months_total]; exact hlt)
  have hmonthLength := monthLength_le (1970 + k) (1 + j)
  rw [Nat.add_sub_cancel_left, Nat.add_sub_cancel_left, Nat.add_sub_cancel]
  refine ⟨?_, ?_, ?_, ?_, ?_, ?_, ?_⟩ <;> omega

theorem civil_inj {days days' : Nat} (h : civil days = civil days') : days = days' := by
  rcases hcivil : civil days' with ⟨y, m, d⟩
  rw [hcivil] at h
  rw [(civil_spec h).1, (civil_spec hcivil).1]

theorem yearText_append_inj {y y' : Nat} {l l' : List Char} (hy : y < 10 ^ 6) (hy' : y' < 10 ^ 6)
    (h : yearText y ++ l = yearText y' ++ l') : y = y' ∧ l = l' := by
  have hsign : ∀ {y : Nat} {l l' : List Char}, digits 4 y ++ l ≠ '+' :: l' := by
    intro y l l' h
    have hmem : '+' ∈ digits 4 y := by
      cases hdigits : digits 4 y with
      | nil => exact absurd (hdigits ▸ digits_length 4 y) (by decide)
      | cons c cs =>
        rw [hdigits] at h
        rw [(List.cons.inj h).1]
        exact List.mem_cons_self
    exact absurd (isDigit_of_mem_digits hmem) (by decide)
  unfold yearText at h
  split at h
  · next hfour =>
    split at h
    · next hfour' => exact digits_append_inj hfour hfour' h
    · exact absurd h hsign
  · split at h
    · exact absurd h.symm hsign
    · exact digits_append_inj hy hy' (List.cons.inj h).2

theorem isoChars_inj {t t' : Timestamp} (h : isoChars t = isoChars t') : t = t' := by
  rcases hcivil : civil (t.ms / 86400000) with ⟨y, m, d⟩
  rcases hcivil' : civil (t'.ms / 86400000) with ⟨y', m', d'⟩
  obtain ⟨-, hyear, hy, -, hm, -, hd⟩ := civil_spec hcivil
  obtain ⟨-, hyear', hy', -, hm', -, hd'⟩ := civil_spec hcivil'
  have hvalid := t.valid
  have hvalid' := t'.valid
  simp only [isoChars, hcivil, hcivil', List.append_assoc, List.cons_append] at h
  obtain ⟨hy, h⟩ := yearText_append_inj (by omega) (by omega) h
  obtain ⟨hm, h⟩ := digits_append_inj (by omega) (by omega) (List.cons.inj h).2
  obtain ⟨hd, h⟩ := digits_append_inj (by omega) (by omega) (List.cons.inj h).2
  obtain ⟨hhours, h⟩ := digits_append_inj (by omega) (by omega) (List.cons.inj h).2
  obtain ⟨hminutes, h⟩ := digits_append_inj (by omega) (by omega) (List.cons.inj h).2
  obtain ⟨hseconds, h⟩ := digits_append_inj (by omega) (by omega) (List.cons.inj h).2
  obtain ⟨hms, -⟩ := digits_append_inj (by omega) (by omega) (List.cons.inj h).2
  have hdays : t.ms / 86400000 = t'.ms / 86400000 := by
    refine civil_inj ?_
    rw [hcivil, hcivil', hy, hm, hd]
  have heq : t.ms = t'.ms := by omega
  cases t
  cases t'
  subst heq
  rfl

/-- The characters of an ISO date. -/
def plain (c : Char) : Bool :=
  c.isDigit || c == '-' || c == '+' || c == 'T' || c == ':' || c == '.' || c == 'Z'

theorem plain_of_isDigit {c : Char} (h : c.isDigit = true) : plain c = true := by
  simp [plain, h]

theorem plain_of_mem_digits {c : Char} (h : c ∈ digits w n) : plain c = true :=
  plain_of_isDigit (isDigit_of_mem_digits h)

theorem plain_of_mem_yearText {c : Char} {y : Nat} (h : c ∈ yearText y) : plain c = true := by
  unfold yearText at h
  split at h
  · exact plain_of_mem_digits h
  · rcases List.mem_cons.mp h with rfl | h
    · decide
    · exact plain_of_mem_digits h

end IsoDate

theorem Timestamp.toISOString_inj {t t' : Timestamp} (h : t.toISOString = t'.toISOString) :
    t = t' :=
  IsoDate.isoChars_inj (String.ofList_injective h)

theorem Timestamp.plain_of_mem_toISOString {t : Timestamp} {c : Char}
    (h : c ∈ t.toISOString.toList) : IsoDate.plain c = true := by
  rw [Timestamp.toISOString, String.toList_ofList] at h
  rcases hcivil : IsoDate.civil (t.ms / 86400000) with ⟨y, m, d⟩
  have hyear : ∀ c ∈ IsoDate.yearText y, IsoDate.plain c = true :=
    fun c => IsoDate.plain_of_mem_yearText
  have hdigits : ∀ w n, ∀ c ∈ IsoDate.digits w n, IsoDate.plain c = true :=
    fun w n c => IsoDate.plain_of_mem_digits
  have hall : ∀ c ∈ IsoDate.isoChars t, IsoDate.plain c = true := by
    simp only [IsoDate.isoChars, hcivil, List.forall_mem_append, List.forall_mem_cons]
    exact ⟨⟨⟨⟨⟨⟨⟨hyear, rfl, hdigits 2 m⟩, rfl, hdigits 2 d⟩, rfl, hdigits 2 _⟩, rfl, hdigits 2 _⟩,
      rfl, hdigits 2 _⟩, rfl, hdigits 3 _⟩, rfl, fun _ h => absurd h List.not_mem_nil⟩
  exact hall c h

/-- A separator that is no character of a date does not stand in the text of one. -/
theorem Timestamp.not_mem_toISOString {c : Char} (h : IsoDate.plain c = false) (t : Timestamp) :
    c ∉ t.toISOString.toList := fun hmem =>
  absurd (Timestamp.plain_of_mem_toISOString hmem) (Bool.eq_false_iff.mp h)
