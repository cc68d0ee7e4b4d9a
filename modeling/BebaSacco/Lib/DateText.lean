import BebaSacco.Lib.IsoDate
import BebaSacco.Lib.JsValue

/-! # Dates that are read off a text

`Date.parse` of JavaScript on UTF-16 code units. A text of the form `YYYY-MM-DDTHH:mm:ss+HH:mm` is
read as the language says; a day that its month does not have counts into the next one. What becomes
of a text of another form is left open. A time value is a number of milliseconds since 1970.

Results:
1. `readNat_padded`: a number is read off its digits.
2. `read_fill`: a text that was put together by a form has this form if and only if its parts are
   digits.
3. `civilDate_spec`, `civilDate_year`: the day of the calendar of a number of days.
4. `dateParse_fill`: what is read off six parts and an offset.
-/

namespace DateText

open JsString IsoDate

/-! ## 1. Numbers of a fixed width -/

/-- The number that digits stand for. -/
def readNat (s : JsString) : Nat := s.foldl (fun n u => 10 * n + (u.toNat - 48)) 0

/-- The last `width` digits of `n`. -/
def padded : (width n : Nat) → JsString
  | 0, _ => []
  | width + 1, n => padded width (n / 10) ++ [(48 + n % 10).toUInt16]

section

variable {w n : Nat}

theorem toNat_digit (n : Nat) : (48 + n % 10).toUInt16.toNat = 48 + n % 10 := by
  rw [Nat.toUInt16_eq, UInt16.toNat_ofNat']
  exact Nat.mod_eq_of_lt (by omega)

theorem padded_digits (w n : Nat) : (padded w n).all isDigit = true := by
  induction w generalizing n with
  | zero => rfl
  | succ w ih =>
    have hdigit : isDigit (48 + n % 10).toUInt16 = true := by
      rw [isDigit, toNat_digit, Bool.and_eq_true, decide_eq_true_eq, decide_eq_true_eq]
      omega
    rw [padded, List.all_append, ih, Bool.true_and, List.all_cons, hdigit]
    rfl

/-- A number is read off its digits. -/
theorem readNat_padded (h : n < 10 ^ w) : readNat (padded w n) = n := by
  induction w generalizing n with
  | zero =>
    rw [Nat.pow_zero] at h
    exact (Nat.lt_one_iff.mp h).symm
  | succ w ih =>
    rw [Nat.pow_succ] at h
    have hdiv := ih (Nat.div_lt_of_lt_mul (Nat.mul_comm _ _ ▸ h))
    rw [readNat] at hdiv
    rw [readNat, padded, List.foldl_append, hdiv, List.foldl_cons, List.foldl_nil, toNat_digit]
    omega

end

/-! ## 2. Texts of a fixed form -/

/-- A number of so many digits, or a unit that has its place. -/
inductive Piece where
  | number (width : Nat)
  | unit (u : UInt16)

abbrev Form := List Piece

/-- The numbers of a text that has the form. -/
def read : Form → JsString → Option (List Nat)
  | [], text => if text.isEmpty then some [] else none
  | .number width :: form, text =>
    if (text.take width).length = width ∧ (text.take width).all isDigit = true then
      (read form (text.drop width)).map (readNat (text.take width) :: ·)
    else none
  | .unit u :: form, text => if text.head? = some u then read form text.tail else none

/-- The text in which the parts stand for the numbers of the form. -/
def fill : Form → List JsString → JsString
  | .number _ :: form, part :: parts => part ++ fill form parts
  | .unit u :: form, parts => u :: fill form parts
  | _, _ => []

/-- There is a part for each number, of its width. -/
def fitsForm : Form → List JsString → Bool
  | [], parts => parts.isEmpty
  | .number _ :: _, [] => false
  | .number width :: form, part :: parts => part.length == width && fitsForm form parts
  | .unit _ :: form, parts => fitsForm form parts

/-- A text that was put together by a form has this form if and only if its parts are digits. -/
theorem read_fill {form : Form} {parts : List JsString} (h : fitsForm form parts = true) :
    read form (fill form parts) =
      if parts.all (·.all isDigit) then some (parts.map readNat) else none := by
  induction form generalizing parts with
  | nil =>
    rw [fitsForm, List.isEmpty_iff] at h
    rw [h]
    rfl
  | cons piece form ih =>
    cases piece with
    | unit u =>
      rw [fitsForm] at h
      rw [fill, read, List.head?_cons, if_pos rfl, List.tail_cons, ih h]
    | number width =>
      cases parts with
      | nil => cases h
      | cons part parts =>
        rw [fitsForm, Bool.and_eq_true, beq_iff_eq] at h
        obtain ⟨rfl, hparts⟩ := h
        rw [fill, read, List.take_left, List.drop_left, ih hparts, List.all_cons]
        cases hdigits : part.all isDigit with
        | false => rw [if_neg (fun hand => Bool.false_ne_true hand.2)]; rfl
        | true =>
          rw [if_pos ⟨rfl, rfl⟩, Bool.true_and]
          split <;> rfl

/-! ## 3. The calendar from year 0 on -/

/-- The days from the first of January of year 0 to a day, also one behind the end of its month. -/
def dayNumber (y m d : Nat) : Nat :=
  total yearLength 0 y + total (monthLength y) 1 (m - 1) + (d - 1)

/-- The year, the month and the day of the month, from the days since the first of January of year
0. -/
def civilDate (days : Nat) : Nat × Nat × Nat :=
  let (y, dayOfYear) := periods yearLength (days + 1) 0 days
  let (m, dayOfMonth) := periods (monthLength y) 12 1 dayOfYear
  (y, m, dayOfMonth + 1)

section

variable {length : Nat → Nat} {days y m d : Nat}

theorem total_add (length : Nat → Nat) (n j k : Nat) :
    total length n (j + k) = total length n j + total length (n + j) k := by
  induction j generalizing n with
  | zero => rw [Nat.zero_add, Nat.add_zero, total, Nat.zero_add]
  | succ j ih =>
    rw [Nat.succ_add, total, total, ih, Nat.add_right_comm, Nat.add_assoc n, Nat.add_assoc]

theorem total_shift {p : Nat} (h : ∀ n, length (n + p) = length n) (n k : Nat) :
    total length (n + p) k = total length n k := by
  induction k generalizing n with
  | zero => rfl
  | succ k ih => rw [total, total, h, Nat.add_right_comm, ih]

theorem yearLength_shift (y : Nat) : yearLength (y + 400) = yearLength y := by
  have h4 : (y + 400) % 4 = y % 4 := by omega
  have h100 : (y + 400) % 100 = y % 100 := by omega
  have h400 : (y + 400) % 400 = y % 400 := by omega
  rw [yearLength, yearLength, isLeap, isLeap, h4, h100, h400]

/-- 400 years have 146097 days. -/
theorem total_centuries (k : Nat) : total yearLength 0 (400 * k) = 146097 * k := by
  induction k with
  | zero => rfl
  | succ k ih =>
    have hshift : ∀ k, total yearLength (0 + 400 * k) 400 = total yearLength 0 400 := by
      intro k
      induction k with
      | zero => rfl
      | succ k ih => rw [Nat.mul_succ, ← Nat.add_assoc, total_shift yearLength_shift, ih]
    have hfour : total yearLength 0 400 = 146097 := by decide +kernel
    rw [Nat.mul_succ, total_add, ih, hshift, hfour, Nat.mul_succ]

/-- A day of the calendar lies in its month, and its number is the number of days. -/
theorem civilDate_spec (h : civilDate days = (y, m, d)) :
    dayNumber y m d = days ∧ 1 ≤ m ∧ m ≤ 12 ∧ 1 ≤ d ∧ d ≤ monthLength y m := by
  rw [civilDate] at h
  rcases hyear : periods yearLength (days + 1) 0 days with ⟨y', dayOfYear⟩
  rcases hmonth : periods (monthLength y') 12 1 dayOfYear with ⟨m', dayOfMonth⟩
  simp only [hyear, hmonth, Prod.mk.injEq] at h
  obtain ⟨rfl, rfl, rfl⟩ := h
  obtain ⟨k, -, hk, hdays⟩ := periods_total hyear
  obtain ⟨j, hj, rfl, hdayOfYear⟩ := periods_total hmonth
  rw [Nat.zero_add] at hk
  subst hk
  have hfuel := total_ge yearLength_ge 0 (days + 1)
  -- the fuel is more than there are years, so the day of the year lies within its year
  have hlt := periods_lt hyear (by omega)
  have hmonths := months_total y'
  have hdayOfMonth := periods_lt hmonth (by rw [hmonths]; exact hlt)
  have htwelve : j ≠ 12 := by
    rintro rfl
    omega
  rw [dayNumber, Nat.add_sub_cancel_left, Nat.add_sub_cancel]
  refine ⟨?_, ?_, ?_, ?_, ?_⟩ <;> omega

/-- The first 3652425 days are those of the years of four digits. -/
theorem civilDate_year (h : civilDate days = (y, m, d)) (hdays : days < 3652425) : y < 10000 := by
  have hnumber := (civilDate_spec h).1
  rcases Nat.lt_or_ge y 10000 with hlt | hge
  · exact hlt
  · have hten : total yearLength 0 10000 = 3652425 := total_centuries 25
    have htotal := total_add yearLength 0 10000 (y - 10000)
    rw [Nat.add_sub_cancel' hge] at htotal
    rw [dayNumber] at hnumber
    omega

end

/-! ## 4. `Date.parse` -/

/-- `YYYY-MM-DDTHH:mm:ss+HH:mm` -/
def dateTimeForm : Form :=
  [.number 4, .unit 45, .number 2, .unit 45, .number 2, .unit 84, .number 2, .unit 58, .number 2,
    .unit 58, .number 2, .unit 43, .number 2, .unit 58, .number 2]

/-- The time of a day; 24:00:00 is its end. -/
def isTime (hour minute second : Nat) : Bool :=
  decide (hour < 24) && decide (minute < 60) && decide (second < 60) ||
    hour == 24 && minute == 0 && second == 0

def isDay (month day : Nat) : Bool :=
  decide (1 ≤ month) && decide (month ≤ 12) && decide (1 ≤ day) && decide (day ≤ 31)

/-- The seconds from the first of January of year 0 to a time of a day. -/
def secondNumber (year month day hour minute second : Nat) : Nat :=
  dayNumber year month day * 86400 + hour * 3600 + minute * 60 + second

/-- The seconds from the first of January of year 0 to that of 1970. -/
def epoch : Nat := 719528 * 86400

example : dayNumber 1970 1 1 * 86400 = epoch := by decide +kernel

/-- What the numbers of a date and time say; none where one is out of bounds. -/
def timeValue : List Nat → Option Int
  | [year, month, day, hour, minute, second, offsetHour, offsetMinute] =>
    if isDay month day && isTime hour minute second && decide (offsetHour < 24) &&
        decide (offsetMinute < 60) then
      some (((secondNumber year month day hour minute second : Int) - epoch -
        (offsetHour * 3600 + offsetMinute * 60 : Nat)) * 1000)
    else none
  | _ => none

/-- `Date.parse`: a time value or none, which is `NaN`. -/
def dateParse (other : JsString → Option Int) (text : JsString) : Option Int :=
  match read dateTimeForm text with
  | some numbers => timeValue numbers
  | none => other text

/-- What is read off six parts and an offset. -/
theorem dateParse_fill (other : JsString → Option Int) {parts : List JsString}
    (h : fitsForm dateTimeForm parts = true) :
    dateParse other (fill dateTimeForm parts) =
      if parts.all (·.all isDigit) then timeValue (parts.map readNat)
      else other (fill dateTimeForm parts) := by
  rw [dateParse, read_fill h]
  cases parts.all (·.all isDigit) with
  | false => rfl
  | true => rfl

end DateText
