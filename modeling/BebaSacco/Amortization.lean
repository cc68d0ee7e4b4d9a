import BebaSacco.Ledger
import BebaSacco.Lib.Precision

/-! # The schedule of instalments

A loan is quoted one level instalment, and its disbursement splits each instalment into principal
and interest, rounded to four places. The last row gets what is left.

Results:
 1. `flatRows_eq`: the rows of a flat loan.
 2. `reducingRows_sum`: on a reducing balance the rows sum to the principal.
 3. `schedule_correct_iff`: when the rows sum to the principal and to the interest, none is
    negative, and all but the last are the instalment that was quoted.
 4. `schedule_broken`: a last row below zero, and rows without an instalment.
-/

namespace BebaSacco

open Rounding (significant)

/-! ## 1. The instalment and its split -/

inductive InterestType where
  | flat
  | reducingBalance
  deriving DecidableEq, Repr

/-- Every product, quotient and power has twenty digits, and so has a sum with one of them. -/
def calculateInstalment (principal annualRate : ℚ) (tenureMonths : Nat) : InterestType → ℚ
  | .flat =>
    let totalInterest := significant
      (significant (principal * annualRate) * significant ((tenureMonths : ℚ) / 12))
    significant (significant (principal + totalInterest) / tenureMonths)
  | .reducingBalance =>
    let r := significant (annualRate / 12)
    if r = 0 then significant (principal / tenureMonths)
    else
      let onePlusR := significant (1 + r)
      let onePlusRPowN := significant (onePlusR ^ tenureMonths)
      significant (significant (significant (principal * r) * onePlusRPowN) /
        significant (onePlusRPowN - 1))

/-- The column `monthlyInstalment`, which keeps four places. -/
def monthlyInstalment (principal : Nat) (annualRate : ℚ) (tenureMonths : Nat)
    (interestType : InterestType) : Int :=
  toDecimalPlaces4 (calculateInstalment (ofUnits principal) annualRate tenureMonths interestType)

structure AmortizationRow where
  principalDue : Int
  interestDue : Int
  deriving DecidableEq, Repr

def AmortizationRow.total (row : AmortizationRow) : Int := row.principalDue + row.interestDue

/-- The rows of a flat loan that are left, after those that took what is accrued. -/
def flatRows (principal totalInterest interestPerPeriod : Int) (instalment : ℚ) :
    Nat → Int → Int → List AmortizationRow
  | 0, _, _ => []
  | left + 1, principalAccrued, interestAccrued =>
    let isLast := left = 0
    let interestDue := if isLast then totalInterest - interestAccrued else interestPerPeriod
    let principalDue :=
      if isLast then principal - principalAccrued
      else toDecimalPlaces4 (instalment - ofUnits interestPerPeriod)
    { principalDue, interestDue } ::
      flatRows principal totalInterest interestPerPeriod instalment left
        (principalAccrued + principalDue) (interestAccrued + interestDue)

def interestOn (monthlyRate : ℚ) (outstanding : Int) : Int :=
  if monthlyRate = 0 then 0
  else toDecimalPlaces4 (significant (ofUnits outstanding * monthlyRate))

def reducingRows (principal : Int) (monthlyRate instalment : ℚ) :
    Nat → Int → Int → List AmortizationRow
  | 0, _, _ => []
  | left + 1, outstanding, principalAccrued =>
    let isLast := left = 0
    let interestDue := interestOn monthlyRate outstanding
    let principalDue :=
      if isLast then principal - principalAccrued
      else min (toDecimalPlaces4 (instalment - ofUnits interestDue)) outstanding
    { principalDue, interestDue } ::
      reducingRows principal monthlyRate instalment left (outstanding - principalDue)
        (principalAccrued + principalDue)

/-- The interest of a flat loan over its tenure. -/
def flatInterest (principal : Nat) (annualRate : ℚ) (tenureMonths : Nat) : Int :=
  toDecimalPlaces4
    (significant (significant (significant (ofUnits principal * annualRate) * tenureMonths) / 12))

def flatInterestPerPeriod (principal : Nat) (annualRate : ℚ) (tenureMonths : Nat) : Int :=
  toDecimalPlaces4
    (significant (ofUnits (flatInterest principal annualRate tenureMonths) / tenureMonths))

/-- The amounts fit their columns, so that sums and differences of them are exact. -/
def buildAmortizationSchedule (principal : Nat) (annualRate : ℚ) (tenureMonths : Nat)
    (interestType : InterestType) (instalment : ℚ) : List AmortizationRow :=
  match interestType with
  | .flat =>
    flatRows principal (flatInterest principal annualRate tenureMonths)
      (flatInterestPerPeriod principal annualRate tenureMonths) instalment tenureMonths 0 0
  | .reducingBalance =>
    reducingRows principal (significant (annualRate / 12)) instalment tenureMonths principal 0

/-- The schedule that the disbursement writes. -/
def quotedSchedule (principal : Nat) (annualRate : ℚ) (tenureMonths : Nat)
    (interestType : InterestType) : List AmortizationRow :=
  buildAmortizationSchedule principal annualRate tenureMonths interestType
    (ofUnits (monthlyInstalment principal annualRate tenureMonths interestType))

/-! ## 2. What a schedule should be -/

def principalSum (rows : List AmortizationRow) : Int := (rows.map (·.principalDue)).sum

def interestSum (rows : List AmortizationRow) : Int := (rows.map (·.interestDue)).sum

structure ScheduleCorrect (principal : Nat) (annualRate : ℚ) (tenureMonths : Nat)
    (interestType : InterestType) (rows : List AmortizationRow) : Prop where
  length : rows.length = tenureMonths
  principal_nonneg : ∀ row ∈ rows, 0 ≤ row.principalDue
  principal_sum : principalSum rows = principal
  interest_nonneg : ∀ row ∈ rows, 0 ≤ row.interestDue
  interest_sum : interestType = .flat →
    interestSum rows = flatInterest principal annualRate tenureMonths
  interest_due : interestType = .reducingBalance → ∀ (i : Nat) (row : AmortizationRow),
    rows[i]? = some row → row.interestDue = toDecimalPlaces4 (significant
      (ofUnits (principal - principalSum (rows.take i)) * significant (annualRate / 12)))
  quoted : ∀ row ∈ rows.dropLast,
    row.total = monthlyInstalment principal annualRate tenureMonths interestType

/-- So many full instalments pay the interest on the debt, and not more than the debt with it. -/
def owesInstalments (monthlyRate : ℚ) (instalment : Int) : Nat → Int → Bool
  | 0, _ => true
  | k + 1, debt =>
    let interest := interestOn monthlyRate debt
    interest ≤ instalment && instalment ≤ debt + interest &&
      owesInstalments monthlyRate instalment k (debt + interest - instalment)

/-- All instalments but the last pay their interest, and leave something for the last one to pay, or
nothing. -/
def schedulable (principal : Nat) (annualRate : ℚ) (tenureMonths : Nat)
    (interestType : InterestType) : Bool :=
  let instalment := monthlyInstalment principal annualRate tenureMonths interestType
  match interestType with
  | .flat =>
    let interestPerPeriod := flatInterestPerPeriod principal annualRate tenureMonths
    (tenureMonths == 1 || interestPerPeriod ≤ instalment) &&
      (tenureMonths - 1 : Nat) * (instalment - interestPerPeriod) ≤ principal &&
      (tenureMonths - 1 : Nat) * interestPerPeriod ≤ flatInterest principal annualRate tenureMonths
  | .reducingBalance =>
    owesInstalments (significant (annualRate / 12)) instalment (tenureMonths - 1) principal

namespace AmortizationLemmas

variable {principal totalInterest interestPerPeriod instalment outstanding accrued : Int}
  {monthlyRate annualRate : ℚ} {n left : Nat}

/-! ## 3. Flat loans -/

theorem round_sub (instalment x : Int) :
    toDecimalPlaces4 (ofUnits instalment - ofUnits x) = instalment - x := by
  have hunits : ofUnits instalment - ofUnits x = ofUnits (instalment - x) := by
    unfold ofUnits Rounding.units
    push_cast
    ring
  rw [hunits]
  exact toDecimalPlaces4_ofUnits _

theorem flatRows_eq (left : Nat) (principalAccrued interestAccrued : Int) :
    flatRows principal totalInterest interestPerPeriod (ofUnits instalment) (left + 1)
        principalAccrued interestAccrued =
      List.replicate left ⟨instalment - interestPerPeriod, interestPerPeriod⟩ ++
        [⟨principal - principalAccrued - left * (instalment - interestPerPeriod),
          totalInterest - interestAccrued - left * interestPerPeriod⟩] := by
  induction left generalizing principalAccrued interestAccrued with
  | zero => simp [flatRows]
  | succ left ih =>
    rw [flatRows, ih]
    simp only [Nat.add_one_ne_zero, if_false, round_sub, List.replicate_succ, List.cons_append]
    push_cast
    ring_nf

theorem ofUnits_nonneg {x : Int} (h : 0 ≤ x) : 0 ≤ ofUnits x :=
  div_nonneg (by exact_mod_cast h) (by norm_num)

theorem round_nonneg {q : ℚ} (h : 0 ≤ q) : 0 ≤ toDecimalPlaces4 (significant q) :=
  Rounding.roundTo_nonneg (Rounding.significant_nonneg h)

theorem flatInterest_nonneg (principal n : Nat) (hrate : 0 ≤ annualRate) :
    0 ≤ flatInterest principal annualRate n := by
  have hprincipal : 0 ≤ ofUnits principal := ofUnits_nonneg (Int.natCast_nonneg _)
  have hyear := Rounding.significant_nonneg (mul_nonneg hprincipal hrate)
  have hall := Rounding.significant_nonneg (mul_nonneg hyear (Nat.cast_nonneg n))
  exact round_nonneg (div_nonneg hall (by norm_num))

theorem flatInterestPerPeriod_nonneg {principal : Nat} (hrate : 0 ≤ annualRate) :
    0 ≤ flatInterestPerPeriod principal annualRate n :=
  round_nonneg (div_nonneg (ofUnits_nonneg (flatInterest_nonneg principal n hrate))
    (Nat.cast_nonneg n))

/-! ## 4. Reducing balances -/

theorem interestOn_eq (monthlyRate : ℚ) (outstanding : Int) :
    interestOn monthlyRate outstanding =
      toDecimalPlaces4 (significant (ofUnits outstanding * monthlyRate)) := by
  unfold interestOn
  split
  · next hzero =>
    have hunits : toDecimalPlaces4 (ofUnits 0) = 0 := toDecimalPlaces4_ofUnits 0
    have hnone : ofUnits 0 = 0 := by simp [ofUnits, Rounding.units]
    rw [hzero, mul_zero, Rounding.significant_zero, ← hnone, hunits]
  · rfl

theorem interestOn_nonneg (hrate : 0 ≤ monthlyRate) (h : 0 ≤ outstanding) :
    0 ≤ interestOn monthlyRate outstanding := by
  rw [interestOn_eq]
  exact round_nonneg (mul_nonneg (ofUnits_nonneg h) hrate)

/-- A row before the last pays the instalment, as far as that much is owed. -/
theorem reducingRows_succ (left : Nat) (outstanding accrued : Int) :
    reducingRows principal monthlyRate (ofUnits instalment) (left + 2) outstanding accrued =
      ⟨min (instalment - interestOn monthlyRate outstanding) outstanding,
          interestOn monthlyRate outstanding⟩ ::
        reducingRows principal monthlyRate (ofUnits instalment) (left + 1)
          (outstanding - min (instalment - interestOn monthlyRate outstanding) outstanding)
          (accrued + min (instalment - interestOn monthlyRate outstanding) outstanding) := by
  rw [reducingRows]
  simp only [Nat.add_one_ne_zero, if_false, round_sub]

theorem reducingRows_length (left : Nat) (outstanding accrued : Int) :
    (reducingRows principal monthlyRate (ofUnits instalment) left outstanding accrued).length =
      left := by
  induction left generalizing outstanding accrued with
  | zero => rfl
  | succ left ih => rw [reducingRows, List.length_cons, ih]

theorem reducingRows_sum (left : Nat) (outstanding accrued : Int) :
    principalSum (reducingRows principal monthlyRate (ofUnits instalment) (left + 1) outstanding
      accrued) = principal - accrued := by
  induction left generalizing outstanding accrued with
  | zero => exact Int.add_zero _
  | succ left ih =>
    have hrest := ih
      (outstanding - min (instalment - interestOn monthlyRate outstanding) outstanding)
      (accrued + min (instalment - interestOn monthlyRate outstanding) outstanding)
    rw [reducingRows_succ]
    unfold principalSum at hrest ⊢
    rw [List.map_cons, List.sum_cons, hrest]
    dsimp only
    omega

/-- Each row has the interest on what the rows before it have left. -/
theorem reducingRows_interest {left i : Nat} {row : AmortizationRow} (outstanding accrued : Int)
    (hrow : (reducingRows principal monthlyRate (ofUnits instalment) left outstanding accrued)[i]? =
      some row) :
    row.interestDue = interestOn monthlyRate (outstanding - principalSum ((reducingRows principal
      monthlyRate (ofUnits instalment) left outstanding accrued).take i)) := by
  induction left generalizing i outstanding accrued with
  | zero => cases hrow
  | succ left ih =>
    rw [reducingRows] at hrow ⊢
    cases i with
    | zero =>
      cases hrow
      rw [List.take_zero]
      exact congrArg (interestOn monthlyRate) (Int.sub_zero _).symm
    | succ i =>
      rw [List.take_succ_cons, ih _ _ hrow]
      refine congrArg (interestOn monthlyRate) ?_
      unfold principalSum
      rw [List.map_cons, List.sum_cons]
      exact Int.sub_sub _ _ _

/-- All rows but the last are full instalments, and none is negative, exactly when so many are
owed. -/
theorem reducingRows_quoted (principal instalment : Int) (hrate : 0 ≤ monthlyRate) (left : Nat)
    (outstanding : Int) (h : 0 ≤ outstanding) :
    let rows := reducingRows principal monthlyRate (ofUnits instalment) (left + 1) outstanding
      (principal - outstanding)
    ((∀ row ∈ rows, 0 ≤ row.principalDue) ∧ (∀ row ∈ rows, 0 ≤ row.interestDue) ∧
        ∀ row ∈ rows.dropLast, row.total = instalment) ↔
      owesInstalments monthlyRate instalment left outstanding = true := by
  intro rows
  have hinterest := interestOn_nonneg hrate h
  induction left generalizing outstanding with
  | zero =>
    have hlast : principal - (principal - outstanding) = outstanding := by omega
    simp only [rows, reducingRows, if_true, hlast, List.mem_singleton, forall_eq,
      List.dropLast_singleton, owesInstalments, iff_true]
    exact ⟨h, hinterest, fun _ hnone => (by cases hnone)⟩
  | succ left ih =>
    have hrows : rows = _ := reducingRows_succ left outstanding (principal - outstanding)
    have hne : ∀ o a, reducingRows principal monthlyRate (ofUnits instalment) (left + 1) o a ≠ [] :=
      fun _ _ => List.cons_ne_nil _ _
    rw [hrows, List.forall_mem_cons, List.forall_mem_cons, List.dropLast_cons_of_ne_nil (hne _ _),
      List.forall_mem_cons, owesInstalments, Bool.and_eq_true, Bool.and_eq_true, decide_eq_true_eq,
      decide_eq_true_eq]
    dsimp only [AmortizationRow.total]
    by_cases howed : interestOn monthlyRate outstanding ≤ instalment ∧
        instalment ≤ outstanding + interestOn monthlyRate outstanding
    · have hpart : min (instalment - interestOn monthlyRate outstanding) outstanding =
          instalment - interestOn monthlyRate outstanding := min_eq_left (by omega)
      have hleft : outstanding - (instalment - interestOn monthlyRate outstanding) =
          outstanding + interestOn monthlyRate outstanding - instalment := by omega
      have haccrued : principal - outstanding + (instalment - interestOn monthlyRate outstanding) =
          principal - (outstanding + interestOn monthlyRate outstanding - instalment) := by omega
      have hnext := ih (outstanding + interestOn monthlyRate outstanding - instalment) (by omega)
        (interestOn_nonneg hrate (by omega))
      rw [hpart, hleft, haccrued]
      constructor
      · rintro ⟨⟨-, hprincipal⟩, ⟨-, hrest⟩, -, hquoted⟩
        exact ⟨howed, hnext.mp ⟨hprincipal, hrest, hquoted⟩⟩
      · rintro ⟨-, hall⟩
        obtain ⟨hprincipal, hrest, hquoted⟩ := hnext.mpr hall
        exact ⟨⟨by omega, hprincipal⟩, ⟨hinterest, hrest⟩, by omega, hquoted⟩
    · refine iff_of_false ?_ fun hall => howed hall.1
      rintro ⟨⟨hshare, -⟩, -, htotal, -⟩
      omega

theorem replicate_sum (k : Nat) (x : Int) : (List.replicate k x).sum = k * x := by
  rw [List.sum_replicate, nsmul_eq_mul]

theorem forall_rows {a b : AmortizationRow} {P : AmortizationRow → Prop} (k : Nat) :
    (∀ row ∈ List.replicate k a ++ [b], P row) ↔ (k = 0 ∨ P a) ∧ P b := by
  constructor
  · refine fun h => ⟨?_, h b (List.mem_append_right _ (List.mem_singleton_self b))⟩
    rcases Nat.eq_zero_or_pos k with hzero | hpos
    · exact .inl hzero
    · exact .inr (h a (List.mem_append_left _ (List.mem_replicate.mpr ⟨Nat.ne_of_gt hpos, rfl⟩)))
  · rintro ⟨ha, hb⟩ row hrow
    rcases List.mem_append.mp hrow with hrow | hrow
    · obtain ⟨hne, rfl⟩ := List.mem_replicate.mp hrow
      exact ha.resolve_left hne
    · rw [List.mem_singleton.mp hrow]
      exact hb

theorem flat_correct_iff {principal : Nat} (hrate : 0 ≤ annualRate) (left : Nat) :
    ScheduleCorrect principal annualRate (left + 1) .flat
        (quotedSchedule principal annualRate (left + 1) .flat) ↔
      schedulable principal annualRate (left + 1) .flat = true := by
  have hnonneg : 0 ≤ flatInterestPerPeriod principal annualRate (left + 1) :=
    flatInterestPerPeriod_nonneg hrate
  have hrows : quotedSchedule principal annualRate (left + 1) .flat = _ :=
    flatRows_eq left 0 0
  have hone : (left + 1 == 1) = true ↔ left = 0 := by
    rw [beq_iff_eq]
    exact Nat.succ_inj
  unfold schedulable
  simp only [Nat.add_sub_cancel, Bool.and_eq_true, Bool.or_eq_true, decide_eq_true_eq, hone]
  rw [hrows]
  generalize flatInterestPerPeriod principal annualRate (left + 1) = interestPerPeriod at *
  generalize hinstalment : monthlyInstalment principal annualRate (left + 1) .flat = instalment at *
  constructor
  · intro h
    obtain ⟨hshare, hp⟩ := (forall_rows left).mp h.principal_nonneg
    have hi := ((forall_rows left).mp h.interest_nonneg).2
    dsimp only at hshare hp hi
    refine ⟨⟨hshare.imp_right fun h => by omega, by omega⟩, by omega⟩
  · rintro ⟨⟨hshare, hp⟩, hi⟩
    refine ⟨?_, (forall_rows left).mpr ⟨hshare.imp_right fun h => by dsimp only; omega, ?_⟩, ?_,
      (forall_rows left).mpr ⟨.inr hnonneg, ?_⟩, fun _ => ?_, fun h => (by cases h),
      fun row hmem => ?_⟩
    · simp
    · dsimp only
      omega
    · unfold principalSum
      rw [List.map_append, List.map_replicate, List.sum_append, replicate_sum, List.map_singleton,
        List.sum_singleton]
      dsimp only
      omega
    · dsimp only
      omega
    · unfold interestSum
      rw [List.map_append, List.map_replicate, List.sum_append, replicate_sum, List.map_singleton,
        List.sum_singleton]
      dsimp only
      omega
    · rw [List.dropLast_concat] at hmem
      rw [List.eq_of_mem_replicate hmem, hinstalment]
      exact Int.sub_add_cancel _ _

theorem reducing_correct_iff {principal : Nat} (hrate : 0 ≤ annualRate) (left : Nat) :
    ScheduleCorrect principal annualRate (left + 1) .reducingBalance
        (quotedSchedule principal annualRate (left + 1) .reducingBalance) ↔
      schedulable principal annualRate (left + 1) .reducingBalance = true := by
  have hmonthly : 0 ≤ significant (annualRate / 12) :=
    Rounding.significant_nonneg (by positivity)
  have hquoted := reducingRows_quoted principal
    (monthlyInstalment principal annualRate (left + 1) .reducingBalance) hmonthly left principal
    (Int.natCast_nonneg principal)
  rw [Int.sub_self] at hquoted
  have hschedulable : _ ↔ schedulable principal annualRate (left + 1) .reducingBalance = true :=
    hquoted
  rw [← hschedulable]
  refine ⟨fun h => ⟨h.principal_nonneg, h.interest_nonneg, h.quoted⟩, fun h =>
    ⟨reducingRows_length _ _ _, h.1, ?_, h.2.1, fun h => (by cases h), fun _ i row hrow => ?_,
      h.2.2⟩⟩
  · exact (reducingRows_sum left _ _).trans (Int.sub_zero _)
  · rw [← interestOn_eq]
    exact reducingRows_interest _ _ hrow

end AmortizationLemmas

open AmortizationLemmas

/-! ## 5. Schedules -/

/-- A schedule is what it should be exactly when all instalments but the last pay their interest and
leave something for the last one to pay, or nothing. -/
theorem schedule_correct_iff {principal : Nat} {annualRate : ℚ} {tenureMonths : Nat}
    {interestType : InterestType} (hrate : 0 ≤ annualRate) (htenure : 0 < tenureMonths) :
    ScheduleCorrect principal annualRate tenureMonths interestType
        (quotedSchedule principal annualRate tenureMonths interestType) ↔
      schedulable principal annualRate tenureMonths interestType = true := by
  obtain ⟨left, rfl⟩ := Nat.exists_eq_succ_of_ne_zero (Nat.ne_of_gt htenure)
  cases interestType with
  | flat => exact flat_correct_iff hrate left
  | reducingBalance => exact reducing_correct_iff hrate left

/-- KES 1000 over a year at 12 %. -/
theorem schedule_correct_year :
    ScheduleCorrect 10000000 (12 / 100) 12 .reducingBalance
      (quotedSchedule 10000000 (12 / 100) 12 .reducingBalance) :=
  (schedule_correct_iff (by decide +kernel) (by decide)).mpr (by decide +kernel)

/-- A share of 8.5 units is rounded to 9, and the last row of 60 has to give back 21 units. On a
reducing balance the three rows before it go short instead: one gets 6 units and the next two none.
KES 246 over ten years at 120 % are paid off one instalment early. -/
theorem schedule_broken :
    (quotedSchedule 510 0 60 .flat)[59]? = some ⟨-21, 0⟩ ∧
      monthlyInstalment 510 0 60 .reducingBalance = 9 ∧
      (quotedSchedule 510 0 60 .reducingBalance).drop 56 = [⟨6, 0⟩, ⟨0, 0⟩, ⟨0, 0⟩, ⟨0, 0⟩] ∧
      monthlyInstalment 2460000 (6 / 5) 120 .reducingBalance = 246003 ∧
      (quotedSchedule 2460000 (6 / 5) 120 .reducingBalance).drop 118 =
        [⟨222331, 22233⟩, ⟨0, 0⟩] := by
  decide +kernel

end BebaSacco
