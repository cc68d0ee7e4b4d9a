import BebaSacco.Amortization
import BebaSacco.System

/-! # The application of a member

`memberApply` quotes the instalment with a formula of its own, and when the guarantors are only named
it splits the cover among them in equal shares.

Results:
 1. `instalments_agree_iff`: when the instalment of the application is the one of the disbursement.
 2. `instalment_undefined`: a loan without interest has no instalment at its application.
 3. `equal_shares_cover`: the shares add up to the cover, and only the funds of a guarantor or a
    guarantor who is named twice can be refused.
 4. `equal_share_zero`: a cover of fewer units than guarantors.
-/

namespace BebaSacco

open Rounding

/-! ## 1. The instalment -/

/-- `Decimal.div`: a quotient by zero is not a number. -/
def decimalDiv (x y : ℚ) : Option ℚ := if y = 0 then none else some (significant (x / y))

/-- The formula of `LoanApplicationService`. -/
def LoanApplication.calculateInstalment (principal annualRate : ℚ) (tenureMonths : Nat) :
    InterestType → Option ℚ
  | .flat => do
    let totalInterest ←
      decimalDiv (significant (significant (principal * annualRate) * tenureMonths)) 12
    let total := significant (principal + totalInterest)
    decimalDiv total tenureMonths
  | .reducingBalance => do
    let monthlyRate ← decimalDiv annualRate 12
    let pow := significant (significant (monthlyRate + 1) ^ tenureMonths)
    let numerator := significant (significant (principal * monthlyRate) * pow)
    let denominator := significant (pow - 1)
    decimalDiv numerator denominator

/-- The instalment of the application is a number, not negative, and the one of the disbursement. -/
def InstalmentsAgree (principal annualRate : ℚ) (tenureMonths : Nat) (interestType : InterestType) :
    Prop :=
  ∃ instalment,
    LoanApplication.calculateInstalment principal annualRate tenureMonths interestType =
      some instalment ∧ 0 ≤ instalment ∧
    instalment = calculateInstalment principal annualRate tenureMonths interestType

namespace MemberApplyLemmas

variable {principal annualRate tenureMonths : Nat}

theorem decimalDiv_some {x y : ℚ} (h : y ≠ 0) : decimalDiv x y = some (significant (x / y)) :=
  if_neg h

theorem ofUnits_natCast_nonneg (x : Nat) : 0 ≤ ofUnits x :=
  div_nonneg (by exact_mod_cast Nat.zero_le x) (by norm_num)

/-- The interest that the two formulas find. -/
theorem flat_agrees (htenure : 1 ≤ tenureMonths)
    (h : significant (significant (significant (ofUnits principal * ofUnits annualRate) *
        tenureMonths) / 12) =
      significant (significant (ofUnits principal * ofUnits annualRate) *
        significant ((tenureMonths : ℚ) / 12))) :
    InstalmentsAgree (ofUnits principal) (ofUnits annualRate) tenureMonths .flat := by
  have htwelve : (12 : ℚ) ≠ 0 := by norm_num
  have hmonths : (tenureMonths : ℚ) ≠ 0 := Nat.cast_ne_zero.mpr (Nat.ne_of_gt htenure)
  refine ⟨calculateInstalment (ofUnits principal) (ofUnits annualRate) tenureMonths .flat, ?_, ?_, rfl⟩
  · unfold LoanApplication.calculateInstalment calculateInstalment
    dsimp only
    rw [decimalDiv_some htwelve, Option.bind_eq_bind, Option.bind_some, decimalDiv_some hmonths, h]
  · have hyear := significant_nonneg
      (mul_nonneg (ofUnits_natCast_nonneg principal) (ofUnits_natCast_nonneg annualRate))
    have hyears : (0 : ℚ) ≤ significant ((tenureMonths : ℚ) / 12) :=
      significant_nonneg (by positivity)
    have htotal := add_nonneg (ofUnits_natCast_nonneg principal)
      (significant_nonneg (mul_nonneg hyear hyears))
    exact significant_nonneg (div_nonneg (significant_nonneg htotal) (Nat.cast_nonneg _))

/-- Without interest nothing is rounded. -/
theorem flat_free (tenureMonths : Nat) :
    significant (significant (significant (ofUnits principal * ofUnits (0 : Nat)) *
        tenureMonths) / 12) =
      significant (significant (ofUnits principal * ofUnits (0 : Nat)) *
        significant ((tenureMonths : ℚ) / 12)) := by
  have hnone : ofUnits (0 : Nat) = 0 := by simp [ofUnits, Rounding.units]
  simp only [hnone, mul_zero, zero_mul, zero_div, significant_zero]

/-- The interest of the whole tenure and the quarters of a year have all their digits. -/
theorem flat_exact (hquarters : 3 ∣ tenureMonths) (hint : tenureMonths < 2 ^ 31)
    (htenure : 1 ≤ tenureMonths) (hdigits : principal * annualRate * tenureMonths < 10 ^ 20) :
    significant (significant (significant (ofUnits principal * ofUnits annualRate) *
        tenureMonths) / 12) =
      significant (significant (ofUnits principal * ofUnits annualRate) *
        significant ((tenureMonths : ℚ) / 12)) := by
  obtain ⟨m, rfl⟩ := hquarters
  have hproduct : ofUnits principal * ofUnits annualRate =
      ((principal * annualRate : Nat) : Int) * (10 : ℚ) ^ (-8 : Int) := by
    unfold ofUnits Rounding.units
    push_cast
    norm_num
    ring
  have hyear : significant (ofUnits principal * ofUnits annualRate) =
      ofUnits principal * ofUnits annualRate := by
    rw [hproduct]
    refine significant_exact ?_
    rw [Nat.abs_cast]
    exact_mod_cast Nat.lt_of_le_of_lt (Nat.le_mul_of_pos_right _ htenure) hdigits
  have hall : significant (ofUnits principal * ofUnits annualRate * (3 * m : Nat)) =
      ofUnits principal * ofUnits annualRate * (3 * m : Nat) := by
    rw [hproduct, mul_right_comm]
    have hcast : (((principal * annualRate : Nat) : Int) : ℚ) * (3 * m : Nat) =
        ((principal * annualRate * (3 * m) : Nat) : Int) := by
      push_cast
      ring
    rw [hcast]
    refine significant_exact ?_
    rw [Nat.abs_cast]
    exact_mod_cast hdigits
  have hyears : significant (((3 * m : Nat) : ℚ) / 12) = ((3 * m : Nat) : ℚ) / 12 := by
    have hquarter : ((3 * m : Nat) : ℚ) / 12 = ((25 * m : Nat) : Int) * (10 : ℚ) ^ (-2 : Int) := by
      push_cast
      norm_num
      ring
    rw [hquarter]
    refine significant_exact ?_
    rw [Nat.abs_cast]
    have hsmall : 25 * m < 10 ^ 20 := by omega
    exact_mod_cast hsmall
  rw [hyear, hall, hyears, mul_div_assoc]

/-- A rate that is not zero leaves a denominator. -/
theorem denominator_pos (hrate : 1 ≤ annualRate) (htenure : 1 ≤ tenureMonths) :
    0 < significant (ofUnits annualRate / 12) ∧
      0 < significant (significant (significant (significant (ofUnits annualRate / 12) + 1) ^
        tenureMonths) - 1) := by
  have hunit : (1 : ℚ) / 10000 ≤ ofUnits annualRate := by
    have hcast : (1 : ℚ) ≤ annualRate := by exact_mod_cast hrate
    unfold ofUnits Rounding.units
    push_cast
    exact div_le_div_of_nonneg_right hcast (by norm_num)
  have hmonthly := le_significant (q := ofUnits annualRate / 12) (by linarith)
  have hgrows := le_significant (q := significant (ofUnits annualRate / 12) + 1) (by linarith)
  have hpow : significant (significant (ofUnits annualRate / 12) + 1) ≤
      significant (significant (ofUnits annualRate / 12) + 1) ^ tenureMonths :=
    le_self_pow₀ (by linarith) (Nat.ne_of_gt htenure)
  have hrounded := le_significant
    (q := significant (significant (ofUnits annualRate / 12) + 1) ^ tenureMonths) (by linarith)
  have hdenominator := le_significant
    (q := significant (significant (significant (ofUnits annualRate / 12) + 1) ^ tenureMonths) - 1)
    (by linarith)
  exact ⟨by linarith, by linarith⟩

theorem reducing_agrees (hrate : 1 ≤ annualRate) (htenure : 1 ≤ tenureMonths) :
    InstalmentsAgree (ofUnits principal) (ofUnits annualRate) tenureMonths .reducingBalance := by
  have htwelve : (12 : ℚ) ≠ 0 := by norm_num
  obtain ⟨hmonthly, hdenominator⟩ := denominator_pos hrate htenure
  refine ⟨calculateInstalment (ofUnits principal) (ofUnits annualRate) tenureMonths .reducingBalance,
    ?_, ?_, rfl⟩
  · unfold LoanApplication.calculateInstalment calculateInstalment
    dsimp only
    rw [decimalDiv_some htwelve, Option.bind_eq_bind, Option.bind_some,
      decimalDiv_some (ne_of_gt hdenominator), if_neg (ne_of_gt hmonthly), add_comm]
  · unfold calculateInstalment
    dsimp only
    rw [if_neg (ne_of_gt hmonthly), add_comm 1]
    have hgrows := significant_nonneg (pow_nonneg (significant_nonneg (add_nonneg
      (le_of_lt hmonthly) zero_le_one)) tenureMonths)
    have hinterest := significant_nonneg
      (mul_nonneg (ofUnits_natCast_nonneg principal) (le_of_lt hmonthly))
    exact significant_nonneg (div_nonneg (significant_nonneg (mul_nonneg hinterest hgrows))
      (le_of_lt hdenominator))

theorem no_quote {principal : ℚ} {tenureMonths : Nat} :
    LoanApplication.calculateInstalment principal 0 tenureMonths .reducingBalance = none := by
  have hone : significant 1 = 1 := by decide +kernel
  simp [LoanApplication.calculateInstalment, decimalDiv, significant_zero, hone]

end MemberApplyLemmas

open MemberApplyLemmas

/-- The cover that the product asks for, in units of 0.0001. -/
def requiredCoverage (loanAmount : ℚ) (product : LoanProduct) : Int :=
  toDecimalPlaces4 (significant (loanAmount * ofUnits product.guarantorCoverageRatio))

/-- `new Decimal(amount.toNumber())`: a number reads as the decimal of the fewest digits among those
that are the same double. -/
def throughNumber (amount : Nat) : Nat :=
  let number := double (ofUnits amount)
  let shortened : List Nat := (List.range 20).reverse.map fun zeros =>
    (roundHalfUp (number * 10000 / 10 ^ zeros)).toNat * 10 ^ zeros
  (shortened.find? fun (n : Nat) => double (ofUnits n) = number).getD amount

/-- `toDecimalPlaces(4, ROUND_DOWN)` of the quotient. -/
def equalShare (requiredCoverage guarantors : Nat) : Nat :=
  ⌊significant (ofUnits requiredCoverage / guarantors) * 10000⌋.toNat

/-- The nominations when the guarantors are only named: equal shares, rounded down, and the last one
takes what is left. -/
def equalShares (requiredCoverage : Nat) (guarantorIds : List Nat) : List Nomination :=
  let equalShare := equalShare requiredCoverage guarantorIds.length
  guarantorIds.mapIdx fun index guarantorId =>
    { memberId := guarantorId
      guaranteedAmount := throughNumber
        (if index + 1 = guarantorIds.length then
          requiredCoverage - equalShare * (guarantorIds.length - 1)
        else equalShare) }

structure GuarantorCoverageResult where
  totalGuaranteed : Nat
  requiredCoverage : Int
  coverageRatio : Nat
  deriving DecidableEq, Repr

/-- The guarantor has an active account with so much available. -/
def Db.checkFunds (db : Db) (accountType : AccountType) (guarantor : Nomination) :
    Except Err Unit :=
  match db.activeAccount guarantor.memberId accountType with
  | none =>
    .error (.badRequest (s!"GUARANTOR_ACCOUNT_NOT_FOUND: guarantor {guarantor.memberId} has no " ++
      "active account"))
  | some (_, account) =>
    if account.available < guarantor.guaranteedAmount then
      .error (.badRequest (s!"GUARANTOR_INSUFFICIENT_FUNDS: guarantor {guarantor.memberId} " ++
        s!"available KES {toFixed2 account.available} is below guaranteed " ++
        s!"KES {toFixed2 guarantor.guaranteedAmount}"))
    else .ok ()

def Db.validateGuarantorCoverage (db : Db) (loanAmount : ℚ) (guarantors : List Nomination)
    (product : LoanProduct) : Except Err GuarantorCoverageResult := do
  normalizeGuarantors [] guarantors
  let accountType := product.requiredAccountType.getD .fosa
  let requiredCoverage := requiredCoverage loanAmount product
  let totalGuaranteed : Nat := (guarantors.map (·.guaranteedAmount)).sum
  if (totalGuaranteed : Int) < requiredCoverage then
    throw (.badRequest (s!"INSUFFICIENT_COVERAGE: guaranteed KES {toFixed2 totalGuaranteed} is " ++
      s!"below required KES {toFixed2 requiredCoverage}"))
  else do
    guarantors.forM (db.checkFunds accountType)
    return { totalGuaranteed, requiredCoverage, coverageRatio := product.guarantorCoverageRatio }

/-- The guarantor can pledge the amount. -/
def Db.hasFunds (db : Db) (accountType : AccountType) (guarantor : Nomination) : Bool :=
  (db.activeAccount guarantor.memberId accountType).any fun row =>
    (guarantor.guaranteedAmount : Int) ≤ row.2.available

namespace MemberApplyLemmas

variable {required : Nat} {guarantorIds init : List Nat} {last : Nat} {db : Db}
  {accountType : AccountType}

/-- An amount of no more than fifteen digits comes back. -/
theorem throughNumber_small {amount : Nat} (h : amount < 10 ^ 15) : throughNumber amount = amount := by
  unfold throughNumber
  dsimp only
  cases hfound : List.find? _ _ with
  | none => rfl
  | some n =>
    have hsame := List.find?_some hfound
    exact double_inj (by decide : 0 < 10000) h (of_decide_eq_true hsame)

/-- What the quotient is rounded by is less than what it is short of the next unit. -/
theorem equalShare_eq {n : Nat} (hn : 0 < n) (h : required < 10 ^ 15) :
    equalShare required n = required / n := by
  have hn' : (0 : ℚ) < n := by exact_mod_cast hn
  have hsmall : (required : ℚ) < 10 ^ 15 := by exact_mod_cast h
  have hunits : ofUnits required / n * 10000 * n = required := by
    unfold ofUnits units
    push_cast
    field_simp
  have herror : |significant (ofUnits required / n) * 10000 * n - required| < 1 := by
    have hnonneg : 0 ≤ ofUnits required / n := div_nonneg (ofUnits_natCast_nonneg _) hn'.le
    have herror := significant_error (ofUnits required / n)
    rw [abs_of_nonneg hnonneg] at herror
    have hscale : (0 : ℚ) < 10000 * n := by positivity
    have hterm : significant (ofUnits required / n) * 10000 * n - required =
        (significant (ofUnits required / n) - ofUnits required / n) * (10000 * n) := by
      rw [sub_mul, ← mul_assoc, ← mul_assoc, hunits]
    calc |significant (ofUnits required / n) * 10000 * n - required|
        = |significant (ofUnits required / n) - ofUnits required / n| * (10000 * n) := by
          rw [hterm, abs_mul, abs_of_pos hscale]
      _ ≤ ofUnits required / n / (2 * 10 ^ 19) * (10000 * n) := by
          rw [← le_div_iff₀ (by norm_num)] at herror
          exact mul_le_mul_of_nonneg_right herror hscale.le
      _ = required / (2 * 10 ^ 19) := by
          rw [div_mul_eq_mul_div, ← mul_assoc, hunits]
      _ < 1 := by
          rw [div_lt_one (by norm_num)]
          linarith
  have hdiv : (n : ℚ) * (required / n : Nat) + (required % n : Nat) = required := by
    exact_mod_cast Nat.div_add_mod required n
  have hrest : ((required % n : Nat) : ℚ) + 1 ≤ n := by exact_mod_cast Nat.mod_lt required hn
  rw [abs_lt] at herror
  unfold equalShare
  have hfloor : ⌊significant (ofUnits required / n) * 10000⌋ = (required / n : Nat) := by
    rw [Int.floor_eq_iff, Int.cast_natCast]
    constructor
    · rcases Nat.eq_zero_or_pos (required % n) with hzero | hpos
      · -- a whole number of units has all its digits
        rw [hzero, Nat.cast_zero, add_zero] at hdiv
        have hwhole : ofUnits required / n = ((required / n : Nat) : Int) * (10 : ℚ) ^ (-4 : Int) := by
          have hquot : (required : ℚ) / n = (required / n : Nat) := by
            rw [← hdiv, mul_div_cancel_left₀ _ hn'.ne']
          unfold ofUnits units
          rw [div_right_comm, Int.cast_natCast, hquot, Int.cast_natCast]
          norm_num
          ring
        have hkept : significant (ofUnits required / n) = ofUnits required / n := by
          rw [hwhole]
          refine significant_exact ?_
          rw [Nat.abs_cast]
          have hle := Nat.div_le_self required n
          have hlt : required / n < 10 ^ 20 := by omega
          exact_mod_cast hlt
        rw [hkept, ← mul_le_mul_iff_left₀ hn', hunits, mul_comm]
        exact hdiv.le
      · have hone : (1 : ℚ) ≤ (required % n : Nat) := by exact_mod_cast hpos
        rw [← mul_le_mul_iff_left₀ hn', mul_comm]
        linarith [herror.1]
    · rw [← mul_lt_mul_iff_left₀ hn', add_mul, mul_comm ((required / n : Nat) : ℚ)]
      linarith [herror.2]
  rw [hfloor, Int.toNat_natCast]

/-- All shares but the last are equal. -/
theorem equalShares_split (h : required < 10 ^ 15) (init : List Nat) (last : Nat) :
    equalShares required (init ++ [last]) =
      init.map (fun id => ⟨id, required / (init.length + 1)⟩) ++
        [⟨last, required - required / (init.length + 1) * init.length⟩] := by
  have hshare : throughNumber (required / (init.length + 1)) = required / (init.length + 1) :=
    throughNumber_small (Nat.lt_of_le_of_lt (Nat.div_le_self _ _) h)
  have hinit : init.mapIdx (fun index id =>
      (⟨id, throughNumber (if index + 1 = init.length + 1 then
        required - required / (init.length + 1) * (init.length + 1 - 1)
      else required / (init.length + 1))⟩ : Nomination)) =
      init.map (fun id => ⟨id, required / (init.length + 1)⟩) := by
    refine List.ext_getElem (by simp) fun i hi _ => ?_
    rw [List.length_mapIdx] at hi
    rw [List.getElem_mapIdx, List.getElem_map, if_neg (by omega), hshare]
  unfold equalShares
  rw [List.mapIdx_concat, List.length_append, List.length_singleton,
    equalShare_eq (Nat.succ_pos _) h, hinit, if_pos rfl, Nat.add_sub_cancel,
    throughNumber_small (Nat.lt_of_le_of_lt (Nat.sub_le _ _) h)]

theorem equalShares_members (h : required < 10 ^ 15) (guarantorIds : List Nat) :
    (equalShares required guarantorIds).map (·.memberId) = guarantorIds := by
  rcases List.eq_nil_or_concat guarantorIds with rfl | ⟨init, last, rfl⟩
  · rfl
  · rw [List.concat_eq_append, equalShares_split h, List.map_append, List.map_map]
    exact congrArg (· ++ [last]) (List.map_id _)

theorem equalShares_sum (h : required < 10 ^ 15) (hnamed : guarantorIds ≠ []) :
    ((equalShares required guarantorIds).map (·.guaranteedAmount)).sum = required := by
  rcases List.eq_nil_or_concat guarantorIds with rfl | ⟨init, last, rfl⟩
  · exact absurd rfl hnamed
  · have hfull : required / (init.length + 1) * init.length ≤ required :=
      Nat.le_trans (Nat.mul_le_mul_left _ (Nat.le_succ _)) (Nat.div_mul_le_self _ _)
    have hconst : (init.map fun _ => required / (init.length + 1)).sum =
        init.length * (required / (init.length + 1)) := by
      rw [List.map_const', List.sum_replicate, nsmul_eq_mul, Nat.cast_id]
    rw [List.concat_eq_append, equalShares_split h, List.map_append, List.sum_append, List.map_map]
    simp only [Function.comp_def, hconst, List.map_cons, List.map_nil, List.sum_singleton]
    rw [Nat.mul_comm]
    exact Nat.add_sub_of_le hfull

/-- A unit for each of them is enough that nobody gets nothing. -/
theorem equalShares_pos (h : required < 10 ^ 15) (hunits : guarantorIds.length ≤ required) :
    ∀ g ∈ equalShares required guarantorIds, 0 < g.guaranteedAmount := by
  rcases List.eq_nil_or_concat guarantorIds with rfl | ⟨init, last, rfl⟩
  · exact fun g hg => (by cases hg)
  · rw [List.concat_eq_append] at hunits ⊢
    rw [List.length_append, List.length_singleton] at hunits
    have hshare : 0 < required / (init.length + 1) :=
      Nat.div_pos hunits (Nat.succ_pos _)
    have hall : required / (init.length + 1) * (init.length + 1) ≤ required :=
      Nat.div_mul_le_self _ _
    rw [Nat.mul_succ] at hall
    rw [equalShares_split h]
    intro g hg
    rcases List.mem_append.mp hg with hinit | hlast
    · obtain ⟨id, -, rfl⟩ := List.mem_map.mp hinit
      exact hshare
    · rw [List.mem_singleton.mp hlast]
      dsimp only
      omega

theorem normalize_ok_iff {seen : List Nat} {guarantors : List Nomination} :
    normalizeGuarantors seen guarantors = .ok () ↔
      (guarantors.map (·.memberId)).Nodup ∧ (∀ g ∈ guarantors, g.memberId ∉ seen) ∧
        ∀ g ∈ guarantors, 0 < g.guaranteedAmount := by
  induction guarantors generalizing seen with
  | nil => simp [normalizeGuarantors]
  | cons g guarantors ih =>
    unfold normalizeGuarantors
    rw [List.map_cons, List.nodup_cons, List.forall_mem_cons, List.forall_mem_cons]
    split
    · next hseen =>
      rw [List.contains_iff_mem] at hseen
      exact iff_of_false (fun h => (by cases h)) fun h => h.2.1.1 hseen
    · next hseen =>
      rw [List.contains_iff_mem] at hseen
      split
      · next hzero =>
        exact iff_of_false (fun h => (by cases h)) fun h => Nat.ne_of_gt h.2.2.1 hzero
      · next hpos =>
        rw [ih]
        constructor
        · rintro ⟨hnodup, hfresh, hamounts⟩
          refine ⟨⟨fun hmem => ?_, hnodup⟩, ⟨hseen, fun x hx hs => ?_⟩, Nat.pos_of_ne_zero hpos,
            hamounts⟩
          · obtain ⟨x, hx, heq⟩ := List.mem_map.mp hmem
            exact hfresh x hx (heq ▸ List.mem_cons_self)
          · exact hfresh x hx (List.mem_cons_of_mem _ hs)
        · rintro ⟨⟨hnew, hnodup⟩, ⟨-, hfresh⟩, -, hamounts⟩
          refine ⟨hnodup, fun x hx hs => ?_, hamounts⟩
          rcases List.mem_cons.mp hs with heq | hs
          · exact hnew (heq ▸ List.mem_map_of_mem hx)
          · exact hfresh x hx hs

theorem checkFunds_ok_iff {guarantor : Nomination} :
    db.checkFunds accountType guarantor = .ok () ↔ db.hasFunds accountType guarantor = true := by
  unfold Db.checkFunds Db.hasFunds
  cases db.activeAccount guarantor.memberId accountType with
  | none => exact iff_of_false (fun hok => (by cases hok)) fun h => (by cases h)
  | some row =>
    rw [Option.any_some, decide_eq_true_iff]
    dsimp only
    split
    · next hless =>
      exact iff_of_false (fun hok => (by cases hok)) (Int.not_le.mpr hless)
    · next henough => exact iff_of_true rfl (Int.not_lt.mp henough)

theorem forM_ok_iff {α ε : Type} {f : α → Except ε Unit} {l : List α} :
    l.forM f = .ok () ↔ ∀ a ∈ l, f a = .ok () := by
  induction l with
  | nil => exact iff_of_true rfl fun a ha => (by cases ha)
  | cons a l ih =>
    rw [List.forall_mem_cons, ← ih]
    change (f a >>= fun _ => l.forM f) = .ok () ↔ _
    cases hf : f a with
    | error _ => exact iff_of_false (fun h => (by cases h)) fun h => (by cases h.1)
    | ok _ => exact ⟨fun h => ⟨rfl, h⟩, fun h => h.2⟩

/-- What the validation refuses: a guarantor twice or for nothing, too little cover, or funds that are
not there. -/
theorem validate_ok_iff {loanAmount : ℚ} {guarantors : List Nomination} {product : LoanProduct} :
    (∃ r, db.validateGuarantorCoverage loanAmount guarantors product = .ok r) ↔
      normalizeGuarantors [] guarantors = .ok () ∧
        requiredCoverage loanAmount product ≤ ((guarantors.map (·.guaranteedAmount)).sum : Nat) ∧
        ∀ g ∈ guarantors, db.hasFunds (product.requiredAccountType.getD .fosa) g = true := by
  have hfunds : (∀ g ∈ guarantors, db.hasFunds (product.requiredAccountType.getD .fosa) g = true) ↔
      guarantors.forM (db.checkFunds (product.requiredAccountType.getD .fosa)) = .ok () := by
    rw [forM_ok_iff]
    exact forall₂_congr fun g _ => checkFunds_ok_iff.symm
  rw [hfunds]
  unfold Db.validateGuarantorCoverage
  cases normalizeGuarantors [] guarantors with
  | error _ => exact iff_of_false (fun ⟨_, h⟩ => (by cases h)) fun h => (by cases h.1)
  | ok _ =>
    by_cases hless : (((guarantors.map (·.guaranteedAmount)).sum : Nat) : Int) <
        requiredCoverage loanAmount product
    · refine iff_of_false ?_ fun h => absurd hless (Int.not_lt.mpr h.2.1)
      rintro ⟨r, h⟩
      simp only [hless, if_true] at h
      cases h
    · have hcovers := Int.not_lt.mp hless
      cases hforM : guarantors.forM (db.checkFunds (product.requiredAccountType.getD .fosa)) with
      | error e =>
        refine iff_of_false ?_ fun h => (by cases h.2.2)
        rintro ⟨r, h⟩
        simp only [hless, if_false, hforM] at h
        cases h
      | ok _ =>
        refine iff_of_true ?_ ⟨rfl, hcovers, rfl⟩
        simp only [hless, if_false, hforM]
        exact ⟨_, rfl⟩

end MemberApplyLemmas

/-- When there is a unit of cover for each guarantor, and the cover has no more than fifteen digits. -/
theorem equal_shares_cover (loanAmount : ℚ) (product : LoanProduct) (guarantorIds : List Nat)
    (hnamed : guarantorIds ≠ [])
    (hunits : guarantorIds.length ≤ (requiredCoverage loanAmount product).toNat)
    (hdigits : requiredCoverage loanAmount product < 10 ^ 15) :
    let shares := equalShares (requiredCoverage loanAmount product).toNat guarantorIds
    shares.map (·.memberId) = guarantorIds ∧
      (((shares.map (·.guaranteedAmount)).sum : Nat) : Int) = requiredCoverage loanAmount product ∧
      (∀ g ∈ shares, 0 < g.guaranteedAmount) ∧
      ∀ db : Db, (∃ r, db.validateGuarantorCoverage loanAmount shares product = .ok r) ↔
        guarantorIds.Nodup ∧
          ∀ g ∈ shares, db.hasFunds (product.requiredAccountType.getD .fosa) g = true := by
  intro shares
  have hpos : 0 < guarantorIds.length := List.length_pos_of_ne_nil hnamed
  have hcover : ((requiredCoverage loanAmount product).toNat : Int) =
      requiredCoverage loanAmount product := by
    omega
  have hsmall : (requiredCoverage loanAmount product).toNat < 10 ^ 15 := by omega
  have hmembers := equalShares_members hsmall guarantorIds
  have hsum : (((shares.map (·.guaranteedAmount)).sum : Nat) : Int) =
      requiredCoverage loanAmount product := by
    rw [equalShares_sum hsmall hnamed]
    exact hcover
  have hshares : ∀ g ∈ shares, 0 < g.guaranteedAmount := equalShares_pos hsmall hunits
  refine ⟨hmembers, hsum, hshares, fun db => ?_⟩
  rw [validate_ok_iff, normalize_ok_iff, hmembers]
  constructor
  · rintro ⟨⟨hnodup, -, -⟩, -, hfunds⟩
    exact ⟨hnodup, hfunds⟩
  · rintro ⟨hnodup, hfunds⟩
    exact ⟨⟨hnodup, fun _ _ => List.not_mem_nil, hshares⟩, Int.le_of_eq hsum.symm, hfunds⟩

/-- A product that asks for full cover from savings. -/
def exCovered : LoanProduct where
  requiredAccountType := none
  minGuarantors := 2
  maxGuarantors := 3
  guarantorCoverageRatio := 10000

/-- Two guarantors with 600.00 each. -/
def exPledgers : Db :=
  { exSacco with
    accounts :=
      [{ exAccount 0 .fosa "F-0" with balance := 6000000 },
        { exAccount 1 .fosa "F-1" with balance := 6000000 }] }

theorem equal_shares_cover_two :
    ∃ r, exPledgers.validateGuarantorCoverage 1000
      (equalShares (requiredCoverage 1000 exCovered).toNat [0, 1]) exCovered = .ok r :=
  ((equal_shares_cover 1000 exCovered [0, 1] (by decide) (by decide +kernel)
    (by decide +kernel)).2.2.2 exPledgers).mpr ⟨by decide, by decide +kernel⟩

/-- A cover of one unit leaves nothing for the first of two guarantors, no list passes without funds,
and three shares of KES 1650615968489 lose a unit as doubles. -/
theorem equal_share_zero :
    equalShares (requiredCoverage (1 / 10000) exCovered).toNat [0, 1] = [⟨0, 0⟩, ⟨1, 1⟩] ∧
      (exPledgers.validateGuarantorCoverage (1 / 10000)
        (equalShares (requiredCoverage (1 / 10000) exCovered).toNat [0, 1]) exCovered).toOption =
          none ∧
      (exPledgers.validateGuarantorCoverage 2000
        (equalShares (requiredCoverage 2000 exCovered).toNat [0, 1]) exCovered).toOption = none ∧
      ((equalShares (requiredCoverage 1650615968489 exCovered).toNat [0, 1, 2]).map
        (·.guaranteedAmount)).sum + 1 = requiredCoverage 1650615968489 exCovered := by
  decide +kernel

end BebaSacco
