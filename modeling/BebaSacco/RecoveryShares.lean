import BebaSacco.RecoveryCaps

/-! # Shares of a recovery

A recovery shares the debt among the guarantors in proportion to what they can give. The capacity of
an overdrawn account is negative: the guarantor gives nothing, but the negative number stays in the
total that the shares are measured by.

Results:
 1. `shareDebt_reaches`: what is shared is no more than the capacities that the loop reaches.
 2. `shareDebt_shares`: the debt is shared when it is within them.
 3. `recovery_shared_iff`: when the deductions are within the capacities and add up.
 4. `recovery_missed`: an overdrawn account keeps another guarantor from giving, or lets it gain.
-/

namespace BebaSacco

/-- What the guarantors can give, in their order; negative for an overdrawn account. -/
def Db.recoveryCapacities (db : Db) (guarantors : List (Nat × LoanGuarantor))
    (accountType : AccountType) (outstandingBalance : Nat) : List Int :=
  let sumHolds := (guarantors.map (·.2.guaranteedAmount)).sum
  guarantors.map fun row =>
    recoveryCapacity row.2 (db.activeAccount row.2.memberId accountType) sumHolds outstandingBalance

/-- Together they can give so much. -/
def totalCapacity (capacities : List Int) : Int := (capacities.map (max 0)).sum

/-- The capacities that the loop gets to before `remaining`, from which it takes each of them, is
used up. -/
def reachedCapacity : List Int → Int → Int
  | [], _ => 0
  | capacity :: capacities, remaining =>
    if capacity ≤ 0 then reachedCapacity capacities remaining
    else if remaining ≤ 0 then 0
    else capacity + reachedCapacity capacities (remaining - capacity)

/-- Each guarantor gives within its capacity, and together they give the whole amount, or all they
can. -/
structure SharedOut (deductions capacities : List Int) (defaultAmount : ℚ) : Prop where
  each : List.Forall₂ (fun deduction capacity => 0 ≤ deduction ∧ deduction ≤ max 0 capacity)
    deductions capacities
  total : ofUnits deductions.sum = min defaultAmount (ofUnits (totalCapacity capacities))

instance (deductions capacities : List Int) (defaultAmount : ℚ) :
    Decidable (SharedOut deductions capacities defaultAmount) :=
  decidable_of_iff (_ ∧ _) ⟨fun h => ⟨h.1, h.2⟩, fun h => ⟨h.each, h.total⟩⟩

namespace RecoverySharesLemmas

open RecoveryLemmas

variable {items : List (RecoveryAllocation × Int)} {capacities : List Int}
  {debt capacity remaining k : Int}

/-! ## 1. One share -/

/-- Twenty digits are enough for an amount that fits its column. -/
theorem le_share (hdebt : 0 ≤ debt) (hcapacity : 0 ≤ capacity) (hremaining : 0 < remaining)
    (hfits : k < 10 ^ 18) (h : k * remaining ≤ debt * capacity) :
    k ≤ proportionalShare debt capacity remaining := by
  rcases le_or_gt k 0 with hk | hk
  · exact le_trans hk (share_nonneg hdebt hcapacity (Int.le_of_lt hremaining))
  have hpos : (0 : ℚ) < ofUnits remaining :=
    div_pos (Int.cast_pos.mpr hremaining) (Nat.cast_pos.mpr (by decide))
  have hproduct : 0 ≤ ofUnits debt * ofUnits capacity :=
    mul_nonneg (ofUnits_nonneg hdebt) (ofUnits_nonneg hcapacity)
  have hcast : (k : ℚ) * remaining ≤ debt * capacity := by exact_mod_cast h
  have hexact : ofUnits k ≤ ofUnits debt * ofUnits capacity / ofUnits remaining := by
    rw [le_div_iff₀ hpos]
    unfold ofUnits Rounding.units
    push_cast
    linarith
  have hrounded := div_le_div_of_nonneg_right (Rounding.le_significant hproduct) hpos.le
  rw [sub_div, div_right_comm] at hrounded
  have hquot := Rounding.le_significant
    (div_nonneg (Rounding.significant_nonneg hproduct) hpos.le)
  have hlt : (k : ℚ) < 10 ^ 18 := by exact_mod_cast hfits
  have hunits : ofUnits k = k / 10000 := rfl
  refine Rounding.le_roundHalfUp ?_
  push_cast
  linarith

/-- What is taken is within the capacity, and leaves no more debt than capacity when there was not
more before. -/
theorem share_bounds (hdebt : 0 ≤ debt) (hcapacity : 0 < capacity) (hfits : capacity < 10 ^ 18)
    (hremaining : 0 < remaining) :
    let deduction := min (min capacity (proportionalShare debt capacity remaining)) debt
    0 ≤ deduction ∧ deduction ≤ capacity ∧ deduction ≤ debt ∧
      (debt ≤ remaining → debt - deduction ≤ max 0 (remaining - capacity)) ∧
      (remaining ≤ debt → deduction = min capacity debt) := by
  intro deduction
  have hshare := share_nonneg hdebt (Int.le_of_lt hcapacity) (Int.le_of_lt hremaining)
  have hreaches {k : Int} (hk : k ≤ capacity) (h : k * remaining ≤ debt * capacity) :
      k ≤ proportionalShare debt capacity remaining :=
    le_share hdebt (Int.le_of_lt hcapacity) hremaining (Int.lt_of_le_of_lt hk hfits) h
  refine ⟨le_min (le_min (Int.le_of_lt hcapacity) hshare) hdebt,
    le_trans (min_le_left _ _) (min_le_left _ _), min_le_right _ _, fun hle => ?_, fun hge => ?_⟩
  · -- the shortfall of the debt and what the guarantor leaves of the capacity multiply to no less
    have hproduct : (capacity - (remaining - debt)) * remaining ≤ debt * capacity ∨
        remaining < capacity := by
      rcases le_or_gt capacity remaining with hc | hc
      · refine .inl ?_
        have hmul := Int.mul_nonneg (Int.sub_nonneg_of_le hc) (Int.sub_nonneg_of_le hle)
        nlinarith
      · exact .inr hc
    rcases hproduct with hproduct | hover
    · have hk := hreaches (by omega) hproduct
      show debt - min (min capacity _) debt ≤ _
      omega
    · have hk : debt ≤ proportionalShare debt capacity remaining :=
        hreaches (by omega) (Int.mul_le_mul_of_nonneg_left (Int.le_of_lt hover) hdebt)
      show debt - min (min capacity _) debt ≤ _
      omega
  · have hk : capacity ≤ proportionalShare debt capacity remaining := by
      refine hreaches (Int.le_refl _) ?_
      rw [Int.mul_comm debt]
      exact Int.mul_le_mul_of_nonneg_left hge (Int.le_of_lt hcapacity)
    show min (min capacity _) debt = _
    rw [min_eq_left hk]

/-! ## 2. The capacities -/

theorem totalCapacity_cons : totalCapacity (capacity :: capacities) =
    max 0 capacity + totalCapacity capacities := by
  unfold totalCapacity
  rw [List.map_cons, List.sum_cons]

theorem totalCapacity_nonneg : 0 ≤ totalCapacity capacities := by
  induction capacities with
  | nil => exact Int.le_refl 0
  | cons capacity capacities ih =>
    rw [totalCapacity_cons]
    exact Int.add_nonneg (le_max_left 0 _) ih

theorem reachedCapacity_nonneg : 0 ≤ reachedCapacity capacities remaining := by
  induction capacities generalizing remaining with
  | nil => exact Int.le_refl 0
  | cons capacity capacities ih =>
    unfold reachedCapacity
    split
    · exact ih
    · next hpos =>
      split
      · exact Int.le_refl 0
      · exact Int.add_nonneg (Int.le_of_lt (Int.not_le.mp hpos)) ih

/-- The loop gets as far as the total that it starts from. -/
theorem le_reachedCapacity (h : remaining ≤ totalCapacity capacities) :
    remaining ≤ reachedCapacity capacities remaining := by
  induction capacities generalizing remaining with
  | nil => exact h
  | cons capacity capacities ih =>
    rw [totalCapacity_cons] at h
    unfold reachedCapacity
    split
    · exact ih (by omega)
    · split
      · assumption
      · have hrest : remaining - capacity ≤ reachedCapacity capacities (remaining - capacity) :=
          ih (by omega)
        omega

theorem sum_le_totalCapacity (capacities : List Int) : capacities.sum ≤ totalCapacity capacities := by
  induction capacities with
  | nil => exact Int.le_refl 0
  | cons capacity capacities ih =>
    rw [List.sum_cons, totalCapacity_cons]
    omega

/-! ## 3. The loop -/

/-- The deductions of the items. -/
def deductionsOf (items : List (RecoveryAllocation × Int)) (debt remaining : Int) : List Int :=
  (shareDebt items debt remaining).map (·.deduction)

theorem deductionsOf_skip {item : RecoveryAllocation × Int}
    (h : debt = 0 ∨ remaining = 0 ∨ item.2 ≤ 0) :
    deductionsOf (item :: items) debt remaining = 0 :: deductionsOf items debt remaining := by
  unfold deductionsOf
  rw [shareDebt, if_pos h, List.map_cons]

theorem deductionsOf_take {item : RecoveryAllocation × Int} (hdebt : debt ≠ 0)
    (hremaining : remaining ≠ 0) (hcapacity : 0 < item.2) :
    deductionsOf (item :: items) debt remaining =
      min (min item.2 (proportionalShare debt item.2 remaining)) debt ::
        deductionsOf items
          (debt - min (min item.2 (proportionalShare debt item.2 remaining)) debt)
          (remaining - item.2) := by
  have hgoes : ¬ (debt = 0 ∨ remaining = 0 ∨ item.2 ≤ 0) := by
    rintro (h | h | h)
    · exact hdebt h
    · exact hremaining h
    · exact absurd hcapacity (Int.not_lt.mpr h)
  unfold deductionsOf
  rw [shareDebt, if_neg hgoes, List.map_cons]

theorem deductionsOf_paid (items : List (RecoveryAllocation × Int)) (remaining : Int) :
    deductionsOf items 0 remaining = items.map fun _ => 0 := by
  induction items with
  | nil => rfl
  | cons item items ih => rw [deductionsOf_skip (.inl rfl), ih, List.map_cons]

theorem sum_zeros (items : List (RecoveryAllocation × Int)) :
    (items.map fun _ => (0 : Int)).sum = 0 := by
  rw [List.map_const', List.sum_replicate, nsmul_zero]

/-- Once the total is used up, nothing more is taken. -/
theorem sum_used_up (hdebt : 0 ≤ debt) (hremaining : remaining ≤ 0) :
    (deductionsOf items debt remaining).sum ≤ 0 := by
  induction items generalizing debt remaining with
  | nil => exact Int.le_refl 0
  | cons item items ih =>
    by_cases hskip : debt = 0 ∨ remaining = 0 ∨ item.2 ≤ 0
    · rw [deductionsOf_skip hskip, List.sum_cons, Int.zero_add]
      exact ih hdebt hremaining
    · rw [not_or, not_or] at hskip
      have hcapacity : 0 < item.2 := Int.not_le.mp hskip.2.2
      have hshare := share_nonpos hdebt (Int.le_of_lt hcapacity) hremaining
      rw [deductionsOf_take hskip.1 hskip.2.1 hcapacity, List.sum_cons]
      generalize proportionalShare debt item.2 remaining = share at *
      have hrest : (deductionsOf items (debt - min (min item.2 share) debt)
          (remaining - item.2)).sum ≤ 0 := ih (by omega) (by omega)
      omega

/-- Only what the loop reaches is shared. -/
theorem shareDebt_reaches (hdebt : 0 ≤ debt) :
    (deductionsOf items debt remaining).sum ≤ reachedCapacity (items.map (·.2)) remaining := by
  induction items generalizing debt remaining with
  | nil => exact Int.le_refl 0
  | cons item items ih =>
    rw [List.map_cons]
    unfold reachedCapacity
    split
    · next hnone =>
      rw [deductionsOf_skip (.inr (.inr hnone)), List.sum_cons, Int.zero_add]
      exact ih hdebt
    · next hpos =>
      split
      · next hused => exact sum_used_up hdebt hused
      · next hleft =>
        have hcapacity : 0 < item.2 := Int.not_le.mp hpos
        rcases Int.lt_or_eq_of_le hdebt with howed | hpaid
        · rw [deductionsOf_take (Int.ne_of_gt howed) (by omega) hcapacity, List.sum_cons]
          refine Int.add_le_add (le_trans (min_le_left _ _) (min_le_left _ _)) (ih ?_)
          exact Int.sub_nonneg_of_le (min_le_right _ _)
        · rw [← hpaid, deductionsOf_paid, sum_zeros]
          exact Int.add_nonneg (Int.le_of_lt hcapacity) reachedCapacity_nonneg

theorem shares_paid (items : List (RecoveryAllocation × Int)) :
    List.Forall₂ (fun deduction capacity => 0 ≤ deduction ∧ deduction ≤ max 0 capacity)
      (items.map fun _ => (0 : Int)) (items.map (·.2)) := by
  induction items with
  | nil => exact .nil
  | cons item items ih => exact .cons ⟨Int.le_refl 0, le_max_left 0 _⟩ ih

/-- What the loop reaches is shared, each within its capacity. -/
theorem shareDebt_shares (hdebt : 0 ≤ debt) (hfits : ∀ item ∈ items, item.2 < 10 ^ 18)
    (htotal : remaining ≤ totalCapacity (items.map (·.2)))
    (hreached : min debt (totalCapacity (items.map (·.2))) ≤
      reachedCapacity (items.map (·.2)) remaining) :
    List.Forall₂ (fun deduction capacity => 0 ≤ deduction ∧ deduction ≤ max 0 capacity)
        (deductionsOf items debt remaining) (items.map (·.2)) ∧
      (deductionsOf items debt remaining).sum = min debt (totalCapacity (items.map (·.2))) := by
  induction items generalizing debt remaining with
  | nil => exact ⟨.nil, (min_eq_right hdebt).symm⟩
  | cons item items ih =>
    obtain ⟨hfit, hfits⟩ := List.forall_mem_cons.mp hfits
    rcases Int.lt_or_eq_of_le hdebt with howed | hpaid
    · rw [List.map_cons, totalCapacity_cons] at htotal hreached ⊢
      by_cases hnone : item.2 ≤ 0
      · -- the item is passed over, and the total stays as it is
        rw [max_eq_left hnone, Int.zero_add] at htotal hreached ⊢
        rw [reachedCapacity, if_pos hnone] at hreached
        obtain ⟨heach, hsum⟩ := ih hdebt hfits htotal hreached
        rw [deductionsOf_skip (.inr (.inr hnone)), List.sum_cons, Int.zero_add]
        exact ⟨.cons ⟨Int.le_refl 0, le_max_left 0 _⟩ heach, hsum⟩
      · have hcapacity : 0 < item.2 := Int.not_le.mp hnone
        have hrest : 0 ≤ totalCapacity (items.map (·.2)) := totalCapacity_nonneg
        rw [max_eq_right (Int.le_of_lt hcapacity)] at htotal hreached ⊢
        rw [reachedCapacity, if_neg hnone] at hreached
        have hleft : 0 < remaining := by
          by_contra hused
          rw [if_pos (Int.not_lt.mp hused)] at hreached
          omega
        rw [if_neg (Int.not_le.mpr hleft)] at hreached
        obtain ⟨hnonneg, hcap, hdue, hless, hmore⟩ := share_bounds hdebt hcapacity hfit hleft
        rw [deductionsOf_take (Int.ne_of_gt howed) (Int.ne_of_gt hleft) hcapacity, List.sum_cons]
        generalize min (min item.2 (proportionalShare debt item.2 remaining)) debt =
          deduction at *
        have hreaches : remaining - item.2 ≤
            reachedCapacity (items.map (·.2)) (remaining - item.2) :=
          le_reachedCapacity (by omega)
        have hmin : min (debt - deduction) (totalCapacity (items.map (·.2))) ≤
            reachedCapacity (items.map (·.2)) (remaining - item.2) := by
          have hzero : 0 ≤ reachedCapacity (items.map (·.2)) (remaining - item.2) :=
            reachedCapacity_nonneg
          rcases le_or_gt debt remaining with hle | hgt
          · have := hless hle
            omega
          · have := hmore (Int.le_of_lt hgt)
            omega
        obtain ⟨heach, hsum⟩ := ih (by omega) hfits (show remaining - item.2 ≤ _ by omega) hmin
        refine ⟨.cons ⟨hnonneg, le_trans hcap (le_max_right 0 _)⟩ heach, ?_⟩
        rw [hsum]
        rcases le_or_gt debt remaining with hle | hgt
        · have := hless hle
          omega
        · have := hmore (Int.le_of_lt hgt)
          omega
    · rw [← hpaid, deductionsOf_paid, sum_zeros]
      exact ⟨shares_paid (item :: items), (min_eq_left totalCapacity_nonneg).symm⟩

theorem recoveryCapacities_eq (db : Db) (guarantors : List (Nat × LoanGuarantor))
    (accountType : AccountType) (outstandingBalance : Nat) :
    db.recoveryCapacities guarantors accountType outstandingBalance =
      (RecoveryLemmas.capacities db guarantors accountType outstandingBalance).map (·.2) := by
  unfold Db.recoveryCapacities RecoveryLemmas.capacities
  rw [List.map_map]
  rfl

/-- No guarantor can give more than an account holds. -/
theorem capacity_fits {db : Db} {guarantors : List (Nat × LoanGuarantor)} {ty : AccountType}
    {out : Nat} (hfits : ∀ account ∈ db.accounts, account.balance < 10 ^ 18) :
    ∀ item ∈ RecoveryLemmas.capacities db guarantors ty out, item.2 < 10 ^ 18 := by
  intro item hitem
  obtain ⟨row, -, rfl⟩ := List.mem_map.mp hitem
  show recoveryCapacity row.2 (db.activeAccount row.2.memberId ty) _ _ < _
  refine Int.lt_of_le_of_lt (min_le_right _ _) ?_
  cases haccount : db.activeAccount row.2.memberId ty with
  | none => decide
  | some found =>
    have hat := (activeAccount_some haccount).1
    exact Int.lt_of_le_of_lt (min_le_left _ _) (hfits _ (List.mem_of_getElem? hat))

theorem ofUnits_inj {a b : Int} (h : ofUnits a = ofUnits b) : a = b := by
  have hround := congrArg toDecimalPlaces4 h
  rwa [toDecimalPlaces4_ofUnits, toDecimalPlaces4_ofUnits] at hround

theorem round_ge {a : Int} {q : ℚ} (h : ofUnits a ≤ q) : a ≤ toDecimalPlaces4 q :=
  calc a = toDecimalPlaces4 (ofUnits a) := (toDecimalPlaces4_ofUnits a).symm
    _ ≤ toDecimalPlaces4 q := Rounding.roundTo_mono h

end RecoverySharesLemmas

open RecoverySharesLemmas

/-- The loop of a recovery reaches enough: the debt, or all capacities, before the total with the
negative ones is used up. -/
def reachesDebt (capacities : List Int) (defaultAmount : ℚ) : Bool :=
  min (toDecimalPlaces4 defaultAmount) (totalCapacity capacities) ≤
    reachedCapacity capacities capacities.sum

/-- The amount has four places, or is more than can be given. -/
def givable (capacities : List Int) (defaultAmount : ℚ) : Bool :=
  ofUnits (toDecimalPlaces4 defaultAmount) = defaultAmount ∨
    ofUnits (totalCapacity capacities) ≤ defaultAmount

/-- The balances fit their column, of fourteen digits and four decimals. -/
theorem recovery_shared_iff (db : Db) (guarantors : List (Nat × LoanGuarantor))
    (accountType : AccountType) (defaultAmount : ℚ) (outstandingBalance : Nat)
    (hpos : 0 < defaultAmount) (hfits : ∀ account ∈ db.accounts, account.balance < 10 ^ 18) :
    SharedOut
      ((db.allocateRecovery guarantors accountType (toDecimalPlaces4 defaultAmount)
        outstandingBalance).map (·.deduction))
      (db.recoveryCapacities guarantors accountType outstandingBalance) defaultAmount ↔
    reachesDebt (db.recoveryCapacities guarantors accountType outstandingBalance) defaultAmount ∧
      givable (db.recoveryCapacities guarantors accountType outstandingBalance) defaultAmount := by
  rw [recoveryCapacities_eq, RecoveryLemmas.allocateRecovery_eq]
  have hcolumn := @capacity_fits db guarantors accountType outstandingBalance hfits
  generalize RecoveryLemmas.capacities db guarantors accountType outstandingBalance = items at *
  change SharedOut (deductionsOf items (toDecimalPlaces4 defaultAmount) (items.map (·.2)).sum)
    (items.map (·.2)) defaultAmount ↔ _
  have hdebt : 0 ≤ toDecimalPlaces4 defaultAmount := Rounding.roundTo_nonneg (le_of_lt hpos)
  unfold reachesDebt givable
  rw [decide_eq_true_iff, decide_eq_true_iff]
  constructor
  · rintro ⟨-, htotal⟩
    have hreach := @shareDebt_reaches items _ (items.map (·.2)).sum hdebt
    rcases le_total defaultAmount (ofUnits (totalCapacity (items.map (·.2)))) with hle | hge
    · -- the sum has four places, so the amount has
      rw [min_eq_left hle] at htotal
      have hsum := (toDecimalPlaces4_ofUnits _).symm.trans
        (congrArg toDecimalPlaces4 htotal)
      exact ⟨le_trans (min_le_left _ _) (le_trans (le_of_eq hsum.symm) hreach),
        .inl ((congrArg ofUnits hsum.symm).trans htotal)⟩
    · rw [min_eq_right hge] at htotal
      have hsum := ofUnits_inj htotal
      exact ⟨le_trans (min_le_right _ _) (hsum ▸ hreach), .inr hge⟩
  · rintro ⟨hreached, hgivable⟩
    obtain ⟨heach, hsum⟩ := shareDebt_shares hdebt hcolumn (sum_le_totalCapacity _) hreached
    refine ⟨heach, ?_⟩
    rw [hsum]
    rcases le_total (ofUnits (totalCapacity (items.map (·.2)))) defaultAmount with hge | hle
    · rw [min_eq_right (round_ge hge), min_eq_right hge]
    · rcases hgivable with hexact | hge
      · have hround : toDecimalPlaces4 defaultAmount ≤ totalCapacity (items.map (·.2)) :=
          calc toDecimalPlaces4 defaultAmount
              ≤ toDecimalPlaces4 (ofUnits (totalCapacity (items.map (·.2)))) :=
                Rounding.roundTo_mono hle
            _ = _ := toDecimalPlaces4_ofUnits _
        rw [min_eq_left hround, min_eq_left hle, hexact]
      · rw [min_eq_right (round_ge hge), min_eq_right hge]

/-- A guarantee of 10.00 that was accepted. -/
def exGuarantee (memberId : Nat) : LoanGuarantor where
  loanId := 0
  memberId := memberId
  status := .accepted
  guaranteedAmount := 100000
  recoveredAmount := 0
  invitedAt := 0
  respondedAt := some 0
  expiresAt := none
  holdPlacedAt := some 0
  holdReleasedAt := none

/-- One fourteenth of 133.0007 is half a unit more than 9.5000, but not in twenty digits. -/
example : recoveryCapacity { exGuarantee 1 with guaranteedAmount := 1330007 }
    (some (0, { exAccount 1 .fosa "F-1" with balance := 10 ^ 8, frozenSavings := 10 ^ 8 }))
    (1330007 + 140007) 105001 = 95000 := by decide +kernel

/-- Two guarantors with 10.00 frozen, of which the accrual has overdrawn the first account. -/
def exOverdrawn (balance : Int) : Db :=
  { exSacco with
    accounts :=
      [{ exAccount 1 .fosa "F-1" with balance, frozenSavings := 100000 },
        { exAccount 2 .fosa "F-2" with balance := 200000, frozenSavings := 100000 }] }

def exGuarantees : List (Nat × LoanGuarantor) := [(0, exGuarantee 1), (1, exGuarantee 2)]

theorem recovery_shared_iff_overdrawn :
    SharedOut
      (((exOverdrawn (-50000)).allocateRecovery exGuarantees .fosa (toDecimalPlaces4 20)
        1000000).map (·.deduction))
      ((exOverdrawn (-50000)).recoveryCapacities exGuarantees .fosa 1000000) 20 :=
  (recovery_shared_iff (exOverdrawn (-50000)) exGuarantees .fosa 20 1000000 (by norm_num)
    (by decide)).mpr (by decide +kernel)

/-- An overdrawn account that takes up the capacity of the other one keeps it from giving, and one
that is overdrawn further makes it gain. -/
theorem recovery_missed :
    ((exOverdrawn (-100000)).allocateRecovery exGuarantees .fosa (toDecimalPlaces4 5)
        1000000).map (·.deduction) = [0, 0] ∧
      ((exOverdrawn (-150000)).allocateRecovery exGuarantees .fosa (toDecimalPlaces4 5)
        1000000).map (·.deduction) = [0, -100000] ∧
      (exOverdrawn (-150000)).recoveryCapacities exGuarantees .fosa 1000000 = [-150000, 100000] ∧
      ¬ SharedOut
        (((exOverdrawn (-150000)).allocateRecovery exGuarantees .fosa (toDecimalPlaces4 5)
          1000000).map (·.deduction))
        ((exOverdrawn (-150000)).recoveryCapacities exGuarantees .fosa 1000000) 5 := by
  decide +kernel

end BebaSacco
