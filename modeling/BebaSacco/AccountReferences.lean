import BebaSacco.Deposits
import Mathlib.Data.List.DropRight

/-! # The reference a deposit is stored under

An STK push stores one text that says where the money goes: `buildAccountRef` prefixes a loan number and
cuts to thirty UTF-16 units, and `parseReference` reads the text when the callback comes. An account
number is stored as it is, so that one that starts with a reserved prefix is read as something else.

Results:
1. `loan_round_trips_iff`, `savings_round_trips_iff`: when a reference is read as it was meant.
2. `account_references`: two deposits are read as they were meant and stored under different texts,
   exactly when nothing but white space is cut, no account number looks like a prefix or has white
   space around it, and two loan numbers do not differ in what is cut alone.
-/

namespace BebaSacco

/-! ## 1. Texts that are cut and trimmed -/

/-- The characters that `slice(0, n)` does not keep whole. -/
def beyondUnits : Nat → List Char → List Char
  | _, [] => []
  | n, c :: cs => if utf16Units c ≤ n then beyondUnits (n - utf16Units c) cs else c :: cs

def trimmed (l : List Char) : List Char := (l.dropWhile jsWhitespace).rdropWhile jsWhitespace

namespace ReferenceLemmas

theorem jsTrim_ofList (l : List Char) : jsTrim (String.ofList l) = String.ofList (trimmed l) := by
  rw [jsTrim, String.toList_ofList, trimmed, List.rdropWhile]

theorem toList_jsTrim (s : String) : (jsTrim s).toList = trimmed s.toList := by
  rw [jsTrim, String.toList_ofList, trimmed, List.rdropWhile]

theorem rdropWhile_append {α : Type} (p : α → Bool) (l l' : List α) :
    (l ++ l').rdropWhile p =
      if l'.rdropWhile p = [] then l.rdropWhile p else l ++ l'.rdropWhile p := by
  rw [List.rdropWhile, List.rdropWhile, List.rdropWhile, List.reverse_append,
    List.dropWhile_append]
  by_cases h : l'.reverse.dropWhile p = []
  · simp [h]
  · simp [h]

/-- A pair is neither white space nor what is read for half of one. -/
theorem pair_not_white {c : Char} (h : utf16Units c = 2) :
    jsWhitespace c = false ∧ c ≠ '\uFFFD' := by
  have hbig : 0x10000 ≤ c.toNat := by
    by_contra hsmall
    rw [utf16Units, if_pos (by omega)] at h
    cases h
  constructor
  · by_contra hw
    simp only [jsWhitespace, List.contains_eq_mem, Bool.not_eq_false, Bool.or_eq_true,
      Bool.and_eq_true, decide_eq_true_eq, List.mem_cons, List.not_mem_nil, or_false] at hw
    omega
  · rintro rfl
    exact absurd hbig (by decide)

theorem utf16Units_cases (c : Char) : utf16Units c = 1 ∨ utf16Units c = 2 := by
  rw [utf16Units]
  split
  · exact Or.inl rfl
  · exact Or.inr rfl

/-- A cut keeps the characters before what is beyond it, and perhaps half of the next one. -/
theorem slice_split (n : Nat) (l : List Char) :
    ∃ kept, l = kept ++ beyondUnits n l ∧
      (sliceUnits n l = kept ∨
        (sliceUnits n l = kept ++ ['\uFFFD'] ∧
          ∃ c cs, beyondUnits n l = c :: cs ∧ utf16Units c = 2)) := by
  induction l generalizing n with
  | nil => exact ⟨[], rfl, Or.inl rfl⟩
  | cons c cs ih =>
    rw [beyondUnits, sliceUnits]
    by_cases hfits : utf16Units c ≤ n
    · obtain ⟨kept, hkept, hslice⟩ := ih (n - utf16Units c)
      rw [if_pos hfits, if_pos hfits]
      refine ⟨c :: kept, by rw [List.cons_append, ← hkept], ?_⟩
      rcases hslice with hslice | ⟨hslice, hpair⟩
      · exact Or.inl (by rw [hslice])
      · exact Or.inr ⟨by rw [hslice, List.cons_append], hpair⟩
    · rw [if_neg hfits, if_neg hfits]
      refine ⟨[], rfl, ?_⟩
      by_cases hn : n = 0
      · exact Or.inl (by rw [if_pos hn])
      · have htwo : utf16Units c = 2 := by
          rcases utf16Units_cases c with h | h
          · omega
          · exact h
        exact Or.inr ⟨by rw [if_neg hn, List.nil_append], c, cs, rfl, htwo⟩

theorem sliceUnits_eq_self_iff (n : Nat) (l : List Char) :
    sliceUnits n l = l ↔ beyondUnits n l = [] := by
  obtain ⟨kept, hkept, hslice⟩ := slice_split n l
  rcases hslice with hslice | ⟨hslice, c, cs, hbeyond, htwo⟩
  · rw [hslice]
    constructor
    · intro h
      have hsame : kept ++ beyondUnits n l = kept ++ [] := by rw [← hkept, h, List.append_nil]
      exact List.append_cancel_left hsame
    · intro h
      rw [h, List.append_nil] at hkept
      exact hkept.symm
  · rw [hbeyond, hslice]
    refine ⟨fun h => ?_, fun h => by cases h⟩
    rw [hkept, hbeyond] at h
    have hcut := List.append_cancel_left h
    exact absurd (List.cons.inj hcut).1.symm (pair_not_white htwo).2

theorem length_sliceUnits_le (n : Nat) (l : List Char) : (sliceUnits n l).length ≤ l.length := by
  induction l generalizing n with
  | nil => exact Nat.le_refl 0
  | cons c cs ih =>
    rw [sliceUnits]
    split
    · exact Nat.succ_le_succ (ih _)
    · split
      · exact Nat.zero_le _
      · exact Nat.succ_le_succ (Nat.zero_le _)

theorem trimmed_sublist (l : List Char) : (trimmed l).Sublist l :=
  (List.rdropWhile_prefix _ _).sublist.trans (List.dropWhile_suffix _).sublist

theorem trimmed_append_of_white {l l' : List Char} (h : ∀ c ∈ l', jsWhitespace c = true) :
    trimmed (l ++ l') = trimmed l := by
  have hleft : l'.dropWhile jsWhitespace = [] := List.dropWhile_eq_nil_iff.mpr h
  have hright : l'.rdropWhile jsWhitespace = [] := List.rdropWhile_eq_nil_iff.mpr h
  rw [trimmed, trimmed, List.dropWhile_append]
  by_cases hl : l.dropWhile jsWhitespace = []
  · simp [hl, hleft]
  · simp [hl, rdropWhile_append, hright]

theorem rdropWhile_cons_of_not_white {c : Char} (hc : jsWhitespace c = false) (cs : List Char) :
    (c :: cs).rdropWhile jsWhitespace = c :: cs.rdropWhile jsWhitespace := by
  have hone : [c].rdropWhile jsWhitespace = [c] := by
    rw [List.rdropWhile_singleton, hc, if_neg Bool.false_ne_true]
  rw [← List.singleton_append, rdropWhile_append, hone]
  split
  · next h => rw [h]
  · rfl

theorem trimmed_append_cons {c : Char} (hc : jsWhitespace c = false) (l cs : List Char) :
    trimmed (l ++ c :: cs) = l.dropWhile jsWhitespace ++ c :: cs.rdropWhile jsWhitespace := by
  have hcons := rdropWhile_cons_of_not_white hc cs
  rw [trimmed, List.dropWhile_append]
  by_cases hl : l.dropWhile jsWhitespace = []
  · rw [hl, List.isEmpty_nil, if_pos rfl, List.dropWhile_cons_of_neg (by simp [hc]), hcons,
      List.nil_append]
  · rw [if_neg (by simp [hl]), rdropWhile_append, hcons, if_neg (List.cons_ne_nil _ _)]

/-- What is beyond the cut shows in the trimmed text, unless it is white space. -/
theorem trimmed_append_ne {l l' : List Char} {c : Char} (hmem : c ∈ l')
    (hc : jsWhitespace c = false) : trimmed l ≠ trimmed (l ++ l') := by
  obtain ⟨s, t, rfl⟩ := List.append_of_mem hmem
  intro heq
  have hlen := congrArg List.length heq
  rw [← List.append_assoc, trimmed_append_cons hc, List.length_append, List.length_cons,
    List.dropWhile_append] at hlen
  have hshort : (trimmed l).length ≤ (l.dropWhile jsWhitespace).length :=
    (List.rdropWhile_prefix _ _).length_le
  by_cases hl : l.dropWhile jsWhitespace = []
  · rw [hl, List.length_nil] at hshort
    omega
  · rw [if_neg (by simp [hl]), List.length_append] at hlen
    omega

theorem trimmed_slice_iff (n : Nat) (l : List Char) :
    trimmed (sliceUnits n l) = trimmed l ↔ ∀ c ∈ beyondUnits n l, jsWhitespace c = true := by
  obtain ⟨kept, hkept, hslice⟩ := slice_split n l
  constructor
  · intro heq c hmem
    by_contra hc
    rw [Bool.not_eq_true] at hc
    rcases hslice with hslice | ⟨hslice, d, ds, hbeyond, htwo⟩
    · rw [hslice] at heq
      conv at heq => rhs; rw [hkept]
      exact trimmed_append_ne hmem hc heq
    · -- half a pair is left where the pair stood
      rw [hslice] at heq
      conv at heq => rhs; rw [hkept, hbeyond]
      rw [trimmed_append_cons (by decide), trimmed_append_cons (pair_not_white htwo).1] at heq
      have hhead := (List.cons.inj (List.append_cancel_left heq)).1
      exact (pair_not_white htwo).2 hhead.symm
  · intro hwhite
    rcases hslice with hslice | ⟨_, c, cs, hbeyond, htwo⟩
    · rw [hslice]
      conv => rhs; rw [hkept]
      exact (trimmed_append_of_white hwhite).symm
    · have hc := hwhite c (hbeyond ▸ List.mem_cons_self)
      rw [(pair_not_white htwo).1] at hc
      cases hc

/-! ### Prefixes -/

theorem afterPrefix_append (pre : String) (l : List Char) :
    afterPrefix pre (String.ofList (pre.toList ++ l)) = some (String.ofList l) := by
  rw [afterPrefix, String.toList_ofList, if_pos (by simp), ← String.length_toList, List.drop_left]

theorem loan_reference (dto : MemberDepositDto) (h : dto.purpose = .loanRepayment) :
    buildAccountRef dto =
      String.ofList ("LOAN-".toList ++ sliceUnits 25 dto.accountRef.toList) := by
  rw [buildAccountRef, h]
  have htext : (s!"LOAN-{dto.accountRef}").toList = "LOAN-".toList ++ dto.accountRef.toList :=
    String.toList_append
  dsimp only
  rw [htext]
  rfl

theorem savings_reference (dto : MemberDepositDto) (h : dto.purpose = .savings) :
    buildAccountRef dto = String.ofList (sliceUnits 30 dto.accountRef.toList) := by
  rw [buildAccountRef, h]

end ReferenceLemmas

open ReferenceLemmas

/-! ## 2. What is read back -/

/-- The reference is read as it was meant: a loan number without the white space around it, or an
account number. -/
def MemberDepositDto.RoundTrips (dto : MemberDepositDto) : Prop :=
  parseReference (buildAccountRef dto) =
    match dto.purpose with
    | .loanRepayment => ⟨true, jsTrim dto.accountRef, false⟩
    | .savings => ⟨false, dto.accountRef, false⟩

/-- Of a loan number nothing but white space is cut; an account number is not cut, has no white space
around it and starts with no reserved prefix. -/
def MemberDepositDto.carried (dto : MemberDepositDto) : Prop :=
  match dto.purpose with
  | .loanRepayment => ∀ c ∈ beyondUnits 25 dto.accountRef.toList, jsWhitespace c = true
  | .savings =>
    beyondUnits 30 dto.accountRef.toList = [] ∧ jsTrim dto.accountRef = dto.accountRef ∧
      afterPrefix "LOAN-" dto.accountRef = none ∧ afterPrefix "DEPOSIT-" dto.accountRef = none

theorem loan_round_trips_iff (dto : MemberDepositDto) (h : dto.purpose = .loanRepayment) :
    dto.RoundTrips ↔ dto.carried := by
  rw [MemberDepositDto.RoundTrips, MemberDepositDto.carried, h, loan_reference dto h, parseReference,
    afterPrefix_append]
  dsimp only
  rw [← trimmed_slice_iff, jsTrim_ofList]
  constructor
  · intro heq
    rw [← toList_jsTrim, ← (ParsedReference.mk.inj heq).2.1, String.toList_ofList]
  · intro heq
    rw [heq, ← toList_jsTrim, String.ofList_toList]

/-- A text that is trimmed to as many characters has not been changed. -/
theorem uncut_of_trimmed {n : Nat} {l : List Char} (h : trimmed (sliceUnits n l) = l) :
    sliceUnits n l = l := by
  have hsub := trimmed_sublist (sliceUnits n l)
  rw [h] at hsub
  exact (hsub.eq_of_length_le (length_sliceUnits_le n l)).symm

theorem parseReference_bare {s : String} (hloan : afterPrefix "LOAN-" s = none)
    (hdeposit : afterPrefix "DEPOSIT-" s = none) :
    parseReference s = ⟨false, jsTrim s, false⟩ := by
  rw [parseReference, hloan, hdeposit]

/-- A text that is read as a bare account number has none of the two prefixes. -/
theorem bare_of_parseReference {s target : String} (h : parseReference s = ⟨false, target, false⟩) :
    afterPrefix "LOAN-" s = none ∧ afterPrefix "DEPOSIT-" s = none ∧ jsTrim s = target := by
  rw [parseReference] at h
  split at h
  · cases h
  · next hloan =>
    split at h
    · cases h
    · next hdeposit => exact ⟨hloan, hdeposit, (ParsedReference.mk.inj h).2.1⟩

theorem savings_round_trips_iff (dto : MemberDepositDto) (h : dto.purpose = .savings) :
    dto.RoundTrips ↔ dto.carried := by
  rw [MemberDepositDto.RoundTrips, MemberDepositDto.carried, h, savings_reference dto h]
  dsimp only
  rw [← sliceUnits_eq_self_iff]
  constructor
  · intro hparse
    obtain ⟨hloan, hdeposit, htrim⟩ := bare_of_parseReference hparse
    rw [jsTrim_ofList] at htrim
    have huncut : sliceUnits 30 dto.accountRef.toList = dto.accountRef.toList :=
      uncut_of_trimmed (by rw [← String.toList_ofList (l := trimmed _), htrim])
    rw [huncut, String.ofList_toList] at hloan hdeposit
    rw [huncut, ← jsTrim_ofList, String.ofList_toList] at htrim
    exact ⟨huncut, htrim, hloan, hdeposit⟩
  · rintro ⟨huncut, htrim, hloan, hdeposit⟩
    rw [huncut, String.ofList_toList, parseReference_bare hloan hdeposit, htrim]

theorem round_trips_iff (dto : MemberDepositDto) : dto.RoundTrips ↔ dto.carried := by
  cases h : dto.purpose with
  | savings => exact savings_round_trips_iff dto h
  | loanRepayment => exact loan_round_trips_iff dto h

/-! ## 3. What is stored -/

/-- The two loan numbers differ, and only in what is cut. -/
def differBeyond (dto dto' : MemberDepositDto) : Prop :=
  dto.purpose = .loanRepayment ∧ dto'.purpose = .loanRepayment ∧ dto.accountRef ≠ dto'.accountRef ∧
    sliceUnits 25 dto.accountRef.toList = sliceUnits 25 dto'.accountRef.toList

theorem stored_alike {dto dto' : MemberDepositDto} (h : dto.RoundTrips) (h' : dto'.RoundTrips)
    (heq : buildAccountRef dto = buildAccountRef dto') (hdiff : ¬ differBeyond dto dto') :
    dto.purpose = dto'.purpose ∧ dto.accountRef = dto'.accountRef := by
  rw [MemberDepositDto.RoundTrips] at h h'
  rw [heq, h'] at h
  cases hp : dto.purpose with
  | savings =>
    cases hp' : dto'.purpose with
    | savings =>
      rw [hp, hp'] at h
      exact ⟨rfl, ((ParsedReference.mk.inj h).2.1).symm⟩
    | loanRepayment =>
      rw [hp, hp'] at h
      cases (ParsedReference.mk.inj h).1
  | loanRepayment =>
    cases hp' : dto'.purpose with
    | savings =>
      rw [hp, hp'] at h
      cases (ParsedReference.mk.inj h).1
    | loanRepayment =>
      refine ⟨rfl, ?_⟩
      rw [loan_reference dto hp, loan_reference dto' hp'] at heq
      by_contra hne
      exact hdiff ⟨hp, hp', hne, List.append_cancel_left (String.ofList_inj.mp heq)⟩

/-- Two deposits are both read as they were meant, and stored apart when they differ, exactly when both
are carried and they do not differ in what is cut alone. -/
theorem account_references (dto dto' : MemberDepositDto) :
    (dto.RoundTrips ∧ dto'.RoundTrips ∧
      (dto.purpose ≠ dto'.purpose ∨ dto.accountRef ≠ dto'.accountRef →
        buildAccountRef dto ≠ buildAccountRef dto')) ↔
      dto.carried ∧ dto'.carried ∧ ¬ differBeyond dto dto' := by
  rw [round_trips_iff, round_trips_iff]
  constructor
  · rintro ⟨h, h', happart⟩
    refine ⟨h, h', ?_⟩
    rintro ⟨hp, hp', hne, hcut⟩
    refine happart (Or.inr hne) ?_
    rw [loan_reference dto hp, loan_reference dto' hp', hcut]
  · rintro ⟨h, h', hdiff⟩
    refine ⟨h, h', fun hne heq => ?_⟩
    obtain ⟨hpurpose, href⟩ := stored_alike ((round_trips_iff dto).mpr h)
      ((round_trips_iff dto').mpr h') heq hdiff
    exact hne.elim (· hpurpose) (· href)

/-- A deposit of KES 10 under a reference. -/
def exReference (purpose : DepositPurpose) (accountRef : String) : MemberDepositDto :=
  ⟨"254712345678", 10, purpose, accountRef, by norm_num, by norm_num⟩

/-- A loan number of 26 characters loses its last one, and an account number that starts like a loan
reference is read as a loan. -/
theorem references_misread :
    parseReference (buildAccountRef (exReference .loanRepayment "LN-2025-000001-RESTRUCTURE")) =
        ⟨true, "LN-2025-000001-RESTRUCTUR", false⟩ ∧
      parseReference (buildAccountRef (exReference .savings "LOAN-0001")) =
        ⟨true, "0001", false⟩ := by decide

end BebaSacco
