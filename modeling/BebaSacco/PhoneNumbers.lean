import BebaSacco.Withdrawals

/-! # Phone numbers

`normalizePhone` brings a Kenyan number to its twelve digits. The filter before its branches keeps every
plus sign, not only the leading one, and the branches look at the length and at the first characters
alone, so that a plus sign further in passes for a digit, or makes a number too long.

Results:
1. `normalizePhone_eq`: a text is accepted for the local number that its characters denote.
2. `phone_numbers`: what is accepted is a number, is kept by a second pass and stands for the local
   number its digits denote, exactly when no plus sign is left in a text of an accepted shape.
-/

namespace BebaSacco

/-! ## 1. The normaliser -/

structure NormalizeResult where
  normalized : Option String
  original : Option String
  isValid : Bool
  errorCode : Option String
  deriving DecidableEq, Repr

def NormalizeResult.accepted (normalized : List Char) (original : String) : NormalizeResult :=
  ⟨some (String.ofList normalized), some original, true, none⟩

def NormalizeResult.refused (original : Option String) (errorCode : String) : NormalizeResult :=
  ⟨none, original, false, some errorCode⟩

def E164_PREFIX : List Char := ['2', '5', '4']

/-- `/^254[71]\d{8}$/` -/
def isValidE164Phone (phone : String) : Bool :=
  match phone.toList with
  | '2' :: '5' :: '4' :: c :: rest =>
    (c == '7' || c == '1') && rest.length == 8 && rest.all (·.isDigit)
  | _ => false

/-- `/[\d+]/`, what the filter keeps. -/
def keptInPhones (c : Char) : Bool := c.isDigit || c == '+'

/-- `digits`, after the leading plus. -/
def phoneDigits (original : String) : List Char :=
  let digits := original.toList.filter keptInPhones
  if digits.head? = some '+' then digits.tail else digits

/-- `normalizePhone` with all that it returns; a payout only takes the number. -/
def normalizePhone.result (raw : Option String) : NormalizeResult :=
  match raw.map jsTrim with
  | none => .refused none "PHONE_EMPTY"
  | some original =>
    if original = "" ∨ original = "0" then .refused (some original) "PHONE_EMPTY"
    else
      let digits := phoneDigits original
      let refused := NormalizeResult.refused (some original) "PHONE_INVALID_FORMAT"
      if digits.take 3 = E164_PREFIX ∧ digits.length = 12 then
        if isValidKenyanLocal9 (digits.drop 3) then .accepted digits original else refused
      else if digits.head? = some '0' ∧ digits.length = 10 then
        if isValidKenyanLocal9 (digits.drop 1) then
          .accepted (E164_PREFIX ++ digits.drop 1) original
        else refused
      else if digits.length = 9 then
        if digits.head? = some '7' then .accepted (E164_PREFIX ++ digits) original else refused
      else refused

/-! ## 2. What a text denotes -/

/-- The local number that 2547 or 2541 and eight more, 07 or 01 and eight more, or 7 and eight more
denote. -/
def localNumber (digits : List Char) : Option (List Char) :=
  if digits.take 3 = E164_PREFIX ∧ isValidKenyanLocal9 (digits.drop 3) = true then
    some (digits.drop 3)
  else if digits.head? = some '0' ∧ isValidKenyanLocal9 (digits.drop 1) = true then
    some (digits.drop 1)
  else if digits.length = 9 ∧ digits.head? = some '7' then some digits
  else none

/-- What the branches of `normalizePhone` look at. -/
def dialled (raw : Option String) : List Char := phoneDigits (raw.getD "")

def digitsOf (raw : Option String) : List Char := (raw.getD "").toList.filter (·.isDigit)

namespace PhoneLemmas

theorem length_of_local9 {loc : List Char} (h : isValidKenyanLocal9 loc = true) :
    loc.length = 9 := by
  simp only [isValidKenyanLocal9, Bool.and_eq_true, beq_iff_eq] at h
  exact h.1

theorem filter_dropWhile {α : Type} {p q : α → Bool} (hpq : ∀ a, q a = true → p a = false)
    (l : List α) : (l.dropWhile q).filter p = l.filter p := by
  induction l with
  | nil => rfl
  | cons a l ih =>
    by_cases ha : q a = true
    · rw [List.dropWhile_cons_of_pos ha, ih, List.filter_cons_of_neg (by simp [hpq a ha])]
    · rw [List.dropWhile_cons_of_neg ha]

theorem filter_jsTrim {p : Char → Bool} (hp : ∀ c, jsWhitespace c = true → p c = false)
    (s : String) : (jsTrim s).toList.filter p = s.toList.filter p := by
  rw [jsTrim, String.toList_ofList, List.filter_reverse, filter_dropWhile hp, List.filter_reverse,
    List.reverse_reverse, filter_dropWhile hp]

theorem keptInPhones_of_white {c : Char} (h : jsWhitespace c = true) : keptInPhones c = false := by
  by_contra hk
  simp only [keptInPhones, Bool.not_eq_false, Bool.or_eq_true, beq_iff_eq] at hk
  rcases hk with hd | rfl
  · simp only [Char.isDigit, Bool.and_eq_true, decide_eq_true_eq] at hd
    have h1 : 48 ≤ c.toNat := hd.1
    have h2 : c.toNat ≤ 57 := hd.2
    simp only [jsWhitespace, List.contains_eq_mem, Bool.or_eq_true, Bool.and_eq_true,
      decide_eq_true_eq, List.mem_cons, List.not_mem_nil, or_false] at h
    omega
  · exact absurd h (by decide)

theorem phoneDigits_jsTrim (s : String) : phoneDigits (jsTrim s) = phoneDigits s := by
  simp only [phoneDigits, filter_jsTrim fun c => keptInPhones_of_white]

theorem prefixed {digits : List Char} (h : digits.take 3 = E164_PREFIX) :
    ∃ loc, digits = '2' :: '5' :: '4' :: loc :=
  ⟨digits.drop 3, by rw [← List.take_append_drop 3 digits, h]; rfl⟩

theorem normalizePhone_some (s : String) :
    ((normalizePhone.result (some s)).isValid = (localNumber (phoneDigits s)).isSome) ∧
      (normalizePhone.result (some s)).normalized =
        (localNumber (phoneDigits s)).map fun loc => String.ofList (E164_PREFIX ++ loc) := by
  rw [← phoneDigits_jsTrim]
  simp only [normalizePhone.result, Option.map_some]
  generalize jsTrim s = original
  by_cases hempty : original = "" ∨ original = "0"
  · rw [if_pos hempty]
    rcases hempty with rfl | rfl <;> exact ⟨by decide, by decide⟩
  · rw [if_neg hempty]
    generalize phoneDigits original = digits
    by_cases h254 : digits.take 3 = E164_PREFIX
    · obtain ⟨loc, rfl⟩ := prefixed h254
      by_cases hloc : isValidKenyanLocal9 loc = true
      · have hlen := length_of_local9 hloc
        simp [localNumber, E164_PREFIX, hloc, hlen, NormalizeResult.accepted]
      · simp [localNumber, E164_PREFIX, hloc, NormalizeResult.refused]
    · cases digits with
      | nil => simp [localNumber, E164_PREFIX, NormalizeResult.refused]
      | cons c loc =>
        simp only [h254, false_and, if_false, localNumber]
        by_cases h0 : c = '0'
        · subst h0
          by_cases hloc : isValidKenyanLocal9 loc = true
          · have hlen := length_of_local9 hloc
            simp [hloc, hlen, NormalizeResult.accepted]
          · simp [hloc, NormalizeResult.refused]
        · by_cases h7 : loc.length = 8 ∧ c = '7'
          · obtain ⟨hlen, rfl⟩ := h7
            simp [hlen, NormalizeResult.accepted]
          · have hrefused : ∀ hlen : loc.length = 8, c ≠ '7' := fun hlen hc => h7 ⟨hlen, hc⟩
            by_cases hlen : loc.length = 8
            · simp [h0, hlen, hrefused hlen, NormalizeResult.refused]
            · simp [h0, hlen, NormalizeResult.refused]

/-- A text is accepted exactly for the local number that is dialled. -/
theorem normalizePhone_eq (raw : Option String) :
    ((normalizePhone.result raw).isValid = (localNumber (dialled raw)).isSome) ∧
      (normalizePhone.result raw).normalized =
        (localNumber (dialled raw)).map fun loc => String.ofList (E164_PREFIX ++ loc) := by
  cases raw with
  | none => exact ⟨by decide, by decide⟩
  | some s => exact normalizePhone_some s

/-! ### Local numbers -/

theorem localNumber_valid {digits loc : List Char} (h : localNumber digits = some loc) :
    isValidKenyanLocal9 loc = true := by
  simp only [localNumber] at h
  split at h
  · next h254 => exact Option.some.inj h ▸ h254.2
  · split at h
    · next h0 => exact Option.some.inj h ▸ h0.2
    · split at h
      · next h7 =>
        obtain ⟨hlen, hhead⟩ := h7
        rw [← Option.some.inj h, isValidKenyanLocal9, hlen, hhead]
        decide
      · cases h

theorem plus_mem_localNumber {digits loc : List Char} (h : localNumber digits = some loc)
    (hplus : '+' ∈ digits) : '+' ∈ loc := by
  simp only [localNumber] at h
  split at h
  · next h254 =>
    obtain ⟨rest, rfl⟩ := prefixed h254.1
    rw [← Option.some.inj h]
    simpa using hplus
  · split at h
    · next h0 =>
      rw [← Option.some.inj h]
      cases digits with
      | nil => cases hplus
      | cons c rest =>
        obtain rfl : c = '0' := Option.some.inj h0.1
        simpa using hplus
    · split at h
      · exact Option.some.inj h ▸ hplus
      · cases h

theorem mem_of_localNumber {digits loc : List Char} (h : localNumber digits = some loc) {c : Char}
    (hc : c ∈ loc) : c ∈ digits := by
  simp only [localNumber] at h
  split at h
  · exact List.mem_of_mem_drop (Option.some.inj h ▸ hc)
  · split at h
    · exact List.mem_of_mem_drop (Option.some.inj h ▸ hc)
    · split at h
      · exact Option.some.inj h ▸ hc
      · cases h

theorem localNumber_prefixed {loc : List Char} (h : isValidKenyanLocal9 loc = true) :
    localNumber (E164_PREFIX ++ loc) = some loc := by
  simp [localNumber, E164_PREFIX, h]

theorem isValidE164Phone_prefixed {loc : List Char} (h : isValidKenyanLocal9 loc = true) :
    isValidE164Phone (String.ofList (E164_PREFIX ++ loc)) = loc.all (·.isDigit) := by
  cases loc with
  | nil => cases h
  | cons c rest =>
    simp only [isValidKenyanLocal9, List.length_cons, List.head?_cons, Bool.and_eq_true,
      beq_iff_eq, Bool.or_eq_true, Option.some.injEq] at h
    obtain ⟨hlen, hc⟩ := h
    have hrest : rest.length = 8 := by omega
    rcases hc with rfl | rfl <;> simp [isValidE164Phone, E164_PREFIX, hrest]

/-! ### The digits of a text -/

theorem filter_phoneDigits (s : String) :
    (phoneDigits s).filter (·.isDigit) = s.toList.filter (·.isDigit) := by
  have hboth : (s.toList.filter keptInPhones).filter (·.isDigit) = s.toList.filter (·.isDigit) := by
    rw [List.filter_filter]
    refine List.filter_congr fun c _ => ?_
    by_cases hc : c.isDigit = true <;> simp [hc, keptInPhones]
  rw [← hboth, phoneDigits]
  split
  · next hhead =>
    obtain ⟨rest, hrest⟩ := List.head?_eq_some_iff.mp hhead
    rw [hrest, List.tail_cons, List.filter_cons_of_neg (by decide)]
  · rfl

theorem mem_phoneDigits {s : String} {c : Char} (h : c ∈ phoneDigits s) :
    c.isDigit = true ∨ c = '+' := by
  have hmem : c ∈ s.toList.filter keptInPhones := by
    rw [phoneDigits] at h
    split at h
    · exact List.mem_of_mem_tail h
    · exact h
  simpa [keptInPhones] using (List.mem_filter.mp hmem).2

/-- Without a plus among what is dialled, the digits are what is dialled. -/
theorem digitsOf_eq {raw : Option String} (h : '+' ∉ dialled raw) :
    digitsOf raw = dialled raw := by
  rw [digitsOf, ← filter_phoneDigits]
  refine List.filter_eq_self.mpr fun c hc => ?_
  rcases mem_phoneDigits hc with hd | rfl
  · exact hd
  · exact absurd hc h

theorem phoneDigits_of_digits {l : List Char} (h : ∀ c ∈ l, c.isDigit = true) :
    phoneDigits (String.ofList l) = l := by
  have hkept : l.filter keptInPhones = l :=
    List.filter_eq_self.mpr fun c hc => by simp [keptInPhones, h c hc]
  rw [phoneDigits, String.toList_ofList, hkept]
  split
  · next hhead =>
    exact absurd (h '+' (List.mem_of_mem_head? hhead)) (by decide)
  · rfl

end PhoneLemmas

open PhoneLemmas

/-! ## 3. When the normaliser is right -/

/-- What is accepted is a number, which a second pass keeps, and what denotes a local number is
accepted. -/
structure WellNormalized (raw : Option String) : Prop where
  number : (normalizePhone.result raw).isValid = true →
    ∃ phone, (normalizePhone.result raw).normalized = some phone ∧ isValidE164Phone phone = true
  kept : (normalizePhone.result raw).isValid = true →
    (normalizePhone.result (normalizePhone.result raw).normalized).isValid = true ∧
      (normalizePhone.result (normalizePhone.result raw).normalized).normalized =
        (normalizePhone.result raw).normalized
  accepted : (localNumber (digitsOf raw)).isSome = true → (normalizePhone.result raw).isValid = true

/-- No plus sign is left after the leading one, or neither what is left nor its digits alone have an
accepted shape. -/
def plainlyDialled (raw : Option String) : Prop :=
  '+' ∉ dialled raw ∨ (localNumber (dialled raw) = none ∧ localNumber (digitsOf raw) = none)

theorem valid_of_plain {raw : Option String} (h : plainlyDialled raw)
    (hv : (normalizePhone.result raw).isValid = true) :
    ∃ loc, localNumber (digitsOf raw) = some loc ∧ isValidKenyanLocal9 loc = true ∧
      (∀ c ∈ loc, c.isDigit = true) ∧
      (normalizePhone.result raw).normalized = some (String.ofList (E164_PREFIX ++ loc)) := by
  obtain ⟨hvalid, hnorm⟩ := normalizePhone_eq raw
  obtain ⟨loc, hloc⟩ := Option.isSome_iff_exists.mp (hvalid.symm.trans hv)
  rcases h with hplus | ⟨hdialled, _⟩
  · rw [hloc] at hnorm
    refine ⟨loc, by rw [digitsOf_eq hplus, hloc], localNumber_valid hloc, fun c hc => ?_, hnorm⟩
    have hmem := mem_of_localNumber hloc hc
    rcases mem_phoneDigits hmem with hd | rfl
    · exact hd
    · exact absurd hmem hplus
  · rw [hdialled] at hloc
    cases hloc

theorem wellNormalized_of_plain {raw : Option String} (h : plainlyDialled raw) :
    WellNormalized raw where
  number hv := by
    obtain ⟨loc, _, hlocal, hdigit, hnorm⟩ := valid_of_plain h hv
    refine ⟨_, hnorm, ?_⟩
    rw [isValidE164Phone_prefixed hlocal]
    exact List.all_eq_true.mpr hdigit
  kept hv := by
    obtain ⟨loc, _, hlocal, hdigit, hnorm⟩ := valid_of_plain h hv
    have hagain : localNumber (dialled (some (String.ofList (E164_PREFIX ++ loc)))) = some loc := by
      rw [dialled, Option.getD_some, phoneDigits_of_digits, localNumber_prefixed hlocal]
      intro c hc
      rcases List.mem_append.mp hc with hp | hl
      · exact List.all_eq_true.mp (by decide : E164_PREFIX.all Char.isDigit = true) c hp
      · exact hdigit c hl
    rw [hnorm, (normalizePhone_eq _).1, (normalizePhone_eq _).2, hagain]
    exact ⟨rfl, rfl⟩
  accepted hd := by
    rw [(normalizePhone_eq raw).1]
    rcases h with hplus | ⟨_, hdigits⟩
    · rw [← digitsOf_eq hplus]
      exact hd
    · rw [hdigits] at hd
      cases hd

theorem plain_of_wellNormalized {raw : Option String} (h : WellNormalized raw) :
    plainlyDialled raw := by
  by_cases hplus : '+' ∈ dialled raw
  · obtain ⟨hvalid, hnorm⟩ := normalizePhone_eq raw
    have hnone : localNumber (dialled raw) = none := by
      by_contra hsome
      obtain ⟨loc, hloc⟩ := Option.ne_none_iff_exists'.mp hsome
      rw [hloc] at hvalid hnorm
      obtain ⟨phone, hphone, hnumber⟩ := h.number hvalid
      obtain rfl : String.ofList (E164_PREFIX ++ loc) = phone := Option.some.inj (hnorm.symm.trans hphone)
      rw [isValidE164Phone_prefixed (localNumber_valid hloc), List.all_eq_true] at hnumber
      exact absurd (hnumber '+' (plus_mem_localNumber hloc hplus)) (by decide)
    refine Or.inr ⟨hnone, ?_⟩
    by_contra hsome
    have hvalid' := h.accepted (Option.isSome_iff_ne_none.mpr hsome)
    rw [hvalid, hnone] at hvalid'
    cases hvalid'
  · exact Or.inl hplus

/-- Two texts are well normalised, and alike exactly when their digits denote one local number, if and
only if both are plainly dialled. -/
theorem phone_numbers (raw raw' : Option String) :
    (WellNormalized raw ∧ WellNormalized raw' ∧
      ((normalizePhone.result raw).isValid = true → (normalizePhone.result raw').isValid = true →
        ((normalizePhone.result raw).normalized = (normalizePhone.result raw').normalized ↔
          localNumber (digitsOf raw) = localNumber (digitsOf raw')))) ↔
      plainlyDialled raw ∧ plainlyDialled raw' := by
  constructor
  · rintro ⟨h, h', _⟩
    exact ⟨plain_of_wellNormalized h, plain_of_wellNormalized h'⟩
  · rintro ⟨h, h'⟩
    refine ⟨wellNormalized_of_plain h, wellNormalized_of_plain h', fun hv hv' => ?_⟩
    obtain ⟨loc, hloc, _, _, hnorm⟩ := valid_of_plain h hv
    obtain ⟨loc', hloc', _, _, hnorm'⟩ := valid_of_plain h' hv'
    rw [hloc, hloc', hnorm, hnorm', Option.some.injEq, Option.some.injEq, String.ofList_inj,
      List.append_cancel_left_eq]

/-- A plus sign in the place of a digit: accepted, and no number. -/
theorem plus_passes_for_digit :
    (normalizePhone.result (some "2547+1234567")).isValid = true ∧
      (normalizePhone.result (some "2547+1234567")).normalized = some "2547+1234567" ∧
      isValidE164Phone "2547+1234567" = false := by decide

end BebaSacco
