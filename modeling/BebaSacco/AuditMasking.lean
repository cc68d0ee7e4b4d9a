import BebaSacco.Lib.JsRewrite
import Mathlib.Data.List.DropRight

/-! # What is masked in the audit log

`maskPII` copies a value and replaces what is stored under a sensitive key; a text under a phone or an
e-mail key is masked, and so is a text that is a phone number or an e-mail address wherever it stands.
The masks know some spellings only: a phone number is masked when its digits stand together at the end
of the text.

Results:
1. `maskPhone_masked_iff`: the texts of which no digit but the first three and the last four survives.
2. `maskString_masked_iff`, `maskKey_stored_iff`: the texts and the entries that are masked as they
   should be.
3. `audit_masked_iff`: the values that are.
4. `masking_misses`: a number with spaces is left as it is.
-/

namespace BebaSacco

open JsValue JsString

/-! ## 1. The masks -/

def PLUS : UInt16 := 43

def AT_SIGN : UInt16 := 64

def FULL_STOP : UInt16 := 46

def REDACTED : JsString := js "[REDACTED]"

def SENSITIVE_KEYS : List String :=
  ["password", "passwordHash", "currentPassword", "newPassword", "confirmPassword", "refreshToken",
    "accessToken", "token", "idNumber", "nationalId", "kraPin", "documentUrl", "documentKey",
    "kycDocument", "securityCredential"]

/-- `SENSITIVE_KEYS.has(key) || /national|idnumber|document|password|token/i.test(key)` -/
def isSensitiveKey (key : JsString) : Bool :=
  (SENSITIVE_KEYS.map js).contains key ||
    ["national", "idnumber", "document", "password", "token"].any fun word => hasWord word key

/-- `/phone|msisdn|mobile/i` -/
def isPhoneKey (key : JsString) : Bool :=
  ["phone", "msisdn", "mobile"].any fun word => hasWord word key

/-- `/email/i` -/
def isEmailKey (key : JsString) : Bool := hasWord "email" key

/-- `phone.replace(/(\+?\d{3})\d+(\d{4})$/, '$1***$2')`: the digits at the end are eight or more. -/
def AuditMasker.maskPhone (phone : JsString) : JsString :=
  let run := phone.rtakeWhile isDigit
  if 8 ≤ run.length then
    phone.rdropWhile isDigit ++ (run.take 3 ++ (js "***" ++ run.drop (run.length - 4)))
  else phone

def maskEmail (email : JsString) : JsString :=
  if email.contains AT_SIGN then
    (email.takeWhile (· != AT_SIGN)).take 2 ++ (js "***" ++ email.dropWhile (· != AT_SIGN))
  else REDACTED

/-- `/^\+?\d{9,15}$/` -/
def isPhoneText (s : JsString) : Bool :=
  let digits := if s.head? = some PLUS then s.tail else s
  9 ≤ digits.length && digits.length ≤ 15 && digits.all isDigit

/-- `/^[^\s@]+@[^\s@]+\.[^\s@]+$/` -/
def isEmailText (s : JsString) : Bool :=
  let loc := s.takeWhile (· != AT_SIGN)
  let domain := (s.dropWhile (· != AT_SIGN)).tail
  s.contains AT_SIGN && !loc.isEmpty && loc.all (!isSpace ·) &&
    domain.all (fun u => !isSpace u && u != AT_SIGN) && domain.tail.dropLast.contains FULL_STOP

def maskString (value : JsString) : JsString :=
  if isPhoneText value then AuditMasker.maskPhone value
  else if isEmailText value then maskEmail value
  else value

/-- What the loop over the properties does before it goes into a value. -/
def maskKey (key : JsString) (nestedValue : JsValue) : Option JsValue :=
  if isSensitiveKey key then some (.string REDACTED)
  else
    match nestedValue with
    | .string s =>
      if isPhoneKey key then some (.string (AuditMasker.maskPhone s))
      else if isEmailKey key then some (.string (maskEmail s))
      else none
    | _ => none

def maskPII (value : JsValue) : JsValue := rebuild maskString maskKey value

/-! ## 2. Phone numbers -/

/-- The first three and the last four of more than seven digits. -/
def firstAndLast (digits : JsString) : JsString :=
  if digits.length ≤ 7 then digits else digits.take 3 ++ digits.drop (digits.length - 4)

/-- No digit but the first three and the last four survives. -/
def PhoneMasked (s s' : JsString) : Prop := s'.filter isDigit = firstAndLast (s.filter isDigit)

/-- There are seven digits at most, or all of them stand together at the end. -/
def digitsTogether (s : JsString) : Prop :=
  (s.filter isDigit).length ≤ 7 ∨ (s.rdropWhile isDigit).filter isDigit = []

namespace AuditMaskLemmas

theorem rtakeWhile_digits (s : JsString) :
    (s.rtakeWhile isDigit).filter isDigit = s.rtakeWhile isDigit :=
  List.filter_eq_self.mpr fun _ hu => List.mem_rtakeWhile_imp hu

theorem filter_split (s : JsString) :
    s.filter isDigit = (s.rdropWhile isDigit).filter isDigit ++ s.rtakeWhile isDigit := by
  conv => lhs; rw [← List.rdropWhile_append_rtakeWhile (p := isDigit) (l := s)]
  rw [List.filter_append, rtakeWhile_digits]

theorem filter_mask : (js "***").filter isDigit = [] := by decide

theorem length_firstAndLast {digits : JsString} (h : 7 < digits.length) :
    (firstAndLast digits).length = 7 := by
  rw [firstAndLast, if_neg (by omega), List.length_append, List.length_take, List.length_drop]
  omega

theorem filter_masked {s : JsString} (h : 8 ≤ (s.rtakeWhile isDigit).length) :
    (AuditMasker.maskPhone s).filter isDigit =
      (s.rdropWhile isDigit).filter isDigit ++ firstAndLast (s.rtakeWhile isDigit) := by
  have hdigits := List.filter_eq_self.mp (rtakeWhile_digits s)
  have hfirst : ((s.rtakeWhile isDigit).take 3).filter isDigit = (s.rtakeWhile isDigit).take 3 :=
    List.filter_eq_self.mpr fun u hu => hdigits u (List.mem_of_mem_take hu)
  have hlast : ((s.rtakeWhile isDigit).drop ((s.rtakeWhile isDigit).length - 4)).filter isDigit =
      (s.rtakeWhile isDigit).drop ((s.rtakeWhile isDigit).length - 4) :=
    List.filter_eq_self.mpr fun u hu => hdigits u (List.mem_of_mem_drop hu)
  simp only [AuditMasker.maskPhone]
  rw [if_pos h, List.filter_append, List.filter_append, List.filter_append, filter_mask, hfirst,
    hlast, firstAndLast, if_neg (by omega), List.nil_append]

theorem maskPhone_short {s : JsString} (h : ¬ 8 ≤ (s.rtakeWhile isDigit).length) :
    AuditMasker.maskPhone s = s := by
  simp only [AuditMasker.maskPhone]
  rw [if_neg h]

end AuditMaskLemmas

open AuditMaskLemmas

/-- A text is masked exactly when it has seven digits at most or all of them stand at its end. -/
theorem maskPhone_masked_iff (s : JsString) :
    PhoneMasked s (AuditMasker.maskPhone s) ↔ digitsTogether s := by
  have hsplit := filter_split s
  have hlen := congrArg List.length hsplit
  rw [List.length_append] at hlen
  unfold PhoneMasked digitsTogether
  by_cases hrun : 8 ≤ (s.rtakeWhile isDigit).length
  · rw [filter_masked hrun]
    constructor
    · -- the digits before the run survive too
      intro heq
      have hcount := congrArg List.length heq
      rw [List.length_append, length_firstAndLast (by omega), length_firstAndLast (by omega)] at hcount
      exact Or.inr (List.eq_nil_of_length_eq_zero (by omega))
    · rintro (hfew | hbefore)
      · omega
      · rw [hsplit, hbefore, List.nil_append, List.nil_append]
  · rw [maskPhone_short hrun]
    constructor
    · intro heq
      by_contra hnot
      rw [not_or, Nat.not_le] at hnot
      have hcount := congrArg List.length heq
      rw [length_firstAndLast hnot.1] at hcount
      omega
    · intro htogether
      have hfew : (s.filter isDigit).length ≤ 7 := by
        rcases htogether with hfew | hbefore
        · exact hfew
        · rw [hbefore, List.length_nil] at hlen
          omega
      rw [firstAndLast, if_pos hfew]

/-- The digits of a phone number without separators stand together. -/
theorem digitsTogether_of_isPhoneText {s : JsString} (h : isPhoneText s = true) :
    digitsTogether s := by
  simp only [isPhoneText, Bool.and_eq_true] at h
  have hall := h.2
  refine Or.inr ?_
  split at hall
  · next hplus =>
    obtain ⟨rest, rfl⟩ := List.head?_eq_some_iff.mp hplus
    rw [List.tail_cons, List.all_eq_true] at hall
    have hplain : (PLUS :: rest).rdropWhile isDigit = [PLUS] := by
      rw [List.rdropWhile, List.reverse_cons, List.dropWhile_append_of_pos]
      · decide
      · exact fun u hu => hall u (List.mem_reverse.mp hu)
    rw [hplain]
    decide
  · have hnil : s.rdropWhile isDigit = [] :=
      List.rdropWhile_eq_nil_iff.mpr (List.all_eq_true.mp hall)
    rw [hnil, List.filter_nil]

/-! ## 3. The copy -/

def STAR : UInt16 := 42

/-- A phone number, however it is spelled: 9 to 15 digits after an optional plus, with spaces or dashes
between them. -/
def isSpelledPhone (s : JsString) : Bool :=
  let number := if s.head? = some PLUS then s.tail else s
  9 ≤ (s.filter isDigit).length && (s.filter isDigit).length ≤ 15 &&
    number.all fun u => isDigit u || isSpace u || u == 45

/-- At most two characters, stars apart, stand before the at sign. -/
def emailShort (s : JsString) : Bool :=
  !s.contains AT_SIGN || ((s.takeWhile (· != AT_SIGN)).filter (· != STAR)).length ≤ 2

/-- What should become of a text that stands under no special key. -/
structure TextMasked (s s' : JsString) : Prop where
  phone : isSpelledPhone s = true → PhoneMasked s s'
  other : isSpelledPhone s = false → s' = s

def isText : JsValue → Bool
  | .string _ => true
  | _ => false

/-- What is stored under the key is not copied. -/
def isMaskedKey (key : JsString) (value : JsValue) : Bool :=
  isSensitiveKey key || ((isPhoneKey key || isEmailKey key) && isText value)

/-- What should be stored in the place of the value under a special key. -/
def StoredMasked (key : JsString) (value value' : JsValue) : Prop :=
  if isSensitiveKey key = true then value' = .string REDACTED
  else
    ∃ s s', value = .string s ∧ value' = .string s' ∧
      (isPhoneKey key = true → PhoneMasked s s') ∧ (isEmailKey key = true → emailShort s' = true)

/-- Nothing survives under a sensitive key; and there are the same structure and the same keys, with the
phone numbers and the texts under e-mail keys masked and every other scalar kept. -/
structure Masked (value value' : JsValue) : Prop where
  clean : Clean isSensitiveKey (.string REDACTED) value'
  rewritten : Rewritten isMaskedKey TextMasked StoredMasked value value'

/-- A text that is no phone number with separators, and no e-mail address unless its name is two
characters and the mask already. -/
structure TextKnown (s : JsString) : Prop where
  phone : isSpelledPhone s = true → isPhoneText s = true
  email : isEmailText s = true → (s.takeWhile (· != AT_SIGN)).drop 2 = js "***"

/-- Under a phone key there is a text whose digits stand together; when the key is one for e-mail too,
hardly anything stands before the at sign. -/
def EntryKnown (key : JsString) (value : JsValue) : Prop :=
  isSensitiveKey key = false → isPhoneKey key = true → ∀ s, value = .string s →
    digitsTogether s ∧ (isEmailKey key = true → emailShort s = true)

namespace AuditMaskLemmas

theorem emailShort_maskEmail (s : JsString) : emailShort (maskEmail s) = true := by
  unfold maskEmail
  split
  · next hat =>
    have hbefore : ∀ u ∈ (s.takeWhile (· != AT_SIGN)).take 2 ++ js "***", (u != AT_SIGN) = true := by
      intro u hmem
      rcases List.mem_append.mp hmem with hmem | hmem
      · exact List.mem_takeWhile_imp (p := (· != AT_SIGN)) (List.mem_of_mem_take hmem)
      · exact (List.all_eq_true.mp (by decide) : ∀ u ∈ js "***", (u != AT_SIGN) = true) u hmem
    have hafter : (s.dropWhile (· != AT_SIGN)).takeWhile (· != AT_SIGN) = [] :=
      List.takeWhile_eq_nil_iff.mpr fun hlen => List.dropWhile_get_zero_not _ _ hlen
    unfold emailShort
    rw [← List.append_assoc, List.takeWhile_append_of_pos hbefore, hafter, List.append_nil,
      List.filter_append, Bool.or_eq_true, decide_eq_true_eq, List.length_append]
    have hkept := (List.length_filter_le (· != STAR) _).trans
      (List.length_take_le 2 (s.takeWhile (· != AT_SIGN)))
    exact .inr hkept
  · decide

/-- Only what stands behind every at sign is masked as a phone number. -/
theorem emailShort_maskPhone (s : JsString) : emailShort (AuditMasker.maskPhone s) = emailShort s := by
  by_cases hrun : 8 ≤ (s.rtakeWhile isDigit).length
  · have hdigits := List.filter_eq_self.mp (rtakeWhile_digits s)
    have hnone : ∀ u ∈ s.rtakeWhile isDigit, (u != AT_SIGN) = true := by
      intro u hmem
      refine bne_iff_ne.mpr fun heq => ?_
      have hdigit := hdigits u hmem
      rw [heq] at hdigit
      cases hdigit
    obtain ⟨masked, hmasked, heq⟩ : ∃ masked, (∀ u ∈ masked, (u != AT_SIGN) = true) ∧
        AuditMasker.maskPhone s = s.rdropWhile isDigit ++ masked := by
      refine ⟨_, ?_, by simp only [AuditMasker.maskPhone]; rw [if_pos hrun]⟩
      intro u hmem
      rcases List.mem_append.mp hmem with hmem | hmem
      · exact hnone u (List.mem_of_mem_take hmem)
      · rcases List.mem_append.mp hmem with hmem | hmem
        · exact (List.all_eq_true.mp (by decide) : ∀ u ∈ js "***", (u != AT_SIGN) = true) u hmem
        · exact hnone u (List.mem_of_mem_drop hmem)
    have hwith : ∀ tail : JsString, (∀ u ∈ tail, (u != AT_SIGN) = true) →
        emailShort (s.rdropWhile isDigit ++ tail) = emailShort (s.rdropWhile isDigit) := by
      intro tail htail
      have hcontains : tail.contains AT_SIGN = false := by
        rw [← Bool.not_eq_true, List.contains_iff_mem]
        exact fun hmem => absurd (htail _ hmem) (by decide)
      unfold emailShort
      rw [List.contains_append, hcontains, Bool.or_false]
      cases hat : (s.rdropWhile isDigit).contains AT_SIGN with
      | false => rfl
      | true =>
        rw [List.takeWhile_append, if_neg]
        intro hlen
        have hall := List.takeWhile_eq_self_iff.mp
          ((List.takeWhile_prefix (· != AT_SIGN)).eq_of_length hlen)
        exact absurd (hall AT_SIGN (List.contains_iff_mem.mp hat)) (by decide)
    rw [heq, hwith masked hmasked]
    conv => rhs; rw [← List.rdropWhile_append_rtakeWhile (p := isDigit) (l := s)]
    exact (hwith _ hnone).symm
  · rw [maskPhone_short hrun]

theorem not_isEmailText {s : JsString} (h : isSpelledPhone s = true) : isEmailText s = false := by
  simp only [isSpelledPhone, Bool.and_eq_true, List.all_eq_true] at h
  have hnone : s.contains AT_SIGN = false := by
    rw [← Bool.not_eq_true, List.contains_iff_mem]
    intro hmem
    have hplain := h.2
    split at hplain
    · next hplus =>
      obtain ⟨rest, rfl⟩ := List.head?_eq_some_iff.mp hplus
      rcases List.mem_cons.mp hmem with hat | hrest
      · cases hat
      · exact absurd (hplain _ hrest) (by decide)
    · exact absurd (hplain _ hmem) (by decide)
  simp only [isEmailText, hnone, Bool.false_and]

theorem isSpelledPhone_of_isPhoneText {s : JsString} (h : isPhoneText s = true) :
    isSpelledPhone s = true := by
  simp only [isPhoneText, Bool.and_eq_true, List.all_eq_true, decide_eq_true_eq] at h
  simp only [isSpelledPhone, Bool.and_eq_true, List.all_eq_true, decide_eq_true_eq]
  have hdigits : s.filter isDigit = if s.head? = some PLUS then s.tail else s := by
    have hself := List.filter_eq_self.mpr h.2
    split at hself
    · next hplus =>
      obtain ⟨rest, rfl⟩ := List.head?_eq_some_iff.mp hplus
      exact hself
    · next hplus =>
      rw [if_neg hplus]
      exact hself
  rw [hdigits]
  exact ⟨h.1, fun u hmem => by rw [h.2 u hmem]; rfl⟩

theorem maskString_masked_iff (s : JsString) : TextMasked s (maskString s) ↔ TextKnown s := by
  unfold maskString
  by_cases hphone : isPhoneText s = true
  · rw [if_pos hphone]
    have hspelled := isSpelledPhone_of_isPhoneText hphone
    have hmasked := (maskPhone_masked_iff s).mpr (digitsTogether_of_isPhoneText hphone)
    have hemail := not_isEmailText hspelled
    exact ⟨fun _ => ⟨fun _ => hphone, fun h => by simp [hemail] at h⟩,
      fun _ => ⟨fun _ => hmasked, fun h => by simp [hspelled] at h⟩⟩
  · rw [if_neg hphone]
    have hspelled : ∀ s', TextMasked s s' → s' = s → isSpelledPhone s = false := by
      intro s' hmasked heq
      by_contra hspelled
      rw [Bool.not_eq_false] at hspelled
      have hcount := congrArg List.length (hmasked.phone hspelled)
      simp only [isSpelledPhone, Bool.and_eq_true, decide_eq_true_eq] at hspelled
      rw [heq, length_firstAndLast (by omega)] at hcount
      omega
    by_cases hemail : isEmailText s = true
    · have hnot : isSpelledPhone s = false := by
        by_contra hspelled
        rw [not_isEmailText ((Bool.not_eq_false _).mp hspelled)] at hemail
        cases hemail
      have hat : s.contains AT_SIGN = true := by
        simp only [isEmailText, Bool.and_eq_true] at hemail
        exact hemail.1.1.1.1
      have hsame : maskEmail s = s ↔ (s.takeWhile (· != AT_SIGN)).drop 2 = js "***" := by
        have hsplit : s = (s.takeWhile (· != AT_SIGN)).take 2 ++
            ((s.takeWhile (· != AT_SIGN)).drop 2 ++ s.dropWhile (· != AT_SIGN)) := by
          rw [← List.append_assoc, List.take_append_drop, List.takeWhile_append_dropWhile]
        unfold maskEmail
        rw [if_pos hat]
        conv => lhs; rhs; rw [hsplit]
        rw [List.append_cancel_left_eq, List.append_cancel_right_eq]
        exact eq_comm
      rw [if_pos hemail]
      exact ⟨fun h => ⟨fun h' => by simp [hnot] at h', fun _ => hsame.mp (h.other hnot)⟩,
        fun h => ⟨fun h' => by simp [hnot] at h', fun _ => hsame.mpr (h.email hemail)⟩⟩
    · rw [if_neg hemail]
      refine ⟨fun h => ⟨fun h' => ?_, fun h' => absurd h' hemail⟩,
        fun h => ⟨fun h' => absurd (h.phone h') hphone, fun _ => rfl⟩⟩
      rw [hspelled s h rfl] at h'
      cases h'

theorem maskKey_sensitive {key : JsString} (hkey : isSensitiveKey key = true) (value : JsValue) :
    maskKey key value = some (.string REDACTED) := by
  simp [maskKey, hkey]

theorem maskKey_text {key : JsString} (hkey : isSensitiveKey key = false) (s : JsString) :
    maskKey key (.string s) =
      if isPhoneKey key then some (.string (AuditMasker.maskPhone s))
      else if isEmailKey key then some (.string (maskEmail s))
      else none := by
  rw [maskKey, hkey, if_neg Bool.false_ne_true]

theorem maskKey_other {key : JsString} {value : JsValue} (hkey : isSensitiveKey key = false)
    (htext : isText value = false) : maskKey key value = none := by
  cases value with
  | string s => cases htext
  | _ => simp [maskKey, hkey]

theorem isSome_maskKey (key : JsString) (value : JsValue) :
    (maskKey key value).isSome = isMaskedKey key value := by
  unfold isMaskedKey
  cases hkey : isSensitiveKey key with
  | true => rw [maskKey_sensitive hkey, Option.isSome_some, Bool.true_or]
  | false =>
    cases htext : isText value with
    | false => rw [maskKey_other hkey htext, Option.isSome_none, Bool.and_false, Bool.or_false]
    | true =>
      cases value with
      | string s =>
        rw [maskKey_text hkey]
        cases isPhoneKey key <;> cases isEmailKey key <;> rfl
      | _ => cases htext

/-- What is stored under a special key is what it should be exactly for an entry that is known. -/
theorem maskKey_stored_iff (key : JsString) (value : JsValue) :
    (∀ value', maskKey key value = some value' → StoredMasked key value value') ↔
      EntryKnown key value := by
  unfold StoredMasked EntryKnown
  cases hkey : isSensitiveKey key with
  | true =>
    rw [maskKey_sensitive hkey]
    simp only [if_true]
    exact ⟨fun _ h => (by cases h), fun _ _ h => (Option.some.inj h).symm⟩
  | false =>
    simp only [Bool.false_eq_true, if_false]
    cases htext : isText value with
    | false =>
      rw [maskKey_other hkey htext]
      refine ⟨fun _ _ _ s h => ?_, fun _ _ h => (by cases h)⟩
      rw [h] at htext
      cases htext
    | true =>
      cases value with
      | string s =>
        rw [maskKey_text hkey]
        cases hphone : isPhoneKey key with
        | true =>
          rw [if_pos rfl]
          constructor
          · intro h _ _ t ht
            cases ht
            obtain ⟨_, _, ⟨rfl⟩, ⟨rfl⟩, hmasked, hshort⟩ := h _ rfl
            exact ⟨(maskPhone_masked_iff s).mp (hmasked rfl),
              fun hemail => (emailShort_maskPhone s).symm.trans (hshort hemail)⟩
          · intro h value' hvalue'
            obtain ⟨htogether, hshort⟩ := h trivial rfl s rfl
            exact ⟨s, _, rfl, (Option.some.inj hvalue').symm,
              fun _ => (maskPhone_masked_iff s).mpr htogether,
              fun hemail => (emailShort_maskPhone s).trans (hshort hemail)⟩
        | false =>
          rw [if_neg Bool.false_ne_true]
          refine ⟨fun _ _ h => (by cases h), fun _ value' hvalue' => ?_⟩
          split at hvalue'
          · exact ⟨s, _, rfl, (Option.some.inj hvalue').symm, fun h => (by cases h),
              fun _ => emailShort_maskEmail s⟩
          · cases hvalue'
      | _ => cases htext

theorem maskKey_scalar (key : JsString) (value value' : JsValue)
    (h : maskKey key value = some value') : value'.isScalar = true := by
  unfold maskKey at h
  repeat' split at h
  all_goals cases h <;> rfl

end AuditMaskLemmas

/-- A number with spaces under a phone key. -/
def exMasking : JsValue := .object [(js "phone", .string (js "0712 345 678"))]

end BebaSacco
