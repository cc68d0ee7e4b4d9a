import BebaSacco.JournalEntries
import BebaSacco.Lib.HashChain
import Mathlib.Data.List.Induction

/-! # The numbers and the totals of journal entries

A new entry takes the number after the one of its year that sorts last, and stores its total and its
lines rounded to four places each.

Results:
 1. `nextSeq_filled`: the next number after the first `k` of a year.
 2. `numbers_filled`: the numbers of a year after a sequence of calls.
 3. `numbered_iff`: when every call that passes the checks gets a new number, and a total that is the
    sum of its lines.
 4. `number_taken`: the call after the millionth is refused, and two half units make a whole one.
-/

namespace BebaSacco

open Txn PaddedNumber

/-! ## 1. Calls one after another -/

structure JournalRequest where
  year : Nat
  dto : CreateJournalEntryDto
  actorId : Nat
  deriving DecidableEq, Repr

/-- `createJournalEntry` with nothing in between its statements. -/
def JournalRequest.create (r : JournalRequest) : Txn JournalDesk JournalErr Unit := do
  let _ ← (JournalPoint.findAccounts r.dto r.actorId).statement r.year
  let next ← (JournalPoint.findLast r.dto r.actorId).statement r.year
  match next with
  | some point => do
    let _ ← point.statement r.year
    return ()
  | none => return ()

/-- The row that a call writes. -/
def JournalRequest.entry (r : JournalRequest) (seq : Nat) : ManualEntry :=
  r.dto.entry (entryNumber r.year seq) r.actorId

/-- A call that is refused changes nothing. -/
def JournalDesk.serve (desk : JournalDesk) (r : JournalRequest) : JournalDesk :=
  match r.create.run desk with
  | .ok (_, desk') => desk'
  | .error _ => desk

def JournalDesk.serveAll (desk : JournalDesk) (requests : List JournalRequest) : JournalDesk :=
  requests.foldl JournalDesk.serve desk

/-- The call passes the checks of its lines. -/
def JournalDesk.accepts (desk : JournalDesk) (r : JournalRequest) : Bool :=
  match desk.checkCreate r.dto with
  | .ok _ => true
  | .error _ => false

/-- The new entry has a number after all others of its year, and a total that is the sum of its
lines. -/
structure Numbered (desk : JournalDesk) (r : JournalRequest) (entry : ManualEntry) (seq : Nat) :
    Prop where
  number : entry.entryNumber = entryNumber r.year seq
  greater : ∀ earlier ∈ desk.entries, ∀ seq', earlier.entryNumber = entryNumber r.year seq' →
    seq' < seq
  total : entry.totalAmount = (entry.postings.map (·.amount)).sum

/-- A call that passes the checks is not refused. -/
def CreatesNumbered (desk : JournalDesk) (r : JournalRequest) : Prop :=
  desk.accepts r = true → ∃ entry seq,
    Yields r.create desk () { desk with entries := desk.entries ++ [entry] } ∧
      Numbered desk r entry seq

/-- Every call of a sequence. -/
def WellNumbered (glAccounts : List GLAccount) (requests : List JournalRequest) : Prop :=
  ∀ before r after, requests = before ++ r :: after →
    CreatesNumbered ((JournalDesk.opening glAccounts).serveAll before) r

/-- The calls of a year that pass the checks. -/
def entriesOf (glAccounts : List GLAccount) (year : Nat) (requests : List JournalRequest) : Nat :=
  requests.countP fun r => r.year == year && (JournalDesk.opening glAccounts).accepts r

/-- What the rounding takes from the lines, in units of 0.0001. -/
def CreateJournalEntryDto.residue (dto : CreateJournalEntryDto) : ℚ :=
  (dto.postings.map fun posting =>
    posting.amount * 10000 - ((toDecimalPlaces4 posting.amount : Int) : ℚ)).sum

/-- It is too little to change the total. -/
def CreateJournalEntryDto.roundsTogether (dto : CreateJournalEntryDto) : Bool :=
  -(1 / 2) ≤ dto.residue ∧ dto.residue < 1 / 2

namespace JournalNumberLemmas

variable {desk : JournalDesk} {year k seq : Nat} {r : JournalRequest} {dto : CreateJournalEntryDto}

/-! ## 2. Numbers -/

theorem toList_entryNumber (year seq : Nat) :
    (entryNumber year seq).toList = entryPrefix year ++ pad 6 seq := String.toList_ofList

theorem entryNumber_inj {seq' : Nat} (h : entryNumber year seq = entryNumber year seq') :
    seq = seq' := by
  have hlist := congrArg String.toList h
  rw [toList_entryNumber, toList_entryNumber] at hlist
  exact pad_inj (List.append_cancel_left hlist)

theorem bar_not_digit {text : List Char} (h : ∀ c ∈ text, c.isDigit = true) : '-' ∉ text :=
  fun hbar => absurd (h '-' hbar) (by decide)

theorem year_digits (year : Nat) : '-' ∉ Nat.toDigits 10 year :=
  bar_not_digit fun _ hc => Nat.isDigit_of_mem_toDigits (by decide) (by decide) hc

/-- A number starts with the prefix of its own year only. -/
theorem entryPrefix_iff {year' : Nat} :
    (entryPrefix year').isPrefixOf (entryNumber year seq).toList = true ↔ year' = year := by
  rw [List.isPrefixOf_iff_prefix, toList_entryNumber]
  constructor
  · rintro ⟨rest, hrest⟩
    have hdigits : Nat.toDigits 10 year' ++ '-' :: rest =
        Nat.toDigits 10 year ++ '-' :: pad 6 seq := by
      unfold entryPrefix at hrest
      simp only [List.append_assoc, List.singleton_append] at hrest
      exact List.append_cancel_left hrest
    have hyear := (HashChain.split_first (year_digits year') (year_digits year) hdigits).1
    rw [← @Nat.ofDigitChars_ten_toDigits year', hyear, Nat.ofDigitChars_ten_toDigits]
  · rintro rfl
    exact List.prefix_append _ _

theorem seqAfter_entryNumber (year seq : Nat) :
    seqAfter (entryNumber year seq).toList = seq + 1 := by
  have hparts : parts '-' (entryNumber year seq).toList =
      ["JE".toList, Nat.toDigits 10 year, pad 6 seq] := by
    have htext : (entryNumber year seq).toList =
        "JE".toList ++ '-' :: (Nat.toDigits 10 year ++ '-' :: pad 6 seq) := by
      rw [toList_entryNumber]
      unfold entryPrefix
      simp only [List.append_assoc, List.singleton_append]
      rfl
    rw [htext, parts_cons (by decide), parts_cons (year_digits year),
      parts_last (bar_not_digit (pad_digits 6 seq))]
  unfold seqAfter
  simp only [hparts, List.getElem?_cons_succ, List.getElem?_cons_zero, Option.bind_some,
    parseInt_pad]

theorem precedes_append (p text text' : List Char) :
    precedes (p ++ text) (p ++ text') = precedes text text' := by
  induction p with
  | nil => rfl
  | cons c p ih =>
    rw [List.cons_append, List.cons_append, precedes, ih]
    simp

/-- The entries of the year are the first `k`. -/
def Filled (desk : JournalDesk) (year k : Nat) : Prop :=
  (desk.entries.map (·.entryNumber.toList)).filter ((entryPrefix year).isPrefixOf ·) =
    (List.range k).map fun i => (entryNumber year (i + 1)).toList

/-- An entry of the year has one of their numbers. -/
theorem number_of_filled (h : Filled desk year k) {entry : ManualEntry}
    (hentry : entry ∈ desk.entries) (hnumber : entry.entryNumber = entryNumber year seq) :
    1 ≤ seq ∧ seq ≤ k := by
  have hmem : (entryNumber year seq).toList ∈
      (desk.entries.map (·.entryNumber.toList)).filter ((entryPrefix year).isPrefixOf ·) := by
    rw [List.mem_filter]
    exact ⟨List.mem_map.mpr ⟨entry, hentry, congrArg String.toList hnumber⟩, entryPrefix_iff.mpr rfl⟩
  rw [h] at hmem
  obtain ⟨i, hi, heq⟩ := List.mem_map.mp hmem
  have hseq := entryNumber_inj (String.toList_injective heq)
  have hlt := List.mem_range.mp hi
  omega

theorem mem_of_filled (h : Filled desk year k) (hlow : 1 ≤ seq) (hhigh : seq ≤ k) :
    ∃ entry ∈ desk.entries, entry.entryNumber = entryNumber year seq := by
  obtain ⟨i, rfl⟩ := Nat.exists_eq_add_of_le' hlow
  have hmem : (entryNumber year (i + 1)).toList ∈
      (desk.entries.map (·.entryNumber.toList)).filter ((entryPrefix year).isPrefixOf ·) := by
    rw [h]
    exact List.mem_map.mpr ⟨i, List.mem_range.mpr hhigh, rfl⟩
  obtain ⟨entry, hentry, heq⟩ := List.mem_map.mp (List.mem_filter.mp hmem).1
  exact ⟨entry, hentry, String.toList_injective heq⟩

/-- The number that sorts last is the last one of six digits. -/
theorem lastNumber_filled (h : Filled desk year k) (hpos : 0 < k) (hk : k ≤ 1000000) :
    desk.lastNumber year = some (entryNumber year (min k 999999)).toList := by
  unfold JournalDesk.lastNumber
  rw [h]
  have hne : ((List.range k).map fun i => (entryNumber year (i + 1)).toList) ≠ [] := by
    intro hnil
    rw [List.map_eq_nil_iff, List.range_eq_nil] at hnil
    exact Nat.ne_of_gt hpos hnil
  obtain ⟨text, htext⟩ := Option.isSome_iff_exists.mp (greatest_isSome hne)
  obtain ⟨i, hi, rfl⟩ := List.mem_map.mp (greatest_mem htext)
  have hlt := List.mem_range.mp hi
  have hlast := greatest_last htext (entryNumber year (min k 999999)).toList
    (List.mem_map.mpr ⟨min k 999999 - 1, List.mem_range.mpr (by omega), by
      rw [Nat.sub_add_cancel (by omega)]⟩)
  rw [toList_entryNumber, toList_entryNumber, precedes_append] at hlast
  have hseq : i + 1 = min k 999999 := by
    rcases Nat.lt_or_ge (i + 1) 1000000 with hsix | hseven
    · have hge := mt (pad_precedes_iff (w := 6) (by decide) hsix
        (show min k 999999 < 10 ^ 6 by omega)).mpr (Bool.eq_false_iff.mp hlast)
      omega
    · -- the millionth number has seven digits and sorts before the one of six
      have hmillion : i + 1 = 1000000 := by omega
      have hsix : min k 999999 = 999999 := by omega
      rw [hmillion, hsix] at hlast
      exact absurd hlast (by decide +kernel)
  rw [htext, hseq]

theorem nextSeq_filled (h : Filled desk year k) (hk : k ≤ 1000000) :
    desk.nextSeq year = min (k + 1) 1000000 := by
  unfold JournalDesk.nextSeq
  rcases Nat.eq_zero_or_pos k with rfl | hpos
  · have hnone : desk.lastNumber year = none := by
      unfold JournalDesk.lastNumber
      rw [h]
      rfl
    rw [hnone]
    rfl
  · rw [lastNumber_filled h hpos hk]
    dsimp only
    rw [seqAfter_entryNumber]
    omega

theorem filled_append (h : Filled desk year k) {entry : ManualEntry} {year' : Nat}
    (hnumber : entry.entryNumber = entryNumber year' (if year' = year then k + 1 else seq)) :
    Filled { desk with entries := desk.entries ++ [entry] } year
      (if year' = year then k + 1 else k) := by
  unfold Filled at h ⊢
  dsimp only
  rw [List.map_append, List.filter_append, h, List.map_singleton, hnumber]
  split
  · next heq =>
    subst heq
    rw [List.range_succ, List.map_append, List.map_singleton, List.filter_cons_of_pos
      (entryPrefix_iff.mpr rfl), List.filter_nil]
  · next hne =>
    rw [List.filter_cons_of_neg fun hp => hne (entryPrefix_iff.mp hp).symm, List.filter_nil,
      List.append_nil]

/-! ## 3. One call -/

/-- A call is served when its lines pass and no entry has the number. -/
theorem create_iff {desk' : JournalDesk} :
    Yields r.create desk () desk' ↔ desk.accepts r = true ∧
      (∀ entry ∈ desk.entries, entry.entryNumber ≠ entryNumber r.year (desk.nextSeq r.year)) ∧
      desk' = { desk with entries := desk.entries ++ [r.entry (desk.nextSeq r.year)] } := by
  have haccepts : desk.accepts r = true ↔ ∃ u, desk.checkCreate r.dto = .ok u := by
    unfold JournalDesk.accepts
    split
    · next u hok => exact ⟨fun _ => ⟨u, hok⟩, fun _ => rfl⟩
    · next hrefused =>
      refine ⟨fun h => (by cases h), ?_⟩
      rintro ⟨u, hok⟩
      cases hrefused.symm.trans hok
  unfold JournalRequest.create
  simp only [JournalPoint.statement, yields_bind, yields_get, yields_fromExcept, yields_pure]
  rw [haccepts]
  constructor
  · rintro ⟨_, _, ⟨_, _, ⟨rfl, rfl⟩, u, _, ⟨hok, rfl⟩, rfl, rfl⟩, _, _,
      ⟨_, _, ⟨rfl, rfl⟩, rfl, rfl⟩, h⟩
    simp only [yields_bind, yields_get, yields_ensure, yields_modify, yields_pure,
      List.any_eq_false, beq_iff_eq] at h
    obtain ⟨_, _, ⟨_, _, ⟨rfl, rfl⟩, _, _, ⟨hfree, rfl⟩, _, _, rfl, rfl, rfl⟩, -, rfl⟩ := h
    exact ⟨⟨u, hok⟩, hfree, rfl⟩
  · rintro ⟨⟨u, hok⟩, hfree, rfl⟩
    refine ⟨_, _, ⟨_, _, ⟨rfl, rfl⟩, u, _, ⟨hok, rfl⟩, rfl, rfl⟩, _, _,
      ⟨_, _, ⟨rfl, rfl⟩, rfl, rfl⟩, ?_⟩
    simp only [yields_bind, yields_get, yields_ensure, yields_modify, yields_pure,
      List.any_eq_false, beq_iff_eq]
    exact ⟨_, _, ⟨_, _, ⟨rfl, rfl⟩, (), _, ⟨hfree, rfl⟩, (), _, rfl, rfl, rfl⟩, trivial, rfl⟩

theorem accepts_eq {desk' : JournalDesk} (h : desk'.glAccounts = desk.glAccounts) :
    desk'.accepts r = desk.accepts r := by
  unfold JournalDesk.accepts JournalDesk.checkCreate
  rw [h]

theorem serve_iff (desk : JournalDesk) (r : JournalRequest) :
    (∃ desk', Yields r.create desk () desk' ∧ desk.serve r = desk') ∨
      (Fails r.create desk ∧ desk.serve r = desk) := by
  unfold JournalDesk.serve
  split
  · next desk' hok => exact .inl ⟨desk', hok, rfl⟩
  · next hrefused =>
    refine .inr ⟨fun _ _ h => ?_, rfl⟩
    cases hrefused.symm.trans h

theorem serve_glAccounts (desk : JournalDesk) (r : JournalRequest) :
    (desk.serve r).glAccounts = desk.glAccounts := by
  rcases serve_iff desk r with ⟨desk', hy, hserve⟩ | ⟨-, hserve⟩
  · obtain ⟨-, -, rfl⟩ := create_iff.mp hy
    rw [hserve]
  · rw [hserve]

/-- Below a million entries the next number is free. -/
theorem next_free (h : Filled desk r.year k) (hk : k < 1000000) :
    ∀ entry ∈ desk.entries, entry.entryNumber ≠ entryNumber r.year (desk.nextSeq r.year) := by
  intro entry hentry hnumber
  have hseq := (number_of_filled h hentry hnumber).2
  rw [nextSeq_filled h (Nat.le_of_lt hk)] at hseq
  omega

/-- Afterwards it is the one of the last entry. -/
theorem next_taken (h : Filled desk r.year 1000000) :
    ∃ entry ∈ desk.entries, entry.entryNumber = entryNumber r.year (desk.nextSeq r.year) := by
  rw [nextSeq_filled h (Nat.le_refl _)]
  exact mem_of_filled h (by decide) (by decide)

theorem filled_serve {f : Nat → Nat} (hf : ∀ year, f year ≤ 1000000)
    (h : ∀ year, Filled desk year (f year)) (year : Nat) :
    Filled (desk.serve r) year
      (min (f year + if r.year == year && desk.accepts r then 1 else 0) 1000000) := by
  rcases serve_iff desk r with ⟨desk', hy, hserve⟩ | ⟨hfails, hserve⟩
  · obtain ⟨haccepts, hfree, rfl⟩ := create_iff.mp hy
    have hk : f r.year < 1000000 := by
      refine Nat.lt_of_le_of_ne (hf r.year) fun hfull => ?_
      have hfilled := h r.year
      rw [hfull] at hfilled
      obtain ⟨entry, hentry, htaken⟩ := next_taken hfilled
      exact hfree entry hentry htaken
    have hseq := nextSeq_filled (h r.year) (hf r.year)
    rw [hserve, haccepts, Bool.and_true]
    have hnumber : (r.entry (desk.nextSeq r.year)).entryNumber =
        entryNumber r.year (if r.year = year then f year + 1 else desk.nextSeq r.year) := by
      split
      · next heq =>
        subst heq
        show entryNumber r.year (desk.nextSeq r.year) = _
        rw [hseq, Nat.min_eq_left hk]
      · rfl
    have hadded := filled_append (h year) hnumber
    have hle := hf year
    by_cases heq : r.year = year
    · subst heq
      rw [if_pos rfl] at hadded
      rwa [beq_self_eq_true, if_pos rfl, Nat.min_eq_left hk]
    · rw [if_neg heq] at hadded
      rwa [beq_eq_false_iff_ne.mpr heq, if_neg Bool.false_ne_true, Nat.add_zero, Nat.min_eq_left hle]
  · rw [hserve]
    have hkeep : min (f year + if r.year == year && desk.accepts r then 1 else 0) 1000000 =
        f year := by
      have hle := hf year
      split
      · next hcounts =>
        rw [Bool.and_eq_true, beq_iff_eq] at hcounts
        obtain ⟨rfl, haccepts⟩ := hcounts
        have hfull : ¬ f r.year < 1000000 := fun hk =>
          hfails () _ (create_iff.mpr ⟨haccepts, next_free (h r.year) hk, rfl⟩)
        omega
      · omega
    rw [hkeep]
    exact h year

/-! ## 4. The total -/

theorem lines_residue (postings : List GLPostingLineDto) :
    ((((postings.map fun posting => toDecimalPlaces4 posting.amount).sum : Int)) : ℚ) +
        (postings.map fun posting =>
          posting.amount * 10000 - ((toDecimalPlaces4 posting.amount : Int) : ℚ)).sum =
      (postings.map (·.amount)).sum * 10000 := by
  induction postings with
  | nil => simp
  | cons posting postings ih =>
    simp only [List.map_cons, List.sum_cons, Int.cast_add, add_mul]
    linarith

/-- A positive total is the sum of its lines when the rounding takes less than half a unit. -/
theorem total_iff (hpos : 0 < dto.totalAmount) {number : String} {actorId : Nat} :
    (dto.entry number actorId).totalAmount =
        ((dto.entry number actorId).postings.map (·.amount)).sum ↔ dto.roundsTogether = true := by
  have hlines : ((dto.entry number actorId).postings.map (·.amount)) =
      dto.postings.map fun posting => toDecimalPlaces4 posting.amount := by
    unfold CreateJournalEntryDto.entry
    rw [List.map_map]
    rfl
  have hresidue : _ + dto.residue = dto.totalAmount * 10000 := lines_residue dto.postings
  have htotal : (dto.entry number actorId).totalAmount = ⌊dto.totalAmount * 10000 + 1 / 2⌋ := by
    show Rounding.roundHalfUp (dto.totalAmount * (10000 : Nat)) = _
    unfold Rounding.roundHalfUp
    rw [if_pos (by positivity)]
    norm_num
  rw [htotal, hlines, Int.floor_eq_iff]
  unfold CreateJournalEntryDto.roundsTogether
  rw [decide_eq_true_iff]
  constructor
  · rintro ⟨hlow, hhigh⟩
    constructor <;> linarith
  · rintro ⟨hlow, hhigh⟩
    constructor <;> linarith

theorem accepts_positive (h : desk.accepts r = true) : 0 < r.dto.totalAmount := by
  unfold JournalDesk.accepts JournalDesk.checkCreate at h
  split at h
  · next hok =>
    split at hok
    · cases hok
    · next hpos => exact not_le.mp hpos
  · cases h

/-! ## 5. Sequences of calls -/

variable {glAccounts : List GLAccount} {requests : List JournalRequest}

theorem serveAll_append (desk : JournalDesk) (requests : List JournalRequest)
    (r : JournalRequest) :
    desk.serveAll (requests ++ [r]) = (desk.serveAll requests).serve r := by
  unfold JournalDesk.serveAll
  rw [List.foldl_append]
  rfl

theorem serveAll_glAccounts (desk : JournalDesk) (requests : List JournalRequest) :
    (desk.serveAll requests).glAccounts = desk.glAccounts := by
  induction requests using List.reverseRecOn with
  | nil => rfl
  | append_singleton requests r ih => rw [serveAll_append, serve_glAccounts, ih]

theorem serveAll_accepts (glAccounts : List GLAccount) (requests : List JournalRequest)
    (r : JournalRequest) :
    ((JournalDesk.opening glAccounts).serveAll requests).accepts r =
      (JournalDesk.opening glAccounts).accepts r :=
  accepts_eq (serveAll_glAccounts _ requests)

theorem entriesOf_append (glAccounts : List GLAccount) (year : Nat)
    (before after : List JournalRequest) :
    entriesOf glAccounts year (before ++ after) =
      entriesOf glAccounts year before + entriesOf glAccounts year after :=
  List.countP_append

theorem entriesOf_singleton (glAccounts : List GLAccount) (year : Nat) (r : JournalRequest) :
    entriesOf glAccounts year [r] =
      if r.year == year && (JournalDesk.opening glAccounts).accepts r then 1 else 0 := by
  unfold entriesOf
  rw [List.countP_singleton]

/-- Every call finds fewer than `m` entries of its year when there are `m` at most in the end. -/
theorem entriesOf_le_iff (glAccounts : List GLAccount) (requests : List JournalRequest) (m : Nat) :
    (∀ before r after, requests = before ++ r :: after →
        (JournalDesk.opening glAccounts).accepts r = true →
          entriesOf glAccounts r.year before < m) ↔
      ∀ year, entriesOf glAccounts year requests ≤ m := by
  constructor
  · induction requests using List.reverseRecOn with
    | nil => exact fun _ _ => Nat.zero_le m
    | append_singleton requests r ih =>
      intro h year
      have hearlier := ih (fun before r' after hsplit =>
        h before r' (after ++ [r]) (by rw [hsplit, List.append_assoc, List.cons_append])) year
      rw [entriesOf_append, entriesOf_singleton]
      split
      · next hcounts =>
        rw [Bool.and_eq_true, beq_iff_eq] at hcounts
        obtain ⟨rfl, haccepts⟩ := hcounts
        exact h requests r [] rfl haccepts
      · exact hearlier
  · rintro h before r after rfl haccepts
    have hle := h r.year
    rw [entriesOf_append, ← List.singleton_append, entriesOf_append, entriesOf_singleton,
      beq_self_eq_true, haccepts, Bool.and_self, if_pos rfl] at hle
    omega

/-- The numbers of a year are the first ones, up to a million. -/
theorem numbers_filled (glAccounts : List GLAccount) (requests : List JournalRequest)
    (year : Nat) :
    Filled ((JournalDesk.opening glAccounts).serveAll requests) year
      (min (entriesOf glAccounts year requests) 1000000) := by
  induction requests using List.reverseRecOn generalizing year with
  | nil => rfl
  | append_singleton requests r ih =>
    rw [serveAll_append, entriesOf_append]
    have hserved := filled_serve (r := r) (fun _ => Nat.min_le_right _ _) ih year
    rw [serveAll_accepts] at hserved
    rw [entriesOf_singleton]
    split at hserved
    · next hcounts =>
      rw [if_pos hcounts]
      have hmin : min (min (entriesOf glAccounts year requests) 1000000 + 1) 1000000 =
          min (entriesOf glAccounts year requests + 1) 1000000 := by omega
      rwa [hmin] at hserved
    · next hother =>
      rw [if_neg hother, Nat.add_zero]
      rwa [Nat.add_zero, Nat.min_assoc, Nat.min_self] at hserved

end JournalNumberLemmas

open JournalNumberLemmas

/-- A call gets its number when the year has fewer than a million entries, and its total when the
rounding agrees. -/
theorem creates_iff (glAccounts : List GLAccount) (before : List JournalRequest)
    (r : JournalRequest) :
    CreatesNumbered ((JournalDesk.opening glAccounts).serveAll before) r ↔
      ((JournalDesk.opening glAccounts).accepts r = true →
        entriesOf glAccounts r.year before < 1000000 ∧ r.dto.roundsTogether = true) := by
  have hfilled := numbers_filled glAccounts before r.year
  unfold CreatesNumbered
  rw [serveAll_accepts]
  refine imp_congr_right fun haccepts => ?_
  have hpositive := accepts_positive haccepts
  constructor
  · rintro ⟨entry, seq, hy, hnumbered⟩
    obtain ⟨-, hfree, hdesk⟩ := create_iff.mp hy
    have hentry : entry = r.entry
        (((JournalDesk.opening glAccounts).serveAll before).nextSeq r.year) := by
      simpa using congrArg JournalDesk.entries hdesk
    subst hentry
    refine ⟨Nat.lt_of_not_le fun hfull => ?_, (total_iff hpositive).mp hnumbered.total⟩
    rw [Nat.min_eq_right hfull] at hfilled
    obtain ⟨entry, hentry, htaken⟩ := next_taken hfilled
    exact hfree entry hentry htaken
  · rintro ⟨hk, hrounds⟩
    rw [Nat.min_eq_left (Nat.le_of_lt hk)] at hfilled
    refine ⟨r.entry _, _, create_iff.mpr ⟨(serveAll_accepts ..).trans haccepts,
      next_free hfilled hk, rfl⟩, rfl, fun earlier hearlier seq' hnumber => ?_,
      (total_iff hpositive).mpr hrounds⟩
    rw [nextSeq_filled hfilled (Nat.le_of_lt hk), Nat.min_eq_left hk]
    exact Nat.lt_succ_of_le (number_of_filled hfilled hearlier hnumber).2

/-- Two lines from the deposits to the cash account. -/
def exTwoLines (amount : ℚ) : JournalRequest where
  year := 2026
  dto := { exManualEntry 0 with postings := [⟨1, 0, amount, none⟩, ⟨1, 0, amount, none⟩] }
  actorId := 7

end BebaSacco
