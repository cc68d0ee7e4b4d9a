import BebaSacco.Ledger
import BebaSacco.Lib.PaddedNumber
import BebaSacco.Lib.Process

/-! # Journal entries by hand

An accountant writes an entry, and from a threshold on another user decides on it. A decision reads
the entry, checks it and updates it by id; the statements of all calls interleave.

Results:
 1. `journal_does`: what one statement changes.
 2. `entries_decided_once`: an entry is decided once, by another user than its creator, and a large
    one is approved only so, when no decision meets another status than it has read.
 3. `entry_decided_twice`: an approval and a refusal that overlap, a creator who refuses, and a total
    that is rounded up to the threshold.
-/

namespace BebaSacco

open Txn Process

/-! ## 1. The tables and the calls -/

inductive JournalEntryStatus | draft | pendingApproval | approved | posted | rejected
  deriving DecidableEq, Repr

def JournalEntryStatus.name : JournalEntryStatus → String
  | .draft => "DRAFT"
  | .pendingApproval => "PENDING_APPROVAL"
  | .approved => "APPROVED"
  | .posted => "POSTED"
  | .rejected => "REJECTED"

structure PostedLine where
  debitAccountId : Nat
  creditAccountId : Nat
  amount : Int
  description : Option String
  deriving DecidableEq, Repr

structure ManualEntry where
  entryNumber : String
  type : JournalEntryType
  status : JournalEntryStatus
  description : String
  totalAmount : Int
  referenceType : Option String
  referenceId : Option String
  createdById : Nat
  approvedById : Option Nat
  rejectedById : Option Nat
  approvalNotes : Option String
  postings : List PostedLine
  deriving DecidableEq, Repr

inductive EntryVerdict | approve | reject
  deriving DecidableEq, Repr

def EntryVerdict.status : EntryVerdict → JournalEntryStatus
  | .approve => .approved
  | .reject => .rejected

structure EntryDecision where
  entryId : Nat
  actorId : Nat
  verdict : EntryVerdict
  deriving DecidableEq, Repr

/-- The GL accounts and the entries of a tenant, and the decisions in their order, which the code
does not keep. -/
structure JournalDesk where
  glAccounts : List GLAccount
  entries : List ManualEntry
  decisions : List EntryDecision
  deriving DecidableEq, Repr

inductive JournalErr
  | badRequest (message : String)
  | notFound (message : String)
  | conflict (message : String)
  | forbidden (message : String)
  | uniqueViolation (target : String)
  deriving DecidableEq, Repr

/-- One line; the amount has as many places as the request gives it. -/
structure GLPostingLineDto where
  debitAccountId : Nat
  creditAccountId : Nat
  amount : ℚ
  description : Option String
  deriving DecidableEq, Repr

structure CreateJournalEntryDto where
  description : String
  type : JournalEntryType
  postings : List GLPostingLineDto
  referenceType : Option String
  referenceId : Option String
  deriving DecidableEq, Repr

inductive JournalCall where
  | create (dto : CreateJournalEntryDto) (actorId : Nat)
  /-- `notes` are trimmed, and empty when there are none. -/
  | decide (verdict : EntryVerdict) (id actorId : Nat) (notes : String)
  deriving DecidableEq, Repr

inductive JournalPoint where
  | findAccounts (dto : CreateJournalEntryDto) (actorId : Nat)
  | findLast (dto : CreateJournalEntryDto) (actorId : Nat)
  | createEntry (dto : CreateJournalEntryDto) (actorId : Nat) (entryNumber : String)
  | findEntry (verdict : EntryVerdict) (id actorId : Nat) (notes : String)
  /-- `entry` is what was read. -/
  | updateEntry (verdict : EntryVerdict) (id actorId : Nat) (notes : String) (entry : ManualEntry)
  deriving DecidableEq, Repr

/-! ## 2. Creating an entry -/

/-- In shillings. -/
def APPROVAL_THRESHOLD : ℚ := 100000

def CreateJournalEntryDto.totalAmount (dto : CreateJournalEntryDto) : ℚ :=
  (dto.postings.map (·.amount)).sum

def CreateJournalEntryDto.accountIds (dto : CreateJournalEntryDto) : List Nat :=
  dto.postings.flatMap fun posting => [posting.debitAccountId, posting.creditAccountId]

def JournalDesk.checkCreate (desk : JournalDesk) (dto : CreateJournalEntryDto) :
    Except JournalErr Unit :=
  if dto.totalAmount ≤ 0 then throw (.badRequest "Total posting amount must be positive")
  else
    match dto.accountIds.find? fun id => !desk.glAccounts[id]?.any (·.isActive) with
    | some id => throw (.badRequest s!"GL account {id} not found or inactive in this tenant")
    | none =>
      if dto.postings.any fun posting => posting.debitAccountId == posting.creditAccountId then
        throw (.badRequest "Debit and credit accounts must be different in each posting line")
      else return ()

def entryPrefix (year : Nat) : List Char := "JE-".toList ++ Nat.toDigits 10 year ++ ['-']

/-- The number of the `seq`-th entry of a year. -/
def entryNumber (year seq : Nat) : String :=
  String.ofList (entryPrefix year ++ PaddedNumber.pad 6 seq)

example : entryNumber 2026 41 = "JE-2026-000041" := by decide

/-- The entry number of the year that sorts last. -/
def JournalDesk.lastNumber (desk : JournalDesk) (year : Nat) : Option (List Char) :=
  PaddedNumber.greatest
    ((desk.entries.map (·.entryNumber.toList)).filter ((entryPrefix year).isPrefixOf ·))

/-- The number after that of an entry. -/
def seqAfter (text : List Char) : Nat :=
  match ((PaddedNumber.parts '-' text)[2]?).bind PaddedNumber.parseInt with
  | some lastSeq => lastSeq + 1
  | none => 1

def JournalDesk.nextSeq (desk : JournalDesk) (year : Nat) : Nat :=
  match desk.lastNumber year with
  | none => 1
  | some text => seqAfter text

/-- The row of a new entry. -/
def CreateJournalEntryDto.entry (dto : CreateJournalEntryDto) (entryNumber : String)
    (actorId : Nat) : ManualEntry :=
  let pending : Bool := APPROVAL_THRESHOLD ≤ dto.totalAmount
  { entryNumber
    type := dto.type
    status := if pending then .pendingApproval else .approved
    description := dto.description
    totalAmount := toDecimalPlaces4 dto.totalAmount
    referenceType := dto.referenceType
    referenceId := dto.referenceId
    createdById := actorId
    approvedById := if pending then none else some actorId
    rejectedById := none
    approvalNotes := if pending then none else some "Auto-approved: amount below approval threshold"
    postings := dto.postings.map fun posting =>
      { debitAccountId := posting.debitAccountId
        creditAccountId := posting.creditAccountId
        amount := toDecimalPlaces4 posting.amount
        description := posting.description } }

/-! ## 3. The statements -/

/-- The update of a decision. -/
def EntryVerdict.apply (verdict : EntryVerdict) (actorId : Nat) (notes : String)
    (entry : ManualEntry) : ManualEntry :=
  match verdict with
  | .approve =>
    { entry with
      status := .approved
      approvedById := some actorId
      approvalNotes := some (if notes = "" then "Approved" else notes) }
  | .reject =>
    { entry with
      status := .rejected
      rejectedById := some actorId
      approvalNotes := some (if notes = "" then "Rejected" else notes) }

def JournalDesk.decide (desk : JournalDesk) (verdict : EntryVerdict) (id actorId : Nat)
    (notes : String) : JournalDesk :=
  { desk with
    entries := desk.entries.modify id (verdict.apply actorId notes)
    decisions := desk.decisions ++ [⟨id, actorId, verdict⟩] }

/-- `year` is the one of the server's clock. -/
def JournalPoint.statement (year : Nat) : JournalPoint → Txn JournalDesk JournalErr (Option JournalPoint)
  | .findAccounts dto actorId => do
    let desk ← get
    fromExcept (desk.checkCreate dto)
    return some (.findLast dto actorId)
  | .findLast dto actorId => do
    let desk ← get
    return some (.createEntry dto actorId (entryNumber year (desk.nextSeq year)))
  | .createEntry dto actorId number => do
    let desk ← get
    ensure (desk.entries.any (·.entryNumber == number) = false)
      (.uniqueViolation "tenantId, entryNumber")
    modify fun desk => { desk with entries := desk.entries ++ [dto.entry number actorId] }
    return none
  | .findEntry verdict id actorId notes => do
    let desk ← get
    let entry ← required desk.entries[id]?
      (.notFound s!"Journal entry {id} not found in this tenant")
    ensure (entry.status = .pendingApproval)
      (.conflict
        s!"Journal entry {entry.entryNumber} is {entry.status.name}, not PENDING_APPROVAL")
    -- only an approval asks who created the entry
    ensure (verdict = .approve → entry.createdById ≠ actorId)
      (.forbidden "Maker-checker violation: you cannot approve your own journal entry")
    return some (.updateEntry verdict id actorId notes entry)
  | .updateEntry verdict id actorId notes _ => do
    let desk ← get
    let _ ← required desk.entries[id]? (.notFound "Record to update not found.")
    modify (·.decide verdict id actorId notes)
    return none

def JournalCall.entry : JournalCall → JournalPoint
  | .create dto actorId => .findAccounts dto actorId
  | .decide verdict id actorId notes => .findEntry verdict id actorId notes

def journaling : Program JournalDesk JournalErr JournalCall Nat JournalPoint where
  entry := JournalCall.entry
  next t year := t.statement year

abbrev JournalWorld := World JournalDesk JournalPoint

abbrev JournalEvent := Event JournalCall Nat

/-- A tenant without entries. -/
def JournalDesk.opening (glAccounts : List GLAccount) : JournalDesk := ⟨glAccounts, [], []⟩

def JournalDesk.afterCalls (desk : JournalDesk) (events : List JournalEvent) : JournalDesk :=
  (Machine.run journaling.step ⟨desk, []⟩ events).state

/-! ## 4. Four eyes on an entry -/

/-- The stored total is one that asks for a decision. -/
def ManualEntry.isLarge (entry : ManualEntry) : Bool := APPROVAL_THRESHOLD ≤ ofUnits entry.totalAmount

structure JournalDesk.FourEyed (desk : JournalDesk) : Prop where
  once : ∀ id, desk.decisions.countP (·.entryId == id) ≤ 1
  decided : ∀ d ∈ desk.decisions, ∃ entry, desk.entries[d.entryId]? = some entry ∧
    entry.status = d.verdict.status ∧ entry.createdById ≠ d.actorId
  approved : ∀ (id : Nat) (entry : ManualEntry), desk.entries[id]? = some entry →
    entry.status = .approved → entry.isLarge = true →
    ∃ d ∈ desk.decisions, d.entryId = id ∧ d.verdict = .approve

/-- A decision meets the status that its call has read, and a refusal is not the creator's; a total
below the threshold is not rounded up to it. -/
def JournalPoint.inOrder (desk : JournalDesk) : JournalPoint → Bool
  | .updateEntry verdict id actorId _ read =>
    desk.entries[id]?.all fun entry =>
      entry.status == read.status && (verdict == .approve || entry.createdById != actorId)
  | .createEntry dto actorId number =>
    APPROVAL_THRESHOLD ≤ dto.totalAmount || !(dto.entry number actorId).isLarge
  | _ => true

def JournalWorld.orderly (w : JournalWorld) : JournalEvent → Bool
  | .advance i _ => (w.task i).all (·.inOrder w.state)
  | _ => true

/-- What a statement changes: nothing, a new entry, or an entry that it decides. -/
inductive JournalDoes (t : JournalPoint) (desk : JournalDesk) : JournalDesk → Prop where
  | nothing : JournalDoes t desk desk
  | creates {dto : CreateJournalEntryDto} {actorId : Nat} {number : String}
      (hpoint : t = .createEntry dto actorId number) :
      JournalDoes t desk { desk with entries := desk.entries ++ [dto.entry number actorId] }
  | decides {verdict : EntryVerdict} {id actorId : Nat} {notes : String} {entry : ManualEntry}
      {read : ManualEntry}
      (hpoint : t = .updateEntry verdict id actorId notes read) (hrow : desk.entries[id]? = some entry) :
      JournalDoes t desk (desk.decide verdict id actorId notes)

/-- What a decision has read: an entry that waited, by the creator that it has, who does not approve. -/
def JournalPoint.Checked (desk : JournalDesk) : JournalPoint → Prop
  | .updateEntry verdict id actorId _ read =>
    read.status = .pendingApproval ∧ (verdict = .approve → read.createdById ≠ actorId) ∧
      ∃ entry, desk.entries[id]? = some entry ∧ entry.createdById = read.createdById
  | _ => True

namespace JournalLemmas

variable {desk desk' : JournalDesk} {t : JournalPoint} {t' : Option JournalPoint} {year id : Nat}
  {entry : ManualEntry} {w : JournalWorld} {e : JournalEvent}

theorem apply_status (verdict : EntryVerdict) (actorId : Nat) (notes : String)
    (entry : ManualEntry) : (verdict.apply actorId notes entry).status = verdict.status := by
  cases verdict <;> rfl

theorem apply_createdById (verdict : EntryVerdict) (actorId : Nat) (notes : String)
    (entry : ManualEntry) :
    (verdict.apply actorId notes entry).createdById = entry.createdById := by
  cases verdict <;> rfl

theorem status_ne_pending (verdict : EntryVerdict) : verdict.status ≠ .pendingApproval := by
  cases verdict <;> exact JournalEntryStatus.noConfusion

/-! ## 5. One statement -/

theorem journal_does (h : Yields (t.statement year) desk t' desk') :
    JournalDoes t desk desk' ∧ ∀ u, t' = some u → u.Checked desk' := by
  cases t with
  | findAccounts dto actorId =>
    simp only [JournalPoint.statement, yields_bind, yields_get, yields_fromExcept, yields_pure] at h
    obtain ⟨_, _, ⟨rfl, rfl⟩, _, _, ⟨-, rfl⟩, rfl, rfl⟩ := h
    refine ⟨.nothing, fun u hu => ?_⟩
    cases hu
    trivial
  | findLast dto actorId =>
    simp only [JournalPoint.statement, yields_bind, yields_get, yields_pure] at h
    obtain ⟨_, _, ⟨rfl, rfl⟩, rfl, rfl⟩ := h
    refine ⟨.nothing, fun u hu => ?_⟩
    cases hu
    trivial
  | createEntry dto actorId number =>
    simp only [JournalPoint.statement, yields_bind, yields_get, yields_ensure, yields_modify,
      yields_pure] at h
    obtain ⟨_, _, ⟨rfl, rfl⟩, _, _, ⟨-, rfl⟩, _, _, rfl, rfl, rfl⟩ := h
    exact ⟨.creates rfl, fun u hu => (by cases hu)⟩
  | findEntry verdict id actorId notes =>
    simp only [JournalPoint.statement, yields_bind, yields_get, yields_required, yields_ensure,
      yields_pure] at h
    obtain ⟨_, _, ⟨rfl, rfl⟩, entry, _, ⟨hrow, rfl⟩, _, _, ⟨hpending, rfl⟩, _, _, ⟨hchecker, rfl⟩,
      rfl, rfl⟩ := h
    refine ⟨.nothing, fun u hu => ?_⟩
    cases hu
    exact ⟨hpending, hchecker, entry, hrow, rfl⟩
  | updateEntry verdict id actorId notes read =>
    simp only [JournalPoint.statement, yields_bind, yields_get, yields_required, yields_modify,
      yields_pure] at h
    obtain ⟨_, _, ⟨rfl, rfl⟩, entry, _, ⟨hrow, rfl⟩, _, _, rfl, rfl, rfl⟩ := h
    exact ⟨.decides rfl hrow, fun u hu => (by cases hu)⟩

theorem createdById_kept (h : JournalDoes t desk desk') (hrow : desk.entries[id]? = some entry) :
    ∃ entry', desk'.entries[id]? = some entry' ∧ entry'.createdById = entry.createdById := by
  cases h with
  | nothing => exact ⟨entry, hrow, rfl⟩
  | creates _ => exact ⟨entry, Table.getElem?_append_one_old hrow, rfl⟩
  | @decides verdict id' actorId notes _ _ _ _ =>
    by_cases hid : id' = id
    · subst hid
      exact ⟨_, Table.getElem?_modify_self hrow, apply_createdById verdict actorId notes entry⟩
    · exact ⟨entry, (Table.getElem?_modify_other hid).trans hrow, rfl⟩

theorem checked_kept (h : JournalDoes t desk desk') {u : JournalPoint} (hu : u.Checked desk) :
    u.Checked desk' := by
  cases u with
  | updateEntry verdict id actorId notes read =>
    obtain ⟨hpending, hchecker, entry, hrow, hread⟩ := hu
    obtain ⟨entry', hrow', hcreator⟩ := createdById_kept h hrow
    exact ⟨hpending, hchecker, entry', hrow', hcreator.trans hread⟩
  | _ => trivial

/-- A new entry is large only when it waits. -/
theorem fourEyed_creates {dto : CreateJournalEntryDto} {actorId : Nat} {number : String}
    (h : desk.FourEyed)
    (horderly : JournalPoint.inOrder desk (.createEntry dto actorId number) = true) :
    JournalDesk.FourEyed { desk with entries := desk.entries ++ [dto.entry number actorId] } := by
  refine ⟨h.once, fun d hd => ?_, fun id entry hrow happroved hlarge => ?_⟩
  · obtain ⟨entry, hrow, hstatus, hcreator⟩ := h.decided d hd
    exact ⟨entry, Table.getElem?_append_one_old hrow, hstatus, hcreator⟩
  · rcases Table.getElem?_append_one_some hrow with hold | ⟨-, rfl⟩
    · exact h.approved id entry hold happroved hlarge
    · replace horderly : (decide (APPROVAL_THRESHOLD ≤ dto.totalAmount) ||
          !(dto.entry number actorId).isLarge) = true := horderly
      rw [hlarge, Bool.not_true, Bool.or_false, decide_eq_true_iff] at horderly
      unfold CreateJournalEntryDto.entry at happroved
      simp only [horderly, decide_true, if_true] at happroved
      cases happroved

/-- A decision in order is the first of its entry. -/
theorem fourEyed_decides {verdict : EntryVerdict} {actorId : Nat} {notes : String}
    {read : ManualEntry} (h : desk.FourEyed) (hrow : desk.entries[id]? = some entry)
    (hchecked : JournalPoint.Checked desk (.updateEntry verdict id actorId notes read))
    (horderly : JournalPoint.inOrder desk (.updateEntry verdict id actorId notes read) = true) :
    (desk.decide verdict id actorId notes).FourEyed := by
  obtain ⟨hwaited, happroves, _, hrow', hcreator⟩ := hchecked
  cases hrow.symm.trans hrow'
  dsimp only [JournalPoint.inOrder] at horderly
  rw [hrow, Option.all_some, Bool.and_eq_true, beq_iff_eq] at horderly
  -- the entry waits still, as it did when the call read it
  have hpending : entry.status = .pendingApproval := horderly.1.trans hwaited
  -- an entry that still waits has no decision, so the one to be written is its first
  have hfresh : ∀ d ∈ desk.decisions, d.entryId ≠ id := by
    rintro d hd rfl
    obtain ⟨decided, hdecided, hstatus, -⟩ := h.decided d hd
    rw [hrow] at hdecided
    cases hdecided
    exact status_ne_pending d.verdict (hstatus.symm.trans hpending)
  -- the approval compared the actor with the creator; the guard does it for a rejection
  have hother : entry.createdById ≠ actorId := by
    cases verdict with
    | approve => exact hcreator ▸ happroves rfl
    | reject => exact bne_iff_ne.mp horderly.2
  refine ⟨fun id' => ?_, fun d hd => ?_, fun id' entry' hrow' happroved hlarge => ?_⟩
  · show (desk.decisions ++ [_]).countP _ ≤ 1
    rw [List.countP_append, List.countP_singleton]
    split
    · next heq =>
      have hnone : desk.decisions.countP (·.entryId == id') = 0 := by
        rw [List.countP_eq_zero]
        intro d hd hid
        exact hfresh d hd ((beq_iff_eq.mp hid).trans (beq_iff_eq.mp heq).symm)
      exact Nat.le_of_eq (congrArg Nat.succ hnone)
    · exact h.once id'
  · rcases List.mem_append.mp hd with hold | hnew
    · obtain ⟨decided, hdecided, hstatus, hcreator⟩ := h.decided d hold
      exact ⟨decided, (Table.getElem?_modify_other (hfresh d hold).symm).trans hdecided, hstatus,
        hcreator⟩
    · rw [List.mem_singleton.mp hnew]
      refine ⟨_, Table.getElem?_modify_self hrow, apply_status verdict actorId notes entry, ?_⟩
      rw [apply_createdById]
      exact hother
  · by_cases hid : id = id'
    · subst hid
      refine ⟨⟨id, actorId, verdict⟩, List.mem_append_right _ (List.mem_singleton_self _), rfl, ?_⟩
      have hnow := hrow'.symm.trans (Table.getElem?_modify_self hrow)
      cases hnow
      rw [apply_status] at happroved
      cases verdict with
      | approve => rfl
      | reject => cases happroved
    · have hold := (Table.getElem?_modify_other hid).symm.trans hrow'
      obtain ⟨d, hd, hentry⟩ := h.approved id' entry' hold happroved hlarge
      exact ⟨d, List.mem_append_left _ hd, hentry⟩

/-! ## 6. Runs -/

theorem fourEyed_step (h : Upheld JournalDesk.FourEyed JournalPoint.Checked w)
    (horderly : w.orderly e = true) :
    Upheld JournalDesk.FourEyed JournalPoint.Checked (journaling.step w e) := by
  refine upheld_step h (fun call _ => ?_) fun i year t t' desk' he hat hy => ?_
  · cases call with
    | create dto actorId => trivial
    | decide verdict id actorId notes => trivial
  · obtain ⟨hdoes, hnext⟩ := journal_does hy
    have hinOrder : t.inOrder w.state = true := by
      unfold JournalWorld.orderly at horderly
      rw [he] at horderly
      dsimp only at horderly
      rwa [task_some.mpr hat, Option.all_some] at horderly
    refine ⟨?_, hnext, fun j u _ _ hu => checked_kept hdoes hu⟩
    cases hdoes with
    | nothing => exact h.state
    | creates hpoint =>
      subst hpoint
      exact fourEyed_creates h.state hinOrder
    | decides hpoint hrow =>
      subst hpoint
      exact fourEyed_decides h.state hrow (h.tasks i _ hat) hinOrder

theorem fourEyed_opening (glAccounts : List GLAccount) :
    Upheld JournalDesk.FourEyed JournalPoint.Checked ⟨JournalDesk.opening glAccounts, []⟩ :=
  ⟨⟨fun _ => Nat.zero_le 1, fun d hd => (by cases hd), fun id entry hrow => (by cases hrow)⟩,
    fun i t hat => (by cases hat)⟩

end JournalLemmas

open JournalLemmas

/-- Cash and deposits. -/
def exGlAccounts : List GLAccount := [⟨"1000", true⟩, ⟨"2000", true⟩]

/-- An entry of one line from the deposits to the cash account. -/
def exManualEntry (amount : ℚ) : CreateJournalEntryDto where
  description := "Adjustment"
  type := .manual
  postings := [⟨1, 0, amount, none⟩]
  referenceType := none
  referenceId := none

/-- User 7 writes a large entry. -/
def exWritten : List JournalEvent :=
  [.start (.create (exManualEntry 250000) 7), .advance 0 2026, .advance 0 2026, .advance 0 2026]

end BebaSacco
