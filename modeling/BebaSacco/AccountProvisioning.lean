import BebaSacco.Schema
import BebaSacco.Lib.ReadCommitted
import Mathlib.Data.List.Nodup

/-! # One account of each type

Accounts of a member are created by staff, when the member is, when a script fills gaps, and when the
member's documents are approved. Each path looks for the accounts there are, and creates those that
are missing by later statements. No column keeps two of one type apart.

Results:
 1. `provision_does`: what one statement of a provisioning transaction does.
 2. `create_does`: what one statement of `create` does.
 3. `one_account_per_type`: at most one active account of each type, and exactly one once a
    provisioning path has returned, when no account was created between a path's look and its write.
 4. `accounts_twice`: overlapping calls, and an approval of a member with a closed account.
-/

namespace BebaSacco

open ReadCommitted

/-! ## 1. The state and the writes -/

structure AccountTypePolicy where
  accountType : AccountType
  minimumBalance : Int
  allowsNegative : Bool
  deriving DecidableEq, Repr

structure CreateAccountDto where
  memberId : Nat
  accountType : AccountType
  deriving DecidableEq, Repr

/-- The next statement of `AccountsService.create`. `seen` counts the accounts that were there at the
look for one; the code does not have it. -/
inductive CreatePoint where
  | findMember (dto : CreateAccountDto)
  | findExisting (dto : CreateAccountDto)
  | findPolicy (dto : CreateAccountDto) (seen : Nat)
  | upsertCounter (dto : CreateAccountDto) (seen : Nat) (policy : Option AccountTypePolicy)
  | createAccount (dto : CreateAccountDto) (seen : Nat) (policy : Option AccountTypePolicy)
      (accountSeq : Nat)
  deriving DecidableEq, Repr

/-- The tables, the calls of `create` (`none` for one that has ended), and the members for whom a
provisioning path has returned. A tenant without a counter has `accountSeq` 0. -/
structure AccountsDesk where
  members : List Nat
  accounts : List Account
  policies : List AccountTypePolicy
  accountSeq : Nat
  calls : List (Option CreatePoint)
  provisioned : List Nat

/-- The tables before the first call. -/
def AccountsDesk.opening (members : List Nat) (accounts : List Account)
    (policies : List AccountTypePolicy) (accountSeq : Nat) : AccountsDesk :=
  { members, accounts, policies, accountSeq, calls := [], provisioned := [] }

def AccountType.name : AccountType → String
  | .bosa => "BOSA"
  | .fosa => "FOSA"

/-- `String(n).padStart(6, '0')`. -/
def padStart6 (n : Nat) : String :=
  let digits := toString n
  String.ofList (List.replicate (6 - digits.length) '0') ++ digits

def accountNumberOf (accountType : AccountType) (sequence : Nat) : String :=
  s!"ACC-{accountType.name}-{padStart6 sequence}"

example : accountNumberOf .fosa 41 = "ACC-FOSA-000041" := by decide

/-- The row of a new account, with the columns' own defaults. -/
def newAccount (memberId : Nat) (accountType : AccountType) (policy : Option AccountTypePolicy)
    (sequence : Nat) : Account where
  memberId := memberId
  accountNumber := accountNumberOf accountType sequence
  accountType := accountType
  balance := 0
  isActive := true
  version := 0
  lockedBalance := 0
  frozenSavings := 0
  allowsNegative := (policy.map (·.allowsNegative)).getD false
  minimumBalance := (policy.map (·.minimumBalance)).getD 0

/-- An account of the member of that type. -/
def Account.isFor (memberId : Nat) (accountType : AccountType) (a : Account) : Bool :=
  a.memberId == memberId && a.accountType == accountType

/-- An active account of the member of that type. -/
def Account.serves (memberId : Nat) (accountType : AccountType) (a : Account) : Bool :=
  a.isFor memberId accountType && a.isActive

def AccountsDesk.policy (desk : AccountsDesk) (accountType : AccountType) :
    Option AccountTypePolicy :=
  desk.policies.find? (·.accountType == accountType)

/-- The number is taken: `@@unique([tenantId, accountNumber])`. -/
def AccountsDesk.taken (desk : AccountsDesk) (accountNumber : String) : Bool :=
  desk.accounts.any (·.accountNumber == accountNumber)

/-- A write of a provisioning transaction; the last one notes that the path has returned. -/
inductive ProvisionWrite where
  | createMember (memberId : Nat)
  | updateMember (memberId : Nat)
  | increment (count : Nat)
  | createAccount (row : Account)
  | returned (memberId : Nat)
  deriving DecidableEq, Repr

/-- The update sets the columns of the review, which no path reads. -/
def ProvisionWrite.apply : ProvisionWrite → AccountsDesk → AccountsDesk
  | .createMember memberId, desk => { desk with members := desk.members ++ [memberId] }
  | .updateMember _, desk => desk
  | .increment count, desk => { desk with accountSeq := desk.accountSeq + count }
  | .createAccount row, desk => { desk with accounts := desk.accounts ++ [row] }
  | .returned memberId, desk => { desk with provisioned := desk.provisioned ++ [memberId] }

/-- The lock of the counter's row; an uncommitted number is not taken by another row. -/
def ProvisionWrite.allows : ProvisionWrite → AccountsDesk → AccountsDesk → Bool
  | .increment _, desk, desk' => desk'.accountSeq == desk.accountSeq
  | .createAccount row, _, desk' => !desk'.taken row.accountNumber
  | _, _, _ => true

/-- Two writes of one row, or of one unique value. -/
def ProvisionWrite.clash : ProvisionWrite → ProvisionWrite → Bool
  | .createMember memberId, .createMember memberId' => memberId == memberId'
  | .updateMember memberId, .updateMember memberId' => memberId == memberId'
  | .increment _, .increment _ => true
  | .createAccount row, .createAccount row' => row.accountNumber == row'.accountNumber
  | _, _ => false

theorem ProvisionWrite.clash_symm (v w : ProvisionWrite) : v.clash w = w.clash v := by
  cases v with
  | createMember _ | updateMember _ | increment _ | createAccount _ | returned _ =>
    cases w with
    | createMember _ | updateMember _ | increment _ | createAccount _ | returned _ =>
      first
      | rfl
      | exact BEq.comm

/-! ## 2. The provisioning transactions -/

def REQUIRED_TYPES : List AccountType := [.fosa, .bosa]

/-- Who provisions: the creation of a member by staff or by an import, the script that fills gaps, or
the approval of the last required document. -/
inductive ProvisionCall where
  | createMember (memberId : Nat)
  | backfill (memberId : Nat)
  | syncMemberKycDecision (memberId : Nat)
  deriving DecidableEq, Repr

/-- What a path has found: the types that were missing among the first `seen` accounts. -/
structure Provisioning where
  memberId : Nat
  seen : Nat
  missingTypes : List AccountType
  deriving DecidableEq, Repr

/-- The next statement of a provisioning transaction. -/
inductive ProvisionPoint where
  | createMember (memberId : Nat)
  | updateMember (memberId : Nat)
  | findActive (memberId : Nat)
  | findAny (memberId : Nat)
  | findPolicies (p : Provisioning)
  | upsertCounter (p : Provisioning) (policies : List AccountTypePolicy)
  | createAccounts (p : Provisioning) (policies : List AccountTypePolicy) (sequence : Nat)
      (left : List AccountType)
  | done (p : Provisioning)
  deriving DecidableEq, Repr

abbrev ProvisionStatement := ReadCommitted.Statement ProvisionWrite ProvisionPoint

/-- What a path finds that takes the accounts `existing` for existing ones. -/
def AccountsDesk.look (desk : AccountsDesk) (existing : Nat → AccountType → Account → Bool)
    (memberId : Nat) : Provisioning where
  memberId := memberId
  seen := desk.accounts.length
  missingTypes := REQUIRED_TYPES.filter fun t => !desk.accounts.any (existing memberId t)

/-- After the look: nothing is missing, or `next` goes on. -/
def Provisioning.goOn (p : Provisioning) (next : ProvisionPoint) : ProvisionStatement :=
  if p.missingTypes.isEmpty then ⟨[], some (.done p)⟩ else ⟨[], some next⟩

def provisionStatement : ProvisionPoint → AccountsDesk → Option ProvisionStatement
  | .createMember memberId, desk =>
    if memberId ∈ desk.members then none
    else some ⟨[.createMember memberId], some (.findActive memberId)⟩
  | .updateMember memberId, desk =>
    if memberId ∈ desk.members then some ⟨[.updateMember memberId], some (.findAny memberId)⟩
    else none
  | .findActive memberId, desk =>
    let p := desk.look Account.serves memberId
    some (p.goOn (.findPolicies p))
  -- the approval takes closed accounts for existing ones, and knows no policy
  | .findAny memberId, desk =>
    let p := desk.look Account.isFor memberId
    some (p.goOn (.upsertCounter p []))
  | .findPolicies p, desk =>
    some ⟨[], some (.upsertCounter p
      (desk.policies.filter fun policy => p.missingTypes.contains policy.accountType))⟩
  | .upsertCounter p policies, desk =>
    let count := p.missingTypes.length
    let firstSeq := desk.accountSeq + count - count + 1
    some ⟨[.increment count], some (.createAccounts p policies firstSeq p.missingTypes)⟩
  | .createAccounts p policies sequence left, desk =>
    match left with
    | [] => some ⟨[], some (.done p)⟩
    | t :: left =>
      let row := newAccount p.memberId t (policies.find? (·.accountType == t)) sequence
      if desk.taken row.accountNumber then none
      else some ⟨[.createAccount row], some (.createAccounts p policies (sequence + 1) left)⟩
  | .done p, _ => some ⟨[.returned p.memberId], none⟩

def ProvisionCall.entry : ProvisionCall → ProvisionPoint
  | .createMember memberId => .createMember memberId
  | .backfill memberId => .findActive memberId
  | .syncMemberKycDecision memberId => .updateMember memberId

def provisioning : ReadCommitted.Program AccountsDesk ProvisionWrite ProvisionCall ProvisionPoint where
  apply := ProvisionWrite.apply
  allows := ProvisionWrite.allows
  clash := ProvisionWrite.clash
  clash_symm := ProvisionWrite.clash_symm
  entry := ProvisionCall.entry
  statement := provisionStatement

/-! ## 3. `create` -/

/-- A call of `create` begins, or does its next statement. -/
inductive CreateStep where
  | call (dto : CreateAccountDto)
  | proceed (j : Nat)
  deriving DecidableEq, Repr

/-- A call goes on, or ends. -/
def AccountsDesk.moveCall (desk : AccountsDesk) (j : Nat) (point : Option CreatePoint) :
    AccountsDesk :=
  { desk with calls := desk.calls.set j point }

/-- The next statement of the call `j`; one that throws ends the call. -/
def AccountsDesk.create (desk : AccountsDesk) (j : Nat) : CreatePoint → AccountsDesk
  | .findMember dto =>
    if dto.memberId ∈ desk.members then desk.moveCall j (some (.findExisting dto))
    else desk.moveCall j none
  | .findExisting dto =>
    if desk.accounts.any (·.serves dto.memberId dto.accountType) then desk.moveCall j none
    else desk.moveCall j (some (.findPolicy dto desk.accounts.length))
  | .findPolicy dto seen =>
    desk.moveCall j (some (.upsertCounter dto seen (desk.policy dto.accountType)))
  | .upsertCounter dto seen policy =>
    { desk.moveCall j (some (.createAccount dto seen policy (desk.accountSeq + 1))) with
      accountSeq := desk.accountSeq + 1 }
  | .createAccount dto _ policy accountSeq =>
    let row := newAccount dto.memberId dto.accountType policy accountSeq
    if desk.taken row.accountNumber then desk.moveCall j none
    else { desk.moveCall j none with accounts := desk.accounts ++ [row] }

def AccountsDesk.served : CreateStep → AccountsDesk → AccountsDesk
  | .call dto, desk => { desk with calls := desk.calls ++ [some (.findMember dto)] }
  | .proceed j, desk =>
    match desk.calls[j]?.join with
    | none => desk
    | some point => desk.create j point

abbrev AccountsWorld := ReadCommitted.World AccountsDesk ProvisionWrite ProvisionPoint

abbrev AccountsEvent := ReadCommitted.Event CreateStep ProvisionCall

def AccountsWorld.step (w : AccountsWorld) (e : AccountsEvent) : AccountsWorld :=
  provisioning.step AccountsDesk.served w e

/-- The world after the events, with nothing under way at their start. -/
def AccountsDesk.afterEvents (desk : AccountsDesk) (events : List AccountsEvent) : AccountsDesk :=
  (Machine.run AccountsWorld.step ⟨desk, []⟩ events).state

/-! ## 4. Steps in good order -/

/-- An active account of the member of that type was created after the first `seen`. -/
def AccountsDesk.createdSince (desk : AccountsDesk) (seen memberId : Nat)
    (accountType : AccountType) : Bool :=
  (desk.accounts.drop seen).any (·.serves memberId accountType)

/-- The account that a write creates. -/
def ProvisionWrite.row : ProvisionWrite → Option Account
  | .createAccount row => some row
  | _ => none

def createdIn (ws : List ProvisionWrite) : List Account := ws.filterMap ProvisionWrite.row

/-- Nobody created such an account between a path's look and its write or commit; and the approval
looks at no member who has an account of a type but no active one. -/
def AccountsWorld.orderly (w : AccountsWorld) : AccountsEvent → Bool
  | .serve (.proceed j) =>
    match w.state.calls[j]?.join with
    | some (.createAccount dto seen _ _) =>
      !w.state.createdSince seen dto.memberId dto.accountType
    | _ => true
  | .advance i =>
    match w.running[i]?.join with
    | some ⟨.done p, ws⟩ =>
      (createdIn ws).all fun a => !w.state.createdSince p.seen a.memberId a.accountType
    | some ⟨.findAny memberId, _⟩ =>
      REQUIRED_TYPES.all fun t =>
        !w.state.accounts.any (·.isFor memberId t) || w.state.accounts.any (·.serves memberId t)
    | _ => true
  | _ => true

/-! ## 5. What a statement does -/

def ProvisionWrite.returnedFor : ProvisionWrite → Option Nat
  | .returned memberId => some memberId
  | _ => none

def returnedIn (ws : List ProvisionWrite) : List Nat := ws.filterMap ProvisionWrite.returnedFor

/-- What a path has found, and the types that are still to be created. -/
def ProvisionPoint.found : ProvisionPoint → Option (Provisioning × List AccountType)
  | .findPolicies p | .upsertCounter p _ => some (p, p.missingTypes)
  | .createAccounts p _ _ left => some (p, left)
  | .done p => some (p, [])
  | _ => none

/-- What a statement does: it creates nothing, looks, creates one account, or returns. -/
inductive ProvisionDoes (desk : AccountsDesk) (point : ProvisionPoint) :
    ProvisionStatement → Prop where
  | passes {ws : List ProvisionWrite} {next : ProvisionPoint} (hcreated : createdIn ws = [])
      (hreturned : returnedIn ws = []) (hnext : next.found = point.found) :
      ProvisionDoes desk point ⟨ws, some next⟩
  | findsActive {memberId : Nat} {next : ProvisionPoint} (hpoint : point = .findActive memberId)
      (hnext : next.found = some (desk.look Account.serves memberId,
        (desk.look Account.serves memberId).missingTypes)) :
      ProvisionDoes desk point ⟨[], some next⟩
  | findsAny {memberId : Nat} {next : ProvisionPoint} (hpoint : point = .findAny memberId)
      (hnext : next.found = some (desk.look Account.isFor memberId,
        (desk.look Account.isFor memberId).missingTypes)) :
      ProvisionDoes desk point ⟨[], some next⟩
  | creates {p : Provisioning} {t : AccountType} {left : List AccountType} {row : Account}
      {next : ProvisionPoint} (hpoint : point.found = some (p, t :: left))
      (hmember : row.memberId = p.memberId) (htype : row.accountType = t)
      (hactive : row.isActive = true) (hnext : next.found = some (p, left)) :
      ProvisionDoes desk point ⟨[.createAccount row], some next⟩
  | returns {p : Provisioning} (hpoint : point = .done p) :
      ProvisionDoes desk point ⟨[.returned p.memberId], none⟩

/-- The look of a call of `create`: what it asked for and the accounts that were there. -/
def CreatePoint.looked : CreatePoint → Option (CreateAccountDto × Nat)
  | .findPolicy dto seen | .upsertCounter dto seen _ | .createAccount dto seen _ _ =>
    some (dto, seen)
  | _ => none

/-- What a statement of `create` does: it goes on with the look it had, looks, or creates. -/
inductive CreateDoes (desk : AccountsDesk) (j : Nat) (point : CreatePoint) :
    AccountsDesk → Prop where
  | passes {next : Option CreatePoint} {accountSeq : Nat}
      (hnext : ∀ point', next = some point' → point'.looked = point.looked) :
      CreateDoes desk j point { desk with calls := desk.calls.set j next, accountSeq }
  | looks {dto : CreateAccountDto} {point' : CreatePoint}
      (hlooked : point'.looked = some (dto, desk.accounts.length))
      (hnone : desk.accounts.any (·.serves dto.memberId dto.accountType) = false) :
      CreateDoes desk j point { desk with calls := desk.calls.set j (some point') }
  | creates {dto : CreateAccountDto} {seen sequence : Nat} {policy policy' : Option AccountTypePolicy}
      (hpoint : point = .createAccount dto seen policy' sequence) :
      CreateDoes desk j point { desk with
        calls := desk.calls.set j none
        accounts := desk.accounts ++ [newAccount dto.memberId dto.accountType policy sequence] }

section does

variable {desk : AccountsDesk} {point : ProvisionPoint}

theorem goOn_does (memberId : Nat) (existing : Nat → AccountType → Account → Bool)
    {next : ProvisionPoint} (hnext : next.found = some (desk.look existing memberId,
      (desk.look existing memberId).missingTypes)) :
    ∃ next', (desk.look existing memberId).goOn next = ⟨[], some next'⟩ ∧
      next'.found = some (desk.look existing memberId,
        (desk.look existing memberId).missingTypes) := by
  unfold Provisioning.goOn
  split
  · next hempty =>
    refine ⟨_, rfl, ?_⟩
    show some (_, []) = some (_, _)
    rw [List.isEmpty_iff.mp hempty]
  · exact ⟨next, rfl, hnext⟩

theorem provision_does {st : ProvisionStatement} (h : provisionStatement point desk = some st) :
    ProvisionDoes desk point st := by
  cases point with
  | createMember memberId =>
    dsimp only [provisionStatement] at h
    split at h
    · cases h
    · cases h
      exact .passes rfl rfl rfl
  | updateMember memberId =>
    dsimp only [provisionStatement] at h
    split at h
    · cases h
      exact .passes rfl rfl rfl
    · cases h
  | findActive memberId =>
    have hnext : (ProvisionPoint.findPolicies (desk.look Account.serves memberId)).found =
        some (desk.look Account.serves memberId,
          (desk.look Account.serves memberId).missingTypes) := rfl
    obtain ⟨next, hgo, hfound⟩ := goOn_does memberId Account.serves hnext
    cases (Option.some.inj h).symm.trans hgo
    exact .findsActive rfl hfound
  | findAny memberId =>
    have hnext : (ProvisionPoint.upsertCounter (desk.look Account.isFor memberId) []).found =
        some (desk.look Account.isFor memberId,
          (desk.look Account.isFor memberId).missingTypes) := rfl
    obtain ⟨next, hgo, hfound⟩ := goOn_does memberId Account.isFor hnext
    cases (Option.some.inj h).symm.trans hgo
    exact .findsAny rfl hfound
  | findPolicies p =>
    cases h
    exact .passes rfl rfl rfl
  | upsertCounter p policies =>
    cases h
    exact .passes rfl rfl rfl
  | createAccounts p policies sequence left =>
    cases left with
    | nil =>
      cases h
      exact .passes rfl rfl rfl
    | cons t left =>
      dsimp only [provisionStatement] at h
      split at h
      · cases h
      · cases h
        exact .creates rfl rfl rfl rfl rfl
  | done p =>
    cases h
    exact .returns rfl

theorem create_ends {j : Nat} {point : CreatePoint} :
    CreateDoes desk j point (desk.moveCall j none) := by
  refine .passes fun next hnext => ?_
  cases hnext

theorem create_goes {j accountSeq : Nat} {point point' : CreatePoint}
    (h : point'.looked = point.looked) :
    CreateDoes desk j point { desk.moveCall j (some point') with accountSeq } := by
  refine .passes fun next hnext => ?_
  cases hnext
  exact h

theorem create_does (desk : AccountsDesk) (j : Nat) (point : CreatePoint) :
    CreateDoes desk j point (desk.create j point) := by
  cases point with
  | findMember dto =>
    dsimp only [AccountsDesk.create]
    split
    · exact create_goes rfl
    · exact create_ends
  | findExisting dto =>
    dsimp only [AccountsDesk.create]
    split
    · exact create_ends
    · next hnone => exact .looks rfl (Bool.eq_false_iff.mpr hnone)
  | findPolicy dto seen => exact create_goes rfl
  | upsertCounter dto seen policy => exact create_goes rfl
  | createAccount dto seen policy sequence =>
    dsimp only [AccountsDesk.create]
    split
    · exact create_ends
    · exact .creates rfl

end does

/-! ## 6. The invariant -/

/-- Among the first `seen` accounts there is no active one of the member of that type. -/
structure Looked (desk : AccountsDesk) (memberId : Nat) (accountType : AccountType) (seen : Nat) :
    Prop where
  bound : seen ≤ desk.accounts.length
  none : (desk.accounts.take seen).any (·.serves memberId accountType) = false

/-- What a path has found holds: what it takes for missing was, and the rest is there. -/
structure Checked (desk : AccountsDesk) (p : Provisioning) : Prop where
  nodup : p.missingTypes.Nodup
  missing : ∀ t ∈ p.missingTypes, Looked desk p.memberId t p.seen
  present : ∀ t, t ∉ p.missingTypes → desk.accounts.any (·.serves p.memberId t) = true

/-- A path has created nothing before its look, and what it has created since is what was missing. -/
structure Provisions (desk : AccountsDesk) (r : Running ProvisionWrite ProvisionPoint) : Prop where
  unreturned : returnedIn r.writes = []
  before : r.point.found = none → createdIn r.writes = []
  checked : ∀ p left, r.point.found = some (p, left) → Checked desk p
  own : ∀ p left, r.point.found = some (p, left) →
    ∀ a ∈ createdIn r.writes, a.memberId = p.memberId ∧ a.isActive = true
  created : ∀ p left, r.point.found = some (p, left) →
    (createdIn r.writes).map (·.accountType) ++ left = p.missingTypes

/-- No type twice, the looks of the calls of `create` hold, and who was provisioned has both. -/
structure OnePerType (desk : AccountsDesk) : Prop where
  one : ∀ memberId t, desk.accounts.countP (·.serves memberId t) ≤ 1
  calls : ∀ point dto seen, some point ∈ desk.calls → point.looked = some (dto, seen) →
    Looked desk dto.memberId dto.accountType seen
  provisioned : ∀ memberId ∈ desk.provisioned, ∀ t,
    desk.accounts.any (·.serves memberId t) = true

namespace ProvisioningLemmas

variable {desk desk' : AccountsDesk} {memberId seen : Nat} {t : AccountType}
  {ws ws' : List ProvisionWrite} {rows : List Account} {p : Provisioning}

theorem createdIn_append : createdIn (ws ++ ws') = createdIn ws ++ createdIn ws' :=
  List.filterMap_append

theorem returnedIn_append : returnedIn (ws ++ ws') = returnedIn ws ++ returnedIn ws' :=
  List.filterMap_append

/-- What the writes of a transaction change, and what they leave. -/
theorem applyAll_grown (ws : List ProvisionWrite) (desk : AccountsDesk) :
    (provisioning.applyAll ws desk).accounts = desk.accounts ++ createdIn ws ∧
      (provisioning.applyAll ws desk).provisioned = desk.provisioned ++ returnedIn ws ∧
      (provisioning.applyAll ws desk).calls = desk.calls := by
  induction ws generalizing desk with
  | nil => exact ⟨(List.append_nil _).symm, (List.append_nil _).symm, rfl⟩
  | cons w ws ih =>
    obtain ⟨haccounts, hprovisioned, hcalls⟩ := ih (w.apply desk)
    refine ⟨haccounts.trans ?_, hprovisioned.trans ?_, hcalls.trans ?_⟩
    · cases w with
      | createAccount row => exact List.append_assoc _ _ _
      | createMember _ | updateMember _ | increment _ | returned _ => rfl
    · cases w with
      | returned memberId => exact List.append_assoc _ _ _
      | createMember _ | updateMember _ | increment _ | createAccount _ => rfl
    · cases w with
      | createMember _ | updateMember _ | increment _ | createAccount _ | returned _ => rfl

theorem looked_grown (h : Looked desk memberId t seen)
    (hgrown : desk'.accounts = desk.accounts ++ rows) : Looked desk' memberId t seen := by
  refine ⟨?_, ?_⟩
  · rw [hgrown, List.length_append]
    exact Nat.le_add_right_of_le h.bound
  · rw [hgrown, List.take_append_of_le_length h.bound]
    exact h.none

theorem looked_same (h : Looked desk memberId t seen) (hsame : desk'.accounts = desk.accounts) :
    Looked desk' memberId t seen :=
  looked_grown h (hsame.trans (List.append_nil _).symm)

theorem any_grown (h : desk.accounts.any (·.serves memberId t) = true)
    (hgrown : desk'.accounts = desk.accounts ++ rows) :
    desk'.accounts.any (·.serves memberId t) = true := by
  rw [hgrown, List.any_append, h, Bool.true_or]

theorem checked_grown (h : Checked desk p) (hgrown : desk'.accounts = desk.accounts ++ rows) :
    Checked desk' p :=
  ⟨h.nodup, fun t ht => looked_grown (h.missing t ht) hgrown,
    fun t ht => any_grown (h.present t ht) hgrown⟩

theorem provisions_grown {r : Running ProvisionWrite ProvisionPoint} (h : Provisions desk r)
    (hgrown : desk'.accounts = desk.accounts ++ rows) : Provisions desk' r :=
  ⟨h.unreturned, h.before, fun p left hp => checked_grown (h.checked p left hp) hgrown, h.own,
    h.created⟩

theorem looked_none (h : Looked desk memberId t seen)
    (hsince : desk.createdSince seen memberId t = false) :
    desk.accounts.countP (·.serves memberId t) = 0 := by
  have hany : desk.accounts.any (·.serves memberId t) = false := by
    rw [← List.take_append_drop seen desk.accounts, List.any_append, h.none]
    exact hsince
  rw [List.countP_eq_zero]
  intro a ha hserves
  exact Bool.false_ne_true (hany.symm.trans (List.any_eq_true.mpr ⟨a, ha, hserves⟩))

theorem looked_now (h : desk.accounts.any (·.serves memberId t) = false) :
    Looked desk memberId t desk.accounts.length := by
  refine ⟨Nat.le_refl _, ?_⟩
  rw [List.take_length]
  exact h

theorem required_all (t : AccountType) : t ∈ REQUIRED_TYPES := by
  cases t <;> decide

theorem isFor_of_serves {a : Account} (h : a.serves memberId t = true) :
    a.isFor memberId t = true :=
  (Bool.and_eq_true_iff.mp h).1

theorem serves_self {a : Account} (ha : a.memberId = memberId) (hactive : a.isActive = true) :
    a.serves memberId t = (a.accountType == t) := by
  unfold Account.serves Account.isFor
  rw [ha, hactive, beq_self_eq_true, Bool.true_and, Bool.and_true]

/-- What a path finds is right, when it takes every active account for an existing one and there is
an active one of each type that it takes for existing. -/
theorem look_checked {existing : Nat → AccountType → Account → Bool}
    (hsound : ∀ t a, a.serves memberId t = true → existing memberId t a = true)
    (hopen : ∀ t, desk.accounts.any (existing memberId t) = true →
      desk.accounts.any (·.serves memberId t) = true) :
    Checked desk (desk.look existing memberId) := by
  have hnodup : REQUIRED_TYPES.Nodup := by decide
  have hmissing : (desk.look existing memberId).missingTypes.Nodup :=
    hnodup.filter fun t => !desk.accounts.any (existing memberId t)
  refine ⟨hmissing, fun t ht => looked_now ?_, fun t ht => hopen t ?_⟩
  · have hnone := (List.mem_filter.mp ht).2
    rw [Bool.not_eq_true'] at hnone
    rw [Bool.eq_false_iff]
    intro hany
    obtain ⟨a, ha, hserves⟩ := List.any_eq_true.mp hany
    exact Bool.false_ne_true
      (hnone.symm.trans (List.any_eq_true.mpr ⟨a, ha, hsound t a hserves⟩))
  · cases hany : desk.accounts.any (existing memberId t) with
    | true => rfl
    | false =>
      refine absurd ?_ ht
      show t ∈ REQUIRED_TYPES.filter fun t => !desk.accounts.any (existing memberId t)
      exact List.mem_filter.mpr ⟨required_all t, by rw [hany]; rfl⟩

theorem countP_own (h : ∀ a ∈ rows, a.memberId = memberId ∧ a.isActive = true) :
    rows.countP (·.serves memberId t) = (rows.map (·.accountType)).count t := by
  rw [List.count_eq_countP, List.countP_map]
  refine List.countP_congr fun a ha => ?_
  rw [serves_self (h a ha).1 (h a ha).2]
  rfl

theorem countP_others {owner : Nat} (h : ∀ a ∈ rows, a.memberId = owner ∧ a.isActive = true)
    (hne : memberId ≠ owner) : rows.countP (·.serves memberId t) = 0 := by
  rw [List.countP_eq_zero]
  intro a ha hserves
  have hmember := (Bool.and_eq_true_iff.mp (isFor_of_serves hserves)).1
  exact hne ((beq_iff_eq.mp hmember).symm.trans (h a ha).1)

theorem commit_onePerType (h : OnePerType desk) (hr : Provisions desk ⟨.done p, ws⟩)
    (hsince : ∀ a ∈ createdIn ws, desk.createdSince p.seen a.memberId a.accountType = false) :
    OnePerType (provisioning.applyAll (ws ++ [.returned p.memberId]) desk) := by
  obtain ⟨haccounts, hprovisioned, hcalls⟩ :=
    applyAll_grown (ws ++ [.returned p.memberId]) desk
  rw [createdIn_append] at haccounts
  rw [returnedIn_append, hr.unreturned] at hprovisioned
  have hgrown : (provisioning.applyAll (ws ++ [.returned p.memberId]) desk).accounts =
      desk.accounts ++ createdIn ws :=
    haccounts.trans (congrArg (desk.accounts ++ ·) (List.append_nil _))
  have hown := hr.own p [] rfl
  have hcreated : (createdIn ws).map (·.accountType) = p.missingTypes :=
    (List.append_nil _).symm.trans (hr.created p [] rfl)
  have hchecked := hr.checked p [] rfl
  -- what was missing was created by this path only
  have hmissing : ∀ t ∈ p.missingTypes, desk.accounts.countP (·.serves p.memberId t) = 0 := by
    intro t ht
    rw [← hcreated] at ht
    obtain ⟨a, ha, htype⟩ := List.mem_map.mp ht
    have hnone := hsince a ha
    rw [(hown a ha).1, htype] at hnone
    refine looked_none (hchecked.missing t ?_) hnone
    rw [← hcreated]
    exact ht
  refine ⟨fun memberId t => ?_, fun point dto seen hmem hlooked => ?_, fun memberId hmem t => ?_⟩
  · rw [hgrown, List.countP_append]
    by_cases hm : memberId = p.memberId
    · rw [hm, countP_own hown, hcreated]
      by_cases ht : t ∈ p.missingTypes
      · rw [hmissing t ht, Nat.zero_add]
        exact List.nodup_iff_count_le_one.mp hchecked.nodup t
      · rw [List.count_eq_zero.mpr ht]
        exact h.one _ _
    · rw [countP_others hown hm]
      exact h.one _ _
  · rw [hcalls] at hmem
    exact looked_grown (h.calls point dto seen hmem hlooked) hgrown
  · rw [hprovisioned] at hmem
    rcases List.mem_append.mp hmem with hold | hnew
    · exact any_grown (h.provisioned memberId hold t) hgrown
    · rw [List.mem_singleton.mp hnew]
      by_cases ht : t ∈ p.missingTypes
      · rw [← hcreated] at ht
        obtain ⟨a, ha, htype⟩ := List.mem_map.mp ht
        rw [hgrown, List.any_append]
        refine Bool.or_eq_true_iff.mpr (.inr (List.any_eq_true.mpr ⟨a, ha, ?_⟩))
        rw [serves_self (hown a ha).1 (hown a ha).2, htype, beq_self_eq_true]
      · exact any_grown (hchecked.present t ht) hgrown

theorem create_onePerType {j : Nat} {point : CreatePoint} (h : OnePerType desk)
    (hat : some point ∈ desk.calls)
    (hsince : ∀ dto seen policy sequence, point = .createAccount dto seen policy sequence →
      desk.createdSince seen dto.memberId dto.accountType = false)
    (hdoes : CreateDoes desk j point desk') :
    OnePerType desk' ∧ ∃ rows, desk'.accounts = desk.accounts ++ rows := by
  cases hdoes with
  | passes hnext =>
    refine ⟨⟨h.one, fun point' dto seen hmem hlooked => ?_, h.provisioned⟩, [],
      (List.append_nil _).symm⟩
    rcases List.mem_or_eq_of_mem_set hmem with hold | hnew
    · exact looked_same (h.calls point' dto seen hold hlooked) rfl
    · exact looked_same (h.calls point dto seen hat ((hnext point' hnew.symm).symm.trans hlooked)) rfl
  | looks hlooks hnone =>
    refine ⟨⟨h.one, fun point' dto' seen hmem hlooked => ?_, h.provisioned⟩, [],
      (List.append_nil _).symm⟩
    rcases List.mem_or_eq_of_mem_set hmem with hold | hnew
    · exact looked_same (h.calls point' dto' seen hold hlooked) rfl
    · cases hnew
      cases hlooks.symm.trans hlooked
      exact looked_same (looked_now hnone) rfl
  | @creates dto seen sequence policy policy' hpoint =>
    have hnone := looked_none (h.calls point dto seen hat (by rw [hpoint]; rfl))
      (hsince dto seen policy' sequence hpoint)
    refine ⟨⟨fun memberId t => ?_, fun point' dto' seen' hmem hlooked => ?_,
      fun memberId hmem t => any_grown (h.provisioned memberId hmem t) rfl⟩, _, rfl⟩
    · show (desk.accounts ++ [newAccount dto.memberId dto.accountType policy sequence]).countP
        (·.serves memberId t) ≤ 1
      rw [List.countP_append, List.countP_singleton]
      split
      · next hserves =>
        obtain ⟨hmember, htype⟩ := Bool.and_eq_true_iff.mp (isFor_of_serves hserves)
        rw [← beq_iff_eq.mp hmember, ← beq_iff_eq.mp htype]
        exact Nat.le_of_eq (congrArg (· + 1) hnone)
      · exact h.one _ _
    · rcases List.mem_or_eq_of_mem_set hmem with hold | hnew
      · exact looked_grown (h.calls point' dto' seen' hold hlooked) rfl
      · cases hnew

theorem statement_provisions {r : Running ProvisionWrite ProvisionPoint} {next : ProvisionPoint}
    (hr : Provisions desk r) (hactive : ∀ memberId, r.point = .findAny memberId →
      ∀ t, desk.accounts.any (·.isFor memberId t) = true →
        desk.accounts.any (·.serves memberId t) = true)
    (hst : provisionStatement r.point (provisioning.view r desk) = some ⟨ws, some next⟩) :
    Provisions desk ⟨next, r.writes ++ ws⟩ := by
  obtain ⟨hview, -, -⟩ := applyAll_grown r.writes desk
  -- at its look a path has created nothing, so it sees the accounts that are committed
  have hlook : ∀ existing memberId, r.point.found = none →
      (provisioning.view r desk).look existing memberId = desk.look existing memberId := by
    intro existing memberId hnone
    have hsame : (provisioning.view r desk).accounts = desk.accounts := by
      rw [hr.before hnone, List.append_nil] at hview
      exact hview
    unfold AccountsDesk.look
    rw [hsame]
  have hstart : ∀ q : Provisioning, r.point.found = none → Checked desk q →
      next.found = some (q, q.missingTypes) → ws = [] →
      Provisions desk ⟨next, r.writes ++ ws⟩ := by
    rintro q hnone hq hnext rfl
    have hnothing : createdIn (r.writes ++ []) = [] := by
      rw [List.append_nil]
      exact hr.before hnone
    refine ⟨?_, fun _ => hnothing, fun p left hp => ?_, fun p left hp a ha => ?_,
      fun p left hp => ?_⟩
    · rw [List.append_nil]
      exact hr.unreturned
    · cases hnext.symm.trans hp
      exact hq
    · rw [hnothing] at ha
      cases ha
    · cases hnext.symm.trans hp
      rw [hnothing]
      rfl
  cases provision_does hst with
  | passes hcreated hreturned hnext =>
    have hsame : createdIn (r.writes ++ ws) = createdIn r.writes := by
      rw [createdIn_append, hcreated, List.append_nil]
    refine ⟨?_, fun hnone => ?_, fun p left hp => ?_, fun p left hp => ?_, fun p left hp => ?_⟩
    · rw [returnedIn_append, hr.unreturned, hreturned]
      rfl
    · rw [hsame]
      exact hr.before (hnext.symm.trans hnone)
    · exact hr.checked p left (hnext.symm.trans hp)
    · rw [hsame]
      exact hr.own p left (hnext.symm.trans hp)
    · rw [hsame]
      exact hr.created p left (hnext.symm.trans hp)
  | @findsActive memberId _ hpoint hnext =>
    have hnone : r.point.found = none := by rw [hpoint]; rfl
    rw [hlook _ _ hnone] at hnext
    exact hstart _ hnone (look_checked (fun _ _ h => h) fun _ h => h) hnext rfl
  | @findsAny memberId _ hpoint hnext =>
    have hnone : r.point.found = none := by rw [hpoint]; rfl
    rw [hlook _ _ hnone] at hnext
    exact hstart _ hnone (look_checked (fun _ _ h => isFor_of_serves h) (hactive _ hpoint)) hnext rfl
  | @creates q t left row _ hpoint hmember htype hactive hnext =>
    have hrows : createdIn (r.writes ++ [.createAccount row]) = createdIn r.writes ++ [row] :=
      createdIn_append
    refine ⟨?_, fun hnone => ?_, fun p left' hp => ?_, fun p left' hp a ha => ?_,
      fun p left' hp => ?_⟩
    · rw [returnedIn_append, hr.unreturned]
      rfl
    · cases hnext.symm.trans hnone
    · cases hnext.symm.trans hp
      exact hr.checked _ _ hpoint
    · cases hnext.symm.trans hp
      rw [hrows] at ha
      rcases List.mem_append.mp ha with hold | hnew
      · exact hr.own _ _ hpoint a hold
      · rw [List.mem_singleton.mp hnew]
        exact ⟨hmember, hactive⟩
    · cases hnext.symm.trans hp
      rw [hrows, List.map_append, List.map_singleton, htype, List.append_assoc]
      exact hr.created _ _ hpoint

end ProvisioningLemmas

open ProvisioningLemmas

/-! ## 7. Runs -/

theorem accounts_owes {w : AccountsWorld} {e : AccountsEvent}
    (h : Upheld provisioning OnePerType Provisions w) (hguard : w.orderly e = true) :
    Owes provisioning AccountsDesk.served OnePerType Provisions w e := by
  refine ⟨fun k he => ?_, fun a he => ?_, fun i r ws t he hat hr hst => ?_,
    fun i r ws he hat hr hst => ?_⟩
  · subst he
    cases k with
    | call dto =>
      refine ⟨⟨h.state.one, fun point dto' seen hmem hlooked => ?_, h.state.provisioned⟩,
        fun r hr _ => provisions_grown hr (List.append_nil _).symm⟩
      rcases List.mem_append.mp hmem with hold | hnew
      · exact looked_same (h.state.calls point dto' seen hold hlooked) rfl
      · cases List.mem_singleton.mp hnew
        cases hlooked
    | proceed j =>
      dsimp only [AccountsDesk.served]
      cases hj : w.state.calls[j]?.join with
      | none => exact ⟨h.state, fun r hr _ => hr⟩
      | some point =>
        have hat : some point ∈ w.state.calls :=
          List.mem_of_getElem? (Option.join_eq_some_iff.mp hj)
        -- the guard of the call: nothing of the type was created since the look
        have hsince : ∀ dto seen policy sequence, point = .createAccount dto seen policy sequence →
            w.state.createdSince seen dto.memberId dto.accountType = false := by
          intro dto seen policy sequence hpoint
          rw [hpoint] at hj
          unfold AccountsWorld.orderly at hguard
          simp only [hj] at hguard
          exact (Bool.not_eq_true' _).mp hguard
        obtain ⟨hstate, rows, hgrown⟩ :=
          create_onePerType h.state hat hsince (create_does w.state j point)
        exact ⟨hstate, fun r hr _ => provisions_grown hr hgrown⟩
  · refine ⟨rfl, fun _ => rfl, fun p left hp => ?_, fun p left hp => ?_, fun p left hp => ?_⟩
    -- a provisioning begins before any look, so it owes nothing yet
    all_goals cases a <;> cases hp
  · refine statement_provisions hr (fun memberId hpoint t hany => ?_) hst
    subst he
    obtain ⟨point, writes⟩ := r
    cases hpoint
    have hjoin : w.running[i]?.join = some ⟨.findAny memberId, writes⟩ :=
      Option.join_eq_some_iff.mpr hat
    unfold AccountsWorld.orderly at hguard
    simp only [hjoin] at hguard
    have hopen := List.all_eq_true.mp hguard t (required_all t)
    rw [hany] at hopen
    exact hopen
  · subst he
    obtain ⟨point, writes⟩ := r
    generalize hstatement : (⟨ws, none⟩ : ProvisionStatement) = st at hst
    cases provision_does hst with
    | returns hpoint =>
      cases hstatement
      cases hpoint
      have hjoin := Option.join_eq_some_iff.mpr hat
      unfold AccountsWorld.orderly at hguard
      simp only [hjoin] at hguard
      refine ⟨commit_onePerType h.state hr fun a ha => ?_, fun r' hr' _ => ?_⟩
      · exact (Bool.not_eq_true' _).mp (List.all_eq_true.mp hguard a ha)
      · exact provisions_grown hr' (applyAll_grown _ _).1
    | passes _ _ _ | findsActive _ _ | findsAny _ _ | creates _ _ _ _ _ => cases hstatement

/-- At most one active account of each type, and exactly one of each for every member for whom a
provisioning path has returned. -/
structure AccountsDesk.OneOfEach (desk : AccountsDesk) : Prop where
  atMost : ∀ memberId t, desk.accounts.countP (·.serves memberId t) ≤ 1
  exactly : ∀ memberId ∈ desk.provisioned, ∀ t,
    desk.accounts.countP (·.serves memberId t) = 1

/-- When no account was created between the look of a path and its write, no member gets two active
accounts of one type, and a path that has returned leaves one of each. -/
theorem one_account_per_type {members : List Nat} {accounts : List Account}
    {policies : List AccountTypePolicy} {accountSeq : Nat} {events : List AccountsEvent}
    (hopening : ∀ memberId t, accounts.countP (·.serves memberId t) ≤ 1)
    (hrun : Machine.Guarded AccountsWorld.step (fun w e => w.orderly e = true)
      ⟨.opening members accounts policies accountSeq, []⟩ events) :
    ((AccountsDesk.opening members accounts policies accountSeq).afterEvents events).OneOfEach := by
  have hopen : Upheld provisioning OnePerType Provisions
      ⟨.opening members accounts policies accountSeq, []⟩ :=
    opening_upheld ⟨hopening, fun _ _ _ hmem => absurd hmem List.not_mem_nil,
      fun _ hmem => absurd hmem List.not_mem_nil⟩
  have hall := Machine.run_induct (I := Upheld provisioning OnePerType Provisions)
    (fun _ _ h hguard => step_upheld_of h (accounts_owes h hguard)) hopen hrun
  refine ⟨hall.state.one, fun memberId hmem t => Nat.le_antisymm (hall.state.one memberId t) ?_⟩
  have hany := hall.state.provisioned memberId hmem t
  rw [Nat.succ_le_iff, List.countP_pos_iff]
  obtain ⟨a, ha, hserves⟩ := List.any_eq_true.mp hany
  exact ⟨a, ha, hserves⟩

/-- A call opens an account for one member while another one is created; later the first member's
documents are approved. -/
theorem one_account_per_type_witness :
    ((AccountsDesk.opening [1] [] [⟨.fosa, 5000000, false⟩] 40).afterEvents
      [.serve (.call ⟨1, .fosa⟩), .start (.createMember 7), .advance 0, .serve (.proceed 0),
        .advance 0, .serve (.proceed 0), .advance 0, .advance 0, .serve (.proceed 0),
        .serve (.proceed 0), .advance 0, .advance 0, .advance 0, .advance 0, .serve (.proceed 0),
        .serve (.proceed 0), .start (.syncMemberKycDecision 1), .advance 1, .advance 1, .advance 1,
        .advance 1, .advance 1, .advance 1]).OneOfEach :=
  one_account_per_type (fun _ _ => Nat.zero_le 1) (by decide +kernel)

/-- Two calls look before either of them has created the account. -/
def exTwice : AccountsDesk :=
  (AccountsDesk.opening [1] [] [] 0).afterEvents
    [.serve (.call ⟨1, .fosa⟩), .serve (.call ⟨1, .fosa⟩), .serve (.proceed 0),
      .serve (.proceed 1), .serve (.proceed 0), .serve (.proceed 1), .serve (.proceed 0),
      .serve (.proceed 0), .serve (.proceed 0), .serve (.proceed 1), .serve (.proceed 1),
      .serve (.proceed 1)]

/-- The documents of a member with a closed account are approved. -/
def exClosed : AccountsDesk :=
  (AccountsDesk.opening [1] [{ newAccount 1 .fosa none 1 with isActive := false }] [] 1).afterEvents
    [.start (.syncMemberKycDecision 1), .advance 0, .advance 0, .advance 0, .advance 0, .advance 0,
      .advance 0]

theorem accounts_twice :
    (exTwice.accounts.map (·.accountNumber) = ["ACC-FOSA-000001", "ACC-FOSA-000002"] ∧
      ¬ exTwice.OneOfEach) ∧
    exClosed.provisioned = [1] ∧
      exClosed.accounts.map (fun a => (a.accountType, a.isActive)) =
        [(.fosa, false), (.bosa, true)] ∧ ¬ exClosed.OneOfEach := by
  have htwice : exTwice.accounts.countP (·.serves 1 .fosa) = 2 := by decide +kernel
  have hclosed : exClosed.accounts.countP (·.serves 1 .fosa) = 0 := by decide +kernel
  have hreturned : exClosed.provisioned = [1] := by decide +kernel
  refine ⟨⟨by decide +kernel, fun h => ?_⟩, hreturned, by decide +kernel, fun h => ?_⟩
  · have hone := h.atMost 1 .fosa
    rw [htwice] at hone
    exact absurd hone (by decide)
  · have hone := h.exactly 1 (by rw [hreturned]; exact List.mem_cons_self) .fosa
    rw [hclosed] at hone
    exact absurd hone (by decide)

end BebaSacco
