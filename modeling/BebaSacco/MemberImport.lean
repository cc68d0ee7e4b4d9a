import BebaSacco.Lib.Spellings
import BebaSacco.Lib.Timeline
import BebaSacco.MembershipDecisions
import BebaSacco.StageNames

/-! # The import of members

`executeImport` creates a user for each validated row, in a transaction of its own, and puts the user
on a stage of the ward. The counters of the report are raised inside the transactions, and the message
with the password is queued after the commit, where a failure still counts as a failed row.

Results:
 1. `tryRow_does`: what one row does to the database and to the report, for each point of failure.
 2. `import_exact_iff`: the report is exact just when no row fails from its commit on, and each stage
    that a failed row created is committed by a later row in the same spelling.
 3. `import_counts_twice`: a row whose message cannot be queued is a success and a failure.
-/

namespace BebaSacco

open Timeline Spellings

/-! ## 1. Rows and the report -/

/-- A text that is true as a condition. -/
def filled (text : Option String) : Bool := text.any (· != "")

inductive RowStatus | valid | warning | error | duplicate
  deriving DecidableEq, Repr

inductive RowAction | create | update | skip
  deriving DecidableEq, Repr

structure RowError where
  field : String
  value : Option String
  reason : String
  errorCode : String
  deriving DecidableEq, Repr

structure ParsedCsvRow where
  rowNumber : Nat
  legacyNo : Option String
  firstName : String
  lastName : String
  rawIdNumber : Option String
  idNumber : Option String
  rawPhone : Option String
  phoneNumber : Option String
  stageName : Option String
  position : String
  nextOfKinPhone : Option String
  deriving DecidableEq, Repr

structure FuzzyStageMatch where
  original : String
  matched : String
  confidence : Int
  deriving DecidableEq, Repr

structure ValidatedRow extends ParsedCsvRow where
  status : RowStatus
  errors : List RowError
  warnings : List RowError
  action : RowAction
  existingUserId : Option Nat
  fuzzyStageMatch : Option FuzzyStageMatch
  deriving DecidableEq, Repr

/-- The steps of `processRow` that can throw, in their order. `stage` finds or creates the stage,
`commitReply` brings the answer to a commit that was done. -/
inductive RowStep
  | hashPassword | stage | findEmail | createUser | findMemberNumber | createMember
  | provisionAccounts | assignStage | joinStage | commit | commitReply | enqueueSms
  deriving DecidableEq, Repr

/-- A row, with the step at which it throws and the message of the error. -/
structure ImportRow extends ValidatedRow where
  failure : Option (RowStep × String)
  deriving DecidableEq, Repr

structure ReportError extends RowError where
  row : Nat
  deriving DecidableEq, Repr

structure ImportReport where
  batchId : String
  importLogId : String
  totalRows : Nat
  successCount : Nat
  failedCount : Nat
  warningCount : Nat
  skippedCount : Nat
  dryRun : Bool
  errors : List ReportError
  createdUsers : List Nat
  updatedUsers : List Nat
  createdStages : List String
  deriving DecidableEq, Repr

/-! ## 2. The database -/

/-- A stage is known by its position in the table. -/
structure ImportStage where
  name : String
  wardId : String
  deriving DecidableEq, Repr

structure ImportedUser where
  id : Nat
  firstName : String
  lastName : String
  phone : Option String
  idNumber : Option String
  phoneNumber : Option String
  nextOfKinPhone : Option String
  legacyMemberNo : Option String
  importBatchId : Option String
  wardId : Option String
  deriving DecidableEq, Repr

structure ImportedMember where
  userId : Nat
  nationalId : Option String
  deriving DecidableEq, Repr

structure StageAssignment where
  userId : Nat
  stageId : Nat
  position : StagePosition
  isActive : Bool
  deriving DecidableEq, Repr

structure MemberStage where
  memberId : Nat
  stageId : Nat
  isActive : Bool
  deriving DecidableEq, Repr

structure ImportDb where
  wards : List String
  stages : List ImportStage
  users : List ImportedUser
  members : List ImportedMember
  assignments : List StageAssignment
  memberStages : List MemberStage
  deriving DecidableEq, Repr

/-- `findFirst` with a name in any case. -/
def ImportDb.findStage (upper : String → String) (db : ImportDb) (wardId name : String) : Option Nat :=
  db.stages.findIdx? fun s => upper s.name == upper name && s.wardId == wardId

/-- The names of the stages of a ward. -/
def ImportDb.stageNames (db : ImportDb) (wardId : String) : List String :=
  (db.stages.filter (·.wardId == wardId)).map (·.name)

/-- `stageAssignment.upsert` on the user and the stage. -/
def ImportDb.assign (db : ImportDb) (a : StageAssignment) : ImportDb :=
  if db.assignments.any fun b => b.userId == a.userId && b.stageId == a.stageId then
    { db with assignments := db.assignments.map fun b =>
        if b.userId = a.userId ∧ b.stageId = a.stageId then a else b }
  else { db with assignments := db.assignments ++ [a] }

/-- `memberStage.upsert` on the member and the stage. -/
def ImportDb.join (db : ImportDb) (m : MemberStage) : ImportDb :=
  if db.memberStages.any fun n => n.memberId == m.memberId && n.stageId == m.stageId then
    { db with memberStages := db.memberStages.map fun n =>
        if n.memberId = m.memberId ∧ n.stageId = m.stageId then m else n }
  else { db with memberStages := db.memberStages ++ [m] }

/-! ## 3. One row -/

structure ImportParams where
  importLogId : String
  batchId : String
  wardId : String
  dryRun : Bool
  deriving DecidableEq, Repr

/-- The database, the id of the next user and the report. Only the database rolls back. -/
structure ImportRun where
  db : ImportDb
  nextUser : Nat
  report : ImportReport
  deriving DecidableEq, Repr

/-- A call that may throw; what it did to the report stays. -/
abbrev ImportM (α : Type) := ExceptT String (StateM ImportRun) α

/-- `prisma.$transaction`: when the callback throws, its writes to the database are undone. -/
def inTransaction {α : Type} (callback : ImportM α) : ImportM α := fun run =>
  match callback run with
  | (.ok a, after) => (.ok a, after)
  | (.error message, after) => (.error message, { after with db := run.db })

/-- Throws if this is the step at which the row fails. -/
def ImportRow.attempt (row : ImportRow) (step : RowStep) : ImportM Unit :=
  match row.failure with
  | some (s, message) => if s = step then throw message else pure ()
  | none => pure ()

def ValidatedRow.canonicalStageName (upper : String → String) (row : ValidatedRow) : String :=
  match row.fuzzyStageMatch with
  | some found => found.matched
  | none =>
    match row.stageName.filter (· ≠ "") with
    | some stageName => applyKnownAliases upper stageName
    | none => "UNASSIGNED"

def mapPosition (upper : String → String) (position : String) : StagePosition :=
  if upper position = "CHAIRMAN" then .chairman
  else if upper position = "SECRETARY" then .secretary
  else if upper position = "TREASURER" then .treasurer
  else .member

def ImportReport.noteStage (r : ImportReport) (name : String) : ImportReport :=
  if name ∈ r.createdStages then r else { r with createdStages := r.createdStages ++ [name] }

def findOrCreateStage (upper : String → String) (p : ImportParams) (name : String) : ImportM Nat := do
  let run ← get
  match run.db.findStage upper p.wardId name with
  | some stage => pure stage
  | none =>
    modify fun run =>
      { run with
        db := { run.db with stages := run.db.stages ++ [⟨name, p.wardId⟩] }
        report := run.report.noteStage name }
    pure run.db.stages.length

def ImportRow.user (row : ImportRow) (p : ImportParams) (id : Nat) : ImportedUser :=
  { id := id
    firstName := row.firstName
    lastName := row.lastName
    phone := row.phoneNumber
    idNumber := row.idNumber
    phoneNumber := row.phoneNumber
    nextOfKinPhone := row.nextOfKinPhone
    legacyMemberNo := row.legacyNo
    importBatchId := some p.batchId
    wardId := some p.wardId }

def insertUser (p : ImportParams) (row : ImportRow) : ImportM Nat := do
  let run ← get
  modify fun run =>
    { run with
      db := { run.db with users := run.db.users ++ [row.user p run.nextUser] }
      nextUser := run.nextUser + 1 }
  pure run.nextUser

def insertMember (row : ImportRow) (userId : Nat) : ImportM Nat := do
  let run ← get
  modify fun run =>
    { run with db := { run.db with members := run.db.members ++ [⟨userId, row.idNumber⟩] } }
  pure run.db.members.length

/-- The last lines of the callback. -/
def ImportReport.count (r : ImportReport) (row : ImportRow) (userId : Nat) : ImportReport :=
  { r with
    successCount := r.successCount + 1
    warningCount := r.warningCount + if row.warnings.length > 0 then 1 else 0
    createdUsers := r.createdUsers ++ [userId] }

def createMembership (upper : String → String) (p : ImportParams) (row : ImportRow) : ImportM Unit := do
  row.attempt .stage
  let stage ← findOrCreateStage upper p (row.canonicalStageName upper)
  row.attempt .findEmail
  row.attempt .createUser
  let userId ← insertUser p row
  row.attempt .findMemberNumber
  row.attempt .createMember
  let memberId ← insertMember row userId
  row.attempt .provisionAccounts
  row.attempt .assignStage
  modify fun run =>
    { run with db := run.db.assign ⟨userId, stage, mapPosition upper row.position, true⟩ }
  row.attempt .joinStage
  modify fun run => { run with db := run.db.join ⟨memberId, stage, true⟩ }
  modify fun run => { run with report := run.report.count row userId }
  row.attempt .commit

def processRow (upper : String → String) (p : ImportParams) (row : ImportRow) : ImportM Unit := do
  row.attempt .hashPassword
  inTransaction (createMembership upper p row)
  row.attempt .commitReply
  if filled row.phoneNumber then row.attempt .enqueueSms

def ImportReport.fail (r : ImportReport) (row : ImportRow) (message : String) : ImportReport :=
  { r with
    failedCount := r.failedCount + 1
    errors := r.errors ++ [⟨⟨"SYSTEM", none, message, "ROW_PROCESSING_ERROR"⟩, row.rowNumber⟩] }

/-- One turn of the loop of `processBatch`. -/
def tryRow (upper : String → String) (p : ImportParams) (run : ImportRun) (row : ImportRow) :
    ImportRun :=
  match processRow upper p row run with
  | (.ok _, after) => after
  | (.error message, after) => { after with report := after.report.fail row message }

def processBatch (upper : String → String) (p : ImportParams) (batch : List ImportRow)
    (run : ImportRun) : ImportRun :=
  batch.foldl (tryRow upper p) run

/-! ## 4. The import -/

def BATCH_SIZE : Nat := 50

def chunk {α : Type} (l : List α) (n : Nat) : List (List α) :=
  (List.range ((l.length + n - 1) / n)).map (page n l)

/-- `failedCount / totalRows > 0.1` -/
def ImportReport.exceedsThreshold (r : ImportReport) : Bool := r.totalRows < 10 * r.failedCount

/-- `toFixed(1)` of the failure rate in percent. -/
def ImportReport.failurePercent (r : ImportReport) : String :=
  let tenths := (2000 * r.failedCount + r.totalRows) / (2 * r.totalRows)
  s!"{tenths / 10}.{tenths % 10}"

def ImportReport.halt (r : ImportReport) : ImportReport :=
  { r with
    errors := r.errors ++
      [⟨⟨"BATCH", none, s!"Import halted: failure rate {r.failurePercent}% exceeded 10% threshold",
        "BATCH_FAILURE_THRESHOLD_EXCEEDED"⟩, 0⟩] }

def processBatches (upper : String → String) (p : ImportParams) (processable : Nat) :
    List (List ImportRow) → Nat → ImportRun → ImportRun × Nat
  | [], processedCount, run => (run, processedCount)
  | batch :: batches, processedCount, run =>
    let run := processBatch upper p batch run
    let processedCount := processedCount + batch.length
    if run.report.exceedsThreshold && processedCount < processable then
      ({ run with report := run.report.halt }, processedCount)
    else processBatches upper p processable batches processedCount run

def ValidatedRow.processable (row : ValidatedRow) : Bool :=
  row.action == .create && row.status != .error && row.status != .duplicate

/-- The rows with errors, which are failed from the start. -/
def skippedErrors (rows : List ImportRow) : Nat :=
  ((rows.filter fun row => !row.processable).filter (·.status == .error)).length

def openingReport (p : ImportParams) (rows : List ImportRow) : ImportReport :=
  let skipped := rows.filter fun row => !row.processable
  { batchId := p.batchId
    importLogId := p.importLogId
    totalRows := rows.length
    successCount := 0
    failedCount := skippedErrors rows
    warningCount := 0
    skippedCount := skipped.length
    dryRun := p.dryRun
    errors := skipped.flatMap fun row => row.errors.map fun error => ⟨error, row.rowNumber⟩
    createdUsers := []
    updatedUsers := []
    createdStages := [] }

/-- What `executeImport` leaves, with its `processedCount`. -/
structure Imported where
  run : ImportRun
  processedCount : Nat
  deriving DecidableEq, Repr

def executeImport (upper : String → String) (p : ImportParams) (rows : List ImportRow) (db : ImportDb)
    (nextUser : Nat) : Except String Imported :=
  let processableRows := rows.filter (·.processable)
  let report := openingReport p rows
  if p.dryRun then
    .ok ⟨⟨db, nextUser,
      { report with
        successCount := processableRows.length
        warningCount := (processableRows.filter (·.status == .warning)).length }⟩, 0⟩
  else if p.wardId ∈ db.wards then
    let done := processBatches upper p processableRows.length (chunk processableRows BATCH_SIZE) 0
      ⟨db, nextUser, report⟩
    .ok ⟨done.1, done.2⟩
  else .error s!"Ward {p.wardId} not found"

/-! ## 5. Points of failure -/

/-- The row throws and is counted as failed. -/
def ImportRow.fails (row : ImportRow) : Bool :=
  match row.failure with
  | none => false
  | some (.enqueueSms, _) => filled row.phoneNumber
  | some _ => true

/-- The transaction of the row is committed. -/
def ImportRow.commits (row : ImportRow) : Bool :=
  match row.failure with
  | none | some (.commitReply, _) | some (.enqueueSms, _) => true
  | some _ => false

/-- The row throws when its transaction is committed, or later. -/
def ImportRow.failsLate (row : ImportRow) : Bool :=
  match row.failure with
  | some (.commit, _) | some (.commitReply, _) => true
  | some (.enqueueSms, _) => filled row.phoneNumber
  | _ => false

/-- The row throws in its transaction after its stage was found or created. -/
def ImportRow.undoesStage (row : ImportRow) : Bool :=
  match row.failure with
  | none | some (.hashPassword, _) | some (.stage, _) | some (.commitReply, _)
  | some (.enqueueSms, _) => false
  | some _ => true

/-- The names of the stages that the rows commit. -/
def committedNames (upper : String → String) (rows : List ImportRow) : List String :=
  (rows.filter (·.commits)).map (·.canonicalStageName upper)

/-- The rows of the batches up to the one after which the import halts. -/
def rowsToHalt (totalRows processable : Nat) : List (List ImportRow) → Nat → Nat → List ImportRow
  | [], _, _ => []
  | batch :: batches, processedCount, failedCount =>
    let processedCount := processedCount + batch.length
    let failedCount := failedCount + batch.countP (·.fails)
    if totalRows < 10 * failedCount && processedCount < processable then batch
    else batch ++ rowsToHalt totalRows processable batches processedCount failedCount

/-- The rows that the import processes. -/
def reachedRows (rows : List ImportRow) : List ImportRow :=
  let processable := rows.filter (·.processable)
  rowsToHalt rows.length processable.length (chunk processable BATCH_SIZE) 0 (skippedErrors rows)

/-- No row fails from its commit on, and a stage that a failed row created is there, or committed by a
later row that is the first with this name and spells it the same. -/
structure CleanRows (upper : String → String) (p : ImportParams) (rows : List ImportRow)
    (db : ImportDb) : Prop where
  onTime : ∀ row ∈ reachedRows rows, row.failsLate = false
  kept : ∀ done row rest, reachedRows rows = done ++ row :: rest → row.undoesStage = true →
    let name := row.canonicalStageName upper
    Known upper (db.stageNames p.wardId) name ∨ Known upper (committedNames upper done) name ∨
      (committedNames upper rest).find? (fun other => upper other == upper name) = some name

def ImportReport.outcomes (r : ImportReport) : Nat := r.successCount + r.failedCount

/-- The report after the first rows. -/
def reportAfter (upper : String → String) (p : ImportParams) (rows : List ImportRow) (db : ImportDb)
    (nextUser n : Nat) : ImportReport :=
  (processBatch upper p ((rows.filter (·.processable)).take n)
    ⟨db, nextUser, openingReport p rows⟩).report

/-- The report says what the import did. -/
structure Imported.Exact (upper : String → String) (p : ImportParams) (rows : List ImportRow)
    (db : ImportDb) (nextUser : Nat) (imported : Imported) : Prop where
  committed : imported.run.report.successCount =
    (imported.run.db.users.drop db.users.length).length
  listed : imported.run.report.createdUsers.length = imported.run.report.successCount
  once : ∀ n < imported.processedCount,
    (reportAfter upper p rows db nextUser (n + 1)).outcomes =
      (reportAfter upper p rows db nextUser n).outcomes + 1
  total : imported.run.report.skippedCount + imported.run.report.successCount +
    (imported.run.report.failedCount - skippedErrors rows) +
    ((rows.filter (·.processable)).length - imported.processedCount) = imported.run.report.totalRows
  stages : ∀ name, name ∈ imported.run.report.createdStages ↔
    name ∈ (imported.run.db.stages.drop db.stages.length).map (·.name)

namespace MemberImportLemmas

variable {upper : String → String} {p : ImportParams} {row : ImportRow} {run run' : ImportRun}

/-! ## 6. What a row does -/

variable {α β : Type} {x : ImportM α} {f : α → ImportM β} {a : α} {message : String} {step : RowStep}

theorem bind_ok (h : x run = (.ok a, run')) : (x >>= f) run = f a run' := by
  change (StateT.bind x (ExceptT.bindCont f)) run = _
  unfold StateT.bind
  rw [h]
  rfl

theorem bind_error (h : x run = (.error message, run')) : (x >>= f) run = (.error message, run') := by
  change (StateT.bind x (ExceptT.bindCont f)) run = _
  unfold StateT.bind
  rw [h]
  rfl

theorem attempt_cases (row : ImportRow) (step : RowStep) (run : ImportRun) :
    (∃ message, row.failure = some (step, message) ∧
      row.attempt step run = (.error message, run)) ∨
    ((∀ message, row.failure ≠ some (step, message)) ∧ row.attempt step run = (.ok (), run)) := by
  unfold ImportRow.attempt
  rcases hf : row.failure with _ | ⟨s, message⟩
  · exact .inr ⟨fun _ h => (Option.some_ne_none _ h.symm).elim, rfl⟩
  · dsimp only
    by_cases hs : s = step
    · rw [if_pos hs]
      exact .inl ⟨message, by rw [hs], rfl⟩
    · rw [if_neg hs]
      refine .inr ⟨fun m h => hs ?_, rfl⟩
      cases h
      rfl

/-- A row throws at a step, or goes on from the same state. -/
theorem attempt_bind {Q : Except String β × ImportRun → Prop} {f : Unit → ImportM β}
    (hfail : ∀ message, row.failure = some (step, message) → Q (.error message, run))
    (hpass : (∀ message, row.failure ≠ some (step, message)) → Q (f () run)) :
    Q ((row.attempt step >>= f) run) := by
  rcases attempt_cases row step run with ⟨message, hf, h⟩ | ⟨hf, h⟩
  · rw [bind_error h]
    exact hfail message hf
  · rw [bind_ok h]
    exact hpass hf

theorem modify_bind (g : ImportRun → ImportRun) (f : PUnit → ImportM β) :
    ((modify g : ImportM PUnit) >>= f) run = f ⟨⟩ (g run) := rfl

/-- The stage that `findOrCreateStage` returns. -/
def stageIn (upper : String → String) (p : ImportParams) (name : String) (run : ImportRun) : Nat :=
  (run.db.findStage upper p.wardId name).getD run.db.stages.length

/-- The state that `findOrCreateStage` leaves. -/
def staged (upper : String → String) (p : ImportParams) (name : String) (run : ImportRun) : ImportRun :=
  if (run.db.findStage upper p.wardId name).isSome then run
  else
    { run with
      db := { run.db with stages := run.db.stages ++ [⟨name, p.wardId⟩] }
      report := run.report.noteStage name }

theorem findOrCreateStage_run (name : String) :
    findOrCreateStage upper p name run = (.ok (stageIn upper p name run), staged upper p name run) := by
  unfold findOrCreateStage stageIn staged
  refine (bind_ok (x := get) rfl).trans ?_
  cases run.db.findStage upper p.wardId name <;> rfl

def insertedUser (p : ImportParams) (row : ImportRow) (run : ImportRun) : ImportRun :=
  { run with
    db := { run.db with users := run.db.users ++ [row.user p run.nextUser] }
    nextUser := run.nextUser + 1 }

theorem insertUser_run : insertUser p row run = (.ok run.nextUser, insertedUser p row run) := rfl

theorem insertMember_run (userId : Nat) :
    insertMember row userId run = (.ok run.db.members.length,
      { run with db := { run.db with members := run.db.members ++ [⟨userId, row.idNumber⟩] } }) := rfl

/-- The state that the callback leaves when it does not throw before its end. -/
def enrolled (upper : String → String) (p : ImportParams) (row : ImportRow) (run : ImportRun) :
    ImportRun :=
  let name := row.canonicalStageName upper
  let stage := stageIn upper p name run
  let run := staged upper p name run
  let db : ImportDb :=
    { run.db with
      users := run.db.users ++ [row.user p run.nextUser]
      members := run.db.members ++ [⟨run.nextUser, row.idNumber⟩] }
  let db := db.assign ⟨run.nextUser, stage, mapPosition upper row.position, true⟩
  { db := db.join ⟨run.db.members.length, stage, true⟩
    nextUser := run.nextUser + 1
    report := run.report.count row run.nextUser }

/-- What the callback does. -/
inductive Membership (upper : String → String) (p : ImportParams) (row : ImportRow) (run : ImportRun) :
    Except String Unit × ImportRun → Prop
  | early {message : String} (h : row.failure = some (.stage, message)) :
      Membership upper p row run (.error message, run)
  | undone {step : RowStep} {message : String} {after : ImportRun}
      (h : row.failure = some (step, message))
      (hstep : step ∉ [.hashPassword, .stage, .commit, .commitReply, .enqueueSms])
      (hreport : after.report = (staged upper p (row.canonicalStageName upper) run).report) :
      Membership upper p row run (.error message, after)
  | lost {message : String} (h : row.failure = some (.commit, message)) :
      Membership upper p row run (.error message, enrolled upper p row run)
  | done (h : row.commits = true ∨ ∃ message, row.failure = some (.hashPassword, message)) :
      Membership upper p row run (.ok (), enrolled upper p row run)

theorem createMembership_does (upper : String → String) (p : ImportParams) (row : ImportRow)
    (run : ImportRun) : Membership upper p row run (createMembership upper p row run) := by
  unfold createMembership
  refine attempt_bind (fun m h => .early h) fun h1 => ?_
  rw [bind_ok (findOrCreateStage_run _)]
  refine attempt_bind (fun m h => .undone h (by decide) rfl) fun h2 => ?_
  refine attempt_bind (fun m h => .undone h (by decide) rfl) fun h3 => ?_
  rw [bind_ok insertUser_run]
  refine attempt_bind (fun m h => .undone h (by decide) rfl) fun h4 => ?_
  refine attempt_bind (fun m h => .undone h (by decide) rfl) fun h5 => ?_
  rw [bind_ok (insertMember_run _)]
  refine attempt_bind (fun m h => .undone h (by decide) rfl) fun h6 => ?_
  refine attempt_bind (fun m h => .undone h (by decide) rfl) fun h7 => ?_
  rw [modify_bind]
  refine attempt_bind (fun m h => .undone h (by decide) rfl) fun h8 => ?_
  rw [modify_bind, modify_bind]
  change Membership upper p row run (row.attempt .commit (enrolled upper p row run))
  rcases attempt_cases row .commit (enrolled upper p row run) with ⟨m, h, hrun⟩ | ⟨h9, hrun⟩
  · rw [hrun]
    exact .lost h
  · rw [hrun]
    refine .done ?_
    rcases hf : row.failure with _ | ⟨step, message⟩
    · exact .inl (by unfold ImportRow.commits; rw [hf])
    · cases step with
      | hashPassword => exact .inr ⟨message, rfl⟩
      | commitReply | enqueueSms => exact .inl (by unfold ImportRow.commits; rw [hf])
      | stage => exact (h1 message hf).elim
      | findEmail => exact (h2 message hf).elim
      | createUser => exact (h3 message hf).elim
      | findMemberNumber => exact (h4 message hf).elim
      | createMember => exact (h5 message hf).elim
      | provisionAccounts => exact (h6 message hf).elim
      | assignStage => exact (h7 message hf).elim
      | joinStage => exact (h8 message hf).elim
      | commit => exact (h9 message hf).elim

/-- What a row does, with its points of failure. -/
inductive RowDoes (upper : String → String) (p : ImportParams) (row : ImportRow) (run : ImportRun) :
    Except String Unit × ImportRun → Prop
  | early {message : String} (hfails : row.fails = true) (hcommits : row.commits = false)
      (hlate : row.failsLate = false) (hundo : row.undoesStage = false) :
      RowDoes upper p row run (.error message, run)
  | undone {message : String} {after : ImportRun} (hfails : row.fails = true)
      (hcommits : row.commits = false) (hlate : row.failsLate = false)
      (hundo : row.undoesStage = true) (hdb : after.db = run.db)
      (hreport : after.report = (staged upper p (row.canonicalStageName upper) run).report) :
      RowDoes upper p row run (.error message, after)
  | lost {message : String} {after : ImportRun} (hfails : row.fails = true)
      (hcommits : row.commits = false) (hlate : row.failsLate = true) (hundo : row.undoesStage = true)
      (hdb : after.db = run.db) (hreport : after.report = (enrolled upper p row run).report) :
      RowDoes upper p row run (.error message, after)
  | unsent {message : String} (hfails : row.fails = true) (hcommits : row.commits = true)
      (hlate : row.failsLate = true) :
      RowDoes upper p row run (.error message, enrolled upper p row run)
  | done (hfails : row.fails = false) (hcommits : row.commits = true)
      (hlate : row.failsLate = false) :
      RowDoes upper p row run (.ok (), enrolled upper p row run)

theorem flags (h : row.failure = some (step, message)) :
    row.fails = (step != .enqueueSms || filled row.phoneNumber) ∧
    row.commits = (step == .commitReply || step == .enqueueSms) ∧
    row.failsLate = (step == .commit || step == .commitReply ||
      step == .enqueueSms && filled row.phoneNumber) ∧
    row.undoesStage = !(step == .hashPassword || step == .stage || step == .commitReply ||
      step == .enqueueSms) := by
  unfold ImportRow.fails ImportRow.commits ImportRow.failsLate ImportRow.undoesStage
  rw [h]
  cases step <;> simp

theorem inTransaction_error {callback : ImportM Unit}
    (h : callback run = (.error message, run')) :
    inTransaction callback run = (.error message, { run' with db := run.db }) := by
  unfold inTransaction
  rw [h]

theorem inTransaction_ok {callback : ImportM Unit} (h : callback run = (.ok (), run')) :
    inTransaction callback run = (.ok (), run') := by
  unfold inTransaction
  rw [h]

theorem passes (hcommits : row.commits = true)
    (hreply : ∀ message, row.failure ≠ some (.commitReply, message))
    (hsms : filled row.phoneNumber = true → ∀ message, row.failure ≠ some (.enqueueSms, message)) :
    row.fails = false ∧ row.failsLate = false := by
  rcases hf : row.failure with _ | ⟨step, message⟩
  · unfold ImportRow.fails ImportRow.failsLate
    rw [hf]
    exact ⟨rfl, rfl⟩
  · obtain ⟨hfails, hc, hlate, -⟩ := flags hf
    rw [hcommits, eq_comm, Bool.or_eq_true, beq_iff_eq, beq_iff_eq] at hc
    rcases hc with rfl | rfl
    · exact (hreply message hf).elim
    · have hphone : filled row.phoneNumber = false :=
        Bool.eq_false_iff.mpr fun h => hsms h message hf
      rw [hphone] at hfails hlate
      exact ⟨hfails, hlate⟩

theorem processRow_does (upper : String → String) (p : ImportParams) (row : ImportRow)
    (run : ImportRun) : RowDoes upper p row run (processRow upper p row run) := by
  unfold processRow
  refine attempt_bind (fun m h => ?_) fun h0 => ?_
  · obtain ⟨hfails, hcommits, hlate, hundo⟩ := flags h
    exact .early hfails hcommits hlate hundo
  have hdoes := createMembership_does upper p row run
  rcases hcallback : createMembership upper p row run with ⟨result, after⟩
  rw [hcallback] at hdoes
  cases hdoes with
  | early h =>
    obtain ⟨hfails, hcommits, hlate, hundo⟩ := flags h
    rw [bind_error (inTransaction_error hcallback)]
    exact .early hfails hcommits hlate hundo
  | @undone step _ _ h hstep hreport =>
    obtain ⟨hfails, hcommits, hlate, hundo⟩ := flags h
    rw [bind_error (inTransaction_error hcallback)]
    cases step <;> first
      | exact .undone hfails hcommits hlate hundo rfl hreport
      | exact absurd (by decide) hstep
  | lost h =>
    obtain ⟨hfails, hcommits, hlate, hundo⟩ := flags h
    rw [bind_error (inTransaction_error hcallback)]
    exact .lost hfails hcommits hlate hundo rfl rfl
  | done h =>
    have hcommits : row.commits = true := h.resolve_right fun ⟨m, hm⟩ => h0 m hm
    rw [bind_ok (inTransaction_ok hcallback)]
    refine attempt_bind (fun m h => ?_) fun h1 => ?_
    · obtain ⟨hfails, -, hlate, -⟩ := flags h
      exact .unsent hfails hcommits hlate
    split
    · next hphone =>
      rcases attempt_cases row .enqueueSms (enrolled upper p row run) with ⟨m, h, hrun⟩ | ⟨h2, hrun⟩
      · obtain ⟨hfails, -, hlate, -⟩ := flags h
        rw [hphone] at hfails hlate
        rw [hrun]
        exact .unsent hfails hcommits hlate
      · rw [hrun]
        obtain ⟨hfails, hlate⟩ := passes hcommits h1 fun _ => h2
        exact .done hfails hcommits hlate
    · next hphone =>
      obtain ⟨hfails, hlate⟩ := passes hcommits h1 fun h => (hphone h).elim
      exact .done hfails hcommits hlate

/-- The user of the row is counted as created. -/
def counted (row : ImportRow) : Bool := !row.fails || row.failsLate

theorem staged_report (name : String) (run : ImportRun) :
    (staged upper p name run).report =
      { run.report with createdStages := (staged upper p name run).report.createdStages } := by
  unfold staged
  split
  · rfl
  · dsimp only
    unfold ImportReport.noteStage
    split <;> rfl

/-- What a row does to the report. -/
structure RowCounts (upper : String → String) (p : ImportParams) (row : ImportRow)
    (run after : ImportRun) : Prop where
  totalRows : after.report.totalRows = run.report.totalRows
  skippedCount : after.report.skippedCount = run.report.skippedCount
  successCount : after.report.successCount =
    run.report.successCount + if counted row = true then 1 else 0
  failedCount : after.report.failedCount = run.report.failedCount + if row.fails = true then 1 else 0
  createdUsers : after.report.createdUsers.length =
    run.report.createdUsers.length + if counted row = true then 1 else 0
  createdStages : after.report.createdStages =
    if row.commits = true ∨ row.undoesStage = true then
      (staged upper p (row.canonicalStageName upper) run).report.createdStages
    else run.report.createdStages

theorem enrolled_report : (enrolled upper p row run).report =
    ImportReport.count { run.report with createdStages :=
      (staged upper p (row.canonicalStageName upper) run).report.createdStages } row
      (staged upper p (row.canonicalStageName upper) run).nextUser := by
  rw [← staged_report]
  rfl

/-- A row that fails early is counted as failed, and a stage may be left in the report. -/
theorem counts_early {after : ImportRun} (message : String) (hfails : row.fails = true)
    (hcommits : row.commits = false) (hlate : row.failsLate = false)
    (hreport : after.report = ImportReport.fail { run.report with createdStages :=
      if row.undoesStage = true then
        (staged upper p (row.canonicalStageName upper) run).report.createdStages
      else run.report.createdStages } row message) : RowCounts upper p row run after := by
  have hcounted : ¬ counted row = true := by
    unfold counted
    rw [hfails, hlate]
    exact Bool.false_ne_true
  have hstage : (row.commits = true ∨ row.undoesStage = true) = (row.undoesStage = true) := by
    rw [hcommits, eq_false Bool.false_ne_true, false_or]
  refine ⟨?_, ?_, ?_, ?_, ?_, ?_⟩ <;> rw [hreport]
  · rfl
  · rfl
  · rw [if_neg hcounted]
    rfl
  · rw [if_pos hfails]
    rfl
  · rw [if_neg hcounted]
    rfl
  · simp only [hstage]
    rfl

/-- A row whose user is counted has one user more in the report, and its stage; it may be counted as
failed all the same. -/
theorem counts_late {after : ImportRun} (message : String) (hcounted : counted row = true)
    (hstage : row.commits = true ∨ row.undoesStage = true)
    (hreport : after.report = if row.fails = true then
      (enrolled upper p row run).report.fail row message else (enrolled upper p row run).report) :
    RowCounts upper p row run after := by
  rw [enrolled_report] at hreport
  refine ⟨?_, ?_, ?_, ?_, ?_, ?_⟩ <;> rw [hreport]
  · split <;> rfl
  · split <;> rfl
  · rw [if_pos hcounted]
    split <;> rfl
  · split <;> rfl
  · rw [if_pos hcounted]
    split <;> exact List.length_append
  · rw [if_pos hstage]
    split <;> rfl

theorem tryRow_does (upper : String → String) (p : ImportParams) (run : ImportRun) (row : ImportRow) :
    (tryRow upper p run row).db =
      (if row.commits = true then (enrolled upper p row run).db else run.db) ∧
    RowCounts upper p row run (tryRow upper p run row) := by
  have hdoes := processRow_does upper p row run
  unfold tryRow
  rcases hrow : processRow upper p row run with ⟨result, after⟩
  rw [hrow] at hdoes
  cases hdoes with
  | @early message hfails hcommits hlate hundo =>
    refine ⟨by rw [hcommits]; rfl, counts_early message hfails hcommits hlate ?_⟩
    rw [hundo]
    rfl
  | @undone message _ hfails hcommits hlate hundo hdb hreport =>
    refine ⟨by rw [hcommits]; exact hdb, counts_early message hfails hcommits hlate ?_⟩
    dsimp only
    rw [hreport, staged_report, if_pos hundo]
  | @lost message _ hfails hcommits hlate hundo hdb hreport =>
    have hcounted : counted row = true := by unfold counted; rw [hlate, Bool.or_true]
    refine ⟨by rw [hcommits]; exact hdb, counts_late message hcounted (.inr hundo) ?_⟩
    dsimp only
    rw [hreport, if_pos hfails]
  | @unsent message hfails hcommits hlate =>
    have hcounted : counted row = true := by unfold counted; rw [hlate, Bool.or_true]
    exact ⟨by rw [hcommits]; rfl,
      counts_late message hcounted (.inl hcommits) (if_pos hfails).symm⟩
  | done hfails hcommits hlate =>
    have hcounted : counted row = true := by unfold counted; rw [hfails]; rfl
    have hnot : ¬ row.fails = true := Bool.eq_false_iff.mp hfails
    exact ⟨by rw [hcommits]; rfl, counts_late "" hcounted (.inl hcommits) (if_neg hnot).symm⟩

/-! ## 7. The stages -/

theorem findStage_known (db : ImportDb) (wardId name : String) :
    (db.findStage upper wardId name).isSome = true ↔ Known upper (db.stageNames wardId) name := by
  unfold ImportDb.findStage ImportDb.stageNames Known
  rw [List.findIdx?_isSome, List.any_eq_true]
  constructor
  · rintro ⟨stage, hmem, h⟩
    rw [Bool.and_eq_true, beq_iff_eq] at h
    exact ⟨stage.name, List.mem_map.mpr ⟨stage, List.mem_filter.mpr ⟨hmem, h.2⟩, rfl⟩, h.1⟩
  · rintro ⟨_, hmem, h⟩
    obtain ⟨stage, hstage, rfl⟩ := List.mem_map.mp hmem
    obtain ⟨hstage, hward⟩ := List.mem_filter.mp hstage
    exact ⟨stage, hstage, by rw [h, hward]; simp⟩

theorem stageNames_append {db db' : ImportDb} {wardId : String} {names : List String}
    (h : db'.stages = db.stages ++ names.map (⟨·, wardId⟩)) :
    db'.stageNames wardId = db.stageNames wardId ++ names := by
  unfold ImportDb.stageNames
  rw [h, List.filter_append, List.map_append]
  congr 1
  rw [List.filter_eq_self.mpr, List.map_map]
  · exact List.map_id names
  · intro stage h
    obtain ⟨name, _, rfl⟩ := List.mem_map.mp h
    exact beq_self_eq_true wardId

theorem assign_keeps (db : ImportDb) (a : StageAssignment) :
    (db.assign a).stages = db.stages ∧ (db.assign a).users = db.users := by
  unfold ImportDb.assign
  split <;> exact ⟨rfl, rfl⟩

theorem join_keeps (db : ImportDb) (m : MemberStage) :
    (db.join m).stages = db.stages ∧ (db.join m).users = db.users := by
  unfold ImportDb.join
  split <;> exact ⟨rfl, rfl⟩

theorem enrolled_stages : (enrolled upper p row run).db.stages =
    (staged upper p (row.canonicalStageName upper) run).db.stages := by
  unfold enrolled
  dsimp only
  rw [(join_keeps ..).1, (assign_keeps ..).1]

theorem enrolled_users : (enrolled upper p row run).db.users =
    (staged upper p (row.canonicalStageName upper) run).db.users ++
      [row.user p (staged upper p (row.canonicalStageName upper) run).nextUser] := by
  unfold enrolled
  dsimp only
  rw [(join_keeps ..).2, (assign_keeps ..).2]

theorem staged_keeps (name : String) (run : ImportRun) :
    (staged upper p name run).db.assignments = run.db.assignments ∧
      (staged upper p name run).nextUser = run.nextUser := by
  unfold staged
  split <;> exact ⟨rfl, rfl⟩

theorem join_assignments (db : ImportDb) (m : MemberStage) :
    (db.join m).assignments = db.assignments := by
  unfold ImportDb.join
  split <;> rfl

theorem assign_assignments {db db' : ImportDb} (a : StageAssignment)
    (h : db.assignments = db'.assignments) : (db.assign a).assignments = (db'.assign a).assignments := by
  unfold ImportDb.assign
  rw [h]
  split <;> rfl

/-- What a row that does not throw before its end gives its user. -/
theorem enrolled_assignment : (enrolled upper p row run).db.assignments =
    (run.db.assign ⟨run.nextUser, stageIn upper p (row.canonicalStageName upper) run,
      mapPosition upper row.position, true⟩).assignments := by
  unfold enrolled
  dsimp only
  rw [join_assignments, (staged_keeps ..).2]
  exact assign_assignments _ (staged_keeps ..).1

theorem staged_users (name : String) : (staged upper p name run).db.users = run.db.users := by
  unfold staged
  split <;> rfl

theorem staged_stages (name : String) (run : ImportRun) :
    (staged upper p name run).db.stages =
      run.db.stages ++ (added upper (run.db.stageNames p.wardId) [name]).map (⟨·, p.wardId⟩) := by
  unfold staged added
  split
  · next h =>
    rw [if_pos ((findStage_known ..).mp h)]
    exact (List.append_nil _).symm
  · next h => rw [if_neg fun hk => h ((findStage_known ..).mpr hk)]; rfl

theorem tryRow_stages (run : ImportRun) (row : ImportRow) :
    (tryRow upper p run row).db.stages = run.db.stages ++
      (added upper (run.db.stageNames p.wardId) (committedNames upper [row])).map (⟨·, p.wardId⟩) := by
  rw [(tryRow_does upper p run row).1]
  unfold committedNames
  cases hcommits : row.commits with
  | false =>
    rw [if_neg (by decide), List.filter_cons_of_neg (by rw [hcommits]; decide)]
    exact (List.append_nil _).symm
  | true =>
    rw [if_pos rfl, List.filter_cons_of_pos hcommits, enrolled_stages, staged_stages]
    rfl

theorem tryRow_stageNames (run : ImportRun) (row : ImportRow) :
    (tryRow upper p run row).db.stageNames p.wardId =
      addAll upper (run.db.stageNames p.wardId) (committedNames upper [row]) := by
  rw [stageNames_append (tryRow_stages run row), addAll_eq]

theorem committedNames_cons (row : ImportRow) (rows : List ImportRow) :
    committedNames upper (row :: rows) = committedNames upper [row] ++ committedNames upper rows := by
  unfold committedNames
  rw [← List.map_append, ← List.filter_append]
  rfl

theorem batch_stages (rows : List ImportRow) (run : ImportRun) :
    (processBatch upper p rows run).db.stages = run.db.stages ++
      (added upper (run.db.stageNames p.wardId) (committedNames upper rows)).map (⟨·, p.wardId⟩) := by
  unfold processBatch
  induction rows generalizing run with
  | nil => exact (List.append_nil _).symm
  | cons row rows ih =>
    rw [List.foldl_cons, ih, tryRow_stageNames, tryRow_stages, committedNames_cons row rows,
      added_append, List.map_append, List.append_assoc]

theorem staged_created (name : String) {n : String} :
    n ∈ (staged upper p name run).report.createdStages ↔ n ∈ run.report.createdStages ∨
      name = n ∧ ¬ Known upper (run.db.stageNames p.wardId) name := by
  unfold staged
  split
  · next h => exact ⟨.inl, fun hn => hn.resolve_right fun hk => hk.2 ((findStage_known ..).mp h)⟩
  · next h =>
    have hnew : ¬ Known upper (run.db.stageNames p.wardId) name :=
      fun hk => h ((findStage_known ..).mpr hk)
    dsimp only
    unfold ImportReport.noteStage
    split
    · next hmem =>
      refine ⟨.inl, fun hn => hn.elim id ?_⟩
      rintro ⟨rfl, _⟩
      exact hmem
    · dsimp only
      rw [List.mem_append, List.mem_singleton]
      exact ⟨fun hn => hn.imp id fun he => ⟨he.symm, hnew⟩, fun hn => hn.imp id fun he => he.1.symm⟩

theorem tryRow_createdStages {run : ImportRun} {row : ImportRow} {name : String} :
    name ∈ (tryRow upper p run row).report.createdStages ↔ name ∈ run.report.createdStages ∨
      (row.commits = true ∨ row.undoesStage = true) ∧ row.canonicalStageName upper = name ∧
        ¬ Known upper (run.db.stageNames p.wardId) name := by
  rw [(tryRow_does upper p run row).2.createdStages]
  split
  · next h =>
    rw [staged_created]
    constructor
    · rintro (hn | ⟨rfl, hn⟩)
      · exact .inl hn
      · exact .inr ⟨h, rfl, hn⟩
    · rintro (hn | ⟨_, rfl, hn⟩)
      · exact .inl hn
      · exact .inr ⟨rfl, hn⟩
  · next h => exact ⟨.inl, fun hn => hn.resolve_right fun hr => h hr.1⟩

/-- A name is in the report when it was there, or a row came to the stage that found none of its key
and then committed it or not. -/
theorem batch_createdStages (rows : List ImportRow) (run : ImportRun) (name : String) :
    name ∈ (processBatch upper p rows run).report.createdStages ↔
      name ∈ run.report.createdStages ∨ ∃ done row rest, rows = done ++ row :: rest ∧
        (row.commits = true ∨ row.undoesStage = true) ∧ row.canonicalStageName upper = name ∧
        ¬ Known upper (addAll upper (run.db.stageNames p.wardId) (committedNames upper done)) name := by
  unfold processBatch
  induction rows generalizing run with
  | nil =>
    refine ⟨.inl, fun h => h.resolve_right ?_⟩
    rintro ⟨done, row, rest, h, _⟩
    exact List.append_ne_nil_of_right_ne_nil done (List.cons_ne_nil row rest) h.symm
  | cons r rows ih =>
    rw [List.foldl_cons, ih, tryRow_createdStages, tryRow_stageNames]
    have hstages : ∀ done, addAll upper (addAll upper (run.db.stageNames p.wardId)
        (committedNames upper [r])) (committedNames upper done) =
        addAll upper (run.db.stageNames p.wardId) (committedNames upper (r :: done)) := by
      intro done
      rw [committedNames_cons r done]
      exact List.foldl_append.symm
    constructor
    · rintro ((h | ⟨hr, hname, hnew⟩) | ⟨done, row, rest, rfl, hrow, hname, hnew⟩)
      · exact .inl h
      · exact .inr ⟨[], r, rows, rfl, hr, hname, hnew⟩
      · rw [hstages] at hnew
        exact .inr ⟨r :: done, row, rest, rfl, hrow, hname, hnew⟩
    · rintro (h | ⟨done, row, rest, hrows, hrow, hname, hnew⟩)
      · exact .inl (.inl h)
      · cases done with
        | nil =>
          cases hrows
          exact .inl (.inr ⟨hrow, hname, hnew⟩)
        | cons _ done =>
          cases hrows
          refine .inr ⟨done, row, rest, rfl, hrow, hname, ?_⟩
          rw [hstages]
          exact hnew

/-! ## 8. The counters -/

theorem batch_counts (rows : List ImportRow) (run : ImportRun) :
    let after := processBatch upper p rows run
    after.report.totalRows = run.report.totalRows ∧
    after.report.skippedCount = run.report.skippedCount ∧
    after.report.successCount = run.report.successCount + rows.countP counted ∧
    after.report.failedCount = run.report.failedCount + rows.countP (·.fails) ∧
    after.report.createdUsers.length = run.report.createdUsers.length + rows.countP counted := by
  unfold processBatch
  induction rows generalizing run with
  | nil => exact ⟨rfl, rfl, rfl, rfl, rfl⟩
  | cons row rows ih =>
    obtain ⟨htotal, hskipped, hsuccess, hfailed, husers⟩ := ih (tryRow upper p run row)
    have hrow := (tryRow_does upper p run row).2
    dsimp only
    rw [List.foldl_cons, List.countP_cons, List.countP_cons]
    refine ⟨htotal.trans hrow.totalRows, hskipped.trans hrow.skippedCount, ?_, ?_, ?_⟩
    · rw [hsuccess, hrow.successCount]
      omega
    · rw [hfailed, hrow.failedCount]
      omega
    · rw [husers, hrow.createdUsers]
      omega

theorem batch_users (rows : List ImportRow) (run : ImportRun) :
    ∃ users, (processBatch upper p rows run).db.users = run.db.users ++ users ∧
      users.length = rows.countP (·.commits) := by
  unfold processBatch
  induction rows generalizing run with
  | nil => exact ⟨[], (List.append_nil _).symm, rfl⟩
  | cons row rows ih =>
    obtain ⟨users, husers, hlength⟩ := ih (tryRow upper p run row)
    rw [(tryRow_does upper p run row).1] at husers
    rw [List.foldl_cons, List.countP_cons, husers]
    cases hcommits : row.commits with
    | false => exact ⟨users, by rw [if_neg (by decide)], hlength⟩
    | true =>
      refine ⟨row.user p (staged upper p (row.canonicalStageName upper) run).nextUser :: users, ?_, ?_⟩
      · rw [if_pos rfl, enrolled_users, staged_users, List.append_assoc]
        rfl
      · rw [List.length_cons, hlength]
        rfl

/-! ## 9. The batches -/

theorem flatten_chunk {α : Type} {n : Nat} (hn : 0 < n) (l : List α) : (chunk l n).flatten = l :=
  flatMap_pages hn l

theorem processBatches_reached (processable : Nat) (batches : List (List ImportRow)) (processed : Nat)
    (run : ImportRun) :
    let reached := rowsToHalt run.report.totalRows processable batches processed run.report.failedCount
    let done := processBatches upper p processable batches processed run
    let after := processBatch upper p reached run
    reached <+: batches.flatten ∧ done.2 = processed + reached.length ∧ done.1.db = after.db ∧
      (done.1.report = after.report ∨ done.1.report = after.report.halt) := by
  induction batches generalizing processed run with
  | nil => exact ⟨List.prefix_rfl, rfl, rfl, .inl rfl⟩
  | cons batch batches ih =>
    obtain ⟨htotal, -, -, hfailed, -⟩ := @batch_counts upper p batch run
    have h := ih (processed + batch.length) (processBatch upper p batch run)
    dsimp only at h ⊢
    rw [htotal, hfailed] at h
    unfold rowsToHalt processBatches ImportReport.exceedsThreshold
    dsimp only
    rw [htotal, hfailed, List.flatten_cons]
    split
    · exact ⟨List.prefix_append batch _, rfl, rfl, .inr rfl⟩
    · obtain ⟨hpre, hcount, hdb, hreport⟩ := h
      have hbatch : ∀ rest, processBatch upper p (batch ++ rest) run =
          processBatch upper p rest (processBatch upper p batch run) := fun rest => List.foldl_append
      rw [hbatch]
      refine ⟨(List.prefix_append_right_inj batch).mpr hpre, ?_, hdb, hreport⟩
      rw [hcount, List.length_append]
      omega

theorem late_fails (h : row.failsLate = true) : row.fails = true := by
  unfold ImportRow.failsLate at h
  unfold ImportRow.fails
  split at h
  · next hf => rw [hf]
  · next hf => rw [hf]
  · next hf =>
    rw [hf]
    exact h
  · cases h

theorem outcomes_row (row : ImportRow) :
    ((if counted row = true then 1 else 0) + if row.fails = true then 1 else 0) =
      1 + if row.failsLate = true then 1 else 0 := by
  unfold counted
  cases hlate : row.failsLate with
  | true => rw [late_fails hlate]; rfl
  | false => cases row.fails <;> rfl

theorem counted_commits (h : row.failsLate = false) : counted row = row.commits := by
  rcases hf : row.failure with _ | ⟨step, message⟩
  · unfold counted ImportRow.fails ImportRow.commits
    rw [hf]
    rfl
  · obtain ⟨hfails, hcommits, hlate, -⟩ := flags hf
    unfold counted
    rw [hfails, hcommits, h]
    rw [hlate] at h
    cases step <;> first
      | rfl
      | cases h
      | rw [show filled row.phoneNumber = false from h]; rfl

/-- What is left of an import that was not a dry run. -/
theorem executeImport_reached {rows : List ImportRow} {db : ImportDb} {nextUser : Nat}
    {imported : Imported} (h : executeImport upper p rows db nextUser = .ok imported)
    (hdry : p.dryRun = false) :
    let after := processBatch upper p (reachedRows rows) ⟨db, nextUser, openingReport p rows⟩
    reachedRows rows = (rows.filter (·.processable)).take imported.processedCount ∧
      imported.processedCount ≤ (rows.filter (·.processable)).length ∧
      imported.run.db = after.db ∧
      (imported.run.report = after.report ∨ imported.run.report = after.report.halt) := by
  unfold executeImport at h
  rw [hdry] at h
  dsimp only at h
  rw [if_neg (by decide)] at h
  split at h
  · cases h
    obtain ⟨hpre, hcount, hdb, hreport⟩ := @processBatches_reached upper p
      (rows.filter (·.processable)).length (chunk (rows.filter (·.processable)) BATCH_SIZE) 0
      ⟨db, nextUser, openingReport p rows⟩
    rw [flatten_chunk (by decide)] at hpre
    rw [Nat.zero_add] at hcount
    dsimp only
    rw [hcount]
    exact ⟨List.prefix_iff_eq_take.mp hpre, hpre.length_le, hdb, hreport⟩
  · cases h

/-! ## 10. The parts of the report -/

variable {rows : List ImportRow} {db : ImportDb} {nextUser : Nat}

theorem reportAfter_outcomes (n : Nat) :
    (reportAfter upper p rows db nextUser n).outcomes = skippedErrors rows +
      (((rows.filter (·.processable)).take n).countP counted +
        ((rows.filter (·.processable)).take n).countP (·.fails)) := by
  obtain ⟨-, -, hsuccess, hfailed, -⟩ := @batch_counts upper p ((rows.filter (·.processable)).take n)
    ⟨db, nextUser, openingReport p rows⟩
  unfold reportAfter ImportReport.outcomes
  rw [hsuccess, hfailed]
  unfold openingReport
  dsimp only
  omega

theorem once_iff {count : Nat} (hcount : count ≤ (rows.filter (·.processable)).length) :
    (∀ n < count, (reportAfter upper p rows db nextUser (n + 1)).outcomes =
      (reportAfter upper p rows db nextUser n).outcomes + 1) ↔
    ∀ row ∈ (rows.filter (·.processable)).take count, row.failsLate = false := by
  have hstep : ∀ n (hn : n < (rows.filter (·.processable)).length),
      (reportAfter upper p rows db nextUser (n + 1)).outcomes =
        (reportAfter upper p rows db nextUser n).outcomes +
          (1 + if ((rows.filter (·.processable))[n]).failsLate = true then 1 else 0) := by
    intro n hn
    rw [reportAfter_outcomes, reportAfter_outcomes, List.take_succ_eq_append_getElem hn,
      List.countP_append, List.countP_append, List.countP_singleton, List.countP_singleton,
      ← outcomes_row]
    omega
  constructor
  · intro h row hrow
    obtain ⟨n, hn, rfl⟩ := List.mem_take_iff_getElem.mp hrow
    have hlt := Nat.lt_min.mp hn
    have hone := h n hlt.1
    rw [hstep n hlt.2] at hone
    split at hone
    · omega
    · next hlate => exact Bool.eq_false_iff.mpr hlate
  · intro h n hn
    have hlt := Nat.lt_of_lt_of_le hn hcount
    have hlate := h _ (List.mem_take_iff_getElem.mpr ⟨n, Nat.lt_min.mpr ⟨hn, hlt⟩, rfl⟩)
    rw [hstep n hlt, hlate]
    rfl

/-- Without a late failure a row is either committed or failed. -/
theorem counts_of_onTime (h : ∀ row ∈ rows, row.failsLate = false) :
    rows.countP counted = rows.countP (·.commits) ∧
      rows.countP counted + rows.countP (·.fails) = rows.length := by
  induction rows with
  | nil => exact ⟨rfl, rfl⟩
  | cons row rows ih =>
    obtain ⟨hcommits, hlength⟩ := ih fun r hr => h r (List.mem_cons_of_mem row hr)
    have hlate := h row List.mem_cons_self
    have hone := outcomes_row row
    rw [hlate] at hone
    rw [List.countP_cons, List.countP_cons, List.countP_cons, List.length_cons, hcommits,
      counted_commits hlate]
    rw [counted_commits hlate] at hone
    refine ⟨rfl, ?_⟩
    rw [← hlength, hcommits]
    change _ = 1 at hone
    omega

theorem split_rows (rows : List ImportRow) :
    (rows.filter fun row => !row.processable).length + (rows.filter (·.processable)).length =
      rows.length := by
  induction rows with
  | nil => rfl
  | cons row rows ih =>
    rw [List.filter_cons, List.filter_cons]
    cases row.processable with
    | true =>
      rw [if_neg (by decide), if_pos rfl, List.length_cons, List.length_cons]
      omega
    | false =>
      rw [if_pos (by decide), if_neg (by decide), List.length_cons, List.length_cons]
      omega

theorem find_committed (P : String → Bool) (rows : List ImportRow) :
    (committedNames upper rows).find? P =
      (rows.find? fun row => row.commits && P (row.canonicalStageName upper)).map
        (·.canonicalStageName upper) := by
  unfold committedNames
  rw [List.find?_map, List.find?_filter]
  congr 2
  funext row
  rw [Bool.decide_and, Bool.decide_coe, Bool.decide_coe]
  rfl

theorem undoes_commits (h : row.undoesStage = true) : row.commits = false := by
  rcases hf : row.failure with _ | ⟨step, message⟩
  · unfold ImportRow.undoesStage at h
    rw [hf] at h
    cases h
  · obtain ⟨-, hcommits, -, hundo⟩ := flags hf
    rw [hundo] at h
    rw [hcommits]
    cases step <;> first | rfl | cases h

theorem committedNames_append (done rest : List ImportRow) :
    committedNames upper (done ++ rest) = committedNames upper done ++ committedNames upper rest := by
  unfold committedNames
  rw [List.filter_append, List.map_append]

/-- What a row finds of a name that no earlier row committed. -/
theorem find_after {done rest : List ImportRow} {name : String}
    (h : ¬ Known upper (committedNames upper done) name) :
    (committedNames upper (done ++ rest)).find? (fun other => upper other == upper name) =
      (committedNames upper rest).find? fun other => upper other == upper name := by
  rw [committedNames_append, List.find?_append, not_known_iff_find.mp h, Option.none_or]

theorem createdStages_iff (names : List String) (rows : List ImportRow) :
    (∀ name, (∃ done row rest, rows = done ++ row :: rest ∧
        (row.commits = true ∨ row.undoesStage = true) ∧ row.canonicalStageName upper = name ∧
        ¬ Known upper (addAll upper names (committedNames upper done)) name) ↔
      name ∈ added upper names (committedNames upper rows)) ↔
    ∀ done row rest, rows = done ++ row :: rest → row.undoesStage = true →
      let name := row.canonicalStageName upper
      Known upper names name ∨ Known upper (committedNames upper done) name ∨
        (committedNames upper rest).find? (fun other => upper other == upper name) = some name := by
  constructor
  · intro h done row rest hrows hundo name
    by_cases hknown : Known upper names name
    · exact .inl hknown
    by_cases hdone : Known upper (committedNames upper done) name
    · exact .inr (.inl hdone)
    -- a stage that neither the ward nor an earlier row has is a new one
    have hnew : ¬ Known upper (addAll upper names (committedNames upper done)) name := by
      rw [known_addAll]
      exact fun hk => hk.elim hknown hdone
    have hfind := (mem_added.mp ((h name).mp ⟨done, row, rest, hrows, .inr hundo, rfl, hnew⟩)).2
    rw [hrows, find_after hdone] at hfind
    -- the row that is undone does not commit, so its stage is created by a later row or by none
    have hrow : committedNames upper (row :: rest) = committedNames upper rest := by
      unfold committedNames
      rw [List.filter_cons_of_neg]
      rw [undoes_commits hundo]
      decide
    rw [hrow] at hfind
    exact .inr (.inr hfind)
  · intro h name
    rw [mem_added]
    constructor
    · rintro ⟨done, row, rest, rfl, hrow, rfl, hnew⟩
      rw [known_addAll] at hnew
      have hknown := fun hk => hnew (.inl hk)
      have hdone := fun hk => hnew (.inr hk)
      refine ⟨hknown, ?_⟩
      rw [find_after hdone]
      unfold committedNames
      rcases hrow with hcommits | hundo
      · rw [List.filter_cons_of_pos hcommits, List.map_cons, List.find?_cons_of_pos]
        exact beq_self_eq_true _
      · rw [List.filter_cons_of_neg (by rw [undoes_commits hundo]; decide)]
        exact ((h done row rest rfl hundo).resolve_left hknown).resolve_left hdone
    · rintro ⟨hknown, hfind⟩
      rw [find_committed, Option.map_eq_some_iff] at hfind
      obtain ⟨row, hfind, rfl⟩ := hfind
      -- the first row that commits the stage is the one that created it
      obtain ⟨hrow, done, rest, rfl, hdone⟩ := List.find?_eq_some_iff_append.mp hfind
      rw [Bool.and_eq_true] at hrow
      refine ⟨done, row, rest, rfl, .inl hrow.1, rfl, ?_⟩
      rw [known_addAll]
      rintro (hk | ⟨_, hmem, hupper⟩)
      · exact hknown hk
      · obtain ⟨other, hother, rfl⟩ := List.mem_map.mp hmem
        obtain ⟨hother, hcommits⟩ := List.mem_filter.mp hother
        have hnot := hdone other hother
        rw [hcommits, hupper] at hnot
        simp at hnot

end MemberImportLemmas

open MemberImportLemmas

/-! ## 11. The import -/

/-- The report of an import is exact just when no row that it processed fails from its commit on, and
each stage that a failed row created was there or is committed by a later row in the same spelling. -/
theorem import_exact_iff {upper : String → String} {p : ImportParams} {rows : List ImportRow}
    {db : ImportDb} {nextUser : Nat} {imported : Imported}
    (hrun : executeImport upper p rows db nextUser = .ok imported) (hdry : p.dryRun = false) :
    imported.Exact upper p rows db nextUser ↔ CleanRows upper p rows db := by
  obtain ⟨hreached, hcount, hdb, hreport⟩ := executeImport_reached hrun hdry
  obtain ⟨htotal, hskipped, hsuccess, hfailed, husers⟩ :=
    @batch_counts upper p (reachedRows rows) ⟨db, nextUser, openingReport p rows⟩
  obtain ⟨users, hnew, hlength⟩ :=
    @batch_users upper p (reachedRows rows) ⟨db, nextUser, openingReport p rows⟩
  have hstages := @batch_stages upper p (reachedRows rows) ⟨db, nextUser, openingReport p rows⟩
  have hcreated := @batch_createdStages upper p (reachedRows rows) ⟨db, nextUser, openingReport p rows⟩
  generalize hafter : processBatch upper p (reachedRows rows) ⟨db, nextUser, openingReport p rows⟩ =
    after at hdb hreport htotal hskipped hsuccess hfailed husers hnew hstages hcreated
  -- the line that a halt adds to the errors changes nothing else
  have hsame : ∀ {α : Type} (f : ImportReport → α), (∀ r, f r.halt = f r) →
      f imported.run.report = f after.report := by
    intro α f hf
    rcases hreport with h | h
    · rw [h]
    · rw [h, hf]
  have hparts : (∀ name, name ∈ imported.run.report.createdStages ↔
        name ∈ (imported.run.db.stages.drop db.stages.length).map (·.name)) ↔
      ∀ name, (∃ done row rest, reachedRows rows = done ++ row :: rest ∧
        (row.commits = true ∨ row.undoesStage = true) ∧ row.canonicalStageName upper = name ∧
        ¬ Known upper (addAll upper (db.stageNames p.wardId) (committedNames upper done)) name) ↔
      name ∈ added upper (db.stageNames p.wardId) (committedNames upper (reachedRows rows)) := by
    refine forall_congr' fun name => ?_
    rw [hsame (·.createdStages) fun _ => rfl, hcreated, hdb, hstages, List.drop_left, List.map_map]
    have hnone : name ∉ (openingReport p rows).createdStages := List.not_mem_nil
    rw [show (ImportStage.name ∘ fun n : String => (⟨n, p.wardId⟩ : ImportStage)) = id from rfl,
      List.map_id, or_iff_right hnone]
  rw [hreached] at hlength hsuccess hfailed husers
  constructor
  · intro h
    refine ⟨fun row hrow => ?_, (createdStages_iff _ _).mp (hparts.mp h.stages)⟩
    rw [hreached] at hrow
    exact (once_iff hcount).mp h.once row hrow
  · intro h
    have honTime := h.onTime
    rw [hreached] at honTime
    obtain ⟨hcommits, hall⟩ := counts_of_onTime honTime
    rw [List.length_take, Nat.min_eq_left hcount] at hall
    refine ⟨?_, ?_, (once_iff hcount).mpr honTime, ?_, hparts.mpr ((createdStages_iff _ _).mpr h.kept)⟩
    · rw [hsame (·.successCount) fun _ => rfl, hsuccess, hdb, hnew, List.drop_left, hlength, hcommits]
      exact Nat.zero_add _
    · rw [hsame (·.createdUsers) fun _ => rfl, hsame (·.successCount) fun _ => rfl, husers, hsuccess]
      rfl
    · rw [hsame (·.skippedCount) fun _ => rfl, hsame (·.successCount) fun _ => rfl,
        hsame (·.failedCount) fun _ => rfl, hsame (·.totalRows) fun _ => rfl, htotal, hskipped, hsuccess,
        hfailed]
      have hrows := split_rows rows
      change (rows.filter fun row => !row.processable).length + (0 + _) +
        (skippedErrors rows + _ - skippedErrors rows) + _ = rows.length
      omega

/-- A row that names its stage, and the step at which it throws. -/
def exImportRow (stageName : String) (failure : Option (RowStep × String)) : ImportRow :=
  { rowNumber := 1, legacyNo := none, firstName := "Dan", lastName := "Ocholla"
    rawIdNumber := some "12345678", idNumber := some "12345678", rawPhone := some "0712345678"
    phoneNumber := some "254712345678", stageName := some stageName, position := "MEMBER"
    nextOfKinPhone := none, status := .valid, errors := [], warnings := [], action := .create
    existingUserId := none, fuzzyStageMatch := none, failure := failure }

def exImportParams : ImportParams := ⟨"log", "batch", "ward", false⟩

def exImportDb : ImportDb := ⟨["ward"], [⟨"KIBOS", "ward"⟩], [], [], [], []⟩

def exMemberImported (rows : List ImportRow) : Imported :=
  ((executeImport String.toUpper exImportParams rows exImportDb 7).toOption).getD
    ⟨⟨exImportDb, 7, openingReport exImportParams rows⟩, 0⟩

theorem exMemberImported_of_isSome {rows : List ImportRow}
    (h : (executeImport String.toUpper exImportParams rows exImportDb 7).toOption.isSome = true) :
    executeImport String.toUpper exImportParams rows exImportDb 7 = .ok (exMemberImported rows) := by
  unfold exMemberImported
  cases hrun : executeImport String.toUpper exImportParams rows exImportDb 7 with
  | ok imported => rfl
  | error message =>
    rw [hrun] at h
    cases h

/-- A row that fails after its stage was created, and one that commits the stage. -/
theorem import_exact_of_two :
    (exMemberImported [exImportRow "NEW" (some (.createUser, "taken")), exImportRow "NEW" none]).Exact
      String.toUpper exImportParams
      [exImportRow "NEW" (some (.createUser, "taken")), exImportRow "NEW" none] exImportDb 7 := by
  refine (import_exact_iff (exMemberImported_of_isSome (by decide +kernel)) rfl).mpr
    ⟨by decide +kernel, fun done row rest hrows hundoes => .inr (.inr ?_)⟩
  have hreached : reachedRows [exImportRow "NEW" (some (.createUser, "taken")), exImportRow "NEW" none] =
      [exImportRow "NEW" (some (.createUser, "taken")), exImportRow "NEW" none] := by
    decide +kernel
  rw [hreached] at hrows
  rcases done with _ | ⟨first, _ | ⟨second, done⟩⟩
  · obtain ⟨rfl, rfl⟩ := List.cons.inj hrows
    decide +kernel
  · obtain ⟨-, hrest⟩ := List.cons.inj hrows
    obtain ⟨rfl, -⟩ := List.cons.inj hrest
    exact absurd hundoes (by decide +kernel)
  · have hlength := congrArg List.length hrows
    simp only [List.cons_append, List.length_cons, List.length_append, List.length_nil] at hlength
    omega

/-- A row is committed and counted, and then its message cannot be queued. -/
theorem import_counts_twice :
    executeImport String.toUpper exImportParams
        [exImportRow "KIBOS" (some (.enqueueSms, "queue down"))] exImportDb 7 =
      .ok (exMemberImported [exImportRow "KIBOS" (some (.enqueueSms, "queue down"))]) ∧
    (exMemberImported [exImportRow "KIBOS" (some (.enqueueSms, "queue down"))]).run.report.successCount =
      1 ∧
    (exMemberImported [exImportRow "KIBOS" (some (.enqueueSms, "queue down"))]).run.report.failedCount =
      1 ∧
    ¬ (exMemberImported [exImportRow "KIBOS" (some (.enqueueSms, "queue down"))]).Exact String.toUpper
      exImportParams [exImportRow "KIBOS" (some (.enqueueSms, "queue down"))] exImportDb 7 := by
  refine ⟨by decide +kernel, by decide +kernel, by decide +kernel, fun h => ?_⟩
  have htotal := h.total
  revert htotal
  decide +kernel

end BebaSacco
