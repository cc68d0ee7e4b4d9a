import BebaSacco.Lib.Process
import BebaSacco.MemberImport

/-! # The officers of a stage

`assignPosition` deactivates the chairman or secretary of a stage and then gives the position to a
user, in two statements between which those of other calls can come. A row of the member import gives
its user a position and deactivates nobody.

Results:
 1. `oneEach_assign`: when an assignment keeps the officers of the stages unique.
 2. `owes_statement`: a call that has deactivated the holders of a position finds nobody in it.
 3. `officers_unique`: each stage has at most one chairman and one secretary in every state, when no
    position is given between the two statements of another call and the rows of an import give
    positions that are free.
 4. `officers_doubled`: two calls that take turns, and a row of an import, each leave two chairmen.
-/

namespace BebaSacco

open Txn Process

/-! ## 1. The calls -/

/-- The tables, and the id of the next user. -/
structure OfficerDesk where
  db : ImportDb
  nextUser : Nat
  deriving DecidableEq, Repr

structure PositionDto where
  stageId : Nat
  userId : Nat
  position : Option StagePosition
  deriving DecidableEq, Repr

/-- A call of `assignPosition` before one of its statements, or a row of an import. -/
inductive OfficerTask
  | findStage (dto : PositionDto)
  | findUser (dto : PositionDto)
  | deactivate (dto : PositionDto)
  | upsert (dto : PositionDto)
  | importRow (p : ImportParams) (row : ImportRow)
  deriving DecidableEq, Repr

inductive OfficerCall
  | assignPosition (dto : PositionDto)
  | importRow (p : ImportParams) (row : ImportRow)
  deriving DecidableEq, Repr

abbrev OfficerWorld := World OfficerDesk OfficerTask

abbrev OfficerEvent := Event OfficerCall Unit

def StagePosition.isOfficer : StagePosition → Bool
  | .chairman | .secretary => true
  | _ => false

/-- `updateMany` on the active holders of a position. -/
def ImportDb.deactivateHolders (db : ImportDb) (stageId : Nat) (position : StagePosition) : ImportDb :=
  { db with assignments := db.assignments.map fun a =>
      if a.stageId = stageId ∧ a.position = position ∧ a.isActive = true then
        { a with isActive := false }
      else a }

/-- What the upsert writes. -/
def PositionDto.assignment (dto : PositionDto) : StageAssignment :=
  ⟨dto.userId, dto.stageId, dto.position.getD .member, true⟩

def assignPosition.findStage (dto : PositionDto) : Txn OfficerDesk String (Option OfficerTask) := do
  let desk ← get
  ensure (dto.stageId < desk.db.stages.length) "Stage not found"
  pure (some (.findUser dto))

def assignPosition.findUser (dto : PositionDto) : Txn OfficerDesk String (Option OfficerTask) := do
  let desk ← get
  ensure (desk.db.users.any (·.id == dto.userId) = true) "User not found in this tenant"
  pure (some (if dto.position.any (·.isOfficer) then .deactivate dto else .upsert dto))

def assignPosition.deactivate (dto : PositionDto) : Txn OfficerDesk String (Option OfficerTask) := do
  modify fun desk =>
    { desk with db := desk.db.deactivateHolders dto.stageId (dto.position.getD .member) }
  pure (some (.upsert dto))

def assignPosition.upsert (dto : PositionDto) : Txn OfficerDesk String (Option OfficerTask) := do
  modify fun desk => { desk with db := desk.db.assign dto.assignment }
  pure none

/-- The transaction of a row, as other calls see it. -/
def importOneRow (upper : String → String) (p : ImportParams) (row : ImportRow) :
    Txn OfficerDesk String (Option OfficerTask) := do
  modify fun desk =>
    let after := tryRow upper p ⟨desk.db, desk.nextUser, openingReport p [row]⟩ row
    ⟨after.db, after.nextUser⟩
  pure none

def officerProgram (upper : String → String) :
    Program OfficerDesk String OfficerCall Unit OfficerTask where
  entry
    | .assignPosition dto => .findStage dto
    | .importRow p row => .importRow p row
  next
    | .findStage dto, _ => assignPosition.findStage dto
    | .findUser dto, _ => assignPosition.findUser dto
    | .deactivate dto, _ => assignPosition.deactivate dto
    | .upsert dto, _ => assignPosition.upsert dto
    | .importRow p row, _ => importOneRow upper p row

def OfficerWorld.opening (db : ImportDb) (nextUser : Nat) : OfficerWorld := ⟨⟨db, nextUser⟩, []⟩

def OfficerWorld.after (upper : String → String) (w : OfficerWorld) (events : List OfficerEvent) :
    OfficerWorld :=
  Machine.run (officerProgram upper).step w events

/-! ## 2. The officers -/

/-- The active holders of a position at a stage. -/
def ImportDb.holders (db : ImportDb) (stageId : Nat) (position : StagePosition) :
    List StageAssignment :=
  db.assignments.filter fun a => a.stageId == stageId && a.position == position && a.isActive

/-- At most one chairman and one secretary at each stage. -/
def ImportDb.UniqueOfficers (db : ImportDb) : Prop :=
  ∀ stageId position, position.isOfficer = true → (db.holders stageId position).length ≤ 1

/-- A user has one assignment for a stage, as the unique index of the table has it. -/
def ImportDb.Keyed (db : ImportDb) : Prop := (db.assignments.map fun a => (a.userId, a.stageId)).Nodup

/-- Nobody else holds the position that an assignment gives. -/
def ImportDb.free (db : ImportDb) (a : StageAssignment) : Bool :=
  !a.position.isOfficer || (db.holders a.stageId a.position).all (·.userId == a.userId)

/-- What a row gives its user. -/
def OfficerDesk.rowAssignment (upper : String → String) (p : ImportParams) (row : ImportRow)
    (desk : OfficerDesk) : StageAssignment :=
  ⟨desk.nextUser,
    (desk.db.findStage upper p.wardId (row.canonicalStageName upper)).getD desk.db.stages.length,
    mapPosition upper row.position, true⟩

/-- A call that has deactivated the holders of a position and is about to give it. -/
def OfficerTask.between (stageId : Nat) (position : StagePosition) : OfficerTask → Bool
  | .upsert dto =>
    position.isOfficer && dto.assignment.stageId == stageId && dto.assignment.position == position
  | _ => false

/-- No other call is between its two statements on the position that an assignment gives. -/
def OfficerWorld.alone (w : OfficerWorld) (i : Nat) (a : StageAssignment) : Bool :=
  (List.range w.tasks.length).all fun j =>
    j == i || !(w.task j).any (·.between a.stageId a.position)

/-- A position is given by one call at a time, and a row of an import gives one that nobody holds. -/
def OfficerWorld.apart (upper : String → String) (w : OfficerWorld) : OfficerEvent → Bool
  | .advance i _ =>
    match w.task i with
    | some (.upsert dto) => w.alone i dto.assignment
    | some (.importRow p row) =>
      !row.commits || (w.state.db.free (w.state.rowAssignment upper p row) &&
        w.alone i (w.state.rowAssignment upper p row))
    | _ => true
  | _ => true

namespace StageOfficerLemmas

variable {upper : String → String} {db : ImportDb} {a : StageAssignment} {w : OfficerWorld}
  {e : OfficerEvent}

/-! ## 3. The assignments -/

/-- Active holders of one position at one stage are one user. -/
def OneEach (db : ImportDb) : Prop :=
  ∀ b ∈ db.assignments, ∀ c ∈ db.assignments, b.isActive = true → c.isActive = true →
    b.stageId = c.stageId → b.position = c.position → b.position.isOfficer = true → b.userId = c.userId

theorem mem_holders {b : StageAssignment} {stageId : Nat} {position : StagePosition} :
    b ∈ db.holders stageId position ↔
      b ∈ db.assignments ∧ b.stageId = stageId ∧ b.position = position ∧ b.isActive = true := by
  unfold ImportDb.holders
  rw [List.mem_filter, Bool.and_eq_true, Bool.and_eq_true, beq_iff_eq, beq_iff_eq, and_assoc]

theorem unique_of_oneEach (hkeyed : db.Keyed) (h : OneEach db) : db.UniqueOfficers := by
  intro stageId position hofficer
  have hsub : (db.holders stageId position).Sublist db.assignments := List.filter_sublist
  have hkeys : ((db.holders stageId position).map fun a => (a.userId, a.stageId)).Nodup :=
    List.Nodup.sublist (hsub.map _) hkeyed
  have hmem := fun b => @mem_holders db b stageId position
  rcases hlist : db.holders stageId position with _ | ⟨b, _ | ⟨c, rest⟩⟩
  · exact Nat.zero_le 1
  · exact Nat.le_refl 1
  · rw [hlist] at hkeys hmem
    obtain ⟨hb, hbs, hbp, hba⟩ := (hmem b).mp List.mem_cons_self
    obtain ⟨hc, hcs, hcp, hca⟩ := (hmem c).mp (List.mem_cons_of_mem b List.mem_cons_self)
    have huser := h b hb c hc hba hca (hbs.trans hcs.symm) (hbp.trans hcp.symm) (hbp ▸ hofficer)
    refine ((List.nodup_cons.mp hkeys).1 ?_).elim
    change (b.userId, b.stageId) ∈ _
    rw [huser, hbs, ← hcs]
    exact List.mem_cons_self

theorem oneEach_of_unique (h : db.UniqueOfficers) : OneEach db := by
  intro b hb c hc hba hca hstage hposition hofficer
  have hlength := h b.stageId b.position hofficer
  have hb : b ∈ db.holders b.stageId b.position := mem_holders.mpr ⟨hb, rfl, rfl, hba⟩
  have hc : c ∈ db.holders b.stageId b.position :=
    mem_holders.mpr ⟨hc, hstage.symm, hposition.symm, hca⟩
  rcases hlist : db.holders b.stageId b.position with _ | ⟨d, _ | ⟨_, _⟩⟩
  · rw [hlist] at hb
    cases hb
  · rw [hlist] at hb hc
    rw [List.mem_singleton.mp hb, List.mem_singleton.mp hc]
  · rw [hlist, List.length_cons, List.length_cons] at hlength
    omega

theorem mem_assign {b : StageAssignment} (h : b ∈ (db.assign a).assignments) :
    b = a ∨ b ∈ db.assignments := by
  unfold ImportDb.assign at h
  split at h
  · obtain ⟨c, hc, rfl⟩ := List.mem_map.mp h
    split
    · exact .inl rfl
    · exact .inr hc
  · rcases List.mem_append.mp h with h | h
    · exact .inr h
    · exact .inl (List.mem_singleton.mp h)

theorem keyed_assign (h : db.Keyed) : (db.assign a).Keyed := by
  unfold ImportDb.Keyed at h ⊢
  unfold ImportDb.assign
  split
  · dsimp only
    rw [List.map_map]
    have hkeys : db.assignments.map ((fun a => (a.userId, a.stageId)) ∘ fun b =>
        if b.userId = a.userId ∧ b.stageId = a.stageId then a else b) =
        db.assignments.map fun a => (a.userId, a.stageId) := by
      refine List.map_congr_left fun b _ => ?_
      rw [Function.comp_apply]
      split
      · next hb => rw [hb.1, hb.2]
      · rfl
    rw [hkeys]
    exact h
  · next hnone =>
    dsimp only
    rw [List.map_append, List.map_singleton]
    refine List.nodup_append.mpr ⟨h, List.nodup_singleton _, ?_⟩
    intro key hkey other hother heq
    obtain ⟨b, hb, rfl⟩ := List.mem_map.mp hkey
    rw [List.mem_singleton.mp hother, Prod.mk.injEq] at heq
    refine hnone (List.any_eq_true.mpr ⟨b, hb, ?_⟩)
    rw [heq.1, heq.2]
    simp

/-- An assignment keeps the officers unique when nobody else holds the position that it gives. -/
theorem oneEach_assign (h : OneEach db) (hfree : db.free a = true) : OneEach (db.assign a) := by
  have hholder : ∀ b ∈ db.assignments, b.isActive = true → b.stageId = a.stageId →
      b.position = a.position → a.position.isOfficer = true → b.userId = a.userId := by
    intro b hb hactive hstage hposition hofficer
    unfold ImportDb.free at hfree
    rw [hofficer, Bool.not_true, Bool.false_or, List.all_eq_true] at hfree
    exact beq_iff_eq.mp (hfree b (mem_holders.mpr ⟨hb, hstage, hposition, hactive⟩))
  intro b hb c hc hba hca hstage hposition hofficer
  rcases mem_assign hb with heq | hold
  · rw [heq] at hstage hposition hofficer ⊢
    rcases mem_assign hc with heq | hold
    · rw [heq]
    · exact (hholder c hold hca hstage.symm hposition.symm hofficer).symm
  · rcases mem_assign hc with heq | hold'
    · rw [heq] at hstage hposition ⊢
      exact hholder b hold hba hstage hposition (hposition ▸ hofficer)
    · exact h b hold c hold' hba hca hstage hposition hofficer

theorem keyed_deactivate (stageId : Nat) (position : StagePosition) (h : db.Keyed) :
    (db.deactivateHolders stageId position).Keyed := by
  unfold ImportDb.Keyed ImportDb.deactivateHolders at *
  dsimp only
  rw [List.map_map]
  have hkeys : db.assignments.map ((fun a => (a.userId, a.stageId)) ∘ fun a =>
      if a.stageId = stageId ∧ a.position = position ∧ a.isActive = true then
        { a with isActive := false }
      else a) = db.assignments.map fun a => (a.userId, a.stageId) := by
    refine List.map_congr_left fun b _ => ?_
    rw [Function.comp_apply]
    split <;> rfl
  rw [hkeys]
  exact h

theorem active_deactivate {b : StageAssignment} {stageId : Nat} {position : StagePosition}
    (hb : b ∈ (db.deactivateHolders stageId position).assignments) (hactive : b.isActive = true) :
    b ∈ db.assignments := by
  obtain ⟨c, hc, rfl⟩ := List.mem_map.mp hb
  split at hactive
  · cases hactive
  · next hnot =>
    rw [if_neg hnot]
    exact hc

theorem oneEach_deactivate (stageId : Nat) (position : StagePosition) (h : OneEach db) :
    OneEach (db.deactivateHolders stageId position) := fun b hb c hc hba hca =>
  h b (active_deactivate hb hba) c (active_deactivate hc hca) hba hca

/-! ## 4. One statement -/

/-- Nobody holds a position at a stage. -/
def Vacant (db : ImportDb) (stageId : Nat) (position : StagePosition) : Prop :=
  ∀ b ∈ db.assignments, b.isActive = true → b.stageId = stageId → b.position ≠ position

theorem free_of_vacant (h : Vacant db a.stageId a.position) : db.free a = true := by
  unfold ImportDb.free
  rw [Bool.or_eq_true, List.all_eq_true]
  refine .inr fun b hb => ?_
  obtain ⟨hb, hstage, hposition, hactive⟩ := mem_holders.mp hb
  exact absurd hposition (h b hb hactive hstage)

theorem vacant_deactivated (stageId : Nat) (position : StagePosition) :
    Vacant (db.deactivateHolders stageId position) stageId position := by
  intro b hb hactive hstage hposition
  obtain ⟨c, hc, rfl⟩ := List.mem_map.mp hb
  split at hactive
  · cases hactive
  · next hnot =>
    rw [if_neg hnot] at hstage hposition
    exact hnot ⟨hstage, hposition, hactive⟩

/-- Each user has one assignment for a stage, and each stage one holder of a position. -/
structure Orderly (desk : OfficerDesk) : Prop where
  keyed : desk.db.Keyed
  oneEach : OneEach desk.db

/-- A call that is about to give a position finds nobody in it. -/
def Cleared (desk : OfficerDesk) : OfficerTask → Prop
  | .upsert dto => dto.assignment.position.isOfficer = true →
    Vacant desk.db dto.assignment.stageId dto.assignment.position
  | _ => True

/-- A statement reads, deactivates the holders of a position, or makes an assignment. -/
inductive Does (upper : String → String) (desk : OfficerDesk) :
    OfficerTask → Option OfficerTask → OfficerDesk → Prop
  | read {t : OfficerTask} {t' : Option OfficerTask} (h : ∀ u, t' = some u → Cleared desk u) :
      Does upper desk t t' desk
  | deactivated {dto : PositionDto} :
      Does upper desk (.deactivate dto) (some (.upsert dto))
        { desk with db := desk.db.deactivateHolders dto.stageId (dto.position.getD .member) }
  | assigned {dto : PositionDto} :
      Does upper desk (.upsert dto) none { desk with db := desk.db.assign dto.assignment }
  | failed {p : ImportParams} {row : ImportRow} {desk' : OfficerDesk} (h : desk'.db = desk.db) :
      Does upper desk (.importRow p row) none desk'
  | imported {p : ImportParams} {row : ImportRow} {desk' : OfficerDesk} (hcommits : row.commits = true)
      (h : desk'.db.assignments = (desk.db.assign (desk.rowAssignment upper p row)).assignments) :
      Does upper desk (.importRow p row) none desk'

theorem statement_does {t : OfficerTask} {t' : Option OfficerTask} {desk desk' : OfficerDesk}
    {input : Unit} (h : Yields ((officerProgram upper).next t input) desk t' desk') :
    Does upper desk t t' desk' := by
  cases t with
  | findStage dto =>
    simp only [officerProgram, assignPosition.findStage, yields_bind, yields_get, yields_ensure,
      yields_pure] at h
    obtain ⟨_, _, ⟨rfl, rfl⟩, _, _, ⟨_, rfl⟩, rfl, rfl⟩ := h
    exact .read fun u hu => by cases hu; trivial
  | findUser dto =>
    simp only [officerProgram, assignPosition.findUser, yields_bind, yields_get, yields_ensure,
      yields_pure] at h
    obtain ⟨_, _, ⟨rfl, rfl⟩, _, _, ⟨_, rfl⟩, rfl, rfl⟩ := h
    refine .read fun u hu => ?_
    split at hu
    · cases hu
      trivial
    · next hplain =>
      cases hu
      intro hofficer
      unfold PositionDto.assignment at hofficer
      cases hposition : dto.position with
      | none =>
        rw [hposition] at hofficer
        cases hofficer
      | some position =>
        rw [hposition] at hofficer hplain
        exact absurd hofficer hplain
  | deactivate dto =>
    simp only [officerProgram, assignPosition.deactivate, yields_bind, yields_modify, yields_pure] at h
    obtain ⟨_, _, rfl, rfl, rfl⟩ := h
    exact .deactivated
  | upsert dto =>
    simp only [officerProgram, assignPosition.upsert, yields_bind, yields_modify, yields_pure] at h
    obtain ⟨_, _, rfl, rfl, rfl⟩ := h
    exact .assigned
  | importRow p row =>
    simp only [officerProgram, importOneRow, yields_bind, yields_modify, yields_pure] at h
    obtain ⟨_, _, rfl, rfl, rfl⟩ := h
    have hdb := (MemberImportLemmas.tryRow_does upper p
      ⟨desk.db, desk.nextUser, openingReport p [row]⟩ row).1
    cases hcommits : row.commits with
    | false =>
      rw [hcommits, if_neg (by decide)] at hdb
      exact .failed hdb
    | true =>
      rw [hcommits, if_pos rfl] at hdb
      refine .imported hcommits ?_
      dsimp only
      rw [hdb, MemberImportLemmas.enrolled_assignment]
      rfl

/-! ## 5. Runs -/

theorem orderly_of_assignments {desk : OfficerDesk} {db : ImportDb} (hkeyed : db.Keyed)
    (honeEach : OneEach db) (h : desk.db.assignments = db.assignments) : Orderly desk := by
  refine ⟨?_, ?_⟩
  · unfold ImportDb.Keyed at hkeyed ⊢
    rw [h]
    exact hkeyed
  · unfold OneEach at honeEach ⊢
    rw [h]
    exact honeEach

theorem cleared_of_active {desk desk' : OfficerDesk} {u : OfficerTask} (h : Cleared desk u)
    (hactive : ∀ b ∈ desk'.db.assignments, b.isActive = true → b ∈ desk.db.assignments) :
    Cleared desk' u := by
  cases u with
  | upsert dto => exact fun hofficer b hb hba => h hofficer b (hactive b hb hba) hba
  | _ => trivial

/-- An assignment takes no position that another call is about to give. -/
theorem cleared_assign {desk desk' : OfficerDesk} {i j : Nat} {u : OfficerTask} (h : Cleared desk u)
    (hassign : desk'.db.assignments = (desk.db.assign a).assignments) (halone : w.alone i a = true)
    (hne : j ≠ i) (hat : w.At j u) : Cleared desk' u := by
  cases u with
  | upsert dto =>
    intro hofficer b hb hba hstage hposition
    rw [hassign] at hb
    rcases mem_assign hb with rfl | hold
    · have hj := List.all_eq_true.mp halone j
        (List.mem_range.mpr (List.getElem?_eq_some_iff.mp hat).1)
      simp only [task_some.mpr hat, Option.any_some, OfficerTask.between, ← hstage, ← hposition,
        beq_self_eq_true, Bool.and_true, Bool.or_eq_true, beq_iff_eq, Bool.not_eq_true'] at hj
      rcases hj with hsame | hplain
      · exact hne hsame
      · rw [hposition, hofficer] at hplain
        cases hplain
    · exact h hofficer b hold hba hstage hposition
  | _ => trivial

theorem owes_statement {i : Nat} {input : Unit} {t : OfficerTask} {t' : Option OfficerTask}
    {desk' : OfficerDesk} (h : Upheld Orderly Cleared w)
    (hguard : w.apart upper (.advance i input) = true) (hat : w.At i t)
    (hy : Yields ((officerProgram upper).next t input) w.state t' desk') :
    Owes Orderly Cleared w i t' desk' := by
  simp only [OfficerWorld.apart, task_some.mpr hat] at hguard
  have hmine := h.tasks i t hat
  cases statement_does hy with
  | read hown => exact ⟨h.state, hown, fun _ _ _ _ hu => hu⟩
  | deactivated =>
    refine ⟨⟨keyed_deactivate _ _ h.state.keyed, oneEach_deactivate _ _ h.state.oneEach⟩,
      fun u hu => ?_, fun _ _ _ _ hu => cleared_of_active hu fun _ hb hba => active_deactivate hb hba⟩
    cases hu
    exact fun _ => vacant_deactivated _ _
  | assigned =>
    refine ⟨⟨keyed_assign h.state.keyed, oneEach_assign h.state.oneEach ?_⟩, fun u hu => (by cases hu),
      fun _ _ hne hj hu => cleared_assign hu rfl hguard hne hj⟩
    cases hofficer : (PositionDto.assignment _).position.isOfficer with
    | false =>
      unfold ImportDb.free
      rw [hofficer]
      rfl
    | true => exact free_of_vacant (hmine hofficer)
  | failed hdb =>
    refine ⟨orderly_of_assignments h.state.keyed h.state.oneEach (by rw [hdb]),
      fun u hu => (by cases hu), fun _ _ _ _ hu => cleared_of_active hu fun _ hb _ => hdb ▸ hb⟩
  | imported hcommits hassign =>
    dsimp only at hguard
    rw [hcommits, Bool.not_true, Bool.false_or] at hguard
    obtain ⟨hfree, halone⟩ := Bool.and_eq_true_iff.mp hguard
    exact ⟨orderly_of_assignments (keyed_assign h.state.keyed) (oneEach_assign h.state.oneEach hfree)
      hassign, fun u hu => (by cases hu), fun _ _ hne hj hu => cleared_assign hu hassign halone hne hj⟩

theorem upheld_officers (h : Upheld Orderly Cleared w) (hguard : w.apart upper e = true) :
    Upheld Orderly Cleared ((officerProgram upper).step w e) := by
  refine upheld_step h (fun call _ => ?_) fun i input t t' desk' he hat hy => ?_
  · cases call <;> trivial
  · subst he
    exact owes_statement h hguard hat hy

end StageOfficerLemmas

open StageOfficerLemmas

/-- If no position is given between the deactivation and the upsert of another call, and each row of
an import finds the position that it gives free, then in every state each stage has at most one
chairman and one secretary. -/
theorem officers_unique {upper : String → String} {db : ImportDb} {nextUser : Nat}
    {events : List OfficerEvent} (hkeyed : db.Keyed) (hunique : db.UniqueOfficers)
    (h : Machine.Guarded (officerProgram upper).step
      (fun w e => OfficerWorld.apart upper w e = true) (OfficerWorld.opening db nextUser) events) :
    ((OfficerWorld.opening db nextUser).after upper events).state.db.UniqueOfficers := by
  have hopening : Upheld Orderly Cleared (OfficerWorld.opening db nextUser) :=
    ⟨⟨hkeyed, oneEach_of_unique hunique⟩, fun i t ht => (by cases ht)⟩
  have hrun := (Machine.run_induct (fun _ _ => upheld_officers) hopening h).state
  exact unique_of_oneEach hrun.keyed hrun.oneEach

def exStageUser (id : Nat) : ImportedUser :=
  { id := id, firstName := "Dan", lastName := "Ocholla", phone := none, idNumber := none
    phoneNumber := none, nextOfKinPhone := none, legacyMemberNo := none, importBatchId := none
    wardId := none }

/-- A ward with one stage and two users. -/
def exOfficerDb : ImportDb := { exImportDb with users := [exStageUser 1, exStageUser 2] }

def exChair (userId : Nat) : OfficerCall := .assignPosition ⟨0, userId, some .chairman⟩

/-- The second call reads while the first one deactivates, and gives the position after it. -/
theorem officers_unique_of_two :
    ((OfficerWorld.opening exOfficerDb 3).after String.toUpper
      [.start (exChair 1), .advance 0 (), .advance 0 (), .start (exChair 2), .advance 0 (),
        .advance 1 (), .advance 1 (), .advance 0 (), .advance 1 (),
        .advance 1 ()]).state.db.UniqueOfficers :=
  officers_unique List.nodup_nil (fun _ _ _ => Nat.zero_le 1) (by decide +kernel)

/-- Two calls for one stage, each of which deactivates before the other one gives the position. -/
def exTurns : List OfficerEvent :=
  [.start (exChair 1), .start (exChair 2), .advance 0 (), .advance 0 (), .advance 1 (), .advance 1 (),
    .advance 0 (), .advance 1 (), .advance 0 (), .advance 1 ()]

/-- A call, and a row of an import whose position is chairman. -/
def exImportedChair : List OfficerEvent :=
  [.start (exChair 1), .advance 0 (), .advance 0 (), .advance 0 (), .advance 0 (),
    .start (.importRow exImportParams { exImportRow "KIBOS" none with position := "CHAIRMAN" }),
    .advance 1 ()]

/-- Both leave two chairmen, and no call in progress. -/
theorem officers_doubled :
    (∀ events ∈ [exTurns, exImportedChair],
      ((OfficerWorld.opening exOfficerDb 3).after String.toUpper events).tasks = [none, none] ∧
      (((OfficerWorld.opening exOfficerDb 3).after String.toUpper events).state.db.holders 0
        .chairman).length = 2) ∧
    ¬ ∀ events,
      (∀ t ∈ ((OfficerWorld.opening exOfficerDb 3).after String.toUpper events).tasks, t = none) →
      ((OfficerWorld.opening exOfficerDb 3).after String.toUpper events).state.db.UniqueOfficers := by
  have hruns : ∀ events ∈ [exTurns, exImportedChair],
      ((OfficerWorld.opening exOfficerDb 3).after String.toUpper events).tasks = [none, none] ∧
      (((OfficerWorld.opening exOfficerDb 3).after String.toUpper events).state.db.holders 0
        .chairman).length = 2 := by
    decide +kernel
  refine ⟨hruns, fun h => ?_⟩
  obtain ⟨htasks, htwo⟩ := hruns exTurns List.mem_cons_self
  have hone := h exTurns (by rw [htasks]; decide) 0 .chairman rfl
  rw [htwo] at hone
  revert hone
  decide

end BebaSacco
