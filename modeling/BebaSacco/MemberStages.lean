import BebaSacco.MemberImport
import BebaSacco.Lib.ReadCommitted
import BebaSacco.Lib.Grouped
import Mathlib.Data.Finset.Card

/-! # Stages of a member

A row says that a member rides at a stage, and whether he still does. A trigger counts the active rows
of the member before each row that is to be active, and what it counts is what others have committed
and what its own transaction has written. `patchProfile` makes the old rows inactive and then creates
new ones, where `assignMember` and the import upsert.

Results:
 1. `statement_checked`: what one statement leaves of the active stages of a member.
 2. `bounded_step`, `bounded_run`: no member has more than 5 active rows, when no two transactions have
    activated rows of one member and not committed yet.
 3. `patch_alone`: a profile that is patched by itself has exactly the named stages, when the member has
    no row, active or not, of any of them.
 4. `stages_overrun`: two overlapping assignments, and a return to a stage left before.
-/

namespace BebaSacco

open ReadCommitted

/-! ## 1. The table and the trigger -/

/-- The columns of the unique index. -/
def MemberStage.key (row : MemberStage) : Nat × Nat := (row.memberId, row.stageId)

/-- The stages of the tenant and the rows of its members. -/
structure StageTable where
  stages : List Nat
  rows : List MemberStage
  stagesNodup : stages.Nodup
  keysNodup : (rows.map MemberStage.key).Nodup

/-- The member has a row of the stage, active or not. -/
def StageTable.has (t : StageTable) (memberId stageId : Nat) : Bool :=
  t.rows.any fun row => row.key == (memberId, stageId)

def StageTable.activeRows (t : StageTable) (memberId : Nat) : List MemberStage :=
  t.rows.filter fun row => row.memberId == memberId && row.isActive

/-- `row` replaces the row of its key, or is added. -/
def putRow (row : MemberStage) (rows : List MemberStage) : List MemberStage :=
  if rows.any fun old => old.key == row.key then
    rows.map fun old => if old.key = row.key then row else old
  else rows ++ [row]

namespace StageLemmas

theorem map_key_replaced (row : MemberStage) (rows : List MemberStage) :
    (rows.map fun old => if old.key = row.key then row else old).map MemberStage.key =
      rows.map MemberStage.key := by
  rw [List.map_map]
  refine List.map_congr_left fun old _ => ?_
  show (if old.key = row.key then row else old).key = old.key
  split
  · next h => exact h.symm
  · rfl

theorem keysNodup_put {rows : List MemberStage} (row : MemberStage)
    (h : (rows.map MemberStage.key).Nodup) : ((putRow row rows).map MemberStage.key).Nodup := by
  unfold putRow
  split
  · rw [map_key_replaced]
    exact h
  · next hany =>
    rw [List.map_append, List.nodup_append]
    refine ⟨h, List.nodup_singleton _, fun key hkey key' hkey' heq => hany ?_⟩
    obtain ⟨old, hold, rfl⟩ := List.mem_map.mp hkey
    rw [List.map_singleton, List.mem_singleton] at hkey'
    exact List.any_eq_true.mpr ⟨old, hold, beq_iff_eq.mpr (heq.trans hkey')⟩

theorem mem_putRow {row old : MemberStage} {rows : List MemberStage} :
    old ∈ putRow row rows ↔ old = row ∨ (old ∈ rows ∧ old.key ≠ row.key) := by
  unfold putRow
  split
  · next hany =>
    obtain ⟨there, hthere, hkey⟩ := List.any_eq_true.mp hany
    rw [List.mem_map]
    constructor
    · rintro ⟨old', hold, rfl⟩
      split
      · exact .inl rfl
      · next hne => exact .inr ⟨hold, hne⟩
    · rintro (rfl | ⟨hold, hne⟩)
      · exact ⟨there, hthere, if_pos (beq_iff_eq.mp hkey)⟩
      · exact ⟨old, hold, if_neg hne⟩
  · next hany =>
    rw [List.mem_append, List.mem_singleton]
    constructor
    · rintro (hold | rfl)
      · exact .inr ⟨hold, fun hkey => hany (List.any_eq_true.mpr ⟨old, hold, beq_iff_eq.mpr hkey⟩)⟩
      · exact .inl rfl
    · rintro (rfl | ⟨hold, _⟩)
      · exact .inr rfl
      · exact .inl hold

end StageLemmas

open StageLemmas

def StageTable.put (row : MemberStage) (t : StageTable) : StageTable where
  stages := t.stages
  rows := putRow row t.rows
  stagesNodup := t.stagesNodup
  keysNodup := keysNodup_put row t.keysNodup

/-- `check_max_member_stages`. The row itself is recognised by its stage. -/
def StageTable.check_max_member_stages (t : StageTable) (row : MemberStage) : Bool :=
  !row.isActive || (t.activeRows row.memberId).countP (·.stageId != row.stageId) < 5

/-- The trigger runs before each row of a statement, and sees those before it. -/
def StageTable.passes (t : StageTable) : List MemberStage → Bool
  | [] => true
  | row :: rows => t.check_max_member_stages row && (t.put row).passes rows

/-! ## 2. The transactions -/

/-- A call, for a member that is there or is created by the call itself. -/
inductive StageCall where
  | patchProfile (memberId : Nat) (stageIds : Option (List Nat))
  | assignMember (stageId memberId : Nat) (assign : Bool)
  | createMember (memberId : Nat) (stageIds : List Nat)
  | processRow (memberId stageId : Nat)
  deriving DecidableEq, Repr

/-- The next statement. -/
inductive StagePoint where
  | countStages (memberId : Nat) (uniqueIds : List Nat)
  | deactivate (memberId : Nat) (uniqueIds : List Nat)
  | create (memberId : Nat) (left : List Nat)
  | findStage (stageId memberId : Nat) (assign : Bool)
  | upsert (memberId stageId : Nat)
  | remove (memberId stageId : Nat)
  | findStages (memberId : Nat) (stageIds : List Nat)
  | createMany (memberId : Nat) (uniqueStageIds : List Nat)
  | commit
  deriving DecidableEq, Repr

abbrev StageStatement := ReadCommitted.Statement MemberStage StagePoint

/-- `rows` are written if the trigger lets each of them pass. -/
def StageTable.written (t : StageTable) (rows : List MemberStage) (next : StagePoint) :
    Option StageStatement :=
  if t.passes rows then some ⟨rows, some next⟩ else none

/-- Where `INSERT … ON CONFLICT` of a row that is there is stopped by the trigger for the insert, the
transaction is rolled back by an event of its own. -/
def stageStatement : StagePoint → StageTable → Option StageStatement
  | .countStages memberId uniqueIds, t =>
    let validCount := t.stages.countP fun stageId => uniqueIds.contains stageId
    if !uniqueIds.isEmpty && validCount != uniqueIds.length then none
    else some ⟨[], some (.deactivate memberId uniqueIds)⟩
  | .deactivate memberId uniqueIds, t =>
    t.written ((t.activeRows memberId).map fun row => { row with isActive := false })
      (.create memberId uniqueIds)
  | .create _ [], _ => some ⟨[], some .commit⟩
  | .create memberId (stageId :: left), t =>
    if t.has memberId stageId then none
    else t.written [⟨memberId, stageId, true⟩] (.create memberId left)
  | .findStage stageId memberId assign, t =>
    if stageId ∈ t.stages then
      some ⟨[], some (if assign then .upsert memberId stageId else .remove memberId stageId)⟩
    else none
  | .upsert memberId stageId, t => t.written [⟨memberId, stageId, true⟩] .commit
  | .remove memberId stageId, t =>
    t.written (if t.has memberId stageId then [⟨memberId, stageId, false⟩] else []) .commit
  | .findStages memberId stageIds, t =>
    if !stageIds.isEmpty && (t.stages.filter stageIds.contains).length != stageIds.length then none
    else some ⟨[], some (.createMany memberId stageIds.eraseDups)⟩
  -- `skipDuplicates`
  | .createMany memberId uniqueStageIds, t =>
    t.written ((uniqueStageIds.filter fun stageId => !t.has memberId stageId).map
      fun stageId => ⟨memberId, stageId, true⟩) .commit
  | .commit, _ => some ⟨[], none⟩

def StageCall.entry : StageCall → StagePoint
  | .patchProfile memberId (some stageIds) => .countStages memberId stageIds.eraseDups
  | .patchProfile _ none => .commit
  | .assignMember stageId memberId assign => .findStage stageId memberId assign
  | .createMember memberId stageIds => .findStages memberId stageIds
  | .processRow memberId stageId => .upsert memberId stageId

/-- Two writes of one row wait for each other. -/
def memberStages : ReadCommitted.Program StageTable MemberStage StageCall StagePoint where
  apply := StageTable.put
  allows _ _ _ := true
  clash row row' := row.key == row'.key
  clash_symm _ _ := BEq.comm
  entry := StageCall.entry
  statement := stageStatement

abbrev StageWorld := ReadCommitted.World StageTable MemberStage StagePoint

/-- Nothing else writes the table. -/
abbrev StageEvent := ReadCommitted.Event Empty StageCall

def StageWorld.step (w : StageWorld) (e : StageEvent) : StageWorld :=
  memberStages.step (fun k _ => k.elim) w e

/-- The table after the events, with nothing under way at their start. -/
def StageTable.afterEvents (t : StageTable) (events : List StageEvent) : StageTable :=
  (Machine.run StageWorld.step ⟨t, []⟩ events).state

/-- Some row among `rows` makes the member active at a stage. -/
def activates (rows : List MemberStage) (memberId : Nat) : Bool :=
  rows.any fun row => row.memberId == memberId && row.isActive

/-- When a statement activates rows, no other transaction has activated one of the same member and not
committed yet. -/
def StageWorld.orderly (w : StageWorld) : StageEvent → Bool
  | .advance i =>
    match w.running[i]?.join with
    | none => true
    | some r =>
      match stageStatement r.point (memberStages.view r w.state) with
      | none => true
      | some st =>
        st.writes.all fun row => !row.isActive ||
          (w.running.set i none).all fun o => o.all fun r' => !activates r'.writes row.memberId
  | _ => true

/-! ## 3. What a statement does -/

/-- The stages the member is active at. -/
def StageTable.active (t : StageTable) (memberId : Nat) : Finset Nat :=
  ((t.activeRows memberId).map (·.stageId)).toFinset

namespace StageLemmas

variable {t t' : StageTable} {row : MemberStage} {rows : List MemberStage} {memberId stageId : Nat}
  {point : StagePoint} {st : StageStatement}

theorem activeRow_eq (h : row ∈ t.activeRows memberId) : row = ⟨memberId, row.stageId, true⟩ := by
  obtain ⟨_, hrow⟩ := List.mem_filter.mp h
  rw [Bool.and_eq_true, beq_iff_eq] at hrow
  obtain ⟨m, s, a⟩ := row
  obtain ⟨hm, ha⟩ := hrow
  dsimp only at hm ha
  rw [hm, ha]

theorem mem_active : stageId ∈ t.active memberId ↔ ⟨memberId, stageId, true⟩ ∈ t.rows := by
  unfold StageTable.active
  rw [List.mem_toFinset, List.mem_map]
  constructor
  · rintro ⟨row, hrow, rfl⟩
    have hmem := (List.mem_filter.mp hrow).1
    rw [activeRow_eq hrow] at hmem
    exact hmem
  · intro hmem
    refine ⟨_, List.mem_filter.mpr ⟨hmem, ?_⟩, rfl⟩
    rw [beq_self_eq_true, Bool.and_self]

/-- The unique index lets a member have one row of each stage. -/
theorem stages_nodup (t : StageTable) (memberId : Nat) :
    ((t.activeRows memberId).map (·.stageId)).Nodup := by
  have hkeys : ((t.activeRows memberId).map MemberStage.key).Nodup :=
    t.keysNodup.sublist (List.filter_sublist.map _)
  have hmap : (t.activeRows memberId).map MemberStage.key =
      ((t.activeRows memberId).map (·.stageId)).map fun stageId => (memberId, stageId) := by
    rw [List.map_map]
    refine List.map_congr_left fun row hrow => ?_
    rw [activeRow_eq hrow]
    rfl
  rw [hmap] at hkeys
  exact List.Nodup.of_map _ hkeys

theorem card_active (t : StageTable) (memberId : Nat) :
    (t.active memberId).card = (t.activeRows memberId).length := by
  unfold StageTable.active
  rw [List.toFinset_card_of_nodup (stages_nodup t memberId), List.length_map]

theorem count_others (t : StageTable) (memberId stageId : Nat) :
    (t.activeRows memberId).countP (·.stageId != stageId) =
      ((t.active memberId).erase stageId).card := by
  have hfilter : (t.active memberId).erase stageId =
      (((t.activeRows memberId).map (·.stageId)).filter (· != stageId)).toFinset := by
    ext s
    unfold StageTable.active
    simp only [Finset.mem_erase, List.mem_toFinset, List.mem_filter, bne_iff_ne, and_comm]
  rw [hfilter, List.toFinset_card_of_nodup ((stages_nodup t memberId).filter _),
    ← List.countP_eq_length_filter, List.countP_map]
  rfl

theorem mem_active_put :
    stageId ∈ (t.put row).active memberId ↔
      row = ⟨memberId, stageId, true⟩ ∨
        (stageId ∈ t.active memberId ∧ row.key ≠ (memberId, stageId)) := by
  rw [mem_active, mem_active]
  show _ ∈ putRow row t.rows ↔ _
  rw [mem_putRow]
  exact or_congr eq_comm (and_congr_right fun _ => ne_comm)

/-- A row that is not active for the member takes none of his stages in. -/
theorem put_subset (h : row.isActive = true → row.memberId ≠ memberId) :
    (t.put row).active memberId ⊆ t.active memberId := by
  intro stageId hmem
  rcases mem_active_put.mp hmem with rfl | ⟨hold, _⟩
  · exact absurd rfl (h rfl)
  · exact hold

theorem put_mono (h : t'.active memberId ⊆ t.active memberId) :
    (t'.put row).active memberId ⊆ (t.put row).active memberId := by
  intro stageId hmem
  rw [mem_active_put] at hmem ⊢
  exact hmem.imp_right fun hold => ⟨h hold.1, hold.2⟩

/-- A row that the trigger lets pass leaves the member of the row with at most 5. -/
theorem put_card (h : t.check_max_member_stages row = true) (hactive : row.isActive = true) :
    ((t.put row).active row.memberId).card ≤ 5 := by
  unfold StageTable.check_max_member_stages at h
  rw [hactive, Bool.not_true, Bool.false_or, decide_eq_true_eq, count_others] at h
  have hsub : (t.put row).active row.memberId ⊆
      insert row.stageId ((t.active row.memberId).erase row.stageId) := by
    intro stageId hmem
    rcases mem_active_put.mp hmem with hrow | ⟨hold, hkey⟩
    · rw [hrow]
      exact Finset.mem_insert_self _ _
    · refine Finset.mem_insert_of_mem (Finset.mem_erase.mpr ⟨fun heq => hkey ?_, hold⟩)
      rw [heq]
      rfl
  calc ((t.put row).active row.memberId).card
    _ ≤ (insert row.stageId ((t.active row.memberId).erase row.stageId)).card :=
      Finset.card_le_card hsub
    _ ≤ ((t.active row.memberId).erase row.stageId).card + 1 := Finset.card_insert_le _ _
    _ ≤ 5 := h

/-! The rows of a whole statement. -/

theorem activates_append {rows' : List MemberStage} :
    activates (rows ++ rows') memberId = (activates rows memberId || activates rows' memberId) :=
  List.any_append

theorem activates_cons :
    activates (row :: rows) memberId =
      (row.memberId == memberId && row.isActive || activates rows memberId) := rfl

theorem not_activates_iff :
    activates rows memberId = false ↔
      ∀ row ∈ rows, row.isActive = true → row.memberId ≠ memberId := by
  unfold activates
  rw [List.any_eq_false]
  refine forall₂_congr fun row _ => ?_
  rw [Bool.and_eq_true, beq_iff_eq, not_and, imp_not_comm]

theorem applyAll_append {rows' : List MemberStage} :
    memberStages.applyAll (rows ++ rows') t =
      memberStages.applyAll rows' (memberStages.applyAll rows t) :=
  List.foldl_append

theorem applyAll_subset (h : activates rows memberId = false) :
    (memberStages.applyAll rows t).active memberId ⊆ t.active memberId := by
  rw [not_activates_iff] at h
  induction rows generalizing t with
  | nil => exact Finset.Subset.refl _
  | cons row rows ih =>
    rw [List.forall_mem_cons] at h
    exact (ih h.2).trans (put_subset h.1)

theorem applyAll_mono (h : t'.active memberId ⊆ t.active memberId) :
    (memberStages.applyAll rows t').active memberId ⊆
      (memberStages.applyAll rows t).active memberId := by
  induction rows generalizing t t' with
  | nil => exact h
  | cons row rows ih => exact ih (put_mono h)

/-- A row lets a member who has at most 5 active stages keep at most 5. -/
theorem put_keeps (h : t.check_max_member_stages row = true)
    (hcard : (t.active memberId).card ≤ 5) : ((t.put row).active memberId).card ≤ 5 := by
  by_cases hrow : row.isActive = true ∧ row.memberId = memberId
  · obtain ⟨hactive, rfl⟩ := hrow
    exact put_card h hactive
  · exact (Finset.card_le_card (put_subset fun ha hm => hrow ⟨ha, hm⟩)).trans hcard

theorem passes_keeps (h : t.passes rows = true) (hcard : (t.active memberId).card ≤ 5) :
    ((memberStages.applyAll rows t).active memberId).card ≤ 5 := by
  induction rows generalizing t with
  | nil => exact hcard
  | cons row rows ih =>
    obtain ⟨hrow, hrows⟩ := Bool.and_eq_true_iff.mp h
    exact ih hrows (put_keeps hrow hcard)

/-- Rows that pass and make the member active leave him with at most 5, however many he had. -/
theorem passes_card (h : t.passes rows = true) (hactive : activates rows memberId = true) :
    ((memberStages.applyAll rows t).active memberId).card ≤ 5 := by
  induction rows generalizing t with
  | nil => cases hactive
  | cons row rows ih =>
    obtain ⟨hrow, hrows⟩ := Bool.and_eq_true_iff.mp h
    rw [activates_cons, Bool.or_eq_true, Bool.and_eq_true, beq_iff_eq] at hactive
    rcases hactive with ⟨rfl, ha⟩ | hrest
    · exact passes_keeps (t := t.put row) hrows (put_card hrow ha)
    · exact ih hrows hrest

theorem written_passes {next : StagePoint} (h : t.written rows next = some st) :
    t.passes rows = true ∧ st = ⟨rows, some next⟩ := by
  unfold StageTable.written at h
  split at h
  · next hpasses => exact ⟨hpasses, (Option.some.inj h).symm⟩
  · cases h

end StageLemmas

/-- The rows of a statement have passed the trigger. -/
theorem statement_passes {point : StagePoint} {t : StageTable} {st : StageStatement}
    (h : stageStatement point t = some st) : t.passes st.writes = true := by
  have hwritten : ∀ {rows : List MemberStage} {next : StagePoint},
      t.written rows next = some st → t.passes st.writes = true := by
    intro rows next hst
    obtain ⟨hpasses, rfl⟩ := written_passes hst
    exact hpasses
  have hnone : ∀ {next : Option StagePoint}, some (⟨[], next⟩ : StageStatement) = some st →
      t.passes st.writes = true := by
    intro next hst
    cases hst
    rfl
  unfold stageStatement at h
  split at h
  · dsimp only at h
    split at h
    · cases h
    · exact hnone h
  · exact hwritten h
  · exact hnone h
  · split at h
    · cases h
    · exact hwritten h
  · split at h
    · exact hnone h
    · cases h
  · exact hwritten h
  · exact hwritten h
  · split at h
    · cases h
    · exact hnone h
  · exact hwritten h
  · exact hnone h

/-- A statement leaves a member it makes active with at most 5 active stages, and takes no stage in for
another one. -/
theorem statement_checked {point : StagePoint} {t : StageTable} {st : StageStatement}
    (h : stageStatement point t = some st) (memberId : Nat) :
    (activates st.writes memberId = true →
      ((memberStages.applyAll st.writes t).active memberId).card ≤ 5) ∧
    (activates st.writes memberId = false →
      (memberStages.applyAll st.writes t).active memberId ⊆ t.active memberId) :=
  ⟨passes_card (statement_passes h), applyAll_subset⟩

/-! ## 4. Every run in good order -/

/-- No member has more than 5 active rows, nor in the eyes of the transaction that has activated rows of
him; and there is one such transaction at most. -/
structure Bounded (w : StageWorld) : Prop where
  card : ∀ memberId, (w.state.active memberId).card ≤ 5
  sees : ∀ i r, w.At i r → ∀ memberId, activates r.writes memberId = true →
    ((memberStages.view r w.state).active memberId).card ≤ 5
  alone : ∀ i j r r' memberId, w.At i r → w.At j r' → activates r.writes memberId = true →
    activates r'.writes memberId = true → i = j

namespace StageLemmas

variable {w : StageWorld} {e : StageEvent} {i j : Nat}
  {r r' : ReadCommitted.Running MemberStage StagePoint} {rows : List MemberStage} {memberId : Nat}
  {next : Option StagePoint}

/-- In an orderly step, nobody else has activated what the statement activates. -/
theorem orderly_alone (hguard : w.orderly (.advance i) = true) (hat : w.At i r)
    (hst : stageStatement r.point (memberStages.view r w.state) = some ⟨rows, next⟩)
    (hactive : activates rows memberId = true) (hj : w.At j r') (hne : j ≠ i) :
    activates r'.writes memberId = false := by
  have hjoin : w.running[i]?.join = some r := Option.join_eq_some_iff.mpr hat
  unfold StageWorld.orderly at hguard
  simp only [hjoin, hst] at hguard
  obtain ⟨row, hrow, hmember⟩ := List.any_eq_true.mp hactive
  rw [Bool.and_eq_true, beq_iff_eq] at hmember
  obtain ⟨rfl, ha⟩ := hmember
  have hothers := List.all_eq_true.mp hguard row hrow
  rw [ha, Bool.not_true, Bool.false_or] at hothers
  have hmem : some r' ∈ w.running.set i none := by
    refine List.mem_of_getElem? (i := j) ?_
    rw [List.getElem?_set_ne hne.symm]
    exact hj
  exact (Bool.not_eq_true' _).mp (List.all_eq_true.mp hothers (some r') hmem)

/-- What a transaction sees when it has written `rows` too. -/
theorem view_card (h : Bounded w) (hat : w.At i r)
    (hst : stageStatement r.point (memberStages.view r w.state) = some ⟨rows, next⟩)
    (hactive : activates (r.writes ++ rows) memberId = true) :
    ((memberStages.applyAll (r.writes ++ rows) w.state).active memberId).card ≤ 5 := by
  rw [applyAll_append]
  obtain ⟨hcard, hsub⟩ := statement_checked hst memberId
  cases hrows : activates rows memberId with
  | true => exact hcard hrows
  | false =>
    rw [activates_append, hrows, Bool.or_false] at hactive
    exact (Finset.card_le_card (hsub hrows)).trans (h.sees i r hat memberId hactive)

/-- Nobody else has activated what the transaction will have activated by `rows`. -/
theorem alone_written (h : Bounded w) (hguard : w.orderly (.advance i) = true) (hat : w.At i r)
    (hst : stageStatement r.point (memberStages.view r w.state) = some ⟨rows, next⟩)
    (hactive : activates (r.writes ++ rows) memberId = true) (hj : w.At j r') (hne : j ≠ i) :
    activates r'.writes memberId = false := by
  rw [activates_append, Bool.or_eq_true] at hactive
  rcases hactive with hold | hnew
  · rw [Bool.eq_false_iff]
    exact fun hother => hne (h.alone j i r' r memberId hj hat hother hold)
  · exact orderly_alone hguard hat hst hnew hj hne

theorem bounded_ended (h : Bounded w) (i : Nat) :
    Bounded { w with running := w.running.set i none } := by
  refine ⟨h.card, fun j r hj => ?_, fun j k r r' memberId hj hk => ?_⟩
  · obtain ⟨_, hnone⟩ | ⟨_, hj⟩ := at_set hj
    · cases hnone
    · exact h.sees j r hj
  · obtain ⟨_, hnone⟩ | ⟨_, hj⟩ := at_set hj
    · cases hnone
    obtain ⟨_, hnone⟩ | ⟨_, hk⟩ := at_set hk
    · cases hnone
    exact h.alone j k r r' memberId hj hk

end StageLemmas

theorem bounded_step {w : StageWorld} {e : StageEvent} (h : Bounded w)
    (hguard : w.orderly e = true) : Bounded (w.step e) := by
  unfold StageWorld.step
  rcases ReadCommitted.step_cases memberStages (fun k _ => k.elim) w e with ⟨k, _⟩ | ⟨a, _, hstep⟩ |
    ⟨i, r, rows, point, rfl, hat, hst, _, hstep⟩ | ⟨i, r, rows, rfl, hat, hst, _, hstep⟩ |
    hstep | ⟨i, hstep⟩
  · exact k.elim
  · rw [hstep]
    refine ⟨h.card, fun j r hj => ?_, fun j k r r' memberId hj hk => ?_⟩
    · rcases Table.getElem?_append_one_some hj with hj | ⟨_, hnew⟩
      · exact h.sees j r hj
      · cases hnew
        exact fun _ hactive => absurd hactive Bool.false_ne_true
    · rcases Table.getElem?_append_one_some hj with hj | ⟨_, hnew⟩
      · rcases Table.getElem?_append_one_some hk with hk | ⟨_, hnew⟩
        · exact h.alone j k r r' memberId hj hk
        · cases hnew
          exact fun _ hactive => absurd hactive Bool.false_ne_true
      · cases hnew
        exact fun hactive => absurd hactive Bool.false_ne_true
  · rw [hstep]
    refine ⟨h.card, fun j r' hj memberId hactive => ?_,
      fun j k r₁ r₂ memberId hj hk h₁ h₂ => ?_⟩
    · -- the transaction that wrote sees its own rows, and no other one has activated the member
      obtain ⟨_, hown⟩ | ⟨_, hj⟩ := at_set hj
      · cases hown
        exact view_card (w := w) h hat hst hactive
      · exact h.sees j r' hj memberId hactive
    · obtain ⟨rfl, hown⟩ | ⟨hji, hj'⟩ := at_set hj
      · cases hown
        obtain ⟨rfl, _⟩ | ⟨hki, hk'⟩ := at_set hk
        · rfl
        · exact absurd h₂ (Bool.eq_false_iff.mp (alone_written h hguard hat hst h₁ hk' hki))
      · obtain ⟨rfl, hown⟩ | ⟨_, hk'⟩ := at_set hk
        · cases hown
          exact absurd h₁ (Bool.eq_false_iff.mp (alone_written h hguard hat hst h₂ hj' hji))
        · exact h.alone j k r₁ r₂ memberId hj' hk' h₁ h₂
  · -- what is committed takes stages in for the members that the transaction has activated only
    have hsub : ∀ memberId, activates (r.writes ++ rows) memberId = false →
        (memberStages.applyAll (r.writes ++ rows) w.state).active memberId ⊆
          w.state.active memberId := fun _ => applyAll_subset
    rw [hstep]
    refine ⟨fun memberId => ?_, fun j r' hj memberId hactive => ?_,
      (bounded_ended h i).alone⟩
    · cases hactive : activates (r.writes ++ rows) memberId with
      | true => exact view_card h hat hst hactive
      | false => exact (Finset.card_le_card (hsub memberId hactive)).trans (h.card memberId)
    · obtain ⟨_, hnone⟩ | ⟨hne, hj⟩ := at_set hj
      · cases hnone
      have hquiet : activates (r.writes ++ rows) memberId = false := by
        rw [Bool.eq_false_iff]
        intro hown
        rw [alone_written h hguard hat hst hown hj hne] at hactive
        cases hactive
      exact (Finset.card_le_card (applyAll_mono (hsub memberId hquiet))).trans
        (h.sees j r' hj memberId hactive)
  · rw [hstep]
    exact h
  · rw [hstep]
    exact bounded_ended h i

/-- No member has more than 5 active rows. -/
def StageTable.AtMostFive (t : StageTable) : Prop := ∀ memberId, (t.activeRows memberId).length ≤ 5

theorem bounded_run {t : StageTable} {events : List StageEvent} (hopening : t.AtMostFive)
    (hrun : Machine.Guarded StageWorld.step (fun w e => w.orderly e = true) ⟨t, []⟩ events) :
    (t.afterEvents events).AtMostFive := by
  have hopen : Bounded ⟨t, []⟩ := by
    refine ⟨fun memberId => ?_, fun i r hat => ?_, fun i j r r' memberId hat => ?_⟩
    · rw [card_active]
      exact hopening memberId
    · cases hat
    · cases hat
  have hall := Machine.run_induct (I := Bounded) (fun _ _ h hguard => bounded_step h hguard) hopen
    hrun
  intro memberId
  rw [← card_active]
  exact hall.card memberId

/-! ## 5. A profile patched by itself -/

/-- `patchProfile` when nobody else writes: the table it leaves, `none` when it throws. -/
def StageTable.patched (t : StageTable) (memberId : Nat) (stageIds : List Nat) : Option StageTable :=
  memberStages.alone (stageIds.eraseDups.length + 4)
    ⟨StageCall.entry (.patchProfile memberId (some stageIds)), []⟩ t

/-- The call and as many statements as it takes. -/
def patchEvents (memberId : Nat) (stageIds : List Nat) : List StageEvent :=
  .start (.patchProfile memberId (some stageIds)) ::
    List.replicate (stageIds.eraseDups.length + 4) (.advance 0)

/-- The call succeeds, and leaves the member active at exactly the named stages. -/
def StageTable.SetsExactly (t : StageTable) (memberId : Nat) (stageIds : List Nat) : Prop :=
  ∃ t', t.patched memberId stageIds = some t' ∧ t.afterEvents (patchEvents memberId stageIds) = t' ∧
    ∀ stageId, stageId ∈ t'.active memberId ↔ stageId ∈ stageIds

namespace StageLemmas

variable {t t' : StageTable} {row : MemberStage} {rows : List MemberStage} {memberId stageId : Nat}
  {left : List Nat}

theorem has_iff :
    t.has memberId stageId = true ↔ ∃ row ∈ t.rows, row.key = (memberId, stageId) := by
  unfold StageTable.has
  rw [List.any_eq_true]
  exact exists_congr fun row => and_congr_right fun _ => beq_iff_eq

theorem has_of_active (h : stageId ∈ t.active memberId) : t.has memberId stageId = true :=
  has_iff.mpr ⟨_, mem_active.mp h, rfl⟩

theorem has_put :
    (t.put row).has memberId stageId = true ↔
      row.key = (memberId, stageId) ∨ t.has memberId stageId = true := by
  rw [has_iff, has_iff]
  constructor
  · rintro ⟨old, hold, hkey⟩
    rcases mem_putRow.mp hold with rfl | ⟨hold, _⟩
    · exact .inl hkey
    · exact .inr ⟨old, hold, hkey⟩
  · rintro (hkey | ⟨old, hold, hkey⟩)
    · exact ⟨row, mem_putRow.mpr (.inl rfl), hkey⟩
    · by_cases hsame : old.key = row.key
      · exact ⟨row, mem_putRow.mpr (.inl rfl), hsame ▸ hkey⟩
      · exact ⟨old, mem_putRow.mpr (.inr ⟨hold, hsame⟩), hkey⟩

theorem has_applyAll (h : ∀ row ∈ rows, t.has row.memberId row.stageId = true) :
    (memberStages.applyAll rows t).has memberId stageId = t.has memberId stageId := by
  induction rows generalizing t with
  | nil => rfl
  | cons row rows ih =>
    rw [List.forall_mem_cons] at h
    refine (ih (t := t.put row) fun row' hrow' => has_put.mpr (.inr (h.2 row' hrow'))).trans ?_
    refine Bool.eq_iff_iff.mpr (has_put.trans (or_iff_right_of_imp fun hkey => ?_))
    obtain ⟨rfl, rfl⟩ := Prod.mk.inj hkey
    exact h.1

theorem active_applyAll (h : ∀ row ∈ rows, row.isActive = false)
    (hmem : stageId ∈ (memberStages.applyAll rows t).active memberId) :
    stageId ∈ t.active memberId ∧ ∀ row ∈ rows, row.key ≠ (memberId, stageId) := by
  induction rows generalizing t with
  | nil => exact ⟨hmem, fun _ hrow => absurd hrow List.not_mem_nil⟩
  | cons row rows ih =>
    rw [List.forall_mem_cons] at h
    obtain ⟨hput, hrows⟩ := ih (t := t.put row) h.2 hmem
    rcases mem_active_put.mp hput with rfl | ⟨hold, hkey⟩
    · exact absurd h.1.symm Bool.false_ne_true
    · exact ⟨hold, List.forall_mem_cons.mpr ⟨hkey, hrows⟩⟩

theorem passes_inactive (h : ∀ row ∈ rows, row.isActive = false) : t.passes rows = true := by
  induction rows generalizing t with
  | nil => rfl
  | cons row rows ih =>
    rw [List.forall_mem_cons] at h
    refine Bool.and_eq_true_iff.mpr ⟨?_, ih h.2⟩
    unfold StageTable.check_max_member_stages
    rw [h.1]
    rfl

/-- The rows by which the member leaves all his stages. -/
def deactivated (t : StageTable) (memberId : Nat) : List MemberStage :=
  (t.activeRows memberId).map fun row => { row with isActive := false }

theorem deactivated_inactive : ∀ row ∈ deactivated t memberId, row.isActive = false :=
  List.forall_mem_map.mpr fun _ _ => rfl

theorem deactivated_active :
    (memberStages.applyAll (deactivated t memberId) t).active memberId = ∅ := by
  refine Finset.eq_empty_of_forall_notMem fun stageId hmem => ?_
  obtain ⟨hold, hkeys⟩ := active_applyAll deactivated_inactive hmem
  refine hkeys ⟨memberId, stageId, false⟩ (List.mem_map.mpr ⟨⟨memberId, stageId, true⟩, ?_, rfl⟩) rfl
  refine List.mem_filter.mpr ⟨mem_active.mp hold, ?_⟩
  rw [beq_self_eq_true, Bool.and_self]

theorem deactivated_has :
    (memberStages.applyAll (deactivated t memberId) t).has memberId stageId =
      t.has memberId stageId := by
  refine has_applyAll (List.forall_mem_map.mpr fun row hrow => ?_)
  exact has_iff.mpr ⟨row, (List.mem_filter.mp hrow).1, rfl⟩

/-- A stage of which the member has a row makes the creation of rows throw. -/
theorem create_throws
    (h : ∃ stageId ∈ left, (memberStages.applyAll rows t).has memberId stageId = true) (fuel : Nat) :
    memberStages.alone fuel ⟨.create memberId left, rows⟩ t = none := by
  induction left generalizing rows fuel with
  | nil =>
    obtain ⟨_, hmem, _⟩ := h
    exact absurd hmem List.not_mem_nil
  | cons head left ih =>
    cases fuel with
    | zero => rfl
    | succ fuel =>
      cases hst : memberStages.statement (.create memberId (head :: left))
          (memberStages.view ⟨.create memberId (head :: left), rows⟩ t) with
      | none => exact alone_throws hst
      | some st =>
        have hstatement := hst
        change (if StageTable.has _ _ _ = true then _ else _) = _ at hstatement
        split at hstatement
        · cases hstatement
        next habsent =>
        obtain ⟨_, rfl⟩ := written_passes hstatement
        rw [alone_next hst]
        refine ih ?_ fuel
        obtain ⟨stageId, hmem, hhas⟩ := h
        rcases List.mem_cons.mp hmem with rfl | hmem
        · exact absurd hhas habsent
        · refine ⟨stageId, hmem, ?_⟩
          rw [applyAll_append]
          exact has_put.mpr (.inr hhas)

/-- Rows of stages of which the member has none are created, as long as he has at most 5. -/
theorem create_alone (hnodup : left.Nodup)
    (habsent : ∀ stageId ∈ left, (memberStages.applyAll rows t).has memberId stageId = false)
    (hcard : ((memberStages.applyAll rows t).active memberId).card + left.length ≤ 5) :
    ∃ t', memberStages.alone (left.length + 2) ⟨.create memberId left, rows⟩ t = some t' ∧
      t'.active memberId = (memberStages.applyAll rows t).active memberId ∪ left.toFinset := by
  induction left generalizing rows with
  | nil =>
    refine ⟨memberStages.applyAll rows t, ?_, (Finset.union_empty _).symm⟩
    show some (memberStages.applyAll (rows ++ [] ++ []) t) = _
    rw [List.append_nil, List.append_nil]
  | cons head left ih =>
    obtain ⟨hhead, hnodup⟩ := List.nodup_cons.mp hnodup
    rw [List.forall_mem_cons] at habsent
    rw [List.length_cons] at hcard
    -- the trigger counts the stages that are there
    have hcheck : (memberStages.applyAll rows t).check_max_member_stages ⟨memberId, head, true⟩ =
        true := by
      unfold StageTable.check_max_member_stages
      rw [count_others]
      have herase := Finset.card_erase_le (s := (memberStages.applyAll rows t).active memberId)
        (a := head)
      exact decide_eq_true (by dsimp only; omega)
    have hactive : (memberStages.applyAll (rows ++ [⟨memberId, head, true⟩]) t).active memberId =
        insert head ((memberStages.applyAll rows t).active memberId) := by
      rw [applyAll_append]
      ext stageId
      rw [Finset.mem_insert]
      refine mem_active_put.trans (or_congr ?_ ⟨fun h => h.1, fun h => ⟨h, fun hkey => ?_⟩⟩)
      · rw [MemberStage.mk.injEq]
        exact ⟨fun h => h.2.1.symm, fun h => ⟨rfl, h.symm, rfl⟩⟩
      · obtain rfl := (Prod.mk.inj hkey).2
        rw [has_of_active h] at habsent
        cases habsent.1
    have hst : memberStages.statement (.create memberId (head :: left))
        (memberStages.view ⟨.create memberId (head :: left), rows⟩ t) =
          some ⟨[⟨memberId, head, true⟩], some (.create memberId left)⟩ := by
      show (if StageTable.has _ _ _ = true then none else _) = _
      have hpasses : (memberStages.applyAll rows t).passes [⟨memberId, head, true⟩] = true :=
        Bool.and_eq_true_iff.mpr ⟨hcheck, rfl⟩
      rw [show (memberStages.view ⟨.create memberId (head :: left), rows⟩ t).has memberId head = false
        from habsent.1, if_neg Bool.false_ne_true]
      exact if_pos hpasses
    have hrest : ∀ stageId ∈ left,
        (memberStages.applyAll (rows ++ [⟨memberId, head, true⟩]) t).has memberId stageId = false := by
      intro stageId hmem
      rw [Bool.eq_false_iff, applyAll_append]
      intro hhas
      rcases has_put.mp hhas with hkey | hold
      · obtain rfl := (Prod.mk.inj hkey).2
        exact hhead hmem
      · rw [habsent.2 stageId hmem] at hold
        cases hold
    have hinsert := Finset.card_insert_le head ((memberStages.applyAll rows t).active memberId)
    obtain ⟨t', halone, hstages⟩ := ih hnodup hrest (by rw [hactive]; omega)
    refine ⟨t', (alone_next hst).trans halone, ?_⟩
    rw [hstages, hactive, List.toFinset_cons, Finset.insert_union, Finset.union_insert]

theorem stages_found {stages uniqueIds : List Nat} (hstages : stages.Nodup) (hids : uniqueIds.Nodup)
    (hmem : ∀ stageId ∈ uniqueIds, stageId ∈ stages) :
    stages.countP (fun stageId => uniqueIds.contains stageId) = uniqueIds.length := by
  rw [List.countP_eq_length_filter]
  refine (List.Perm.length_eq ?_)
  refine (List.perm_ext_iff_of_nodup (hstages.filter _) hids).mpr fun stageId => ?_
  rw [List.mem_filter, List.contains_iff_mem]
  exact ⟨fun h => h.2, fun h => ⟨hmem stageId h, h⟩⟩

/-- Once the stages are counted, the old rows are made inactive. -/
theorem patched_counted {stageIds : List Nat}
    (h : stageStatement (.countStages memberId stageIds.eraseDups) t =
      some ⟨[], some (.deactivate memberId stageIds.eraseDups)⟩) :
    t.patched memberId stageIds = memberStages.alone (stageIds.eraseDups.length + 2)
      ⟨.create memberId stageIds.eraseDups, deactivated t memberId⟩ t :=
  (alone_next (P := memberStages) (s := t)
      (r := ⟨StagePoint.countStages memberId stageIds.eraseDups, []⟩) h).trans
    (alone_next (P := memberStages) (s := t)
      (r := ⟨StagePoint.deactivate memberId stageIds.eraseDups, []⟩)
      (if_pos (passes_inactive deactivated_inactive)))

theorem counted {stageIds : List Nat} (h : ∀ stageId ∈ stageIds, stageId ∈ t.stages) :
    stageStatement (.countStages memberId stageIds.eraseDups) t =
      some ⟨[], some (.deactivate memberId stageIds.eraseDups)⟩ := by
  have hfound := stages_found t.stagesNodup (Grouped.nodup_eraseDups stageIds) fun stageId hmem =>
    h stageId (List.mem_eraseDups.mp hmem)
  unfold stageStatement
  dsimp only
  rw [hfound, bne_self_eq_false, Bool.and_false, if_neg Bool.false_ne_true]

theorem patched_throws {stageIds : List Nat}
    (h : ∃ stageId ∈ stageIds, t.has memberId stageId = true) :
    t.patched memberId stageIds = none := by
  cases hst : stageStatement (.countStages memberId stageIds.eraseDups) t with
  | none =>
    exact alone_throws (P := memberStages)
      (r := ⟨StagePoint.countStages memberId stageIds.eraseDups, []⟩) hst
  | some st =>
    have hstatement := hst
    unfold stageStatement at hstatement
    dsimp only at hstatement
    split at hstatement
    · cases hstatement
    obtain rfl := Option.some.inj hstatement
    obtain ⟨stageId, hmem, hhas⟩ := h
    rw [patched_counted hst]
    exact create_throws ⟨stageId, List.mem_eraseDups.mpr hmem, deactivated_has.trans hhas⟩ _

end StageLemmas

/-- A profile that is patched by itself, with at most 5 stages of the tenant, is set exactly when the
member has no row of any of them. -/
theorem patch_alone {t : StageTable} {memberId : Nat} {stageIds : List Nat}
    (hstages : ∀ stageId ∈ stageIds, stageId ∈ t.stages) (hfive : stageIds.eraseDups.length ≤ 5) :
    t.SetsExactly memberId stageIds ↔ ∀ stageId ∈ stageIds, t.has memberId stageId = false := by
  constructor
  · rintro ⟨t', hpatched, _⟩ stageId hmem
    rw [Bool.eq_false_iff]
    intro hhas
    rw [patched_throws ⟨stageId, hmem, hhas⟩] at hpatched
    cases hpatched
  · intro habsent
    obtain ⟨t', halone, hactive⟩ := @create_alone t (deactivated t memberId) memberId _
      (Grouped.nodup_eraseDups stageIds)
      (fun stageId hmem => deactivated_has.trans (habsent stageId (List.mem_eraseDups.mp hmem)))
      (by rw [deactivated_active, Finset.card_empty]; omega)
    have hpatched : t.patched memberId stageIds = some t' :=
      (patched_counted (counted hstages)).trans halone
    refine ⟨t', hpatched, ?_, fun stageId => ?_⟩
    · have hrun : Machine.run (memberStages.step fun k _ => Empty.elim k)
          ⟨t, [some ⟨StageCall.entry (.patchProfile memberId (some stageIds)), []⟩]⟩
          (List.replicate (stageIds.eraseDups.length + 4) (.advance 0)) = ⟨t', [none]⟩ :=
        run_alone _ _ _ _ hpatched
      exact congrArg World.state hrun
    · rw [hactive, deactivated_active, Finset.empty_union, List.mem_toFinset, List.mem_eraseDups]

/-- A patch that has succeeded and names a stage throws when it is repeated. -/
theorem patch_repeated {t t' : StageTable} {memberId : Nat} {stageIds : List Nat}
    (hstages : ∀ stageId ∈ stageIds, stageId ∈ t.stages) (hfive : stageIds.eraseDups.length ≤ 5)
    (hnamed : stageIds ≠ []) (h : t.patched memberId stageIds = some t') :
    t'.patched memberId stageIds = none := by
  obtain ⟨stageId, hmem⟩ := List.exists_mem_of_ne_nil stageIds hnamed
  have habsent : ∀ stageId ∈ stageIds, t.has memberId stageId = false := by
    intro stageId hmem
    rw [Bool.eq_false_iff]
    intro hhas
    rw [patched_throws ⟨stageId, hmem, hhas⟩] at h
    cases h
  obtain ⟨t'', hpatched, _, hactive⟩ := (patch_alone hstages hfive).mpr habsent
  obtain rfl := Option.some.inj (h.symm.trans hpatched)
  exact patched_throws ⟨stageId, hmem, has_of_active ((hactive stageId).mpr hmem)⟩

/-! ## 6. Both halves -/

/-- No member has more than 5 active rows in a run in which no two transactions have activated rows of
one member and not committed yet. A profile patched by itself is set exactly when the member has no row
of a named stage; when it names one, its repetition throws. -/
theorem member_stages (t : StageTable) (events : List StageEvent) (memberId : Nat)
    (stageIds : List Nat) :
    (t.AtMostFive →
      Machine.Guarded StageWorld.step (fun w e => w.orderly e = true) ⟨t, []⟩ events →
      (t.afterEvents events).AtMostFive) ∧
    ((∀ stageId ∈ stageIds, stageId ∈ t.stages) → stageIds.eraseDups.length ≤ 5 →
      (t.SetsExactly memberId stageIds ↔ ∀ stageId ∈ stageIds, t.has memberId stageId = false) ∧
      (stageIds ≠ [] → ∀ t', t.patched memberId stageIds = some t' →
        t'.patched memberId stageIds = none)) := by
  refine ⟨bounded_run, fun hstages hfive => ⟨patch_alone hstages hfive, fun hne t' hpatched => ?_⟩⟩
  exact patch_repeated hstages hfive hne hpatched

/-- Eight stages and no rows. -/
def exStages : StageTable where
  stages := [1, 2, 3, 4, 5, 6, 7, 8]
  rows := []
  stagesNodup := by decide
  keysNodup := by decide

/-- Member 1 is assigned to the stages; each assignment is committed before the next one counts. -/
def exAssigned (stageIds : List Nat) : List StageEvent :=
  stageIds.flatMap (fun stageId => [.start (.assignMember stageId 1 true)]) ++
    (List.range stageIds.length).flatMap fun i => [.advance i, .advance i, .advance i]

/-- Member 1 rides at two stages. -/
def exRiding : StageTable := exStages.afterEvents (exAssigned [1, 2])

/-- A member is created at two stages while another one is imported; one who rides at two others is
patched. -/
theorem member_stages_witness :
    (exStages.afterEvents [.start (.createMember 1 [1, 2]), .start (.processRow 2 1), .advance 0,
      .advance 0, .advance 1, .advance 0, .advance 1, .start (.assignMember 3 1 true), .advance 2,
      .advance 2, .advance 2]).AtMostFive ∧
    exRiding.SetsExactly 1 [4, 5, 4] ∧
    ∀ t', exRiding.patched 1 [4, 5, 4] = some t' → t'.patched 1 [4, 5, 4] = none := by
  have hboth := (member_stages exRiding [] 1 [4, 5, 4]).2 (by decide +kernel) (by decide)
  refine ⟨(member_stages exStages _ 1 []).1 (fun _ => Nat.zero_le 5) (by decide +kernel),
    hboth.1.mpr (by decide +kernel), hboth.2 (by decide)⟩

/-- Member 1 rides at four stages; two transactions take him to two more, and each of them counts
before the other one commits. -/
def exOverrun : StageTable :=
  exStages.afterEvents (exAssigned [1, 2, 3, 4] ++
    [.start (.assignMember 5 1 true), .start (.assignMember 6 1 true), .advance 4, .advance 5,
      .advance 4, .advance 5, .advance 4, .advance 5])

/-- Member 1 has left stage 1. -/
def exLeft : StageTable :=
  exStages.afterEvents (exAssigned [1] ++
    [.start (.assignMember 1 1 false), .advance 1, .advance 1, .advance 1])

theorem stages_overrun :
    (exOverrun.activeRows 1).map (·.stageId) = [1, 2, 3, 4, 5, 6] ∧ ¬ exOverrun.AtMostFive ∧
    exLeft.rows = [⟨1, 1, false⟩] ∧ exLeft.patched 1 [1] = none ∧ ¬ exLeft.SetsExactly 1 [1] := by
  have hoverrun : (exOverrun.activeRows 1).map (·.stageId) = [1, 2, 3, 4, 5, 6] := by
    decide +kernel
  have hthrows : (exLeft.patched 1 [1]).isNone = true := by decide +kernel
  have hnone : exLeft.patched 1 [1] = none := Option.isNone_iff_eq_none.mp hthrows
  refine ⟨hoverrun, fun h => ?_, by decide +kernel, hnone, fun h => ?_⟩
  · have hlength := h 1
    rw [← List.length_map (f := (·.stageId)), hoverrun] at hlength
    exact absurd hlength (by decide)
  · obtain ⟨t', hpatched, _⟩ := h
    rw [hnone] at hpatched
    cases hpatched

end BebaSacco
