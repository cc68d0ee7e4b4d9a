import BebaSacco.AuditEvents
import Mathlib.Data.List.Perm.Subperm

/-! # Runs of the audit queue

The queue delivers each job at least once: a worker that is lost after the commit and before the
acknowledgement has its job delivered again. A run is the list of the deliveries whose transactions
commit, in the order in which they do.

Results:
 1. `persistAll_keys`: every delivery writes its own row, a second delivery of a job too.
 2. `audit_chain_faithful_iff`: the chains pass and each job has one row exactly when each job is
    delivered once and a tenant's jobs commit in the order of their timestamps, ties by row id.
-/

namespace BebaSacco

open AuditEventsLemmas HashChain

/-- A committed delivery: the job and the uuid that its row gets. -/
structure Delivery where
  job : Nat
  id : Nat
  deriving DecidableEq, Repr

def AuditConfig.deliver (cfg : AuditConfig) (jobs : List AuditPersistJobPayload)
    (store : AuditStore) (d : Delivery) : AuditStore :=
  match jobs[d.job]? with
  | none => store
  | some payload => cfg.persistEvent d.id payload store

/-- The tables after the deliveries. -/
def AuditConfig.persistAll (cfg : AuditConfig) (jobs : List AuditPersistJobPayload)
    (deliveries : List Delivery) : AuditStore :=
  deliveries.foldl (cfg.deliver jobs) .empty

/-- The job that a row was written for. -/
def AuditEvent.job (row : AuditEvent) : AuditPersistJobPayload := ⟨row.timestamp, row.fields⟩

/-- No tenant's chain raises an alarm, and the rows are the jobs, one for each. -/
structure AuditConfig.Faithful (cfg : AuditConfig) (jobs : List AuditPersistJobPayload)
    (store : AuditStore) : Prop where
  valid : ∀ t, (cfg.verifyTenantChain t store.events).valid = true
  once : (store.events.map AuditEvent.job).Perm jobs

/-- The job of one delivery was enqueued before the one of the other, or together with it and its
row has the smaller id. -/
def enqueuedBefore (a b : Nat × AuditPersistJobPayload) : Bool :=
  a.2.timestamp.ms < b.2.timestamp.ms || (a.2.timestamp.ms == b.2.timestamp.ms && a.1 ≤ b.1)

def delivered (jobs : List AuditPersistJobPayload) (d : Delivery) :
    Option (Nat × AuditPersistJobPayload) :=
  jobs[d.job]?.map fun payload => (d.id, payload)

/-- Each job is delivered once, and the jobs of one tenant commit in the order in which they were
enqueued. -/
structure OnceInOrder (jobs : List AuditPersistJobPayload) (deliveries : List Delivery) : Prop where
  once : (deliveries.map Delivery.job).Nodup
  inOrder : (deliveries.filterMap (delivered jobs)).Pairwise fun a b =>
    a.2.fields.tenantId = b.2.fields.tenantId → enqueuedBefore a b = true

namespace AuditEventRunsLemmas

variable {cfg : AuditConfig} {jobs : List AuditPersistJobPayload} {deliveries : List Delivery}
  {store : AuditStore}

def rowKey (row : AuditEvent) : Nat × AuditPersistJobPayload := (row.id, row.job)

/-! ## 1. The rows of a run -/

theorem deliver_step (h : Persisted cfg store) (d : Delivery) :
    Persisted cfg (cfg.deliver jobs store d) ∧
    (cfg.deliver jobs store d).events.map rowKey =
      store.events.map rowKey ++ (delivered jobs d).toList := by
  unfold AuditConfig.deliver delivered
  cases jobs[d.job]? with
  | none => exact ⟨h, by simp⟩
  | some payload =>
    refine ⟨persisted_step h, ?_⟩
    simp only [persistEvent_eq h, List.map_append]
    rfl

theorem deliveries_run (h : Persisted cfg store) (deliveries : List Delivery) :
    Persisted cfg (deliveries.foldl (cfg.deliver jobs) store) ∧
    (deliveries.foldl (cfg.deliver jobs) store).events.map rowKey =
      store.events.map rowKey ++ deliveries.filterMap (delivered jobs) := by
  induction deliveries generalizing store with
  | nil => exact ⟨h, by simp⟩
  | cons d deliveries ih =>
    obtain ⟨hnext, hkeys⟩ := @deliver_step cfg jobs _ h d
    obtain ⟨hrun, hrest⟩ := ih hnext
    refine ⟨hrun, ?_⟩
    rw [List.foldl_cons, hrest, hkeys, List.append_assoc, List.filterMap_cons]
    cases delivered jobs d <;> rfl

theorem persisted_persistAll : Persisted cfg (cfg.persistAll jobs deliveries) :=
  (deliveries_run persisted_empty deliveries).1

/-- Every delivery of a job writes a row of its own. -/
theorem persistAll_keys : (cfg.persistAll jobs deliveries).events.map rowKey =
    deliveries.filterMap (delivered jobs) :=
  (deliveries_run persisted_empty deliveries).2

theorem persistAll_jobs : (cfg.persistAll jobs deliveries).events.map AuditEvent.job =
    (deliveries.map Delivery.job).filterMap (jobs[·]?) := by
  have hkeys := congrArg (List.map Prod.snd) (@persistAll_keys cfg jobs deliveries)
  rw [List.map_map, List.map_filterMap] at hkeys
  rw [List.filterMap_map]
  refine hkeys.trans (congrArg (List.filterMap · deliveries) ?_)
  funext d
  simp only [delivered, Function.comp, Option.map_map]
  cases jobs[d.job]? <;> rfl

/-! ## 2. Each job once -/

theorem filterMap_range (jobs : List AuditPersistJobPayload) :
    (List.range jobs.length).filterMap (jobs[·]?) = jobs := by
  induction jobs using List.reverseRecOn with
  | nil => rfl
  | append_singleton jobs payload ih =>
    have hold : (List.range jobs.length).filterMap ((jobs ++ [payload])[·]?) =
        (List.range jobs.length).filterMap (jobs[·]?) :=
      List.filterMap_congr fun i hi => List.getElem?_append_left (List.mem_range.mp hi)
    rw [List.length_append, List.length_singleton, List.range_succ, List.filterMap_append, hold, ih]
    simp

theorem length_filterMap_jobs {indices : List Nat} (h : ∀ i ∈ indices, i < jobs.length) :
    (indices.filterMap (jobs[·]?)).length = indices.length := by
  induction indices with
  | nil => rfl
  | cons i indices ih =>
    obtain ⟨hi, hrest⟩ := List.forall_mem_cons.mp h
    rw [List.filterMap_cons, List.getElem?_eq_getElem hi]
    simp [ih hrest]

/-- The rows are the jobs exactly when no index comes twice. -/
theorem perm_iff_nodup {indices : List Nat} (h : ∀ i, i ∈ indices ↔ i < jobs.length) :
    (indices.filterMap (jobs[·]?)).Perm jobs ↔ indices.Nodup := by
  have hsub : (List.range jobs.length).Subperm indices :=
    List.nodup_range.subperm fun i hi => (h i).mpr (List.mem_range.mp hi)
  constructor
  · intro hperm
    have hlength : indices.length ≤ (List.range jobs.length).length := by
      rw [List.length_range, ← hperm.length_eq, length_filterMap_jobs fun i hi => (h i).mp hi]
    exact (hsub.perm_of_length_le hlength).nodup_iff.mp List.nodup_range
  · intro hnodup
    have hperm : indices.Perm (List.range jobs.length) :=
      (List.perm_ext_iff_of_nodup hnodup List.nodup_range).mpr fun i => by
        rw [h i, List.mem_range]
    exact (hperm.filterMap _).trans (List.Perm.of_eq (filterMap_range jobs))

/-! ## 3. The order -/

theorem pairwise_tenants_iff {α β : Type} (tenant : α → β) (R : α → α → Prop) {l : List α} :
    (∀ t, l.Pairwise fun a b => tenant a = t → tenant b = t → R a b) ↔
      l.Pairwise fun a b => tenant a = tenant b → R a b := by
  constructor
  · intro h
    rw [List.pairwise_iff_getElem]
    intro i j hi hj hij htenant
    exact List.pairwise_iff_getElem.mp (h (tenant l[i])) i j hi hj hij rfl htenant.symm
  · intro h t
    exact h.imp fun hab ha hb => hab (ha.trans hb.symm)

/-- The walks are in the order of writing exactly when a tenant's rows are, pair by pair. -/
theorem inOrder_iff {events : List AuditEvent} :
    (∀ t, InOrder (tenantRows t events)) ↔
      (events.map rowKey).Pairwise fun a b =>
        a.2.fields.tenantId = b.2.fields.tenantId → enqueuedBefore a b = true := by
  rw [List.pairwise_map]
  refine Iff.trans ?_ (pairwise_tenants_iff (fun row : AuditEvent => row.fields.tenantId)
    fun a b => rowLe a b = true)
  refine forall_congr' fun t => ?_
  rw [InOrder, tenantRows, List.pairwise_filter]
  simp only [beq_iff_eq]

end AuditEventRunsLemmas

open AuditEventRunsLemmas

/-! ## 4. No false alarm -/

/-- After a run that delivers every job at least once, the chains pass and the rows are the jobs
exactly when the run delivers each job once and in order. -/
theorem audit_chain_faithful_iff (cfg : AuditConfig) {jobs : List AuditPersistJobPayload}
    {deliveries : List Delivery}
    (hall : ∀ j, j ∈ deliveries.map Delivery.job ↔ j < jobs.length) :
    cfg.Faithful jobs (cfg.persistAll jobs deliveries) ↔ OnceInOrder jobs deliveries := by
  have hvalid : (∀ t, (cfg.verifyTenantChain t (cfg.persistAll jobs deliveries).events).valid =
      true) ↔ (deliveries.filterMap (delivered jobs)).Pairwise fun a b =>
        a.2.fields.tenantId = b.2.fields.tenantId → enqueuedBefore a b = true := by
    rw [← @persistAll_keys cfg jobs deliveries, ← inOrder_iff]
    exact forall_congr' (verify_persisted_iff persisted_persistAll)
  have honce : ((cfg.persistAll jobs deliveries).events.map AuditEvent.job).Perm jobs ↔
      (deliveries.map Delivery.job).Nodup := by
    rw [persistAll_jobs]
    exact perm_iff_nodup hall
  constructor
  · intro h
    exact ⟨honce.mp h.once, hvalid.mp h.valid⟩
  · intro h
    exact ⟨hvalid.mpr h.inOrder, honce.mpr h.once⟩

/-! ### Two jobs of one tenant -/

def exNull : JsonValue := ⟨.null, rfl⟩

/-- A job without optional fields. -/
def exJob (action : String) (timestamp : Timestamp) : AuditPersistJobPayload :=
  { timestamp
    fields :=
      { correlationId := "c", tenantId := "T", userId := none, role := none, action
        resourceType := none, resourceId := none, oldState := exNull, newState := exNull
        metadata := exNull, ip := none, userAgent := none, endpoint := none, method := none
        statusCode := ⟨"0", rfl⟩, success := true, errorCode := none } }

def exJobs : List AuditPersistJobPayload :=
  [exJob "LOGIN" ⟨1000, by decide⟩, exJob "LOGOUT" ⟨2000, by decide⟩]

def exConfig : AuditConfig :=
  ⟨unaryHash, fun secret text => unaryHash.digest (secret ++ text), some "secret"⟩

theorem audit_chain_faithful_in_order :
    exConfig.Faithful exJobs (exConfig.persistAll exJobs [⟨0, 7⟩, ⟨1, 3⟩]) :=
  (audit_chain_faithful_iff exConfig (by intro j; simp [exJobs]; omega)).mpr
    ⟨by decide, by decide⟩

/-- The second job commits first, or the first one is delivered again after its commit. -/
theorem audit_chain_false_alarm :
    ¬ exConfig.Faithful exJobs (exConfig.persistAll exJobs [⟨1, 3⟩, ⟨0, 7⟩]) ∧
    ¬ exConfig.Faithful exJobs (exConfig.persistAll exJobs [⟨0, 7⟩, ⟨1, 3⟩, ⟨1, 9⟩]) := by
  constructor
  · intro h
    have horder := inOrder_iff.mp fun t => (verify_persisted_iff persisted_persistAll t).mp (h.valid t)
    rw [persistAll_keys] at horder
    exact absurd horder (by decide)
  · intro h
    have hlength := h.once.length_eq
    rw [persistAll_jobs] at hlength
    exact absurd hlength (by decide)

end BebaSacco
