import BebaSacco.AuditEventRuns

/-! # Tampering with the audit event chain

Someone who cannot sign rewrites a tenant's rows: a signature that verifies was made for a hash of
the stored history. `verifyTenantChain` reads the rows only, never the head.

Results:
 1. `walk_beginning`: rows that pass are a beginning of the stored chain.
 2. `tampering_detected_iff`: different rows fail exactly when they are not the stored chain with its
    last rows cut off.
-/

namespace BebaSacco

open AuditEventsLemmas HashChain

/-- The contents of a tenant's rows in the order in which they are verified. -/
def auditWalk (t : String) (events : List AuditEvent) : List RowContents :=
  (orderedRows t events).map AuditEvent.contents

/-- The signatures of a tenant's rows verify. -/
def AuditConfig.Signed (cfg : AuditConfig) (t : String) (events : List AuditEvent) : Prop :=
  ∀ row ∈ orderedRows t events,
    cfg.verifySignature row.fields.tenantId row.eventHash row.signature = true

/-- Nobody but the program signs: a row whose signature verifies has a stored row's hash. -/
def AuditConfig.Unforgeable (cfg : AuditConfig) (t : String) (stored events : List AuditEvent) :
    Prop :=
  ∀ row ∈ orderedRows t events, cfg.verifySignature t row.eventHash row.signature = true →
    ∃ original ∈ orderedRows t stored, original.eventHash = row.eventHash

/-- The rows are the stored ones without the last of them. -/
def Truncated (t : String) (stored events : List AuditEvent) : Prop :=
  auditWalk t events <+: auditWalk t stored

namespace AuditTamperingLemmas

variable {cfg : AuditConfig} {t : String} {stored events : List AuditEvent} {h : String}
  {rows : List AuditEvent}

theorem linked_contents :
    Linked RowContents.prevHash RowContents.eventHash h (rows.map AuditEvent.contents) ↔
      Chain h rows := by
  induction rows generalizing h with
  | nil => exact Iff.rfl
  | cons row rows ih => exact and_congr Iff.rfl ih

/-! ## 1. Rows that pass -/

theorem walk_beginning (hstored : (cfg.verifyTenantChain t stored).valid = true)
    (hevents : (cfg.verifyTenantChain t events).valid = true)
    (hunforgeable : cfg.Unforgeable t stored events) : Truncated t stored events := by
  obtain ⟨hchain, hgenuine⟩ := verifyTenantChain_iff.mp hstored
  obtain ⟨hchain', hgenuine'⟩ := verifyTenantChain_iff.mp hevents
  have hlink := link_of_chain (.inl rfl) hchain hgenuine
  have hlink' := link_of_chain (.inl rfl) hchain' hgenuine'
  have hnodup := chain_heads_nodup hchain hgenuine
  refine @linked_beginning _ RowContents.prevHash RowContents.eventHash _ _ _ ?_
    (linked_contents.mpr hchain) (linked_contents.mpr hchain') ?_
  · rw [auditWalk, List.map_map]
    exact hnodup
  · -- a row that passes is signed, so its hash is a stored one, and the hash covers the contents
    intro contents hcontents
    obtain ⟨row, hrow, rfl⟩ := List.mem_map.mp hcontents
    have hsigned := signature_of_genuine (hgenuine' row hrow)
    rw [(mem_orderedRows.mp hrow).2] at hsigned
    obtain ⟨original, horiginal, heq⟩ := hunforgeable row hrow hsigned
    rw [← contents_inj (hgenuine original horiginal) (hgenuine' row hrow) (hlink original horiginal)
      (hlink' row hrow) heq]
    exact List.mem_map_of_mem horiginal

/-! ## 2. A stored chain that is cut off -/

theorem genuine_of_contents {row original : AuditEvent} (hgenuine : cfg.genuine original = true)
    (hcontents : row.contents = original.contents)
    (hsigned : cfg.verifySignature row.fields.tenantId row.eventHash row.signature = true) :
    cfg.genuine row = true := by
  have hfields : row.fields = original.fields := congrArg RowContents.fields hcontents
  have htimestamp : row.timestamp = original.timestamp := congrArg RowContents.timestamp hcontents
  have hprev : row.prevHash = original.prevHash := congrArg RowContents.prevHash hcontents
  have hhash : row.eventHash = original.eventHash := congrArg RowContents.eventHash hcontents
  rw [AuditConfig.genuine, hsigned, Bool.and_true, beq_iff_eq, hfields, htimestamp, hprev, hhash]
  exact eventHash_of_genuine hgenuine

theorem valid_of_truncated (hstored : (cfg.verifyTenantChain t stored).valid = true)
    (htruncated : Truncated t stored events) (hsigned : cfg.Signed t events) :
    (cfg.verifyTenantChain t events).valid = true := by
  obtain ⟨hchain, hgenuine⟩ := verifyTenantChain_iff.mp hstored
  refine verifyTenantChain_iff.mpr ⟨?_, fun row hrow => ?_⟩
  · obtain ⟨rest, hrest⟩ := htruncated
    rw [← linked_contents, ← auditWalk, ← hrest] at hchain
    exact linked_contents.mp (linked_append.mp hchain).1
  · have hmem : row.contents ∈ auditWalk t stored :=
      htruncated.subset (List.mem_map_of_mem hrow)
    obtain ⟨original, horiginal, heq⟩ := List.mem_map.mp hmem
    exact genuine_of_contents (hgenuine original horiginal) heq.symm (hsigned row hrow)

end AuditTamperingLemmas

open AuditTamperingLemmas

/-! ## 3. Detection -/

/-- Rows are reported exactly when they are not the stored ones, all or without the last of them,
each with a signature that verifies. -/
theorem tampering_detected_iff {cfg : AuditConfig} {t : String} {stored events : List AuditEvent}
    (hstored : (cfg.verifyTenantChain t stored).valid = true)
    (hunforgeable : cfg.Unforgeable t stored events) :
    (cfg.verifyTenantChain t events).valid = false ↔
      ¬ (Truncated t stored events ∧ cfg.Signed t events) := by
  rw [← Bool.not_eq_true, not_iff_not]
  constructor
  · intro hevents
    have hgenuine := (verifyTenantChain_iff.mp hevents).2
    exact ⟨walk_beginning hstored hevents hunforgeable,
      fun row hrow => signature_of_genuine (hgenuine row hrow)⟩
  · rintro ⟨htruncated, hsigned⟩
    exact valid_of_truncated hstored htruncated hsigned

/-- The chain after two jobs, a login and a logout. -/
def exStored : List AuditEvent := (exConfig.persistAll exJobs [⟨0, 7⟩, ⟨1, 3⟩]).events

/-- The same rows with the login called a logout. -/
def exEdited : List AuditEvent :=
  exStored.map fun row => { row with fields := { row.fields with action := "LOGOUT" } }

theorem exStored_valid : (exConfig.verifyTenantChain "T" exStored).valid = true := by
  refine (verify_persisted_iff AuditEventRunsLemmas.persisted_persistAll "T").mpr
    (AuditEventRunsLemmas.inOrder_iff.mpr ?_ "T")
  rw [AuditEventRunsLemmas.persistAll_keys]
  decide

theorem exStored_jobs : exStored.map AuditEvent.job = exJobs := AuditEventRunsLemmas.persistAll_jobs

/-- An edited action is reported. -/
theorem tampering_detected_edit : (exConfig.verifyTenantChain "T" exEdited).valid = false := by
  refine (tampering_detected_iff exStored_valid fun row hrow _ => ?_).mpr ?_
  · -- a row that is edited keeps its hash
    obtain ⟨hmem, htenant⟩ := mem_orderedRows.mp hrow
    obtain ⟨original, horiginal, rfl⟩ := List.mem_map.mp hmem
    exact ⟨original, mem_orderedRows.mpr ⟨horiginal, htenant⟩, rfl⟩
  · rintro ⟨hbeginning, -⟩
    have hlogin : exJob "LOGIN" ⟨1000, by decide⟩ ∈ exStored.map AuditEvent.job := by
      rw [exStored_jobs]
      exact List.mem_cons_self
    obtain ⟨login, hlogin, hjob⟩ := List.mem_map.mp hlogin
    have hfields : login.fields = (exJob "LOGIN" ⟨1000, by decide⟩).fields :=
      congrArg AuditPersistJobPayload.fields hjob
    have hlength : (auditWalk "T" exEdited).length = (auditWalk "T" exStored).length := by
      unfold auditWalk orderedRows tenantRows exEdited
      simp only [List.length_map, List.length_insertionSort, List.filter_map]
      rfl
    have hmem : login.contents ∈ auditWalk "T" exEdited := by
      rw [hbeginning.eq_of_length hlength]
      exact List.mem_map_of_mem (mem_orderedRows.mpr ⟨hlogin, congrArg (·.tenantId) hfields⟩)
    obtain ⟨row, hrow, hcontents⟩ := List.mem_map.mp hmem
    obtain ⟨original, -, rfl⟩ := List.mem_map.mp (mem_orderedRows.mp hrow).1
    have haction : "LOGOUT" = login.fields.action := congrArg (·.fields.action) hcontents
    rw [hfields] at haction
    exact absurd haction (by decide)

/-- Without its rows the chain still passes. -/
theorem deletion_undetected :
    exStored ≠ [] ∧ (exConfig.verifyTenantChain "T" exStored).valid = true ∧
    (exConfig.verifyTenantChain "T" []).valid = true := by
  refine ⟨fun h => ?_, exStored_valid, rfl⟩
  have hjobs := exStored_jobs
  rw [h] at hjobs
  cases hjobs

end BebaSacco
