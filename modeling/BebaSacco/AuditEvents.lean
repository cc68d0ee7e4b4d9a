import BebaSacco.Lib.HashChain
import BebaSacco.Lib.IsoDate
import BebaSacco.Lib.Json

/-! # The audit event chain

`persistEvent` appends one row to a tenant's chain under its locked head; `verifyTenantChain` walks
the rows in the order of their timestamps. The hash function, the HMAC and its secret are parameters.
A row's id is kept as the place of its uuid in the order in which the database sorts them.

Results:
 1. `hashInput_inj`: the three joined parts are read off the text that is hashed.
 2. `verifyRows_none_iff`: what a walk checks: the links, the hashes and the signatures.
 3. `persisted_step`: one event keeps every tenant's chain linked, under its head.
 4. `verify_persisted_iff`: a persisted chain passes exactly when its rows are in order.
 5. `contents_inj`: a hash covers the contents of a row.
-/

namespace BebaSacco

open Json HashChain

def GENESIS_HASH : String := "GENESIS"

/-- A JSON value as a payload or a `jsonb` column holds it: its objects have no order. -/
structure JsonValue where
  value : Json
  ordered : value.sorted = true

/-- The fields of `AuditPersistJobPayload` that are hashed. A missing one is null. -/
structure AuditFields where
  correlationId : String
  tenantId : String
  userId : Option String
  role : Option String
  action : String
  resourceType : Option String
  resourceId : Option String
  oldState : JsonValue
  newState : JsonValue
  metadata : JsonValue
  ip : Option String
  userAgent : Option String
  endpoint : Option String
  method : Option String
  statusCode : JsonNumber
  success : Bool
  errorCode : Option String

/-- A job of the queue. `enqueue` gives each its timestamp. -/
structure AuditPersistJobPayload where
  timestamp : Timestamp
  fields : AuditFields

/-- A row of the table. -/
structure AuditEvent where
  id : Nat
  timestamp : Timestamp
  fields : AuditFields
  prevHash : String
  eventHash : String
  signature : String

structure AuditChainHead where
  lastHash : String
  sequence : Nat
  deriving DecidableEq, Repr

/-- The two tables. A head is found by its tenant. -/
structure AuditStore where
  events : List AuditEvent
  heads : String → Option AuditChainHead

structure AuditConfig where
  sha256 : HashFunction
  hmac : String → String → String
  hmacSecret : Option String

def AuditStore.empty : AuditStore := ⟨[], fun _ => none⟩

/-! ## The hash and the signature -/

/-- The object that is hashed, its properties in the order of their keys. -/
def AuditFields.toJson (f : AuditFields) : Json :=
  .object
    [("action", .string f.action), ("correlationId", .string f.correlationId),
      ("endpoint", textOrNull f.endpoint), ("errorCode", textOrNull f.errorCode),
      ("ip", textOrNull f.ip), ("metadata", f.metadata.value), ("method", textOrNull f.method),
      ("newState", f.newState.value), ("oldState", f.oldState.value),
      ("resourceId", textOrNull f.resourceId), ("resourceType", textOrNull f.resourceType),
      ("role", textOrNull f.role), ("statusCode", .number f.statusCode),
      ("success", .bool f.success), ("tenantId", .string f.tenantId),
      ("userAgent", textOrNull f.userAgent), ("userId", textOrNull f.userId)]

/-- `canonicalJson` -/
def canonicalJson (value : Json) : String := String.ofList (print sortProperties value)

def hashInput (prevHash serializedPayload isoTimestamp : String) : String :=
  prevHash ++ "|" ++ serializedPayload ++ "|" ++ isoTimestamp

def AuditConfig.eventHash (cfg : AuditConfig) (prevHash : String) (fields : AuditFields)
    (timestamp : Timestamp) : String :=
  cfg.sha256.digest (hashInput prevHash (canonicalJson fields.toJson) timestamp.toISOString)

/-- `getTenantSecret` -/
def AuditConfig.getTenantSecret (cfg : AuditConfig) (tenantId : String) : String :=
  match cfg.hmacSecret with
  | none => tenantId
  | some secret => if secret == "" then tenantId else tenantId ++ ":" ++ secret

def AuditConfig.sign (cfg : AuditConfig) (tenantId eventHash : String) : String :=
  cfg.hmac (cfg.getTenantSecret tenantId) eventHash

/-- `Buffer.from(text, 'hex')`: the bytes up to the first pair that is not hexadecimal. -/
def hexBytes : List Char → List Nat
  | high :: low :: rest =>
    if hexDigitChar high && hexDigitChar low then
      (16 * nibble high + nibble low) :: hexBytes rest
    else []
  | _ => []
where
  hexDigitChar (c : Char) : Bool := hexChar c || (c.toNat ≥ 65 && c.toNat ≤ 70)
  nibble (c : Char) : Nat :=
    if c.toNat < 58 then c.toNat - 48 else if c.toNat < 71 then c.toNat - 55 else c.toNat - 87

def AuditConfig.verifySignature (cfg : AuditConfig) (tenantId eventHash signature : String) : Bool :=
  hexBytes (cfg.sign tenantId eventHash).toList == hexBytes signature.toList

/-! ## Writing and verifying the chain -/

/-- `lockChainHead`: the head, inserted first when there is none. -/
def AuditStore.lockChainHead (store : AuditStore) (tenantId : String) : AuditChainHead :=
  (store.heads tenantId).getD ⟨GENESIS_HASH, 0⟩

def AuditStore.setHead (store : AuditStore) (tenantId : String) (head : AuditChainHead) :
    AuditStore :=
  { store with heads := fun t => if t == tenantId then some head else store.heads t }

/-- `persistEvent`, one Serializable transaction; `id` is the fresh uuid of the row. -/
def AuditConfig.persistEvent (cfg : AuditConfig) (id : Nat) (payload : AuditPersistJobPayload)
    (store : AuditStore) : AuditStore :=
  let tenantId := payload.fields.tenantId
  let head := store.lockChainHead tenantId
  let prevHash := if head.lastHash == "" then GENESIS_HASH else head.lastHash
  let eventHash := cfg.eventHash prevHash payload.fields payload.timestamp
  let row : AuditEvent :=
    { id, timestamp := payload.timestamp, fields := payload.fields, prevHash, eventHash
      signature := cfg.sign tenantId eventHash }
  -- the unique key is the tenant with the hash: a conflict leaves the table as it is
  let conflict := store.events.any fun event =>
    event.fields.tenantId == tenantId && event.eventHash == eventHash
  let events := if conflict then store.events else store.events ++ [row]
  { store with events }.setHead tenantId ⟨eventHash, head.sequence + 1⟩

def tenantRows (tenantId : String) (events : List AuditEvent) : List AuditEvent :=
  events.filter fun event => event.fields.tenantId == tenantId

/-- `ORDER BY timestamp ASC, id ASC` -/
def rowLe (a b : AuditEvent) : Bool :=
  a.timestamp.ms < b.timestamp.ms || (a.timestamp.ms == b.timestamp.ms && a.id ≤ b.id)

/-- The rows of a tenant in the order in which they are verified. -/
def orderedRows (tenantId : String) (events : List AuditEvent) : List AuditEvent :=
  (tenantRows tenantId events).insertionSort fun a b => rowLe a b = true

/-- The recomputed hash and the signature of a row are right. -/
def AuditConfig.genuine (cfg : AuditConfig) (row : AuditEvent) : Bool :=
  cfg.eventHash row.prevHash row.fields row.timestamp == row.eventHash &&
    cfg.verifySignature row.fields.tenantId row.eventHash row.signature

/-- The loop of `verifyTenantChain`: the id of the first row that fails. -/
def AuditConfig.verifyRows (cfg : AuditConfig) : String → List AuditEvent → Option Nat
  | _, [] => none
  | previous, row :: rows =>
    if row.prevHash != previous then some row.id
    else if !cfg.genuine row then some row.id
    else cfg.verifyRows row.eventHash rows

structure ChainVerdict where
  valid : Bool
  failedAt : Option Nat
  deriving DecidableEq, Repr

def AuditConfig.verifyTenantChain (cfg : AuditConfig) (tenantId : String)
    (events : List AuditEvent) : ChainVerdict :=
  match cfg.verifyRows GENESIS_HASH (orderedRows tenantId events) with
  | some id => ⟨false, some id⟩
  | none => ⟨true, none⟩

namespace AuditEventsLemmas

variable {cfg : AuditConfig} {t : String} {events rows : List AuditEvent} {row : AuditEvent}
  {store : AuditStore} {payload : AuditPersistJobPayload} {id : Nat}

/-! ## 1. The text that is hashed -/

theorem hashInput_toList (prevHash payload iso : String) :
    (hashInput prevHash payload iso).toList =
      prevHash.toList ++ '|' :: (payload.toList ++ '|' :: iso.toList) := by
  simp [hashInput]

theorem prevHash_of_hashInput {p p' s s' i i' : String} (hp : '|' ∉ p.toList)
    (hp' : '|' ∉ p'.toList) (h : hashInput p s i = hashInput p' s' i') :
    p = p' ∧ s.toList ++ '|' :: i.toList = s'.toList ++ '|' :: i'.toList := by
  have hlist := congrArg String.toList h
  rw [hashInput_toList, hashInput_toList] at hlist
  obtain ⟨hprev, hrest⟩ := split_first hp hp' hlist
  exact ⟨String.toList_inj.mp hprev, hrest⟩

/-- The separator does not occur in a hash nor in an ISO date, so the parts can be read off. -/
theorem hashInput_inj {p p' s s' i i' : String} (hp : '|' ∉ p.toList) (hp' : '|' ∉ p'.toList)
    (hi : '|' ∉ i.toList) (hi' : '|' ∉ i'.toList) (h : hashInput p s i = hashInput p' s' i') :
    p = p' ∧ s = s' ∧ i = i' := by
  obtain ⟨hprev, hrest⟩ := prevHash_of_hashInput hp hp' h
  obtain ⟨hpayload, hiso⟩ := split_last hi hi' hrest
  exact ⟨hprev, String.toList_inj.mp hpayload, String.toList_inj.mp hiso⟩

theorem digest_no_bar (H : HashFunction) (s : String) : '|' ∉ (H.digest s).toList := by
  intro hmem
  exact absurd (List.all_eq_true.mp (H.hex s) _ hmem) (by decide)

theorem digest_ne_genesis (H : HashFunction) (s : String) : H.digest s ≠ GENESIS_HASH := by
  intro heq
  have hmem : 'G' ∈ (H.digest s).toList := by rw [heq]; decide
  exact absurd (List.all_eq_true.mp (H.hex s) _ hmem) (by decide)

theorem iso_no_bar (timestamp : Timestamp) : '|' ∉ timestamp.toISOString.toList :=
  timestamp.not_mem_toISOString (by decide)

/-- What a row may name as the hash before it. -/
def Link (cfg : AuditConfig) (h : String) : Prop :=
  h = GENESIS_HASH ∨ ∃ s, h = cfg.sha256.digest s

theorem Link.no_bar {h : String} (hlink : Link cfg h) : '|' ∉ h.toList := by
  rcases hlink with rfl | ⟨s, rfl⟩
  · decide
  · exact digest_no_bar cfg.sha256 s

theorem link_eventHash (p : String) (f : AuditFields) (i : Timestamp) :
    Link cfg (cfg.eventHash p f i) :=
  .inr ⟨_, rfl⟩

/-! ## 2. The walk -/

/-- The rows are linked from `h` on. -/
abbrev Chain (h : String) (rows : List AuditEvent) : Prop :=
  Linked AuditEvent.prevHash AuditEvent.eventHash h rows

theorem verifyRows_none_iff {previous : String} :
    cfg.verifyRows previous rows = none ↔
      Chain previous rows ∧ ∀ row ∈ rows, cfg.genuine row = true := by
  induction rows generalizing previous with
  | nil => exact ⟨fun _ => ⟨trivial, fun row hrow => absurd hrow List.not_mem_nil⟩, fun _ => rfl⟩
  | cons row rows ih =>
    rw [AuditConfig.verifyRows, List.forall_mem_cons]
    constructor
    · intro h
      split at h
      · cases h
      · next hprev =>
        split at h
        · cases h
        · next hgenuine =>
          obtain ⟨hchain, hrows⟩ := ih.mp h
          exact ⟨⟨by simpa using hprev, hchain⟩, by simpa using hgenuine, hrows⟩
    · rintro ⟨⟨hprev, hchain⟩, hgenuine, hrows⟩
      rw [if_neg (by simpa using hprev), if_neg (by simpa using hgenuine)]
      exact ih.mpr ⟨hchain, hrows⟩

theorem verifyTenantChain_iff :
    (cfg.verifyTenantChain t events).valid = true ↔
      Chain GENESIS_HASH (orderedRows t events) ∧
        ∀ row ∈ orderedRows t events, cfg.genuine row = true := by
  rw [← verifyRows_none_iff, AuditConfig.verifyTenantChain]
  cases cfg.verifyRows GENESIS_HASH (orderedRows t events) with
  | none => exact iff_of_true rfl rfl
  | some id => exact iff_of_false Bool.false_ne_true (by simp)

theorem mem_orderedRows : row ∈ orderedRows t events ↔ row ∈ events ∧ row.fields.tenantId = t := by
  rw [orderedRows, List.mem_insertionSort, tenantRows, List.mem_filter, beq_iff_eq]

theorem eventHash_of_genuine (h : cfg.genuine row = true) :
    cfg.eventHash row.prevHash row.fields row.timestamp = row.eventHash :=
  beq_iff_eq.mp (Bool.and_eq_true_iff.mp h).1

theorem signature_of_genuine (h : cfg.genuine row = true) :
    cfg.verifySignature row.fields.tenantId row.eventHash row.signature = true :=
  (Bool.and_eq_true_iff.mp h).2

/-- Every row of a chain of genuine rows names a hash, or the genesis. -/
theorem link_of_chain {h : String} (hh : Link cfg h) (hchain : Chain h rows)
    (hgenuine : ∀ row ∈ rows, cfg.genuine row = true) :
    ∀ row ∈ rows, Link cfg row.prevHash := by
  induction rows generalizing h with
  | nil => intro row hrow; cases hrow
  | cons first rows ih =>
    obtain ⟨hfirst, hrest⟩ := hchain
    obtain ⟨hg, hgrest⟩ := List.forall_mem_cons.mp hgenuine
    have hnext : Link cfg first.eventHash := eventHash_of_genuine hg ▸ link_eventHash _ _ _
    exact List.forall_mem_cons.mpr ⟨hfirst.symm ▸ hh, ih hnext hrest hgrest⟩

/-- The hash of a genuine row covers its link. -/
theorem prevHash_of_eventHash {row row' : AuditEvent} (hg : cfg.genuine row = true)
    (hg' : cfg.genuine row' = true) (hl : Link cfg row.prevHash) (hl' : Link cfg row'.prevHash)
    (h : row.eventHash = row'.eventHash) : row.prevHash = row'.prevHash := by
  rw [← eventHash_of_genuine hg, ← eventHash_of_genuine hg'] at h
  exact (prevHash_of_hashInput hl.no_bar hl'.no_bar (cfg.sha256.inj h)).1

theorem eventHash_ne_genesis (hg : cfg.genuine row = true) : row.eventHash ≠ GENESIS_HASH :=
  eventHash_of_genuine hg ▸ digest_ne_genesis cfg.sha256 _

/-- In a chain of genuine rows no hash comes twice. -/
theorem chain_heads_nodup (hchain : Chain GENESIS_HASH rows)
    (hgenuine : ∀ row ∈ rows, cfg.genuine row = true) :
    (GENESIS_HASH :: rows.map AuditEvent.eventHash).Nodup := by
  have hlink := link_of_chain (.inl rfl) hchain hgenuine
  refine heads_nodup (fun row hrow => eventHash_ne_genesis (hgenuine row hrow)) ?_ hchain
  intro row hrow row' hrow' heq
  exact prevHash_of_eventHash (hgenuine row hrow) (hgenuine row' hrow') (hlink row hrow)
    (hlink row' hrow') heq

/-! ## 3. Writing -/

/-- Every tenant's rows are a chain of genuine rows in the order in which they were written, under
the tenant's head. -/
structure Persisted (cfg : AuditConfig) (store : AuditStore) : Prop where
  chain : ∀ t, Chain GENESIS_HASH (tenantRows t store.events)
  genuine : ∀ row ∈ store.events, cfg.genuine row = true
  head : ∀ t, (store.lockChainHead t).lastHash =
    headOf AuditEvent.eventHash GENESIS_HASH (tenantRows t store.events)

theorem persisted_empty : Persisted cfg .empty where
  chain _ := trivial
  genuine _ hrow := absurd hrow List.not_mem_nil
  head _ := rfl

theorem genuine_tenantRows (h : Persisted cfg store) :
    ∀ row ∈ tenantRows t store.events, cfg.genuine row = true :=
  fun row hrow => h.genuine row (List.mem_filter.mp hrow).1

theorem headOf_link (hgenuine : ∀ row ∈ rows, cfg.genuine row = true) :
    Link cfg (headOf AuditEvent.eventHash GENESIS_HASH rows) := by
  rcases List.mem_cons.mp (@headOf_mem _ AuditEvent.eventHash GENESIS_HASH rows) with
    heq | hmem
  · exact .inl heq
  · obtain ⟨row, hrow, heq⟩ := List.mem_map.mp hmem
    rw [← heq, ← eventHash_of_genuine (hgenuine row hrow)]
    exact link_eventHash _ _ _

theorem link_ne_empty {h : String} (hlink : Link cfg h) : h ≠ "" := by
  rcases hlink with rfl | ⟨s, rfl⟩
  · decide
  · exact cfg.sha256.nonempty s

/-- The row that `persistEvent` appends to the tenant's chain. -/
def newRow (cfg : AuditConfig) (store : AuditStore) (id : Nat) (payload : AuditPersistJobPayload) :
    AuditEvent :=
  let prevHash := headOf AuditEvent.eventHash GENESIS_HASH
    (tenantRows payload.fields.tenantId store.events)
  let eventHash := cfg.eventHash prevHash payload.fields payload.timestamp
  { id, timestamp := payload.timestamp, fields := payload.fields, prevHash, eventHash
    signature := cfg.sign payload.fields.tenantId eventHash }

/-- The hash of the new row names the head of the chain, so no row has it yet. -/
theorem newRow_fresh (h : Persisted cfg store) :
    ∀ event ∈ store.events, event.fields.tenantId = payload.fields.tenantId →
      event.eventHash ≠ (newRow cfg store id payload).eventHash := by
  intro event hevent htenant heq
  have hmem : event ∈ tenantRows payload.fields.tenantId store.events :=
    List.mem_filter.mpr ⟨hevent, beq_iff_eq.mpr htenant⟩
  have hgenuine := genuine_tenantRows (t := payload.fields.tenantId) h
  have hchain := h.chain payload.fields.tenantId
  have hnodup := chain_heads_nodup hchain hgenuine
  have hlink := link_of_chain (.inl rfl) hchain hgenuine
  rw [← eventHash_of_genuine (h.genuine event hevent)] at heq
  obtain ⟨hprev, -⟩ := prevHash_of_hashInput (hlink event hmem).no_bar
    (headOf_link hgenuine).no_bar (cfg.sha256.inj heq)
  -- the hash that an earlier row names is not the head any more
  obtain ⟨A, B, hAB⟩ := List.append_of_mem hmem
  rw [hAB] at hchain hnodup hprev
  exact headOf_ne_of_append hnodup ((linked_append.mp hchain).2.1.symm.trans hprev)

theorem persistEvent_eq (h : Persisted cfg store) :
    cfg.persistEvent id payload store =
      { events := store.events ++ [newRow cfg store id payload]
        heads := fun t =>
          if t == payload.fields.tenantId then
            some ⟨(newRow cfg store id payload).eventHash,
              (store.lockChainHead payload.fields.tenantId).sequence + 1⟩
          else store.heads t } := by
  have hlink := headOf_link (genuine_tenantRows (t := payload.fields.tenantId) h)
  have hprev : (if (store.lockChainHead payload.fields.tenantId).lastHash == "" then GENESIS_HASH
      else (store.lockChainHead payload.fields.tenantId).lastHash) =
      headOf AuditEvent.eventHash GENESIS_HASH
        (tenantRows payload.fields.tenantId store.events) := by
    rw [h.head, if_neg (by simpa using link_ne_empty hlink)]
  have hconflict : (store.events.any fun event =>
      event.fields.tenantId == payload.fields.tenantId &&
        event.eventHash == (newRow cfg store id payload).eventHash) = false := by
    rw [List.any_eq_false]
    intro event hevent hboth
    obtain ⟨htenant, heq⟩ := Bool.and_eq_true_iff.mp hboth
    exact newRow_fresh h event hevent (beq_iff_eq.mp htenant) (beq_iff_eq.mp heq)
  unfold AuditConfig.persistEvent
  simp only [hprev]
  rw [newRow] at hconflict
  simp only [hconflict]
  rfl

theorem tenantRows_append (t : String) (events : List AuditEvent) (row : AuditEvent) :
    tenantRows t (events ++ [row]) =
      tenantRows t events ++ if row.fields.tenantId = t then [row] else [] := by
  rw [tenantRows, List.filter_append]
  by_cases h : row.fields.tenantId = t <;> simp [h, tenantRows]

theorem genuine_newRow : cfg.genuine (newRow cfg store id payload) = true := by
  simp [AuditConfig.genuine, newRow, AuditConfig.verifySignature]

theorem persisted_step (h : Persisted cfg store) : Persisted cfg (cfg.persistEvent id payload store) := by
  rw [persistEvent_eq h]
  refine ⟨fun t => ?_, fun row hrow => ?_, fun t => ?_⟩
  · rw [tenantRows_append]
    split
    · next htenant =>
      refine linked_append.mpr ⟨h.chain t, ?_, trivial⟩
      rw [← htenant]
      rfl
    · rw [List.append_nil]
      exact h.chain t
  · rcases List.mem_append.mp hrow with hold | hnew
    · exact h.genuine row hold
    · rw [List.mem_singleton.mp hnew]
      exact genuine_newRow
  · rw [tenantRows_append]
    by_cases htenant : payload.fields.tenantId = t
    · subst htenant
      simp [AuditStore.lockChainHead, newRow, headOf]
    · have hne : (t == payload.fields.tenantId) = false := by simpa using Ne.symm htenant
      have hother : (newRow cfg store id payload).fields.tenantId ≠ t := htenant
      rw [if_neg hother, List.append_nil, ← h.head t]
      simp [AuditStore.lockChainHead, hne]

/-! ## 4. The order of the walk -/

/-- Rows in the order of the walk. -/
abbrev InOrder (rows : List AuditEvent) : Prop := rows.Pairwise fun a b => rowLe a b = true

theorem rowLe_total (a b : AuditEvent) : rowLe a b = true ∨ rowLe b a = true := by
  simp only [rowLe, Bool.or_eq_true, Bool.and_eq_true, decide_eq_true_eq, beq_iff_eq]
  omega

theorem rowLe_trans (a b c : AuditEvent) (hab : rowLe a b = true) (hbc : rowLe b c = true) :
    rowLe a c = true := by
  simp only [rowLe, Bool.or_eq_true, Bool.and_eq_true, decide_eq_true_eq, beq_iff_eq] at *
  omega

theorem inOrder_orderedRows (t : String) (events : List AuditEvent) :
    InOrder (orderedRows t events) := by
  have : Std.Total fun a b : AuditEvent => rowLe a b = true := ⟨rowLe_total⟩
  have : IsTrans AuditEvent fun a b => rowLe a b = true := ⟨rowLe_trans⟩
  exact List.pairwise_insertionSort _ _

/-- A persisted chain passes exactly when its rows were written in the order of the walk. -/
theorem verify_persisted_iff (h : Persisted cfg store) (t : String) :
    (cfg.verifyTenantChain t store.events).valid = true ↔ InOrder (tenantRows t store.events) := by
  rw [verifyTenantChain_iff]
  have hperm : (orderedRows t store.events).Perm (tenantRows t store.events) :=
    List.perm_insertionSort _ _
  constructor
  · rintro ⟨hchain, -⟩
    have hprefix := linked_beginning (chain_heads_nodup (h.chain t) (genuine_tenantRows h)) (h.chain t)
      hchain fun row hrow => hperm.mem_iff.mp hrow
    rw [← hprefix.eq_of_length hperm.length_eq]
    exact inOrder_orderedRows t store.events
  · intro horder
    have hsame : orderedRows t store.events = tenantRows t store.events :=
      List.Pairwise.insertionSort_eq horder
    rw [hsame]
    exact ⟨h.chain t, genuine_tenantRows h⟩

/-! ## 5. What the hash covers -/

theorem jsonValue_inj {v v' : JsonValue} (h : v.value = v'.value) : v = v' := by
  cases v
  cases v'
  cases h
  rfl

/-- The keys of the hashed object are in order. -/
theorem hashedKeys_ordered :
    ["action", "correlationId", "endpoint", "errorCode", "ip", "metadata", "method", "newState",
      "oldState", "resourceId", "resourceType", "role", "statusCode", "success", "tenantId",
      "userAgent", "userId"].Pairwise fun a b => keyLe a b = true ∧ a ≠ b := by
  decide +kernel

theorem ordered_of_keys {properties : List (String × Json)} {keys : List String}
    (hkeys : properties.map Prod.fst = keys)
    (h : keys.Pairwise fun a b => keyLe a b = true ∧ a ≠ b) :
    properties.Pairwise fun a b => keyLe a.1 b.1 = true ∧ a.1 ≠ b.1 :=
  List.pairwise_map.mp (hkeys ▸ h)

theorem toJson_sorted (f : AuditFields) : f.toJson.sorted = true := by
  rw [AuditFields.toJson, sorted, Bool.and_eq_true, decide_eq_true_eq]
  refine ⟨ordered_of_keys rfl hashedKeys_ordered, ?_⟩
  simp [sortedFields, sorted, textOrNull_sorted, JsonValue.ordered]

theorem toJson_inj {f f' : AuditFields} (h : f.toJson = f'.toJson) : f = f' := by
  simp only [AuditFields.toJson, Json.object.injEq, List.cons.injEq, Prod.mk.injEq,
    Json.string.injEq, Json.number.injEq, Json.bool.injEq, true_and, and_true] at h
  obtain ⟨haction, hcorrelation, hendpoint, herror, hip, hmetadata, hmethod, hnew, hold, hresource,
    htype, hrole, hstatus, hsuccess, htenant, hagent, huser⟩ := h
  rcases f with ⟨⟩
  rcases f' with ⟨⟩
  simp only [AuditFields.mk.injEq]
  exact ⟨hcorrelation, htenant, textOrNull_inj huser, textOrNull_inj hrole, haction,
    textOrNull_inj htype, textOrNull_inj hresource, jsonValue_inj hold, jsonValue_inj hnew,
    jsonValue_inj hmetadata, textOrNull_inj hip, textOrNull_inj hagent, textOrNull_inj hendpoint,
    textOrNull_inj hmethod, hstatus, hsuccess, textOrNull_inj herror⟩

theorem canonicalJson_inj {f f' : AuditFields}
    (h : canonicalJson f.toJson = canonicalJson f'.toJson) : f = f' :=
  toJson_inj (print_sort_inj (toJson_sorted f) (toJson_sorted f') (String.ofList_injective h))

end AuditEventsLemmas

/-- The hashed columns of a row with its two hashes. -/
structure RowContents where
  fields : AuditFields
  timestamp : Timestamp
  prevHash : String
  eventHash : String

def AuditEvent.contents (row : AuditEvent) : RowContents :=
  ⟨row.fields, row.timestamp, row.prevHash, row.eventHash⟩

namespace AuditEventsLemmas

/-- Two genuine rows with one hash have the same contents. -/
theorem contents_inj {cfg : AuditConfig} {row row' : AuditEvent} (hg : cfg.genuine row = true)
    (hg' : cfg.genuine row' = true) (hl : Link cfg row.prevHash) (hl' : Link cfg row'.prevHash)
    (h : row.eventHash = row'.eventHash) : row.contents = row'.contents := by
  have hdigest := h
  rw [← eventHash_of_genuine hg, ← eventHash_of_genuine hg'] at hdigest
  obtain ⟨hprev, hpayload, htimestamp⟩ := hashInput_inj hl.no_bar hl'.no_bar (iso_no_bar _)
    (iso_no_bar _) (cfg.sha256.inj hdigest)
  rw [AuditEvent.contents, AuditEvent.contents, canonicalJson_inj hpayload,
    Timestamp.toISOString_inj htimestamp, hprev, h]

end AuditEventsLemmas

end BebaSacco
