import BebaSacco.Lib.HashChain
import BebaSacco.Lib.IsoDate
import BebaSacco.Lib.Json

/-! # Audit logs

Four writers append rows to `AuditLog`, each with its own idea of the entry hash: `create` and
`logAtomic` hash a JSON text, the recovery joins fields with a separator and the disbursement hashes
nothing. `verifyChain` recomputes the joined form. A row holds the columns that the verifier reads;
the hash of the row before it is a digest or null.

Results:
 1. `entryText_length_lt`: the joined form is never the JSON text.
 2. `entryText_inj`: an unambiguous entry is read off its joined form, and no other entry is.
 3. `audit_logs_agree_iff`: a history passes exactly when the recovery wrote all of it, and an entry
    shares its pre-image with no other one exactly when it is unambiguous.
-/

namespace BebaSacco

open Json HashChain

/-- A text of hexadecimal digits. -/
structure Digest where
  text : String
  hex : (!text.toList.isEmpty && text.toList.all hexChar) = true
  deriving DecidableEq

/-- The fields of an entry that its hash is to cover. -/
structure AuditEntry where
  tenantId : String
  actorId : Option String
  action : String
  entityType : String
  entityId : Option String
  timestamp : Timestamp
  prevHash : Option Digest
  deriving DecidableEq

/-- A row, with the entry hash that its writer gave it. -/
structure AuditLog where
  entry : AuditEntry
  entryHash : Option Digest
  deriving DecidableEq

def Digest.of (H : HashFunction) (text : String) : Digest :=
  ⟨H.digest text, by
    have hnonempty : (H.digest text).toList ≠ [] := by
      simpa using H.nonempty text
    simp [H.hex text, hnonempty]⟩

/-! ## The writers and the verifier -/

/-- `[...].join('|')` in `computeEntryHash` and `createAuditLogInTransaction`. -/
def AuditEntry.text (e : AuditEntry) : String :=
  String.intercalate "|"
    [e.tenantId, e.actorId.getD "", e.action, e.entityType, e.entityId.getD "",
      e.timestamp.toISOString, (e.prevHash.map Digest.text).getD ""]

/-- `computeEntryHash` -/
def computeEntryHash (H : HashFunction) (e : AuditEntry) : Digest := Digest.of H e.text

/-- The object whose text `create` and `logAtomic` hash. -/
def AuditEntry.toJson (e : AuditEntry) (payload : Json) : Json :=
  .object
    [("tenantId", .string e.tenantId), ("actorId", textOrNull e.actorId),
      ("action", .string e.action), ("entityType", .string e.entityType),
      ("entityId", textOrNull e.entityId), ("payload", payload),
      ("prevHash", textOrNull (e.prevHash.map Digest.text)),
      ("timestamp", .string e.timestamp.toISOString)]

/-- Who writes the row. `payload` is part of the hash of `create` and `logAtomic` only. -/
inductive AuditWriter where
  | create (payload : Json)
  | logAtomic (payload : Json)
  | recovery
  | disburse

/-- A row to be written: the columns that the caller chooses and the time. -/
structure AuditWrite where
  writer : AuditWriter
  tenantId : String
  actorId : Option String
  action : String
  entityType : String
  entityId : Option String
  timestamp : Timestamp

/-- `findFirst` of the tenant's rows by descending timestamp: the hash of the latest entry. -/
def latestHash (tenantId : String) (logs : List AuditLog) : Option Digest :=
  let rows := logs.filter fun log => log.entry.tenantId == tenantId
  let later (a b : AuditLog) : AuditLog :=
    if b.entry.timestamp.ms > a.entry.timestamp.ms then b else a
  match rows with
  | [] => none
  | first :: rest => (rest.foldl later first).entryHash

def AuditWrite.entry (w : AuditWrite) (prevHash : Option Digest) : AuditEntry :=
  { tenantId := w.tenantId, actorId := w.actorId, action := w.action, entityType := w.entityType
    entityId := w.entityId, timestamp := w.timestamp, prevHash }

/-- One write. -/
def writeAuditLog (H : HashFunction) (logs : List AuditLog) (w : AuditWrite) : List AuditLog :=
  let linked := w.entry (latestHash w.tenantId logs)
  let row : AuditLog :=
    match w.writer with
    | .create payload | .logAtomic payload =>
      ⟨linked, some (Digest.of H (stringify (linked.toJson payload)))⟩
    | .recovery => ⟨linked, some (computeEntryHash H linked)⟩
    | .disburse => ⟨w.entry none, none⟩
  logs ++ [row]

def writeAll (H : HashFunction) (writes : List AuditWrite) : List AuditLog :=
  writes.foldl (writeAuditLog H) []

inductive TamperIssue where
  | HASH_MISMATCH
  | MISSING_HASH
  | BROKEN_CHAIN
  deriving DecidableEq, Repr

/-- The loop of `verifyChain`: the issues of the rows, with the number of the row. -/
def tamperEvidence (H : HashFunction) : Option Digest → Nat → List AuditLog →
    List (Nat × TamperIssue)
  | _, _, [] => []
  | prevHash, i, log :: logs =>
    match log.entryHash with
    | none => (i, .MISSING_HASH) :: tamperEvidence H none (i + 1) logs
    | some entryHash =>
      let broken := prevHash.isSome && log.entry.prevHash != prevHash
      let mismatch := computeEntryHash H log.entry != entryHash
      (if broken then [(i, .BROKEN_CHAIN)] else []) ++
        (if mismatch then [(i, .HASH_MISMATCH)] else []) ++
        tamperEvidence H (some entryHash) (i + 1) logs

def logBefore (a b : AuditLog) : Bool := a.entry.timestamp.ms ≤ b.entry.timestamp.ms

/-- `verifyChain`: `valid`, for a limit of `limit` entries. -/
def verifyChain (H : HashFunction) (tenantId : String) (limit : Nat) (logs : List AuditLog) : Bool :=
  let rows := logs.filter fun log => log.entry.tenantId == tenantId
  let entries := (rows.insertionSort fun a b => logBefore a b = true).take limit
  (tamperEvidence H none 0 entries).isEmpty

/-! ## The conditions -/

/-- The entry can be told from its joined text: no field contains the separator, and the actor and
the entity are there and not empty. -/
structure AuditEntry.Unambiguous (e : AuditEntry) : Prop where
  tenantId : '|' ∉ e.tenantId.toList
  actorId : ∃ s, e.actorId = some s ∧ s ≠ "" ∧ '|' ∉ s.toList
  action : '|' ∉ e.action.toList
  entityType : '|' ∉ e.entityType.toList
  entityId : ∃ s, e.entityId = some s ∧ s ≠ "" ∧ '|' ∉ s.toList

def AuditWriter.isRecovery : AuditWriter → Bool
  | .recovery => true
  | _ => false

/-- Times increase from one write to the next. -/
abbrev Increasing (writes : List AuditWrite) : Prop :=
  writes.Pairwise fun a b => a.timestamp.ms < b.timestamp.ms

namespace AuditLogsLemmas

variable {H : HashFunction} {e e' : AuditEntry} {logs rows : List AuditLog} {w : AuditWrite}
  {writes : List AuditWrite} {t : String} {p : Option Digest}

/-! ## 1. The two pre-images -/

theorem text_toList (e : AuditEntry) :
    e.text.toList =
      e.tenantId.toList ++ '|' :: ((e.actorId.getD "").toList ++ '|' :: (e.action.toList ++ '|' ::
        (e.entityType.toList ++ '|' :: ((e.entityId.getD "").toList ++ '|' ::
          (e.timestamp.toISOString.toList ++ '|' ::
            ((e.prevHash.map Digest.text).getD "").toList))))) := by
  simp [AuditEntry.text]

theorem quote_length (s : String) : s.toList.length + 2 ≤ (quote s).length := by
  have hescape : ∀ l : List Char, l.length ≤ (l.flatMap escape).length := by
    intro l
    induction l with
    | nil => simp
    | cons c l ih =>
      have hc : 1 ≤ (escape c).length := by
        unfold escape
        repeat' split
        all_goals simp
      rw [List.flatMap_cons, List.length_append, List.length_cons]
      omega
  have h := hescape s.toList
  simp only [quote, List.length_cons, List.length_append, List.length_nil]
  omega

theorem textOrNull_length (text : Option String) :
    (text.getD "").toList.length ≤ (print id (textOrNull text)).length := by
  cases text with
  | none => simp
  | some s =>
    have h := quote_length s
    rw [textOrNull, print, Option.getD_some]
    omega

theorem length_text_lt (e : AuditEntry) (payload : Json) :
    e.text.toList.length < (stringify (e.toJson payload)).toList.length := by
  have htenant := quote_length e.tenantId
  have hactor := textOrNull_length e.actorId
  have haction := quote_length e.action
  have htype := quote_length e.entityType
  have hentity := textOrNull_length e.entityId
  have htime := quote_length e.timestamp.toISOString
  have hprev := textOrNull_length (e.prevHash.map Digest.text)
  rw [text_toList, stringify, String.toList_ofList, AuditEntry.toJson, print]
  simp only [printFields, List.map_cons, List.map_nil, commas, printProperty, id, print,
    List.length_append, List.length_cons]
  omega

theorem text_ne_json (H : HashFunction) (e : AuditEntry) (payload : Json) :
    computeEntryHash H e ≠ Digest.of H (stringify (e.toJson payload)) := by
  intro h
  have htext : e.text = stringify (e.toJson payload) := H.inj (congrArg Digest.text h)
  have hlt := length_text_lt e payload
  rw [htext] at hlt
  exact absurd hlt (Nat.lt_irrefl _)

/-! ## 2. Entries and their joined texts -/

theorem digest_plain (d : Option Digest) : '|' ∉ ((d.map Digest.text).getD "").toList := by
  cases d with
  | none => decide
  | some d =>
    intro hmem
    have hhex := List.all_eq_true.mp (Bool.and_eq_true_iff.mp d.hex).2 _ hmem
    exact absurd hhex (by decide)

theorem iso_plain (timestamp : Timestamp) : '|' ∉ timestamp.toISOString.toList :=
  timestamp.not_mem_toISOString (by decide)

theorem digest_inj {d d' : Option Digest}
    (h : (d.map Digest.text).getD "" = (d'.map Digest.text).getD "") : d = d' := by
  have hne : ∀ d : Digest, d.text ≠ "" := by
    intro d hempty
    have hhex := d.hex
    rw [hempty] at hhex
    exact absurd hhex (by decide)
  cases d with
  | none =>
    cases d' with
    | none => rfl
    | some d' => exact absurd h.symm (hne d')
  | some d =>
    cases d' with
    | none => exact absurd h (hne d)
    | some d' =>
      rcases d with ⟨text, hex⟩
      rcases d' with ⟨text', hex'⟩
      cases (show text = text' from h)
      rfl

/-- The separators in a joined text: six, and those inside the fields. -/
theorem count_text (e : AuditEntry) :
    e.text.toList.count '|' =
      e.tenantId.toList.count '|' + (e.actorId.getD "").toList.count '|' +
        e.action.toList.count '|' + e.entityType.toList.count '|' +
        (e.entityId.getD "").toList.count '|' + 6 := by
  have hiso := List.count_eq_zero.mpr (iso_plain e.timestamp)
  have hprev := List.count_eq_zero.mpr (digest_plain e.prevHash)
  rw [text_toList]
  simp only [List.count_append, List.count_cons_self, hiso, hprev]
  omega

theorem getD_inj {a b : Option String} {s : String} (ha : a = some s) (hs : s ≠ "")
    (h : a.getD "" = b.getD "") : a = b := by
  subst ha
  cases b with
  | none => exact absurd h hs
  | some b => exact congrArg some h

/-- No other entry has the text of an unambiguous one. -/
theorem eq_of_text (h : e.Unambiguous) (htext : e'.text = e.text) : e' = e := by
  obtain ⟨actor, hactor, hactorne, hactorbar⟩ := h.actorId
  obtain ⟨entity, hentity, hentityne, hentitybar⟩ := h.entityId
  have hactor' : '|' ∉ (e.actorId.getD "").toList := by rw [hactor]; exact hactorbar
  have hentity' : '|' ∉ (e.entityId.getD "").toList := by rw [hentity]; exact hentitybar
  -- the six separators of the text are all between its parts, so `e'` has none in its fields
  have hcount := count_text e'
  rw [htext, count_text e, List.count_eq_zero.mpr h.tenantId, List.count_eq_zero.mpr hactor',
    List.count_eq_zero.mpr h.action, List.count_eq_zero.mpr h.entityType,
    List.count_eq_zero.mpr hentity'] at hcount
  have hnone : ∀ l : List Char, l.count '|' = 0 → '|' ∉ l := fun l => List.count_eq_zero.mp
  have hlist := congrArg String.toList htext
  rw [text_toList, text_toList] at hlist
  obtain ⟨htenant, hlist⟩ := split_first (hnone _ (by omega)) h.tenantId hlist
  obtain ⟨hactors, hlist⟩ := split_first (hnone _ (by omega)) hactor' hlist
  obtain ⟨haction, hlist⟩ := split_first (hnone _ (by omega)) h.action hlist
  obtain ⟨htype, hlist⟩ := split_first (hnone _ (by omega)) h.entityType hlist
  obtain ⟨hentities, hlist⟩ := split_first (hnone _ (by omega)) hentity' hlist
  obtain ⟨htime, hprev⟩ := split_first (iso_plain _) (iso_plain _) hlist
  have hactorId := getD_inj hactor hactorne (String.toList_inj.mp hactors).symm
  have hentityId := getD_inj hentity hentityne (String.toList_inj.mp hentities).symm
  rcases e with ⟨⟩
  rcases e' with ⟨⟩
  simp only [AuditEntry.mk.injEq]
  exact ⟨String.toList_inj.mp htenant, hactorId.symm, String.toList_inj.mp haction,
    String.toList_inj.mp htype, hentityId.symm,
    Timestamp.toISOString_inj (String.toList_inj.mp htime), digest_inj (String.toList_inj.mp hprev)⟩

theorem part_ne {x y : List Char} {s : String} (hs : s.toList = x ++ '|' :: y) :
    String.ofList x ≠ s ∧ String.ofList y ≠ s := by
  have hlength := congrArg List.length hs
  rw [List.length_append, List.length_cons] at hlength
  constructor <;> rintro rfl <;> rw [String.toList_ofList] at hlength <;> omega

/-- A missing column and an empty one give one text, so neither is there when no other entry has the
text. -/
theorem present_of_unique (h : ∀ e', e' ≠ e → e'.text ≠ e.text)
    (column : AuditEntry → Option String) (put : Option String → AuditEntry)
    (hput : ∀ o, column (put o) = o)
    (htext : ∀ o, o.getD "" = (column e).getD "" → (put o).text = e.text) :
    ∃ s, column e = some s ∧ s ≠ "" := by
  have hsame : ∀ o, o.getD "" = (column e).getD "" → column e = o := by
    intro o ho
    by_contra hne
    exact h (put o) (fun heq => hne (heq ▸ hput o)) (htext o ho)
  cases hcolumn : column e with
  | none =>
    rw [hsame (some "") (by rw [hcolumn]; rfl)] at hcolumn
    cases hcolumn
  | some s =>
    refine ⟨s, rfl, ?_⟩
    rintro rfl
    rw [hsame none (by rw [hcolumn]; rfl)] at hcolumn
    cases hcolumn

/-- A separator inside a field can be taken for the one after it or before it. -/
theorem unambiguous_of_unique (h : ∀ e', e' ≠ e → e'.text ≠ e.text) : e.Unambiguous := by
  have htext : ∀ {e'}, e'.text.toList = e.text.toList → e' = e := by
    intro e' heq
    by_contra hne
    exact h e' hne (String.toList_inj.mp heq)
  obtain ⟨actor, hactor, hactorne⟩ := present_of_unique h AuditEntry.actorId
    (fun o => { e with actorId := o }) (fun _ => rfl) fun o ho => by
      rw [AuditEntry.text, AuditEntry.text, ho]
  obtain ⟨entity, hentity, hentityne⟩ := present_of_unique h AuditEntry.entityId
    (fun o => { e with entityId := o }) (fun _ => rfl) fun o ho => by
      rw [AuditEntry.text, AuditEntry.text, ho]
  refine ⟨fun hbar => ?_, ⟨actor, hactor, hactorne, fun hbar => ?_⟩, fun hbar => ?_,
    fun hbar => ?_, ⟨entity, hentity, hentityne, fun hbar => ?_⟩⟩
  all_goals obtain ⟨x, y, hs⟩ := List.append_of_mem hbar
  · -- the actor begins inside the tenant id
    have heq := @htext { e with
      tenantId := String.ofList x
      actorId := some (String.ofList (y ++ '|' :: (e.actorId.getD "").toList)) } (by
        simp [text_toList, hs])
    exact (part_ne hs).1 (congrArg AuditEntry.tenantId heq)
  · have heq := @htext { e with
      actorId := some (String.ofList x)
      action := String.ofList (y ++ '|' :: e.action.toList) } (by
        simp [text_toList, hactor, hs])
    have hsome := congrArg AuditEntry.actorId heq
    rw [hactor] at hsome
    exact (part_ne hs).1 (Option.some.inj hsome)
  · have heq := @htext { e with
      action := String.ofList x
      entityType := String.ofList (y ++ '|' :: e.entityType.toList) } (by simp [text_toList, hs])
    exact (part_ne hs).1 (congrArg AuditEntry.action heq)
  · have heq := @htext { e with
      entityType := String.ofList x
      entityId := some (String.ofList (y ++ '|' :: (e.entityId.getD "").toList)) } (by
        simp [text_toList, hs])
    exact (part_ne hs).1 (congrArg AuditEntry.entityType heq)
  · -- the entity id ends with the part after its separator, the type takes the rest
    have heq := @htext { e with
      entityType := String.ofList (e.entityType.toList ++ '|' :: x)
      entityId := some (String.ofList y) } (by simp [text_toList, hentity, hs])
    have hsome := congrArg AuditEntry.entityId heq
    rw [hentity] at hsome
    exact (part_ne hs).2 (Option.some.inj hsome)

/-! ## 3. Histories that pass -/

/-- The hash under which the row after `rows` is checked. -/
def lastHash (p : Option Digest) (rows : List AuditLog) : Option Digest :=
  rows.foldl (fun _ row => row.entryHash) p

/-- What the verifier asks of a row after the hash `p`. -/
def Passes (H : HashFunction) (p : Option Digest) (row : AuditLog) : Prop :=
  row.entryHash = some (computeEntryHash H row.entry) ∧ (p.isSome = true → row.entry.prevHash = p)

theorem tamperEvidence_nil_cons {row : AuditLog} {i : Nat} :
    tamperEvidence H p i (row :: rows) = [] ↔
      Passes H p row ∧ tamperEvidence H row.entryHash (i + 1) rows = [] := by
  rw [tamperEvidence]
  cases hhash : row.entryHash with
  | none => simp [Passes, hhash]
  | some entryHash =>
    simp only [List.append_eq_nil_iff]
    refine and_congr ?_ Iff.rfl
    rw [Passes, hhash, Option.some.injEq]
    by_cases hmatch : computeEntryHash H row.entry = entryHash
    · by_cases hlink : p.isSome = true → row.entry.prevHash = p <;> simp_all
    · simp [hmatch, Ne.symm hmatch]

theorem tamperEvidence_append_one {row : AuditLog} {i : Nat} :
    tamperEvidence H p i (rows ++ [row]) = [] ↔
      tamperEvidence H p i rows = [] ∧ Passes H (lastHash p rows) row := by
  induction rows generalizing p i with
  | nil =>
    rw [List.nil_append, tamperEvidence_nil_cons]
    simp [tamperEvidence, lastHash]
  | cons first rows ih =>
    rw [List.cons_append, tamperEvidence_nil_cons, tamperEvidence_nil_cons, ih, and_assoc]
    rfl

/-! ### The rows of a history with increasing times -/

abbrev LogTimes (logs : List AuditLog) : Prop :=
  logs.Pairwise fun a b => a.entry.timestamp.ms < b.entry.timestamp.ms

def logRows (t : String) (logs : List AuditLog) : List AuditLog :=
  logs.filter fun log => log.entry.tenantId == t

/-- With increasing times the latest row is the last one. -/
theorem latestHash_eq (h : LogTimes logs) (t : String) :
    latestHash t logs = lastHash none (logRows t logs) := by
  have hrows : LogTimes (logRows t logs) := h.filter _
  rw [latestHash]
  show (match logRows t logs with
    | [] => none
    | first :: rest => _) = _
  cases hcases : logRows t logs with
  | nil => rfl
  | cons first rest =>
    rw [hcases] at hrows
    clear hcases
    simp only [lastHash, List.foldl_cons]
    induction rest generalizing first with
    | nil => rfl
    | cons second rest ih =>
      obtain ⟨hfirst, hrest⟩ := List.pairwise_cons.mp hrows
      have hlater : first.entry.timestamp.ms < second.entry.timestamp.ms :=
        hfirst second List.mem_cons_self
      simp only [List.foldl_cons, if_pos hlater]
      exact ih second hrest

theorem verifyChain_eq (h : LogTimes logs) {limit : Nat} (hlimit : logs.length ≤ limit) :
    verifyChain H t limit logs = (tamperEvidence H none 0 (logRows t logs)).isEmpty := by
  have hsorted : (logRows t logs).insertionSort (fun a b => logBefore a b = true) =
      logRows t logs := by
    refine List.Pairwise.insertionSort_eq ((h.filter _).imp fun hab => ?_)
    simp only [logBefore, decide_eq_true_eq]
    exact Nat.le_of_lt hab
  have hall : (logRows t logs).length ≤ limit := Nat.le_trans (List.length_filter_le _ _) hlimit
  show (tamperEvidence H none 0 (((logRows t logs).insertionSort _).take limit)).isEmpty = _
  rw [hsorted, List.take_of_length_le hall]

/-- The row that a write appends. -/
def newLog (H : HashFunction) (logs : List AuditLog) (w : AuditWrite) : AuditLog :=
  let linked := w.entry (latestHash w.tenantId logs)
  match w.writer with
  | .create payload | .logAtomic payload =>
    ⟨linked, some (Digest.of H (stringify (linked.toJson payload)))⟩
  | .recovery => ⟨linked, some (computeEntryHash H linked)⟩
  | .disburse => ⟨w.entry none, none⟩

theorem writeAuditLog_eq : writeAuditLog H logs w = logs ++ [newLog H logs w] := rfl

theorem newLog_columns :
    (newLog H logs w).entry.tenantId = w.tenantId ∧
    (newLog H logs w).entry.timestamp = w.timestamp := by
  unfold newLog
  cases w.writer <;> exact ⟨rfl, rfl⟩

/-- A new row passes after the latest one exactly when the recovery wrote it. -/
theorem passes_newLog_iff :
    Passes H (latestHash w.tenantId logs) (newLog H logs w) ↔ w.writer.isRecovery = true := by
  unfold newLog
  cases w.writer with
  | create payload =>
    refine iff_of_false (fun h => ?_) Bool.false_ne_true
    exact text_ne_json H _ payload (Option.some.inj h.1).symm
  | logAtomic payload =>
    refine iff_of_false (fun h => ?_) Bool.false_ne_true
    exact text_ne_json H _ payload (Option.some.inj h.1).symm
  | recovery => exact iff_of_true ⟨rfl, fun _ => rfl⟩ rfl
  | disburse => exact iff_of_false (fun h => by cases h.1) Bool.false_ne_true

theorem writeAll_append_one :
    writeAll H (writes ++ [w]) = writeAll H writes ++ [newLog H (writeAll H writes) w] := by
  rw [writeAll, List.foldl_append]
  exact writeAuditLog_eq

theorem writeAll_times (H : HashFunction) (writes : List AuditWrite) :
    (writeAll H writes).map (·.entry.timestamp.ms) = writes.map (·.timestamp.ms) := by
  induction writes using List.reverseRecOn with
  | nil => rfl
  | append_singleton writes w ih =>
    rw [writeAll_append_one, List.map_append, List.map_append, ih, List.map_singleton,
      newLog_columns.2]
    rfl

theorem logTimes_writeAll (h : Increasing writes) : LogTimes (writeAll H writes) := by
  have hwrites : (writes.map (·.timestamp.ms)).Pairwise (· < ·) := List.pairwise_map.mpr h
  rw [← writeAll_times H writes] at hwrites
  exact List.pairwise_map.mp hwrites

theorem logRows_append (t : String) (logs : List AuditLog) (row : AuditLog) :
    logRows t (logs ++ [row]) = logRows t logs ++ if row.entry.tenantId = t then [row] else [] := by
  rw [logRows, List.filter_append]
  by_cases h : row.entry.tenantId = t <;> simp [h, logRows]

/-- A tenant's rows pass exactly when the recovery wrote them all. -/
theorem evidence_writeAll (h : Increasing writes) (t : String) :
    tamperEvidence H none 0 (logRows t (writeAll H writes)) = [] ↔
      ∀ w ∈ writes, w.tenantId = t → w.writer.isRecovery = true := by
  induction writes using List.reverseRecOn with
  | nil => exact iff_of_true rfl (by simp)
  | append_singleton writes w ih =>
    have hold : Increasing writes := (List.pairwise_append.mp h).1
    have hsplit : (∀ w' ∈ writes ++ [w], w'.tenantId = t → w'.writer.isRecovery = true) ↔
        (∀ w' ∈ writes, w'.tenantId = t → w'.writer.isRecovery = true) ∧
          (w.tenantId = t → w.writer.isRecovery = true) := by
      simp only [List.forall_mem_append, List.forall_mem_singleton]
    rw [hsplit, ← ih hold, writeAll_append_one, logRows_append, newLog_columns.1]
    by_cases htenant : w.tenantId = t
    · subst htenant
      rw [if_pos rfl, tamperEvidence_append_one, ← latestHash_eq (logTimes_writeAll hold),
        passes_newLog_iff]
      exact and_congr Iff.rfl ⟨fun hw _ => hw, fun hw => hw rfl⟩
    · rw [if_neg htenant, List.append_nil]
      exact ⟨fun hrows => ⟨hrows, fun heq => absurd heq htenant⟩, fun hrows => hrows.1⟩

end AuditLogsLemmas

open AuditLogsLemmas

/-! ## 4. Writers and verifier -/

/-- The verifier passes a whole history exactly when the recovery wrote every row of it, and an
entry has a pre-image of its own exactly when it is unambiguous. -/
theorem audit_logs_agree_iff (H : HashFunction) :
    (∀ writes, Increasing writes →
      ((∀ t, ∀ limit ≥ (writeAll H writes).length, verifyChain H t limit (writeAll H writes) = true) ↔
        ∀ w ∈ writes, w.writer.isRecovery = true)) ∧
    ∀ e : AuditEntry, (∀ e', e' ≠ e → e'.text ≠ e.text) ↔ e.Unambiguous := by
  refine ⟨fun writes hincreasing => ?_, fun e => ?_⟩
  · have hverify : ∀ t, ∀ limit ≥ (writeAll H writes).length,
        (verifyChain H t limit (writeAll H writes) = true ↔
          ∀ w ∈ writes, w.tenantId = t → w.writer.isRecovery = true) := by
      intro t limit hlimit
      rw [verifyChain_eq (logTimes_writeAll hincreasing) hlimit, List.isEmpty_iff,
        evidence_writeAll hincreasing]
    constructor
    · intro h w hw
      exact (hverify w.tenantId _ (Nat.le_refl _)).mp (h w.tenantId _ (Nat.le_refl _)) w hw rfl
    · intro h t limit hlimit
      exact (hverify t limit hlimit).mpr fun w hw _ => h w hw
  · exact ⟨unambiguous_of_unique, fun h e' hne htext => hne (eq_of_text h htext)⟩

def exWrite (writer : AuditWriter) (ms : Nat) (h : ms ≤ 8640000000000000) : AuditWrite :=
  { writer, tenantId := "T", actorId := some "u1", action := "LOGIN", entityType := "User"
    entityId := some "u1", timestamp := ⟨ms, h⟩ }

def exEntry : AuditEntry :=
  { tenantId := "T", actorId := some "u1", action := "LOGIN", entityType := "User"
    entityId := none, timestamp := ⟨5000, by decide⟩, prevHash := none }

theorem audit_logs_agree_recovery :
    verifyChain unaryHash "T" 10000
      (writeAll unaryHash [exWrite .recovery 1000 (by decide), exWrite .recovery 2000 (by decide)]) =
        true :=
  ((audit_logs_agree_iff unaryHash).1 _ (by decide)).mpr (by decide) "T" 10000 (by decide)

/-- One row of `create` is reported as tampered with, and an entry without an entity has the
pre-image of the one whose entity id is empty. -/
theorem audit_logs_disagree :
    (verifyChain unaryHash "T" 10000
        (writeAll unaryHash [exWrite (.create .null) 1000 (by decide)]) = false) ∧
    ({ exEntry with entityId := some "" } : AuditEntry) ≠ exEntry ∧
    ({ exEntry with entityId := some "" } : AuditEntry).text = exEntry.text := by
  refine ⟨?_, by decide, by decide⟩
  rw [verifyChain_eq (logTimes_writeAll (List.pairwise_singleton _ _)) (by decide),
    Bool.eq_false_iff]
  intro h
  have hall := (evidence_writeAll (List.pairwise_singleton _ _) "T").mp (List.isEmpty_iff.mp h)
  exact absurd (hall _ List.mem_cons_self rfl) Bool.false_ne_true

end BebaSacco
