import BebaSacco.Lib.Csv
import BebaSacco.Lib.JsText
import BebaSacco.Lib.IsoDate
import BebaSacco.ReferenceRows

/-! # CSV exports

The audit log and the statements are exported by a function that puts a cell between quotes when it has a
quote, a comma or a line feed in it; a carriage return alone it leaves as it is. The ledger is exported by
hand: some of its cells are never quoted, and the name of the creator is quoted without its quotes being
doubled.

Results:
1. `cellText_csvCell_iff`: the cells that the shared function writes as a text of them.
2. `csvText_read`: records of such cells.
3. `csv_exports`: each of the three exports is read back exactly when its cells are.
4. `exports_misread`: a carriage return, a quoted nickname and a comma in a code.
-/

namespace BebaSacco

open JsString
open Csv (QUOTE COMMA CR LF join isPlain CellText Tight Written recordText fileText)

/-! ## 1. The shared cell -/

/-- `/[",\n]/` -/
def needsQuotes (text : JsString) : Bool := text.any fun u => u == QUOTE || u == COMMA || u == LF

def quotedCell (text : JsString) : JsString := QUOTE :: (Csv.escape text ++ [QUOTE])

def csvCell (text : JsString) : JsString := if needsQuotes text then quotedCell text else text

/-- `rows.map((row) => row.map(csvCell).join(',')).join('\n')` -/
def csvText (rows : List (List JsString)) : JsString :=
  join LF (rows.map fun row => join COMMA (row.map csvCell))

/-- A blank row is read as one blank cell. -/
def readBack (rows : List (List JsString)) : List (List JsString) :=
  rows.map fun row => if row.isEmpty then [[]] else row

/-! ## 2. The audit log -/

structure AuditUser where
  firstName : JsString
  lastName : JsString
  email : JsString

/-- The columns that are exported. -/
structure AuditLogEntry where
  timestamp : Timestamp
  user : Option AuditUser
  action : JsString
  resource : JsString
  resourceId : Option JsString
  ipAddress : Option JsString
  requestId : Option JsString
  entryHash : Option JsString
  metadata : Option JsValue

def auditHeaders : List JsString :=
  ["timestamp", "actor", "actorEmail", "action", "resource", "resourceId", "ipAddress", "requestId",
    "entryHash", "metadata"].map js

/-- `metadata ?? {}` -/
def AuditLogEntry.metadataValue (entry : AuditLogEntry) : JsValue :=
  match entry.metadata with
  | none | some .null => .object []
  | some value => value

def AuditLogEntry.cells (entry : AuditLogEntry) : List JsString :=
  [js entry.timestamp.toISOString,
    (entry.user.map fun user => user.firstName ++ (js " " ++ user.lastName)).getD (js "System"),
    (entry.user.map (·.email)).getD [],
    entry.action,
    entry.resource,
    entry.resourceId.getD [],
    entry.ipAddress.getD [],
    entry.requestId.getD [],
    entry.entryHash.getD [],
    entry.metadataValue.stringify]

def auditRows (entries : List AuditLogEntry) : List (List JsString) :=
  auditHeaders :: entries.map AuditLogEntry.cells

/-- `exportAsCsv` of the audit log. -/
def exportAuditCsv (entries : List AuditLogEntry) : JsString :=
  join LF (join COMMA auditHeaders ::
    entries.map fun entry => join COMMA (entry.cells.map csvCell))

/-! ## 3. The statements -/

/-- A transaction of a statement; numbers are the texts that `String` makes of them. -/
structure PrintedTransaction where
  date : JsString
  description : JsString
  debit : JsString
  credit : JsString
  balance : JsString
  reference : JsString

/-- What only one of the two statements has. -/
inductive StatementTotals where
  | fosa (totalDisbursed totalRepaid : JsString)
  | bosa (totalSavings welfareContributions : JsString)

structure PrintedStatement where
  memberName : JsString
  memberNumber : JsString
  periodFrom : JsString
  periodTo : JsString
  auditHash : JsString
  openingBalance : JsString
  closingBalance : JsString
  totals : StatementTotals
  transactions : List PrintedTransaction

def PrintedStatement.summaryRows (s : PrintedStatement) : List (List JsString) :=
  match s.totals with
  | .fosa totalDisbursed totalRepaid =>
    [[js "Opening Balance", s.openingBalance], [js "Total Disbursed", totalDisbursed],
      [js "Total Repaid", totalRepaid], [js "Closing Balance", s.closingBalance]]
  | .bosa totalSavings welfareContributions =>
    [[js "Opening Balance", s.openingBalance], [js "Total Savings", totalSavings],
      [js "Welfare Contributions", welfareContributions], [js "Closing Balance", s.closingBalance]]

def transactionHeaders : List JsString :=
  ["Date", "Description", "Debit", "Credit", "Balance", "Reference"].map js

def PrintedTransaction.cells (tx : PrintedTransaction) : List JsString :=
  [tx.date, tx.description, tx.debit, tx.credit, tx.balance, tx.reference]

def PrintedStatement.rows (s : PrintedStatement) : List (List JsString) :=
  [[js "Member", s.memberName], [js "Member Number", s.memberNumber],
    [js "Period From", s.periodFrom], [js "Period To", s.periodTo], [js "Audit Hash", s.auditHash],
    []] ++ (s.summaryRows ++ ([] :: transactionHeaders ::
      s.transactions.map PrintedTransaction.cells))

def PrintedStatement.exportAsCsv (s : PrintedStatement) : JsString := csvText s.rows

/-! ## 4. The ledger -/

structure ExportedAccount where
  code : JsString
  name : JsString

/-- A posting with what is read of its journal entry; `amount` is in units of 0.0001. -/
structure ExportedPosting where
  postingDate : Timestamp
  entryNumber : JsString
  type : JournalEntryType
  description : Option JsString
  entryDescription : JsString
  debitAccount : Option ExportedAccount
  creditAccount : Option ExportedAccount
  amount : Int
  firstName : JsString
  lastName : JsString

def glHeaders : List JsString :=
  ["Posting Date", "Entry Number", "Entry Type", "Description", "Debit Account Code",
    "Debit Account Name", "Credit Account Code", "Credit Account Name", "Amount (KES)",
    "Created By"].map js

/-- `toISOString().split('T')[0]` -/
def dateText (t : Timestamp) : JsString :=
  js (String.ofList (t.toISOString.toList.takeWhile (· != 'T')))

/-- `p.description || p.journalEntry.description` -/
def ExportedPosting.shownDescription (p : ExportedPosting) : JsString :=
  if (p.description.getD []).isEmpty then p.entryDescription else p.description.getD []

def ExportedPosting.createdBy (p : ExportedPosting) : JsString :=
  p.firstName ++ (js " " ++ p.lastName)

def asIs (cell : JsString) : Written := ⟨cell, cell⟩

def escaped (cell : JsString) : Written := ⟨quotedCell cell, cell⟩

/-- The cells of a posting, and what is written for each of them. -/
def ExportedPosting.written (p : ExportedPosting) : List Written :=
  [asIs (dateText p.postingDate),
    asIs p.entryNumber,
    asIs (js p.type.name),
    escaped p.shownDescription,
    asIs ((p.debitAccount.map (·.code)).getD []),
    escaped ((p.debitAccount.map (·.name)).getD []),
    asIs ((p.creditAccount.map (·.code)).getD []),
    escaped ((p.creditAccount.map (·.name)).getD []),
    asIs (js (toFixed2 p.amount)),
    ⟨QUOTE :: (p.createdBy ++ [QUOTE]), p.createdBy⟩]

def exportGL (postings : List ExportedPosting) : JsString :=
  join LF (join COMMA glHeaders ::
    postings.map fun p => join COMMA (p.written.map Written.text))

def glRows (postings : List ExportedPosting) : List (List JsString) :=
  glHeaders :: postings.map fun p => p.written.map Written.cell

/-! ## 5. When a cell is read back -/

/-- A carriage return stands only where the cell is put between quotes. -/
def csvSafe (text : JsString) : Bool := !text.contains CR || needsQuotes text

/-- The number of the entry and the codes have nothing special in them, and the creator no quote. -/
def ExportedPosting.safe (p : ExportedPosting) : Bool :=
  isPlain p.entryNumber && isPlain ((p.debitAccount.map (·.code)).getD []) &&
    isPlain ((p.creditAccount.map (·.code)).getD []) && !p.createdBy.contains QUOTE

namespace CsvLemmas

variable {text : JsString} {row : List JsString} {rows : List (List JsString)}

theorem tight_csvCell (text : JsString) : Tight (csvCell text) text := by
  unfold csvCell
  split
  · exact Csv.tight_quoted text
  · exact Csv.tight_raw text

theorem isPlain_of_unquoted (h : needsQuotes text = false) :
    isPlain text = !text.contains CR := by
  rw [needsQuotes, List.any_eq_false] at h
  rw [Bool.eq_iff_iff, Bool.not_eq_true', List.contains_eq_mem, decide_eq_false_iff_not, isPlain,
    List.all_eq_true]
  constructor
  · exact fun hall hmem => absurd (hall CR hmem) (by decide)
  · intro hcr u hmem
    have hu := h u hmem
    rw [Bool.or_eq_true, Bool.or_eq_true, beq_iff_eq, beq_iff_eq, beq_iff_eq, not_or, not_or] at hu
    rw [Bool.not_eq_true', Csv.isSpecial, Csv.isBreak, Bool.or_eq_false_iff, Bool.or_eq_false_iff,
      Bool.or_eq_false_iff, beq_eq_false_iff_ne, beq_eq_false_iff_ne, beq_eq_false_iff_ne,
      beq_eq_false_iff_ne]
    exact ⟨hu.1.1, ⟨hu.1.2, hu.2⟩, fun heq => hcr (heq ▸ hmem)⟩

end CsvLemmas

open CsvLemmas

/-- What the shared function writes is a text of the cell exactly when a carriage return in it stands
between quotes. -/
theorem cellText_csvCell_iff (text : JsString) :
    CellText (csvCell text) text ↔ csvSafe text = true := by
  unfold csvCell csvSafe
  cases hquotes : needsQuotes text with
  | true =>
    rw [if_pos rfl, Bool.or_true]
    exact ⟨fun _ => rfl, fun _ => .quoted text⟩
  | false =>
    rw [if_neg Bool.false_ne_true, Csv.cellText_raw_iff, isPlain_of_unquoted hquotes, Bool.or_false]

namespace CsvLemmas

variable {row : List JsString} {rows : List (List JsString)}

/-- What is written for a row; a blank one is written as a blank cell is. -/
def rowWritten (row : List JsString) : List Written :=
  if row.isEmpty then [⟨[], []⟩] else row.map fun cell => ⟨csvCell cell, cell⟩

theorem recordText_rowWritten (row : List JsString) :
    recordText (rowWritten row) = join COMMA (row.map csvCell) := by
  unfold rowWritten
  cases row with
  | nil => rfl
  | cons cell row =>
    rw [if_neg (by rw [List.isEmpty_cons]; exact Bool.false_ne_true), recordText, List.map_map]
    rfl

theorem fileText_rowWritten (rows : List (List JsString)) :
    fileText (rows.map rowWritten) = csvText rows := by
  rw [fileText, csvText, List.map_map]
  exact congrArg _ (List.map_congr_left fun row _ => recordText_rowWritten row)

theorem cells_rowWritten (row : List JsString) :
    (rowWritten row).map Written.cell = if row.isEmpty then [[]] else row := by
  unfold rowWritten
  split
  · rfl
  · rw [List.map_map]
    exact List.map_id' row

theorem mem_rowWritten {written : Written} (h : written ∈ rowWritten row) :
    written = ⟨csvCell written.cell, written.cell⟩ := by
  unfold rowWritten at h
  split at h
  · rw [List.mem_singleton.mp h]
    rfl
  · obtain ⟨cell, _, rfl⟩ := List.mem_map.mp h
    rfl

/-- A row of two cells or more is not blank. -/
theorem join_ne_nil (h : 2 ≤ row.length) : join COMMA row ≠ [] := by
  match row with
  | [] => exact absurd h (by decide)
  | [_] => exact absurd h (Nat.not_succ_le_self 1)
  | first :: second :: rest =>
    rw [Csv.join_cons (List.cons_ne_nil _ _), ne_eq, List.append_eq_nil_iff]
    exact fun hnil => List.cons_ne_nil _ _ hnil.2

end CsvLemmas

/-- Rows that the shared function writes, the last one not blank, are read back exactly when each of
their cells is safe. -/
theorem csvText_read {rows : List (List JsString)}
    (hlast : ∀ row ∈ rows.getLast?, 2 ≤ row.length) :
    Csv.read (csvText rows) = some (readBack rows) ↔
      ∀ row ∈ rows, ∀ cell ∈ row, csvSafe cell = true := by
  have hcells : readBack rows = (rows.map rowWritten).map fun row => row.map Written.cell := by
    rw [readBack, List.map_map]
    exact List.map_congr_left fun row _ => (cells_rowWritten row).symm
  rw [← fileText_rowWritten, hcells, Csv.file_read]
  · rw [List.forall_mem_map]
    refine forall₂_congr fun row _ => ⟨fun h cell hcell => ?_, fun h written hmem => ?_⟩
    · have hwritten : (⟨csvCell cell, cell⟩ : Written) ∈ rowWritten row := by
        have hrow : row.isEmpty = false := List.isEmpty_eq_false_iff.mpr (List.ne_nil_of_mem hcell)
        rw [rowWritten, hrow, if_neg Bool.false_ne_true]
        exact List.mem_map.mpr ⟨cell, hcell, rfl⟩
      exact (cellText_csvCell_iff cell).mp (h _ hwritten)
    · unfold rowWritten at hmem
      split at hmem
      · rw [List.mem_singleton.mp hmem]
        exact .plain rfl
      · obtain ⟨cell, hcell, rfl⟩ := List.mem_map.mp hmem
        exact (cellText_csvCell_iff cell).mpr (h cell hcell)
  · rw [List.forall_mem_map]
    intro row _ hnil
    have hcells := cells_rowWritten row
    rw [hnil] at hcells
    split at hcells
    · cases hcells
    · next hempty => exact hempty (by rw [← hcells]; rfl)
  · rw [List.getLast?_map]
    intro row hmem
    obtain ⟨row', hrow, rfl⟩ := Option.map_eq_some_iff.mp hmem
    rw [recordText_rowWritten]
    exact join_ne_nil (by rw [List.length_map]; exact hlast row' hrow)
  · rw [List.forall_mem_map]
    intro row _ written hmem
    rw [mem_rowWritten hmem]
    exact tight_csvCell written.cell

/-! ## 6. The exports -/

namespace CsvLemmas

theorem readBack_eq {rows : List (List JsString)} (h : ∀ row ∈ rows, 2 ≤ row.length) :
    readBack rows = rows := by
  have hsame : ∀ row ∈ rows, (if row.isEmpty then [[]] else row) = row := by
    intro row hmem
    have hrow := h row hmem
    cases row with
    | nil => exact absurd hrow (by decide)
    | cons _ _ => rfl
  rw [readBack, List.map_congr_left hsame]
  exact List.map_id' rows

theorem headers_plain {headers : List JsString} (h : headers.all isPlain = true) :
    headers.map csvCell = headers := by
  have hsame : ∀ header ∈ headers, csvCell header = header := by
    intro header hmem
    have hplain := List.all_eq_true.mp h header hmem
    have hquotes : needsQuotes header = false := by
      rw [needsQuotes, List.any_eq_false]
      intro u hu
      have hspecial := (Bool.not_eq_true' _).mp (List.all_eq_true.mp hplain u hu)
      rw [Csv.isSpecial, Csv.isBreak, Bool.or_eq_false_iff, Bool.or_eq_false_iff,
        Bool.or_eq_false_iff] at hspecial
      rw [hspecial.1, hspecial.2.1.1, hspecial.2.1.2]
      exact Bool.false_ne_true
    rw [csvCell, hquotes, if_neg Bool.false_ne_true]
  rw [List.map_congr_left hsame]
  exact List.map_id' headers

theorem exportAuditCsv_eq (entries : List AuditLogEntry) :
    exportAuditCsv entries = csvText (auditRows entries) := by
  have hheaders := @headers_plain auditHeaders rfl
  rw [exportAuditCsv, csvText, auditRows, List.map_cons, List.map_map, hheaders]
  rfl

theorem auditRows_length {entries : List AuditLogEntry} :
    ∀ row ∈ auditRows entries, 2 ≤ row.length := by
  intro row hmem
  rcases List.mem_cons.mp hmem with rfl | hmem
  · decide
  · obtain ⟨entry, _, rfl⟩ := List.mem_map.mp hmem
    exact Nat.succ_le_succ (Nat.succ_le_succ (Nat.zero_le _))

/-- A statement ends with the names of its columns or with a transaction. -/
theorem statement_last (s : PrintedStatement) : ∀ row ∈ s.rows.getLast?, 2 ≤ row.length := by
  intro row hlast
  have hmem : row ∈ transactionHeaders :: s.transactions.map PrintedTransaction.cells := by
    rw [PrintedStatement.rows, List.getLast?_append_of_ne_nil _ (by simp),
      List.getLast?_append_of_ne_nil _ (List.cons_ne_nil _ _), List.getLast?_cons_cons] at hlast
    exact List.mem_of_getLast? hlast
  rcases List.mem_cons.mp hmem with rfl | hmem
  · decide
  · obtain ⟨tx, _, rfl⟩ := List.mem_map.mp hmem
    exact Nat.succ_le_succ (Nat.succ_le_succ (Nat.zero_le _))

theorem special_toNat {u : UInt16} (h : Csv.isSpecial u = true) :
    u.toNat = 34 ∨ u.toNat = 44 ∨ u.toNat = 10 ∨ u.toNat = 13 := by
  rw [Csv.isSpecial, Csv.isBreak, Bool.or_eq_true, Bool.or_eq_true, Bool.or_eq_true, beq_iff_eq,
    beq_iff_eq, beq_iff_eq, beq_iff_eq] at h
  rcases h with rfl | (rfl | rfl) | rfl
  · exact .inl rfl
  · exact .inr (.inl rfl)
  · exact .inr (.inr (.inl rfl))
  · exact .inr (.inr (.inr rfl))

/-- A text of the source is plain when none of its characters is special. -/
theorem isPlain_js {s : String}
    (h : ∀ c ∈ s.toList, c ≠ '"' ∧ c ≠ ',' ∧ c ≠ '\n' ∧ c ≠ '\r') : isPlain (js s) = true := by
  rw [isPlain, List.all_eq_true]
  intro u hu
  obtain ⟨c, hc, hunit⟩ := List.mem_flatMap.mp hu
  obtain ⟨hquote, hcomma, hlf, hcr⟩ := h c hc
  rw [Bool.not_eq_true', Bool.eq_false_iff]
  intro hspecial
  have hnat := special_toNat hspecial
  unfold unitsOfChar at hunit
  split at hunit
  · next hsmall =>
    have htoNat : u.toNat = c.toNat := by
      rw [List.mem_singleton.mp hunit, Nat.toUInt16, UInt16.toNat_ofNat',
        Nat.mod_eq_of_lt hsmall]
    rw [htoNat] at hnat
    rcases hnat with hnat | hnat | hnat | hnat
    · exact hquote (Char.toNat_inj.mp hnat)
    · exact hcomma (Char.toNat_inj.mp hnat)
    · exact hlf (Char.toNat_inj.mp hnat)
    · exact hcr (Char.toNat_inj.mp hnat)
  · -- the halves of a pair are above all of them
    next hlarge =>
    have hvalid : c.toNat < 0xd800 ∨ (0xdfff < c.toNat ∧ c.toNat < 0x110000) := c.valid
    have hhalf : 0xD800 ≤ u.toNat := by
      rcases List.mem_cons.mp hunit with rfl | hunit
      · rw [Nat.toUInt16, UInt16.toNat_ofNat']
        omega
      · rw [List.mem_singleton.mp hunit, Nat.toUInt16, UInt16.toNat_ofNat']
        omega
    omega

theorem isPlain_of_iso {s : String} (h : ∀ c ∈ s.toList, IsoDate.plain c = true) :
    isPlain (js s) = true := by
  refine isPlain_js fun c hc => ?_
  have hplain := h c hc
  refine ⟨?_, ?_, ?_, ?_⟩ <;> rintro rfl <;> exact absurd hplain (by decide)

theorem isPlain_dateText (t : Timestamp) : isPlain (dateText t) = true := by
  refine isPlain_of_iso fun c hc => ?_
  rw [String.toList_ofList] at hc
  exact Timestamp.plain_of_mem_toISOString (List.takeWhile_subset _ hc)

theorem isPlain_typeName (type : JournalEntryType) : isPlain (js type.name) = true := by
  cases type <;> rfl

theorem isPlain_toFixed2 (n : Int) : isPlain (js (toFixed2 n)) = true := by
  have hdigits : ∀ a b : Nat, ∀ c ∈ (s!"{a}.{pad2 b}").toList, IsoDate.plain c = true := by
    intro a b c hc
    rw [show s!"{a}.{pad2 b}" = toString a ++ "." ++ pad2 b from rfl, String.toList_append,
      String.toList_append] at hc
    rcases List.mem_append.mp hc with hc | hc
    · rcases List.mem_append.mp hc with hc | hc
      · exact IsoDate.plain_of_isDigit (ReferenceLemmas.digits_isDigit c hc)
      · rw [List.mem_singleton.mp hc]
        rfl
    · exact IsoDate.plain_of_isDigit (ReferenceLemmas.pad2_isDigit b c hc)
  refine isPlain_of_iso fun c hc => ?_
  unfold toFixed2 at hc
  dsimp only at hc
  split at hc
  · rw [show ∀ t : String, s!"-{t}" = "-" ++ t from fun _ => rfl, String.toList_append] at hc
    rcases List.mem_append.mp hc with hc | hc
    · rw [List.mem_singleton.mp hc]
      rfl
    · exact hdigits _ _ c hc
  · exact hdigits _ _ c hc

theorem tight_written {p : ExportedPosting} :
    ∀ written ∈ p.written, Tight written.text written.cell := by
  have hraw : ∀ cell, Tight (asIs cell).text (asIs cell).cell := Csv.tight_raw
  have hquoted : ∀ cell, Tight (escaped cell).text (escaped cell).cell := Csv.tight_quoted
  unfold ExportedPosting.written
  simp only [List.forall_mem_cons]
  exact ⟨hraw _, hraw _, hraw _, hquoted _, hraw _, hquoted _, hraw _, hquoted _, hraw _,
    Csv.tight_unescaped _, fun _ hmem => absurd hmem List.not_mem_nil⟩

/-- The cells of a posting are written as texts of them exactly when its entry number, its codes and its
creator are harmless. -/
theorem cellText_written_iff (p : ExportedPosting) :
    (∀ written ∈ p.written, CellText written.text written.cell) ↔ p.safe = true := by
  have hraw : ∀ cell, CellText (asIs cell).text (asIs cell).cell ↔ isPlain cell = true :=
    fun _ => Csv.cellText_raw_iff
  have hquoted : ∀ cell, CellText (escaped cell).text (escaped cell).cell := .quoted
  have hcreator : CellText (QUOTE :: (p.createdBy ++ [QUOTE])) p.createdBy ↔
      (!p.createdBy.contains QUOTE) = true := by
    rw [Csv.cellText_unescaped_iff, Bool.not_eq_true', List.contains_eq_mem,
      decide_eq_false_iff_not]
  unfold ExportedPosting.written ExportedPosting.safe
  simp only [List.forall_mem_cons, hraw, hquoted, hcreator, isPlain_dateText, isPlain_typeName,
    isPlain_toFixed2, Bool.and_eq_true, true_and, and_assoc]
  simp only [List.not_mem_nil, false_imp_iff, implies_true, and_true]

/-- What is written for the ledger. -/
def glWritten (postings : List ExportedPosting) : List (List Written) :=
  glHeaders.map asIs :: postings.map ExportedPosting.written

theorem exportGL_eq (postings : List ExportedPosting) :
    exportGL postings = fileText (glWritten postings) := by
  rw [exportGL, fileText, glWritten, List.map_cons, List.map_map, recordText, List.map_map]
  rfl

theorem glRows_eq (postings : List ExportedPosting) :
    glRows postings = (glWritten postings).map fun row => row.map Written.cell := by
  rw [glRows, glWritten, List.map_cons, List.map_map, List.map_map]
  rfl

theorem glWritten_length {postings : List ExportedPosting} :
    ∀ row ∈ glWritten postings, 2 ≤ row.length := by
  intro row hmem
  rcases List.mem_cons.mp hmem with rfl | hmem
  · decide
  · obtain ⟨p, _, rfl⟩ := List.mem_map.mp hmem
    exact Nat.succ_le_succ (Nat.succ_le_succ (Nat.zero_le _))

end CsvLemmas

theorem auditCsv_read (entries : List AuditLogEntry) :
    Csv.read (exportAuditCsv entries) = some (auditRows entries) ↔
      ∀ row ∈ auditRows entries, ∀ cell ∈ row, csvSafe cell = true := by
  have hrows := @csvText_read (auditRows entries) fun row hlast =>
    auditRows_length row (List.mem_of_getLast? hlast)
  rw [readBack_eq auditRows_length] at hrows
  rw [exportAuditCsv_eq]
  exact hrows

theorem glCsv_read (postings : List ExportedPosting) :
    Csv.read (exportGL postings) = some (glRows postings) ↔
      ∀ p ∈ postings, p.safe = true := by
  have hheaders : ∀ written ∈ glHeaders.map asIs, CellText written.text written.cell := by
    refine List.forall_mem_map.mpr fun header hmem => .plain ?_
    have hall : glHeaders.all isPlain = true := rfl
    exact List.all_eq_true.mp hall header hmem
  rw [exportGL_eq, glRows_eq, Csv.file_read]
  · unfold glWritten
    rw [List.forall_mem_cons, and_iff_right hheaders, List.forall_mem_map]
    exact forall₂_congr fun p _ => cellText_written_iff p
  · intro row hmem hnil
    have hlength := glWritten_length row hmem
    rw [hnil] at hlength
    exact absurd hlength (by decide)
  · intro row hlast
    refine join_ne_nil ?_
    rw [List.length_map]
    exact glWritten_length row (List.mem_of_getLast? hlast)
  · unfold glWritten
    rw [List.forall_mem_cons]
    exact ⟨List.forall_mem_map.mpr fun header _ => Csv.tight_raw header,
      List.forall_mem_map.mpr fun _ _ => tight_written⟩

/-- The audit log and the statements are read back exactly when no cell has a carriage return without
being quoted for something else; the ledger exactly when no entry number and no code has anything special
in it and no creator a quote. -/
theorem csv_exports (entries : List AuditLogEntry) (s : PrintedStatement)
    (postings : List ExportedPosting) :
    (Csv.read (exportAuditCsv entries) = some (auditRows entries) ↔
      ∀ row ∈ auditRows entries, ∀ cell ∈ row, csvSafe cell = true) ∧
    (Csv.read s.exportAsCsv = some (readBack s.rows) ↔
      ∀ row ∈ s.rows, ∀ cell ∈ row, csvSafe cell = true) ∧
    (Csv.read (exportGL postings) = some (glRows postings) ↔ ∀ p ∈ postings, p.safe = true) :=
  ⟨auditCsv_read entries, csvText_read (statement_last s), glCsv_read postings⟩

theorem epoch_valid : 0 ≤ 8640000000000000 := Nat.zero_le _

/-- An entry whose action ends with a carriage return. -/
def exAuditEntry : AuditLogEntry where
  timestamp := ⟨0, epoch_valid⟩
  user := none
  action := js "LOGIN\r"
  resource := js "User"
  resourceId := none
  ipAddress := none
  requestId := none
  entryHash := none
  metadata := none

/-- A statement of a member whose name was pasted with a carriage return. -/
def exPrinted : PrintedStatement where
  memberName := js "Jane\rDoe"
  memberNumber := js "M-1"
  periodFrom := js "2026-01-01"
  periodTo := js "2026-01-31"
  auditHash := js "00"
  openingBalance := js "0"
  closingBalance := js "0"
  totals := .fosa (js "0") (js "0")
  transactions := []

/-- A posting that was created by a user with a nickname in quotes. -/
def exNicknamed : ExportedPosting where
  postingDate := ⟨0, epoch_valid⟩
  entryNumber := js "JE-1970-000001"
  type := .manual
  description := none
  entryDescription := js "Opening"
  debitAccount := some ⟨js "1000", js "Cash"⟩
  creditAccount := some ⟨js "2300", js "Deposits"⟩
  amount := 1000000
  firstName := js "Jane \"JD\""
  lastName := js "Doe"

/-- The rows of the first two come out cut in two, and the third text is not one of records. -/
theorem exports_misread :
    Csv.read (exportAuditCsv [exAuditEntry]) ≠ some (auditRows [exAuditEntry]) ∧
    Csv.read exPrinted.exportAsCsv ≠ some (readBack exPrinted.rows) ∧
    Csv.read (exportGL [exNicknamed]) = none := by
  decide +kernel

end BebaSacco
