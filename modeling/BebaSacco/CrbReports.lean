import BebaSacco.Lib.IsoDate
import BebaSacco.Lib.Xml
import BebaSacco.ReferenceRows

/-! # Credit-bureau reports

The report is written line by line. The texts of a loan are escaped: five characters become
references, and every other one is written as it is, also one that XML does not have. The two period
strings of the request are not escaped. The reader has no comments and no numeric references, which
the report does not use.

Results:
1. `buildCrbXml_eq`: behind its header, the text is the one of a tree.
2. `decodesBack_iff`: the header and the records are read apart from each other.
3. `crb_xml`: which reports decode back, for a reader that keeps line ends and for one that
   normalises them.
4. `report_not_read`: a vertical tab in a name, and a bracket in a period.
-/

namespace BebaSacco

open Xml (Text Node escapeXml isXmlChar isCharData decode endTag textPart spaced)

/-! ## 1. The report -/

/-- The columns that are reported; amounts are in units of 0.0001. -/
structure ReportedLoan where
  loanNumber : Text
  principalAmount : Int
  outstandingBalance : Int
  arrearsDays : Int
  arrearsAmount : Int
  staging : LoanStaging
  status : LoanStatus
  disbursedAt : Option Timestamp
  dueDate : Option Timestamp
  memberNumber : Text
  nationalId : Option Text
  kraPin : Option Text
  firstName : Text
  lastName : Text
  productName : Text

structure Uuid where
  chars : Text
  plain : chars.all (fun c => c.isAlphanum || c == '-') = true

/-- What a report is built from: the loans, the tenant, the strings of the request, the time and a
new UUID. -/
structure CrbExport where
  loans : List ReportedLoan
  tenantId : Uuid
  periodStart : Text
  periodEnd : Text
  now : Timestamp
  uuid : Uuid

def LoanStaging.name : LoanStaging → String
  | .performing => "PERFORMING"
  | .watchlist => "WATCHLIST"
  | .npl => "NPL"

def mapStagingToCrbClassification (staging : String) : String :=
  if staging = "PERFORMING" then "NORMAL"
  else if staging = "WATCHLIST" then "WATCH"
  else if staging = "NPL" then "SUBSTANDARD"
  else "UNCLASSIFIED"

/-- `toISOString().split('T')[0]` -/
def dayText (t : Timestamp) : Text := t.toISOString.toList.takeWhile (· != 'T')

/-- A tag with the value that stands in it. -/
structure CrbField where
  name : String
  value : Text
  isEscaped : Bool

def CrbField.written (f : CrbField) : Text := if f.isEscaped then escapeXml f.value else f.value

def CrbField.line (f : CrbField) (indent : String) : Text :=
  indent.toList ++ '<' :: (f.name.toList ++ '>' :: (f.written ++ (endTag f.name.toList ++ ['\n'])))

def CrbExport.fields (e : CrbExport) : List CrbField :=
  [⟨"InstitutionCode", "SACCO-".toList ++ (e.tenantId.chars.take 8).map Char.toUpper, false⟩,
    ⟨"InstitutionType", "SACCO".toList, false⟩,
    ⟨"BatchId", (e.uuid.chars.takeWhile (· != '-')).map Char.toUpper, false⟩,
    ⟨"ReportingPeriodStart", e.periodStart, false⟩,
    ⟨"ReportingPeriodEnd", e.periodEnd, false⟩,
    ⟨"SubmissionDate", dayText e.now, false⟩,
    ⟨"RecordCount", (toString e.loans.length).toList, false⟩]

def ReportedLoan.fields (loan : ReportedLoan) : List CrbField :=
  [⟨"AccountNumber", loan.loanNumber, true⟩,
    ⟨"BorrowerName", loan.lastName ++ ' ' :: loan.firstName, true⟩,
    ⟨"NationalId", loan.nationalId.getD "N/A".toList, true⟩,
    ⟨"KraPin", loan.kraPin.getD "N/A".toList, true⟩,
    ⟨"MemberNumber", loan.memberNumber, true⟩,
    ⟨"ProductType", loan.productName, true⟩,
    ⟨"PrincipalAmount", (kesText loan.principalAmount).toList, false⟩,
    ⟨"OutstandingBalance", (kesText loan.outstandingBalance).toList, false⟩,
    ⟨"ArrearsAmount", (kesText loan.arrearsAmount).toList, false⟩,
    ⟨"ArrearsDays", (toString loan.arrearsDays).toList, false⟩,
    ⟨"Classification", (mapStagingToCrbClassification loan.staging.name).toList, false⟩,
    ⟨"AccountStatus", loan.status.name.toList, false⟩,
    ⟨"DisbursementDate", (loan.disbursedAt.map dayText).getD [], false⟩,
    ⟨"MaturityDate", (loan.dueDate.map dayText).getD [], false⟩]

def ReportedLoan.record (loan : ReportedLoan) : Text :=
  "    <CreditRecord>\n".toList ++ loan.fields.flatMap (·.line "      ") ++
    "    </CreditRecord>\n".toList

/-- The text up to the end of the header. -/
def CrbExport.header (e : CrbExport) : Text :=
  "<CreditReport xmlns=\"urn:crbafrica:cis:3.0\">\n".toList ++ "  <Header>\n".toList ++
    e.fields.flatMap (·.line "    ") ++ "  </Header>\n".toList

def buildCrbXml (e : CrbExport) : Text :=
  Xml.declaration ++ e.header ++ "  <Records>\n".toList ++ e.loans.flatMap ReportedLoan.record ++
    "  </Records>\n".toList ++ "</CreditReport>".toList

/-! ## 2. What is read back -/

/-- The elements in a node with the values of their character data. -/
def valuesOf (lineEnds : Text → Text) (node : Node) : List (Text × Option Text) :=
  node.elements.map fun child => (child.name, (child.data.map lineEnds).bind decode)

def HasCount (lineEnds : Text → Text) (header : Node) (count : Nat) : Prop :=
  (valuesOf lineEnds header).filter (fun value => value.1 == "RecordCount".toList) =
    [("RecordCount".toList, some (toString count).toList)]

/-- The text is a document with one record for each loan, in order, and each field of a record
decodes to the one of the loan, by a reader that does this with line ends. -/
def DecodesBack (lineEnds : Text → Text) (e : CrbExport) : Prop :=
  ∃ root header records, Xml.read (buildCrbXml e) = some root ∧
    root.name = "CreditReport".toList ∧ root.elements = [header, records] ∧
    header.name = "Header".toList ∧ records.name = "Records".toList ∧
    HasCount lineEnds header e.loans.length ∧
    records.elements.map (fun record => (record.name, valuesOf lineEnds record)) =
      e.loans.map fun loan =>
        ("CreditRecord".toList, loan.fields.map fun f => (f.name.toList, some f.value))

/-- The text with the header alone. -/
def headerDocument (e : CrbExport) : Text :=
  Xml.declaration ++ e.header ++ "</CreditReport>".toList

/-- The tenant, the periods and the count make a header, and nothing besides. -/
def HeaderReads (lineEnds : Text → Text) (e : CrbExport) : Prop :=
  ∃ root header, Xml.read (headerDocument e) = some root ∧ root.name = "CreditReport".toList ∧
    root.elements = [header] ∧ header.name = "Header".toList ∧
    HasCount lineEnds header e.loans.length

/-- The periods have no markup in them. -/
def plainPeriods (e : CrbExport) : Bool :=
  [e.periodStart, e.periodEnd].all fun period =>
    period.all isXmlChar && isCharData period

/-- The texts of a loan that are escaped. -/
def ReportedLoan.texts (loan : ReportedLoan) : List Text :=
  (loan.fields.filter (·.isEscaped)).map (·.value)

namespace CrbLemmas

variable {e : CrbExport} {lineEnds : Text → Text} {f : CrbField} {c : Char} {raw : Text}

/-! ## 3. What is not escaped -/

/-- The characters of numbers, dates and enumerations. -/
def isBare (c : Char) : Bool := IsoDate.plain c || c.isAlphanum || c == '_'

/-- What holds of the 128 characters of ASCII. -/
theorem ascii_forall {p : Char → Bool} (h : ((List.range 128).all fun n => p (Char.ofNat n)) = true)
    (hc : c.toNat < 128) : p c = true := by
  have hp := List.all_eq_true.mp h c.toNat (List.mem_range.mpr hc)
  rwa [Char.ofNat_toNat] at hp

theorem toNat_le_of_and {low high : Char}
    (h : (decide (c.val ≥ low.val) && decide (c.val ≤ high.val)) = true) : c.toNat ≤ high.toNat :=
  UInt32.le_iff_toNat_le.mp (of_decide_eq_true (Bool.and_eq_true_iff.mp h).2)

theorem ascii_of_isAlphanum (h : c.isAlphanum = true) : c.toNat < 128 := by
  rcases Bool.or_eq_true_iff.mp h with halpha | hdigit
  · rcases Bool.or_eq_true_iff.mp halpha with hupper | hlower
    · have hle : c.val ≥ 'A'.val ∧ c.val ≤ 'Z'.val := of_decide_eq_true hupper
      exact Nat.lt_of_le_of_lt (UInt32.le_iff_toNat_le.mp hle.2) (by decide)
    · exact Nat.lt_of_le_of_lt (toNat_le_of_and hlower) (by decide)
  · exact Nat.lt_of_le_of_lt (toNat_le_of_and hdigit) (by decide)

theorem ascii_of_isBare (h : isBare c = true) : c.toNat < 128 := by
  unfold isBare IsoDate.plain at h
  simp only [Bool.or_eq_true, beq_iff_eq] at h
  rcases h with (((((((h | rfl) | rfl) | rfl) | rfl) | rfl) | rfl) | h) | rfl
  · exact ascii_of_isAlphanum (by rw [Char.isAlphanum, h, Bool.or_true])
  · decide
  · decide
  · decide
  · decide
  · decide
  · decide
  · exact ascii_of_isAlphanum h
  · decide

theorem xmlChar_of_isBare (h : isBare c = true) : isXmlChar c = true := by
  have himp : (!isBare c || isXmlChar c) = true :=
    ascii_forall (p := fun c => !isBare c || isXmlChar c) (by decide +kernel) (ascii_of_isBare h)
  rwa [h, Bool.not_true, Bool.false_or] at himp

def Bare (raw : Text) : Prop := ∀ c ∈ raw, isBare c = true

instance : Decidable (Bare raw) := decidable_of_iff (raw.all isBare = true) List.all_eq_true

theorem Bare.notMem (h : Bare raw) (hc : isBare c = false) : c ∉ raw := by
  intro hmem
  rw [h c hmem] at hc
  cases hc

theorem Bare.decode (h : Bare raw) : Xml.decode raw = some raw := by
  induction raw with
  | nil => rfl
  | cons c cs ih =>
    have hamp : c ≠ '&' := fun heq => h.notMem (c := '&') rfl (heq ▸ List.mem_cons_self)
    rw [Xml.decode_other hamp, ih fun d hd => h d (List.mem_cons_of_mem _ hd)]
    rfl

theorem Bare.isCharData (h : Bare raw) : Xml.isCharData raw = true :=
  Xml.isCharData_of (h.notMem rfl) (h.notMem rfl) (by rw [h.decode]; rfl)

theorem Bare.legal (h : Bare raw) : raw.all isXmlChar = true :=
  List.all_eq_true.mpr fun c hc => xmlChar_of_isBare (h c hc)

theorem Bare.append {raw' : Text} (h : Bare raw) (h' : Bare raw') : Bare (raw ++ raw') :=
  List.forall_mem_append.mpr ⟨h, h'⟩

theorem bare_of_digits (h : ∀ c ∈ raw, c.isDigit = true) : Bare raw := fun c hc => by
  rw [isBare, IsoDate.plain_of_isDigit (h c hc)]
  rfl

theorem bare_nat (n : Nat) : Bare (toString n).toList :=
  bare_of_digits fun c => ReferenceLemmas.digits_isDigit c

theorem bare_int (n : Int) : Bare (toString n).toList := by
  cases n with
  | ofNat n => exact bare_nat n
  | negSucc n =>
    rw [show toString (Int.negSucc n) = "-" ++ toString (n + 1) from rfl, String.toList_append]
    exact Bare.append (by decide) (bare_nat _)

theorem bare_pad2 (n : Nat) : Bare (pad2 n).toList :=
  bare_of_digits fun c => ReferenceLemmas.pad2_isDigit n c

theorem bare_fractionText (n : Nat) : Bare (fractionText n).toList := by
  unfold fractionText
  split
  · exact bare_nat _
  · split
    · exact bare_pad2 _
    · split
      · rw [show ∀ a b : Nat, s!"{a}{pad2 b}" = toString a ++ pad2 b from fun _ _ => rfl,
          String.toList_append]
        exact (bare_nat _).append (bare_pad2 _)
      · rw [show ∀ a b : Nat, s!"{pad2 a}{pad2 b}" = pad2 a ++ pad2 b from fun _ _ => rfl,
          String.toList_append]
        exact (bare_pad2 _).append (bare_pad2 _)

theorem bare_kesText (n : Int) : Bare (kesText n).toList := by
  have hdigits : Bare (if n.natAbs % 10000 = 0 then toString (n.natAbs / 10000)
      else s!"{n.natAbs / 10000}.{fractionText (n.natAbs % 10000)}").toList := by
    split
    · exact bare_nat _
    · rw [show ∀ (a : Nat) (t : String), s!"{a}.{t}" = toString a ++ "." ++ t from
        fun _ _ => rfl, String.toList_append, String.toList_append]
      exact ((bare_nat _).append (by decide)).append (bare_fractionText _)
  unfold kesText
  dsimp only
  split
  · rw [show ∀ t : String, s!"-{t}" = "-" ++ t from fun _ => rfl, String.toList_append]
    exact Bare.append (by decide) hdigits
  · exact hdigits

theorem bare_dayText (t : Timestamp) : Bare (dayText t) := by
  intro c hc
  rw [dayText] at hc
  rw [isBare, Timestamp.plain_of_mem_toISOString (List.takeWhile_subset _ hc)]
  rfl

theorem bare_day (t : Option Timestamp) : Bare ((t.map dayText).getD []) := by
  cases t with
  | none =>
    rw [Option.map_none, Option.getD_none]
    exact fun _ hc => absurd hc List.not_mem_nil
  | some t =>
    rw [Option.map_some, Option.getD_some]
    exact bare_dayText t

theorem bare_classification (staging : LoanStaging) :
    Bare (mapStagingToCrbClassification staging.name).toList := by
  cases staging <;> decide

theorem bare_status (status : LoanStatus) : Bare status.name.toList := by
  cases status <;> decide

theorem bare_upper (h : raw.all (fun c => c.isAlphanum || c == '-') = true) :
    Bare (raw.map Char.toUpper) := by
  intro d hd
  obtain ⟨c, hc, rfl⟩ := List.mem_map.mp hd
  have hchar := List.all_eq_true.mp h c hc
  have hascii : c.toNat < 128 := by
    rcases Bool.or_eq_true_iff.mp hchar with halnum | hdash
    · exact ascii_of_isAlphanum halnum
    · rw [beq_iff_eq.mp hdash]
      decide
  have himp : (!(c.isAlphanum || c == '-') || isBare c.toUpper) = true :=
    ascii_forall (p := fun c => !(c.isAlphanum || c == '-') || isBare c.toUpper)
      (by decide +kernel) hascii
  rwa [hchar, Bool.not_true, Bool.false_or] at himp

theorem bare_field (loan : ReportedLoan) :
    ∀ f ∈ loan.fields, f.isEscaped = false → Bare f.value := by
  have hescaped : ∀ {p : Prop}, true = false → p := fun h => Bool.noConfusion h
  simp only [ReportedLoan.fields, List.forall_mem_cons]
  exact ⟨hescaped, hescaped, hescaped, hescaped, hescaped, hescaped, fun _ => bare_kesText _,
    fun _ => bare_kesText _, fun _ => bare_kesText _, fun _ => bare_int _,
    fun _ => bare_classification _, fun _ => bare_status _, fun _ => bare_day _,
    fun _ => bare_day _, fun _ hf => absurd hf List.not_mem_nil⟩

/-! ## 4. The tree of the report -/

def fieldNode (f : CrbField) : Node := .element f.name.toList [] (textPart f.written)

def recordNode (loan : ReportedLoan) : Node :=
  .element "CreditRecord".toList []
    (spaced "      ".toList "    ".toList (loan.fields.map fieldNode))

def recordsNode (e : CrbExport) : Node :=
  .element "Records".toList [] (spaced "    ".toList "  ".toList (e.loans.map recordNode))

def headerNode (e : CrbExport) : Node :=
  .element "Header".toList [] (spaced "    ".toList "  ".toList (e.fields.map fieldNode))

/-- The text before the end tag of the header. -/
def headerStart (e : CrbExport) : Text :=
  "<CreditReport xmlns=\"urn:crbafrica:cis:3.0\">\n".toList ++ ("  <Header>\n".toList ++
    (e.fields.flatMap (·.line "    ") ++ "  ".toList))

theorem renderNodes_textPart (raw : Text) : Xml.renderNodes (textPart raw) = raw := by
  cases raw with
  | nil => rfl
  | cons c cs => exact List.append_nil _

theorem render_element (name attributes : Text) (children : List Node) :
    Xml.render (.element name attributes children) =
      '<' :: (name ++ attributes ++ '>' :: (Xml.renderNodes children ++ endTag name)) := by
  rw [Xml.render, endTag]

theorem line_eq (f : CrbField) (indent : String) :
    f.line indent = indent.toList ++ (Xml.render (fieldNode f) ++ ['\n']) := by
  rw [fieldNode, render_element, renderNodes_textPart, CrbField.line]
  simp only [List.append_assoc, List.cons_append, List.append_nil]

theorem lines_eq (fields : List CrbField) (indent : String) :
    fields.flatMap (·.line indent) = (fields.map fieldNode).flatMap fun node =>
      indent.toList ++ (Xml.render node ++ ['\n']) := by
  rw [List.flatMap_map]
  exact List.flatMap_congr fun f _ => line_eq f indent

theorem record_eq (loan : ReportedLoan) :
    loan.record = "    ".toList ++ (Xml.render (recordNode loan) ++ ['\n']) := by
  have hopen : "    <CreditRecord>\n".toList =
      "    ".toList ++ '<' :: ("CreditRecord".toList ++ ['>', '\n']) := rfl
  have hclose : "    </CreditRecord>\n".toList =
      "    ".toList ++ (endTag "CreditRecord".toList ++ ['\n']) := rfl
  rw [recordNode, render_element, Xml.renderNodes_spaced]
  unfold ReportedLoan.record
  simp only [lines_eq, hopen, hclose, List.append_assoc, List.cons_append, List.append_nil,
    List.nil_append]

theorem header_eq (e : CrbExport) :
    e.header = headerStart e ++ (endTag "Header".toList ++ ['\n']) := by
  have hclose : "  </Header>\n".toList =
      "  ".toList ++ (endTag "Header".toList ++ ['\n']) := rfl
  unfold CrbExport.header headerStart
  simp only [hclose, List.append_assoc]

theorem headerDocument_eq (e : CrbExport) :
    headerDocument e = Xml.declaration ++ (headerStart e ++ endTag "Header".toList ++
      (Xml.renderNodes (spaced "  ".toList [] []) ++ endTag "CreditReport".toList)) := by
  have hclose : "</CreditReport>".toList = endTag "CreditReport".toList := rfl
  rw [headerDocument, header_eq, Xml.renderNodes_spaced]
  simp only [hclose, List.append_assoc, List.flatMap_nil, List.cons_append, List.nil_append]

/-- The text is the header, the tree of the records, and the end tag. -/
theorem buildCrbXml_eq (e : CrbExport) :
    buildCrbXml e = Xml.declaration ++ (headerStart e ++ endTag "Header".toList ++
      (Xml.renderNodes (spaced "  ".toList [] [recordsNode e]) ++
        endTag "CreditReport".toList)) := by
  have hopen : "  <Records>\n".toList =
      "  ".toList ++ '<' :: ("Records".toList ++ ['>', '\n']) := rfl
  have hclose : "  </Records>\n".toList =
      "  ".toList ++ (endTag "Records".toList ++ ['\n']) := rfl
  have hend : "</CreditReport>".toList = endTag "CreditReport".toList := rfl
  have hrecords : e.loans.flatMap ReportedLoan.record = (e.loans.map recordNode).flatMap fun node =>
      "    ".toList ++ (Xml.render node ++ ['\n']) := by
    rw [List.flatMap_map]
    exact List.flatMap_congr fun loan _ => record_eq loan
  rw [buildCrbXml, header_eq, hrecords, recordsNode, Xml.renderNodes_spaced,
    List.flatMap_singleton, render_element, Xml.renderNodes_spaced]
  simp only [hopen, hclose, hend, List.append_assoc, List.cons_append, List.append_nil,
    List.nil_append]

/-! ## 5. Fields and records as they are read -/

/-- Escaped text stays the same up to line ends, and what is not escaped stays as it is. -/
structure KeepsLines (lineEnds : Text → Text) : Prop where
  escaped : ∀ s, lineEnds (escapeXml s) = escapeXml (lineEnds s)
  bare : ∀ raw, Bare raw → lineEnds raw = raw

theorem keepsLines_id : KeepsLines id := ⟨fun _ => rfl, fun _ _ => rfl⟩

theorem keepsLines_normalize : KeepsLines Xml.normalize :=
  ⟨Xml.normalize_escapeXml, fun raw h => (Xml.normalize_eq_self_iff raw).mpr (h.notMem rfl)⟩

theorem bare_of_isName {name : Text} (h : Xml.isName name = true) : Bare name := by
  intro c hc
  have hchar := Xml.isName_chars h c hc
  have hascii : c.toNat < 128 := by
    simp only [Xml.isNameChar, Xml.isNameStart, Bool.or_eq_true, beq_iff_eq] at hchar
    rcases hchar with ((((h | rfl) | rfl) | h) | rfl) | rfl
    · exact ascii_of_isAlphanum (by rw [Char.isAlphanum, h, Bool.true_or])
    · decide
    · decide
    · exact ascii_of_isAlphanum (by rw [Char.isAlphanum, h, Bool.or_true])
    · decide
    · decide
  have himp : (!Xml.isNameChar c || isBare c) = true :=
    ascii_forall (p := fun c => !Xml.isNameChar c || isBare c) (by decide +kernel) hascii
  rwa [hchar, Bool.not_true, Bool.false_or] at himp

theorem isName_field (loan : ReportedLoan) :
    ∀ f ∈ loan.fields, Xml.isName f.name.toList = true := by
  simp only [ReportedLoan.fields, List.forall_mem_cons]
  exact ⟨rfl, rfl, rfl, rfl, rfl, rfl, rfl, rfl, rfl, rfl, rfl, rfl, rfl, rfl,
    fun _ hf => absurd hf List.not_mem_nil⟩

theorem wellFormed_textPart {raw : Text} (h : isCharData raw = true) :
    Xml.wellFormedNodes (textPart raw) = true := by
  cases raw with
  | nil => rfl
  | cons c cs =>
    show (Xml.wellFormed (.text (c :: cs)) && _ && true) = true
    rw [Xml.wellFormed, h]
    rfl

theorem wellFormed_field (hname : Xml.isName f.name.toList = true)
    (hwritten : isCharData f.written = true) : Xml.wellFormed (fieldNode f) = true := by
  rw [fieldNode, Xml.wellFormed, hname, wellFormed_textPart hwritten]
  rfl

theorem data_field (f : CrbField) : (fieldNode f).data = some f.written := by
  rw [fieldNode]
  cases f.written with
  | nil => rfl
  | cons c cs => rfl

theorem isCharData_written {loan : ReportedLoan} (hf : f ∈ loan.fields) :
    isCharData f.written = true := by
  unfold CrbField.written
  split
  · exact Xml.isCharData_escapeXml _
  · next hbare => exact (bare_field loan f hf (Bool.not_eq_true _ ▸ hbare)).isCharData

/-- A field decodes to its value when its line ends stay as they are. -/
theorem decode_written (h : KeepsLines lineEnds) {loan : ReportedLoan} (hf : f ∈ loan.fields) :
    decode (lineEnds f.written) = some f.value ↔
      (f.isEscaped = true → lineEnds f.value = f.value) := by
  unfold CrbField.written
  split
  · next hescaped =>
    rw [h.escaped, Xml.decode_escapeXml, Option.some_inj]
    exact ⟨fun heq _ => heq, fun himp => himp hescaped⟩
  · next hbare =>
    have hvalue := bare_field loan f hf (Bool.not_eq_true _ ▸ hbare)
    rw [h.bare _ hvalue, hvalue.decode]
    exact iff_of_true rfl fun hescaped => absurd hescaped hbare

theorem valuesOf_fields (lineEnds : Text → Text) (name attributes inner outer : Text)
    (fields : List CrbField) :
    valuesOf lineEnds (.element name attributes (spaced inner outer (fields.map fieldNode))) =
      fields.map fun f => (f.name.toList, decode (lineEnds f.written)) := by
  have helements : Node.elements (.element name attributes
      (spaced inner outer (fields.map fieldNode))) = fields.map fieldNode :=
    Xml.elements_spaced fun node hnode => by
      obtain ⟨f, _, rfl⟩ := List.mem_map.mp hnode
      rfl
  rw [valuesOf, helements, List.map_map]
  refine List.map_congr_left fun f _ => ?_
  show (f.name.toList, ((fieldNode f).data.map lineEnds).bind decode) = _
  rw [data_field]
  rfl

theorem elements_records (e : CrbExport) : (recordsNode e).elements = e.loans.map recordNode :=
  Xml.elements_spaced fun node hnode => by
    obtain ⟨loan, _, rfl⟩ := List.mem_map.mp hnode
    rfl

/-- The records decode to the loans when the line ends of the escaped texts stay as they are. -/
theorem records_iff (h : KeepsLines lineEnds) (e : CrbExport) :
    (recordsNode e).elements.map (fun record => (record.name, valuesOf lineEnds record)) =
        e.loans.map (fun loan =>
          ("CreditRecord".toList, loan.fields.map fun f => (f.name.toList, some f.value))) ↔
      ∀ loan ∈ e.loans, ∀ text ∈ loan.texts, lineEnds text = text := by
  rw [elements_records, List.map_map, List.map_inj_left]
  refine forall₂_congr fun loan _ => ?_
  show ("CreditRecord".toList, valuesOf lineEnds (recordNode loan)) = _ ↔ _
  rw [recordNode, valuesOf_fields, Prod.mk.injEq, List.map_inj_left]
  unfold ReportedLoan.texts
  rw [List.forall_mem_map]
  constructor
  · rintro ⟨_, hfields⟩ f hf
    obtain ⟨hf, hescaped⟩ := List.mem_filter.mp hf
    exact (decode_written h hf).mp (Prod.mk.inj (hfields f hf)).2 hescaped
  · refine fun htexts => ⟨rfl, fun f hf => Prod.ext rfl ?_⟩
    exact (decode_written h hf).mpr fun hescaped =>
      htexts f (List.mem_filter.mpr ⟨hf, hescaped⟩)

/-! ## 6. Allowed characters -/

theorem legal_endTag {name : Text} (hname : Xml.isName name = true) :
    (endTag name).all isXmlChar = true := by
  rw [endTag, List.all_cons, List.all_cons, List.all_append, (bare_of_isName hname).legal]
  rfl

theorem legal_element {name : Text} (hname : Xml.isName name = true) (children : List Node) :
    (Xml.render (.element name [] children)).all isXmlChar =
      (Xml.renderNodes children).all isXmlChar := by
  rw [render_element, List.all_cons, List.append_nil, List.all_append, List.all_cons,
    List.all_append, (bare_of_isName hname).legal, legal_endTag hname, Bool.and_true, Bool.true_and]
  rfl

theorem legal_spaced {inner outer : Text} (hinner : inner.all isXmlChar = true)
    (houter : outer.all isXmlChar = true) (nodes : List Node) :
    (Xml.renderNodes (spaced inner outer nodes)).all isXmlChar =
      nodes.all fun node => (Xml.render node).all isXmlChar := by
  have hline : ∀ node, (inner ++ (Xml.render node ++ ['\n'])).all isXmlChar =
      (Xml.render node).all isXmlChar := by
    intro node
    rw [List.all_append, List.all_append, hinner, Bool.true_and]
    exact Bool.and_true _
  rw [Xml.renderNodes_spaced, List.all_cons, List.all_append, List.all_flatMap, houter,
    Bool.and_true]
  simp only [hline]
  rfl

theorem legal_field (hname : Xml.isName f.name.toList = true) :
    (Xml.render (fieldNode f)).all isXmlChar = f.written.all isXmlChar := by
  rw [fieldNode, legal_element hname, renderNodes_textPart]

theorem legal_written {loan : ReportedLoan} (hf : f ∈ loan.fields) :
    f.written.all isXmlChar = (!f.isEscaped || f.value.all isXmlChar) := by
  unfold CrbField.written
  split
  · next hescaped =>
    rw [Xml.all_escapeXml, hescaped]
    rfl
  · next hbare =>
    rw [Bool.not_eq_true] at hbare
    rw [(bare_field loan f hf hbare).legal, hbare]
    rfl

/-- The characters of a record are those of its escaped texts. -/
theorem legal_record (loan : ReportedLoan) :
    (Xml.render (recordNode loan)).all isXmlChar = loan.texts.all (·.all isXmlChar) := by
  have hfields : ∀ f ∈ loan.fields, (Xml.render (fieldNode f)).all isXmlChar =
      (!f.isEscaped || f.value.all isXmlChar) := fun f hf => by
    rw [legal_field (isName_field loan f hf), legal_written hf]
  rw [recordNode, legal_element rfl, legal_spaced rfl rfl, List.all_map, ReportedLoan.texts,
    List.all_map, List.all_filter, Bool.eq_iff_iff, List.all_eq_true, List.all_eq_true]
  exact forall₂_congr fun f hf => by
    rw [Function.comp_apply, hfields f hf]
    rfl

theorem legal_behind (e : CrbExport) :
    (Xml.renderNodes (spaced "  ".toList [] [recordsNode e]) ++
        endTag "CreditReport".toList).all isXmlChar =
      e.loans.all fun loan => loan.texts.all (·.all isXmlChar) := by
  have hloans : (fun node => (Xml.render node).all isXmlChar) ∘ recordNode =
      fun loan => loan.texts.all (·.all isXmlChar) := funext legal_record
  rw [List.all_append, legal_endTag rfl, legal_spaced rfl rfl, List.all_cons, List.all_nil,
    recordsNode, legal_element rfl, legal_spaced rfl rfl, List.all_map, Bool.and_true,
    Bool.and_true, hloans]

/-! ## 7. The whole text -/

/-- What is open behind the header. -/
def Begun (e : CrbExport) (o : Xml.Opened) : Prop :=
  ∃ before, Xml.readFrom Xml.start (headerStart e ++ endTag "Header".toList) =
    some ⟨[o], [], none, before⟩ ∧ o.name = "CreditReport".toList

theorem wellFormed_records (e : CrbExport) : Xml.wellFormed (recordsNode e) = true := by
  have hrecord : ∀ loan, Xml.wellFormed (recordNode loan) = true := by
    intro loan
    rw [recordNode, Xml.wellFormed, Xml.wellFormedNodes_spaced rfl rfl]
    · rfl
    · rw [List.forall_mem_map]
      exact fun f hf => ⟨wellFormed_field (isName_field loan f hf) (isCharData_written hf), rfl⟩
  rw [recordsNode, Xml.wellFormed, Xml.wellFormedNodes_spaced rfl rfl]
  · rfl
  · rw [List.forall_mem_map]
    exact fun loan _ => ⟨hrecord loan, rfl⟩

theorem read_build {root : Node} : Xml.read (buildCrbXml e) = some root ↔
    ((headerStart e ++ endTag "Header".toList).all isXmlChar = true ∧
      ∀ loan ∈ e.loans, ∀ text ∈ loan.texts, text.all isXmlChar = true) ∧
    ∃ o, Begun e o ∧ root = .element "CreditReport".toList o.attributes
      (o.before ++ spaced "  ".toList [] [recordsNode e]) := by
  have hnodes : Xml.wellFormedNodes (spaced "  ".toList [] [recordsNode e]) = true :=
    Xml.wellFormedNodes_spaced rfl rfl (by
      rw [List.forall_mem_singleton]
      exact ⟨wellFormed_records e, rfl⟩)
  rw [buildCrbXml_eq, Xml.read_behind rfl rfl hnodes rfl, List.all_append, legal_behind,
    Bool.and_eq_true]
  simp only [List.all_eq_true, Begun, exists_and_right, and_assoc]

theorem read_header {root : Node} : Xml.read (headerDocument e) = some root ↔
    (headerStart e ++ endTag "Header".toList).all isXmlChar = true ∧
    ∃ o, Begun e o ∧ root = .element "CreditReport".toList o.attributes
      (o.before ++ spaced "  ".toList [] []) := by
  have hlegal : (Xml.renderNodes (spaced "  ".toList [] []) ++
      endTag "CreditReport".toList).all isXmlChar = true := by
    rw [List.all_append, legal_endTag rfl, legal_spaced rfl rfl]
    rfl
  rw [headerDocument_eq, Xml.read_behind rfl rfl rfl rfl, List.all_append, hlegal, Bool.and_true]
  simp only [Begun, exists_and_right, and_assoc]

/-- The elements of the document: those of the header part, and then these. -/
theorem elements_begun (o : Xml.Opened) {nodes : List Node}
    (hnodes : ∀ node ∈ nodes, node.isText = false) :
    Node.elements (.element "CreditReport".toList o.attributes
        (o.before ++ spaced "  ".toList [] nodes)) =
      o.before.filter (fun child => !child.isText) ++ nodes := by
  show List.filter _ (o.before ++ spaced "  ".toList [] nodes) = _
  rw [List.filter_append, Xml.elements_spaced hnodes]

/-- The header and the records are read apart from each other. -/
theorem decodesBack_iff (h : KeepsLines lineEnds) : DecodesBack lineEnds e ↔
    HeaderReads lineEnds e ∧
      ∀ loan ∈ e.loans, ∀ text ∈ loan.texts, text.all isXmlChar = true ∧ lineEnds text = text := by
  have hrecords : ∀ node ∈ [recordsNode e], node.isText = false := by
    rw [List.forall_mem_singleton]
    rfl
  constructor
  · rintro ⟨root, header, records, hread, hname, helements, hheader, _, hcount, hvalues⟩
    obtain ⟨⟨hlegal, htexts⟩, o, hbegun, rfl⟩ := read_build.mp hread
    rw [elements_begun o hrecords] at helements
    have happend : o.before.filter (fun child => !child.isText) ++ [recordsNode e] =
        [header] ++ [records] := helements
    obtain ⟨hbefore, hlast⟩ := List.append_inj' happend rfl
    obtain rfl : recordsNode e = records := (List.cons.inj hlast).1
    refine ⟨⟨_, header, read_header.mpr ⟨hlegal, o, hbegun, rfl⟩, rfl, ?_, hheader, hcount⟩, ?_⟩
    · rw [elements_begun o fun _ hmem => absurd hmem List.not_mem_nil, hbefore, List.append_nil]
    · exact fun loan hloan text htext =>
        ⟨htexts loan hloan text htext, (records_iff h e).mp hvalues loan hloan text htext⟩
  · rintro ⟨⟨root, header, hread, hname, helements, hheader, hcount⟩, htexts⟩
    obtain ⟨hlegal, o, hbegun, rfl⟩ := read_header.mp hread
    rw [elements_begun o fun _ hmem => absurd hmem List.not_mem_nil, List.append_nil] at helements
    refine ⟨_, header, recordsNode e, read_build.mpr ⟨⟨hlegal, fun loan hloan text htext =>
      (htexts loan hloan text htext).1⟩, o, hbegun, rfl⟩, rfl, ?_, hheader, rfl, hcount, ?_⟩
    · rw [elements_begun o hrecords, helements]
      rfl
    · exact (records_iff h e).mpr fun loan hloan text htext => (htexts loan hloan text htext).2

/-! ## 8. Periods without markup -/

/-- A value of the header that is no period is bare. -/
theorem header_field (e : CrbExport) :
    ∀ f ∈ e.fields, (Xml.isName f.name.toList = true ∧ f.isEscaped = false) ∧
      (f.value = e.periodStart ∨ f.value = e.periodEnd ∨ Bare f.value) := by
  have hplain : ∀ {raw : Text}, (∀ c ∈ raw, (c.isAlphanum || c == '-') = true) →
      Bare (raw.map Char.toUpper) := fun hraw => bare_upper (List.all_eq_true.mpr hraw)
  have hcode : Bare ("SACCO-".toList ++ (e.tenantId.chars.take 8).map Char.toUpper) :=
    Bare.append (by decide) (hplain fun c hc =>
      List.all_eq_true.mp e.tenantId.plain c (List.mem_of_mem_take hc))
  have htype : Bare "SACCO".toList := by decide
  have hbatch : Bare ((e.uuid.chars.takeWhile (· != '-')).map Char.toUpper) :=
    hplain fun c hc => List.all_eq_true.mp e.uuid.plain c (List.takeWhile_subset _ hc)
  simp only [CrbExport.fields, List.forall_mem_cons]
  exact ⟨⟨⟨rfl, trivial⟩, .inr (.inr hcode)⟩, ⟨⟨rfl, trivial⟩, .inr (.inr htype)⟩,
    ⟨⟨rfl, trivial⟩, .inr (.inr hbatch)⟩, ⟨⟨rfl, trivial⟩, .inl trivial⟩,
    ⟨⟨rfl, trivial⟩, .inr (.inl trivial)⟩,
    ⟨⟨rfl, trivial⟩, .inr (.inr (bare_dayText _))⟩, ⟨⟨rfl, trivial⟩, .inr (.inr (bare_nat _))⟩,
    fun _ hf => absurd hf List.not_mem_nil⟩

theorem header_written (h : plainPeriods e = true) (hf : f ∈ e.fields) :
    isCharData f.written = true ∧ f.written.all isXmlChar = true := by
  obtain ⟨⟨_, hbare⟩, hvalue⟩ := header_field e f hf
  have hwritten : f.written = f.value := if_neg (by rw [hbare]; exact Bool.false_ne_true)
  have hperiods : ∀ period ∈ [e.periodStart, e.periodEnd],
      isCharData period = true ∧ period.all isXmlChar = true := fun period hperiod =>
    (Bool.and_eq_true_iff.mp (List.all_eq_true.mp h period hperiod)).symm
  rw [hwritten]
  rcases hvalue with heq | heq | hvalue
  · rw [heq]
    exact hperiods _ List.mem_cons_self
  · rw [heq]
    exact hperiods _ (List.mem_cons_of_mem _ List.mem_cons_self)
  · exact ⟨hvalue.isCharData, hvalue.legal⟩

def reportAttributes : Text := " xmlns=\"urn:crbafrica:cis:3.0\"".toList

theorem headerDocument_render (e : CrbExport) :
    headerDocument e = Xml.declaration ++ Xml.render (.element "CreditReport".toList
      reportAttributes (spaced "  ".toList [] [headerNode e])) := by
  have hreport : "<CreditReport xmlns=\"urn:crbafrica:cis:3.0\">\n".toList =
      '<' :: ("CreditReport".toList ++ (reportAttributes ++ ['>', '\n'])) := rfl
  have hopen : "  <Header>\n".toList =
      "  ".toList ++ '<' :: ("Header".toList ++ ['>', '\n']) := rfl
  rw [headerDocument_eq, Xml.renderNodes_spaced, render_element, Xml.renderNodes_spaced,
    List.flatMap_singleton, headerNode, render_element, Xml.renderNodes_spaced]
  unfold headerStart
  simp only [hreport, hopen, lines_eq, List.append_assoc, List.cons_append, List.append_nil,
    List.nil_append, List.flatMap_nil]

theorem count_fields (h : KeepsLines lineEnds) (e : CrbExport) :
    HasCount lineEnds (headerNode e) e.loans.length := by
  have hcount := bare_nat e.loans.length
  have hdecode : decode (lineEnds (toString e.loans.length).toList) =
      some (toString e.loans.length).toList := by rw [h.bare _ hcount, hcount.decode]
  have hothers : ∀ name ∈ ["InstitutionCode", "InstitutionType", "BatchId", "ReportingPeriodStart",
      "ReportingPeriodEnd", "SubmissionDate"], (name.toList == "RecordCount".toList) = false := by decide
  simp only [List.forall_mem_cons] at hothers
  obtain ⟨hcode, htype, hbatch, hstart, hend, hdate, _⟩ := hothers
  rw [HasCount, headerNode, valuesOf_fields, ← hdecode]
  simp only [CrbExport.fields, List.map_cons, List.map_nil, List.filter_cons, List.filter_nil,
    hcode, htype, hbatch, hstart, hend, hdate, Bool.false_eq_true, if_false, beq_self_eq_true,
    if_true]
  rfl

/-- Periods without markup leave the header as it is meant. -/
theorem headerReads_of_plain (h : KeepsLines lineEnds) (hplain : plainPeriods e = true) :
    HeaderReads lineEnds e := by
  have hfields : ∀ node ∈ e.fields.map fieldNode, Xml.wellFormed node = true ∧
      node.isText = false := by
    rw [List.forall_mem_map]
    exact fun f hf => ⟨wellFormed_field (header_field e f hf).1.1 (header_written hplain hf).1, rfl⟩
  have hheader : Xml.wellFormed (headerNode e) = true := by
    rw [headerNode, Xml.wellFormed, Xml.wellFormedNodes_spaced rfl rfl hfields]
    rfl
  have hnodes : ∀ node ∈ [headerNode e], Xml.wellFormed node = true ∧ node.isText = false := by
    rw [List.forall_mem_singleton]
    exact ⟨hheader, rfl⟩
  have hattributes : Xml.isAttributes reportAttributes = true := rfl
  have hdocument : Xml.wellFormed (.element "CreditReport".toList reportAttributes
      (spaced "  ".toList [] [headerNode e])) = true := by
    rw [Xml.wellFormed, hattributes, Xml.wellFormedNodes_spaced rfl rfl hnodes]
    rfl
  have hwritten : (e.fields.all fun f => (Xml.render (fieldNode f)).all isXmlChar) = true :=
    List.all_eq_true.mpr fun f hf =>
      (legal_field (header_field e f hf).1.1).trans (header_written hplain hf).2
  have hlegal : (Xml.render (.element "CreditReport".toList reportAttributes
      (spaced "  ".toList [] [headerNode e]))).all isXmlChar = true := by
    have hreport : ('<' :: "CreditReport".toList ++ reportAttributes).all isXmlChar = true := rfl
    rw [render_element, ← List.cons_append, ← List.cons_append, List.all_append, hreport,
      List.all_cons, List.all_append, legal_spaced rfl rfl, legal_endTag rfl, List.all_cons,
      headerNode, legal_element rfl, legal_spaced rfl rfl, List.all_map]
    exact (Bool.and_true _).trans ((Bool.and_true _).trans hwritten)
  refine ⟨.element "CreditReport".toList reportAttributes (spaced "  ".toList [] [headerNode e]),
    headerNode e, ?_, rfl, ?_, rfl, count_fields h e⟩
  · rw [headerDocument_render]
    exact Xml.read_render hdocument hlegal
  · exact Xml.elements_spaced fun node hnode => (hnodes node hnode).2

end CrbLemmas

open CrbLemmas

/-! ## 9. Which reports decode back -/

/-- With a header that reads, the report decodes back when every escaped text has only characters
that XML has; after line ends are normalised, no carriage return may be among them. With plain periods
it is only the texts that count. -/
theorem crb_xml (e : CrbExport) :
    (DecodesBack id e ↔
      HeaderReads id e ∧ ∀ loan ∈ e.loans, ∀ text ∈ loan.texts, text.all isXmlChar = true) ∧
    (DecodesBack Xml.normalize e ↔ HeaderReads Xml.normalize e ∧
      ∀ loan ∈ e.loans, ∀ text ∈ loan.texts, text.all isXmlChar = true ∧ '\r' ∉ text) ∧
    (plainPeriods e = true → HeaderReads id e ∧ HeaderReads Xml.normalize e ∧
      (DecodesBack id e ↔ ∀ loan ∈ e.loans, ∀ text ∈ loan.texts, text.all isXmlChar = true)) := by
  have hkept : DecodesBack id e ↔
      HeaderReads id e ∧ ∀ loan ∈ e.loans, ∀ text ∈ loan.texts, text.all isXmlChar = true := by
    have hid : ∀ text : Text, (text.all isXmlChar = true ∧ id text = text) ↔
        text.all isXmlChar = true := fun _ => and_iff_left rfl
    simpa only [hid] using decodesBack_iff (e := e) keepsLines_id
  refine ⟨hkept, ?_, fun hplain => ?_⟩
  · simpa only [Xml.normalize_eq_self_iff] using decodesBack_iff (e := e) keepsLines_normalize
  · have hreads := headerReads_of_plain keepsLines_id hplain
    exact ⟨hreads, headerReads_of_plain keepsLines_normalize hplain,
      hkept.trans (and_iff_right hreads)⟩

/-- A loan of a member with this first name. -/
def exReported (firstName : String) : ReportedLoan :=
  ⟨"LN-1".toList, 1000000, 500000, 3, 12500, .watchlist, .active, some ⟨1735689600000, by decide⟩,
    none, "M-1".toList, some "123".toList, none, firstName.toList, "Otieno".toList,
    "Development".toList⟩

/-- A report of one loan for a quarter that starts with this string. -/
def exCrb (firstName periodStart : String) : CrbExport :=
  ⟨[exReported firstName], ⟨"ab12cd34-ef56".toList, rfl⟩, periodStart.toList,
    "2025-03-31".toList, ⟨1743379200000, by decide⟩, ⟨"0a1b2c3d-4e5f".toList, rfl⟩⟩

/-- A vertical tab in a name is written as it is, and a bracket in a period too; neither text is a
document. -/
theorem report_not_read :
    ¬ DecodesBack id (exCrb "Jane\x0b" "2025-01-01") ∧
      ¬ DecodesBack id (exCrb "Jane" "2025-01-01 (<)") := by
  have hname : "Otieno Jane\x0b".toList ∈ (exReported "Jane\x0b").texts :=
    List.mem_cons_of_mem _ List.mem_cons_self
  have hbracket : (Xml.read (headerDocument (exCrb "Jane" "2025-01-01 (<)"))).isNone = true := by
    decide +kernel
  constructor
  · intro hback
    have htexts := ((decodesBack_iff keepsLines_id).mp hback).2
    have hlegal := (htexts _ List.mem_cons_self _ hname).1
    exact absurd hlegal (by decide)
  · intro hback
    obtain ⟨⟨root, _, hread, _⟩, _⟩ := (decodesBack_iff keepsLines_id).mp hback
    rw [hread] at hbracket
    cases hbracket

end BebaSacco
