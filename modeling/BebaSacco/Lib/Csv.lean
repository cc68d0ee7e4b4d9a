import BebaSacco.Lib.JsValue

/-! # Comma separated values

A reader of comma separated values: a cell is plain, without a quote, a comma or a line break in it, or
stands between quotes, with each of its own quotes doubled. Records end with CR, LF or both; the last one
may end with the text. A quote in a plain cell and anything else behind a closing quote is an error.

What is written for a cell may be one of these texts or not. `Tight` says that no other text of the cell
could be read in its place, so that the whole text is read back as it was meant exactly when each cell is.

Results:
1. `cell_read`, `cellText_read`: the reader takes the text of a cell, and nothing else.
2. `tight_raw`, `tight_quoted`, `tight_unescaped`: the ways to write a cell.
3. `file_read`: records that are written with a line feed in between are read back exactly when each of
   their cells is written as a text of it.
-/

namespace Csv

/-! ## 1. The reader -/

def QUOTE : UInt16 := 34

def COMMA : UInt16 := 44

def CR : UInt16 := 13

def LF : UInt16 := 10

abbrev Rows := List (List JsString)

/-- Where the reader is: before a record, before a cell, in a plain cell, between quotes, behind a quote
there, and behind a CR. -/
inductive Mode where
  | line
  | cell
  | plain
  | quoted
  | closed
  | afterCr
  deriving DecidableEq, Repr

/-- The unit stands in front of the rest of its cell. -/
def push (u : UInt16) : Rows → Rows
  | (c :: cs) :: rs => ((u :: c) :: cs) :: rs
  | rows => rows

/-- A cell ends in front of the rest of its record. -/
def newCell : Rows → Rows
  | cs :: rs => ([] :: cs) :: rs
  | [] => []

/-- A record ends in front of the others. -/
def newRecord (rows : Rows) : Rows := [[]] :: rows

/-- The rest of the cell, of its record and of the text. -/
def readFrom : JsString → Mode → Option Rows
  | [], .line | [], .afterCr => some []
  | [], .quoted => none
  | [], _ => some [[[]]]
  | u :: us, mode =>
    if mode = .quoted then
      if u = QUOTE then readFrom us .closed else (readFrom us .quoted).map (push u)
    else if mode = .afterCr ∧ u = LF then readFrom us .line
    else if u = COMMA then (readFrom us .cell).map newCell
    else if u = LF then (readFrom us .line).map newRecord
    else if u = CR then (readFrom us .afterCr).map newRecord
    else if u = QUOTE then
      if mode = .plain then none
      else if mode = .closed then (readFrom us .quoted).map (push QUOTE)
      else readFrom us .quoted
    else if mode = .closed then none
    else (readFrom us .plain).map (push u)

/-- The rows of a text. -/
def read (text : JsString) : Option Rows := readFrom text .line

example : read (js "a,\"b\"\"c\"\r\n,\n") = some [[js "a", js "b\"c"], [[], []]] := by
  decide +kernel

/-! ## 2. The texts of a cell -/

/-- A cell ends at a comma and at a line break. -/
def isBreak (u : UInt16) : Bool := u == COMMA || u == LF || u == CR

def isSpecial (u : UInt16) : Bool := u == QUOTE || isBreak u

/-- The text starts where a cell ends. -/
def endsCell (t : JsString) : Bool := t.head?.all isBreak

/-- Quotes are doubled. -/
def escape (c : JsString) : JsString := c.flatMap fun u => if u = QUOTE then [QUOTE, QUOTE] else [u]

def isPlain (c : JsString) : Bool := c.all fun u => !isSpecial u

/-- A text of the cell. -/
inductive CellText : JsString → JsString → Prop
  | plain {c : JsString} : isPlain c = true → CellText c c
  | quoted (c : JsString) : CellText (QUOTE :: (escape c ++ [QUOTE])) c

variable {c c' w w' t t' us : JsString} {u : UInt16} {cs : List JsString} {rs rows : Rows}
  {mode : Mode}

theorem escape_cons_quote (c : JsString) : escape (QUOTE :: c) = QUOTE :: QUOTE :: escape c := rfl

theorem escape_cons (h : u ≠ QUOTE) (c : JsString) : escape (u :: c) = u :: escape c := by
  rw [escape, List.flatMap_cons, if_neg h]
  rfl

theorem endsCell_cons : endsCell (u :: us) = isBreak u := rfl

theorem not_quote_of_break (h : isBreak u = true) : u ≠ QUOTE := by
  rintro rfl
  exact absurd h (by decide)

theorem endsCell_ne_quote (h : endsCell t = true) (hcons : t = u :: us) : u ≠ QUOTE := by
  rw [hcons, endsCell_cons] at h
  exact not_quote_of_break h

/-! ## 3. What the reader takes -/

theorem push_some {o : Option Rows} :
    o.map (push u) = some ((c :: cs) :: rs) ↔
      ∃ c', c = u :: c' ∧ o = some ((c' :: cs) :: rs) := by
  rw [Option.map_eq_some_iff]
  constructor
  · rintro ⟨rows, rfl, hpush⟩
    cases rows with
    | nil => cases hpush
    | cons r rs' =>
      cases r with
      | nil => cases hpush
      | cons c' cs' =>
        cases hpush
        exact ⟨c', rfl, rfl⟩
  · rintro ⟨c', rfl, rfl⟩
    exact ⟨_, rfl, rfl⟩

theorem newCell_some {o : Option Rows} :
    o.map newCell = some ((c :: cs) :: rs) ↔ c = [] ∧ o = some (cs :: rs) := by
  rw [Option.map_eq_some_iff]
  constructor
  · rintro ⟨rows, rfl, hcell⟩
    cases rows with
    | nil => cases hcell
    | cons r rs' =>
      cases hcell
      exact ⟨rfl, rfl⟩
  · rintro ⟨rfl, rfl⟩
    exact ⟨_, rfl, rfl⟩

theorem newRecord_some {o : Option Rows} :
    o.map newRecord = some ((c :: cs) :: rs) ↔ c = [] ∧ cs = [] ∧ o = some rs := by
  rw [Option.map_eq_some_iff]
  constructor
  · rintro ⟨rows, rfl, hrecord⟩
    cases hrecord
    exact ⟨rfl, rfl, rfl⟩
  · rintro ⟨rfl, rfl, rfl⟩
    exact ⟨rs, rfl, rfl⟩

/-- Where a cell ends it does not matter how the cell was written. -/
theorem readFrom_ends (h : endsCell t = true) (hmode : mode = .cell ∨ mode = .plain) :
    readFrom t mode = readFrom t .closed := by
  cases t with
  | nil => rcases hmode with rfl | rfl <;> rfl
  | cons u us =>
    have hquote := endsCell_ne_quote h rfl
    rw [endsCell_cons, isBreak, Bool.or_eq_true, Bool.or_eq_true, beq_iff_eq, beq_iff_eq,
      beq_iff_eq] at h
    rcases hmode with rfl | rfl <;> rcases h with (rfl | rfl) | rfl <;> rfl

/-- What follows a cell begins with an empty rest of it. -/
theorem ends_empty (h : endsCell t = true)
    (hread : readFrom t .closed = some ((c :: cs) :: rs)) : c = [] := by
  cases t with
  | nil => cases hread; rfl
  | cons u us =>
    rw [endsCell_cons, isBreak, Bool.or_eq_true, Bool.or_eq_true, beq_iff_eq, beq_iff_eq,
      beq_iff_eq] at h
    rcases h with (rfl | rfl) | rfl
    · exact (newCell_some.mp hread).1
    · exact (newRecord_some.mp hread).1
    · exact (newRecord_some.mp hread).1

theorem readFrom_plain (h : isSpecial u = false) (hmode : mode = .cell ∨ mode = .plain) :
    readFrom (u :: us) mode = (readFrom us .plain).map (push u) := by
  rw [isSpecial, isBreak, Bool.or_eq_false_iff, Bool.or_eq_false_iff, Bool.or_eq_false_iff,
    beq_eq_false_iff_ne, beq_eq_false_iff_ne, beq_eq_false_iff_ne, beq_eq_false_iff_ne] at h
  obtain ⟨hquote, ⟨hcomma, hlf⟩, hcr⟩ := h
  have hother : ¬ (mode = .afterCr ∧ u = LF) := fun hcase => hlf hcase.2
  rcases hmode with rfl | rfl
  · rw [readFrom, if_neg (by decide), if_neg hother, if_neg hcomma, if_neg hlf, if_neg hcr,
      if_neg hquote, if_neg (by decide)]
  · rw [readFrom, if_neg (by decide), if_neg hother, if_neg hcomma, if_neg hlf, if_neg hcr,
      if_neg hquote, if_neg (by decide)]

theorem readFrom_quoted (h : u ≠ QUOTE) :
    readFrom (u :: us) .quoted = (readFrom us .quoted).map (push u) := by
  rw [readFrom, if_pos rfl, if_neg h]

theorem special_cases (h : isSpecial u = true) : u = QUOTE ∨ isBreak u = true := by
  rw [isSpecial, Bool.or_eq_true, beq_iff_eq] at h
  exact h

/-- The rest of a plain cell. -/
theorem plain_read (hread : readFrom t .plain = some ((c :: cs) :: rs)) :
    ∃ rest, t = c ++ rest ∧ isPlain c = true ∧ endsCell rest = true ∧
      readFrom rest .closed = some (([] :: cs) :: rs) := by
  induction t generalizing c with
  | nil =>
    cases hread
    exact ⟨[], rfl, rfl, rfl, rfl⟩
  | cons u us ih =>
    cases hspecial : isSpecial u with
    | true =>
      rcases special_cases hspecial with rfl | hbreak
      · cases hread
      · have hends : endsCell (u :: us) = true := hbreak
        rw [readFrom_ends hends (.inr rfl)] at hread
        obtain rfl := ends_empty hends hread
        exact ⟨u :: us, rfl, rfl, hends, hread⟩
    | false =>
      rw [readFrom_plain hspecial (.inr rfl), push_some] at hread
      obtain ⟨c', rfl, hread⟩ := hread
      obtain ⟨rest, rfl, hplain, hends, hrest⟩ := ih hread
      refine ⟨rest, rfl, ?_, hends, hrest⟩
      rw [isPlain, List.all_cons, hspecial]
      exact hplain

/-- Behind a closing quote stands another one, or the end of the cell. -/
theorem closed_cases (hread : readFrom t .closed = some ((c :: cs) :: rs)) :
    (endsCell t = true ∧ c = []) ∨ ∃ us c', t = QUOTE :: us ∧ c = QUOTE :: c' ∧
      readFrom us .quoted = some ((c' :: cs) :: rs) := by
  cases t with
  | nil => exact .inl ⟨rfl, ends_empty rfl hread⟩
  | cons u us =>
    cases hspecial : isSpecial u with
    | true =>
      rcases special_cases hspecial with rfl | hbreak
      · obtain ⟨c', rfl, hquoted⟩ := push_some.mp hread
        exact .inr ⟨us, c', rfl, rfl, hquoted⟩
      · have hends : endsCell (u :: us) = true := hbreak
        exact .inl ⟨hends, ends_empty hends hread⟩
    | false =>
      rw [isSpecial, isBreak, Bool.or_eq_false_iff, Bool.or_eq_false_iff, Bool.or_eq_false_iff,
        beq_eq_false_iff_ne, beq_eq_false_iff_ne, beq_eq_false_iff_ne,
        beq_eq_false_iff_ne] at hspecial
      obtain ⟨hquote, ⟨hcomma, hlf⟩, hcr⟩ := hspecial
      rw [readFrom, if_neg (by decide), if_neg (fun hcase => hlf hcase.2), if_neg hcomma, if_neg hlf,
        if_neg hcr, if_neg hquote, if_pos rfl] at hread
      cases hread

/-- The rest of a cell between quotes, and the rest of one behind a quote in it. -/
theorem quoted_closed_read (t : JsString) :
    (∀ c, readFrom t .quoted = some ((c :: cs) :: rs) →
      ∃ rest, t = escape c ++ QUOTE :: rest ∧ endsCell rest = true ∧
        readFrom rest .closed = some (([] :: cs) :: rs)) ∧
    ∀ c, readFrom t .closed = some ((c :: cs) :: rs) →
      ∃ rest, QUOTE :: t = escape c ++ QUOTE :: rest ∧ endsCell rest = true ∧
        readFrom rest .closed = some (([] :: cs) :: rs) := by
  induction t with
  | nil =>
    refine ⟨fun c hread => ?_, fun c hread => ?_⟩
    · cases hread
    · cases hread
      exact ⟨[], rfl, rfl, rfl⟩
  | cons u us ih =>
    refine ⟨fun c hread => ?_, fun c hread => ?_⟩
    · by_cases hquote : u = QUOTE
      · subst hquote
        exact ih.2 c hread
      · rw [readFrom_quoted hquote, push_some] at hread
        obtain ⟨c', rfl, hread⟩ := hread
        obtain ⟨rest, rfl, hends, hrest⟩ := ih.1 c' hread
        refine ⟨rest, ?_, hends, hrest⟩
        rw [escape_cons hquote]
        rfl
    · rcases closed_cases hread with ⟨hends, rfl⟩ | ⟨us', c', hcons, rfl, hquoted⟩
      · exact ⟨u :: us, rfl, hends, hread⟩
      · obtain ⟨rfl, rfl⟩ := List.cons.inj hcons
        obtain ⟨rest, rfl, hends, hrest⟩ := ih.1 c' hquoted
        exact ⟨rest, rfl, hends, hrest⟩

/-- The reader takes a text of the cell that it gives. -/
theorem cell_read (hread : readFrom t .cell = some ((c :: cs) :: rs)) :
    ∃ w rest, t = w ++ rest ∧ CellText w c ∧ endsCell rest = true ∧
      readFrom rest .closed = some (([] :: cs) :: rs) := by
  cases t with
  | nil =>
    cases hread
    exact ⟨[], [], rfl, .plain rfl, rfl, rfl⟩
  | cons u us =>
    cases hspecial : isSpecial u with
    | true =>
      rcases special_cases hspecial with rfl | hbreak
      · obtain ⟨rest, rfl, hends, hrest⟩ := (quoted_closed_read us).1 c hread
        refine ⟨QUOTE :: (escape c ++ [QUOTE]), rest, ?_, .quoted c, hends, hrest⟩
        rw [List.cons_append, List.append_assoc, List.singleton_append]
      · have hends : endsCell (u :: us) = true := hbreak
        rw [readFrom_ends hends (.inl rfl)] at hread
        obtain rfl := ends_empty hends hread
        exact ⟨[], u :: us, rfl, .plain rfl, hends, hread⟩
    | false =>
      rw [readFrom_plain hspecial (.inl rfl), push_some] at hread
      obtain ⟨c', rfl, hread⟩ := hread
      obtain ⟨rest, rfl, hplain, hends, hrest⟩ := plain_read hread
      refine ⟨u :: c', rest, rfl, .plain ?_, hends, hrest⟩
      rw [isPlain, List.all_cons, hspecial]
      exact hplain

/-- And it takes every text of a cell. -/
theorem cellText_read (h : CellText w c) (hends : endsCell t = true)
    (hread : readFrom t .closed = some (([] :: cs) :: rs)) :
    readFrom (w ++ t) .cell = some ((c :: cs) :: rs) := by
  have hplain : ∀ c : JsString, isPlain c = true →
      readFrom (c ++ t) .plain = some ((c :: cs) :: rs) := by
    intro c
    induction c with
    | nil => exact fun _ => (readFrom_ends hends (.inr rfl)).trans hread
    | cons u us ih =>
      intro hc
      rw [isPlain, List.all_cons, Bool.and_eq_true, Bool.not_eq_true'] at hc
      rw [List.cons_append, readFrom_plain hc.1 (.inr rfl), push_some]
      exact ⟨us, rfl, ih hc.2⟩
  have hquoted : ∀ c : JsString,
      readFrom (escape c ++ QUOTE :: t) .quoted = some ((c :: cs) :: rs) := by
    intro c
    induction c with
    | nil => exact hread
    | cons u us ih =>
      by_cases hquote : u = QUOTE
      · rw [hquote, escape_cons_quote]
        exact push_some.mpr ⟨us, rfl, ih⟩
      · rw [escape_cons hquote, List.cons_append, readFrom_quoted hquote]
        exact push_some.mpr ⟨us, rfl, ih⟩
  cases h with
  | plain hc =>
    cases c with
    | nil => exact (readFrom_ends hends (.inl rfl)).trans hread
    | cons u us =>
      rw [isPlain, List.all_cons, Bool.and_eq_true, Bool.not_eq_true'] at hc
      rw [List.cons_append, readFrom_plain hc.1 (.inl rfl), push_some]
      exact ⟨us, rfl, hplain us hc.2⟩
  | quoted =>
    rw [List.cons_append, List.append_assoc, List.singleton_append]
    exact hquoted c

/-! ## 4. Ways to write a cell -/

/-- Nothing but `w` could be read as the cell where `w` stands. -/
def Tight (w c : JsString) : Prop :=
  ∀ w' t t', endsCell t = true → endsCell t' = true → w ++ t = w' ++ t' → CellText w' c → w' = w

/-- The quotes at the start. -/
def quotes (s : JsString) : Nat := (s.takeWhile (· == QUOTE)).length

theorem quotes_cons (s : JsString) : quotes (QUOTE :: s) = quotes s + 1 := rfl

theorem quotes_other (h : u ≠ QUOTE) (s : JsString) : quotes (u :: s) = 0 := by
  rw [quotes, List.takeWhile_cons_of_neg (by rwa [beq_iff_eq])]
  rfl

theorem quotes_ends (h : endsCell t = true) : quotes t = 0 := by
  cases t with
  | nil => rfl
  | cons u us => exact quotes_other (endsCell_ne_quote h rfl) us

theorem quotes_append (h : endsCell t = true) (c : JsString) : quotes (c ++ t) = quotes c := by
  induction c with
  | nil => exact quotes_ends h
  | cons u us ih =>
    by_cases hquote : u = QUOTE
    · rw [hquote, List.cons_append, quotes_cons, quotes_cons, ih]
    · rw [List.cons_append, quotes_other hquote, quotes_other hquote]

/-- An escaped cell begins with twice as many quotes. -/
theorem quotes_escape (h : endsCell t = true) (h' : endsCell t' = true) (c : JsString) :
    quotes (escape c ++ QUOTE :: t') = quotes c + quotes (c ++ QUOTE :: t) := by
  induction c with
  | nil =>
    show quotes (QUOTE :: t') = 0 + quotes (QUOTE :: t)
    rw [quotes_cons, quotes_cons, quotes_ends h, quotes_ends h']
  | cons u us ih =>
    by_cases hquote : u = QUOTE
    · rw [hquote, escape_cons_quote]
      simp only [List.cons_append, quotes_cons]
      rw [ih]
      omega
    · rw [escape_cons hquote, List.cons_append, List.cons_append, quotes_other hquote,
        quotes_other hquote, quotes_other hquote]

/-- A text that begins with a quote is not the one of a plain cell. -/
theorem not_plain (hplain : isPlain c = true) (h' : endsCell t' = true)
    (heq : QUOTE :: us = c ++ t') : False := by
  cases c with
  | nil => exact endsCell_ne_quote h' heq.symm rfl
  | cons u _ =>
    obtain ⟨rfl, _⟩ := List.cons.inj heq
    rw [isPlain, List.all_cons, Bool.and_eq_true] at hplain
    exact absurd hplain.1 (by decide)

/-- A cell as it is. -/
theorem tight_raw (c : JsString) : Tight c c := by
  intro w' t t' h h' heq htext
  cases htext with
  | plain _ => rfl
  | quoted =>
    have hquotes := congrArg quotes heq
    have hescape := quotes_escape h h' c
    rw [quotes_append h, List.cons_append, List.append_assoc, List.singleton_append, quotes_cons,
      hescape] at hquotes
    omega

/-- A cell between quotes, with its own quotes doubled. -/
theorem tight_quoted (c : JsString) : Tight (QUOTE :: (escape c ++ [QUOTE])) c := by
  intro w' t t' _ h' heq htext
  cases htext with
  | plain hplain => exact (not_plain hplain h' heq).elim
  | quoted => rfl

/-- A cell between quotes, with its own quotes as they are. -/
theorem tight_unescaped (c : JsString) : Tight (QUOTE :: (c ++ [QUOTE])) c := by
  intro w' t t' h h' heq htext
  cases htext with
  | plain hplain => exact (not_plain hplain h' heq).elim
  | quoted =>
    rw [List.cons_append, List.cons_append, List.append_assoc, List.append_assoc,
      List.singleton_append, List.singleton_append] at heq
    have hescape : escape c = c := by
      have hrest := (List.cons.inj heq).2
      clear heq
      induction c with
      | nil => rfl
      | cons u us ih =>
        have hquote : u ≠ QUOTE := by
          rintro rfl
          have hquotes := congrArg quotes hrest
          rw [quotes_escape h h' (QUOTE :: us), quotes_cons] at hquotes
          omega
        rw [escape_cons hquote, List.cons_append, List.cons_append] at hrest
        rw [escape_cons hquote, ih (List.cons.inj hrest).2]
    rw [hescape]

theorem length_escape (c : JsString) : (escape c).length = c.length + c.count QUOTE := by
  induction c with
  | nil => rfl
  | cons u us ih =>
    by_cases hquote : u = QUOTE
    · rw [hquote, escape_cons_quote, List.count_cons_self, List.length_cons, List.length_cons,
        List.length_cons, ih]
      omega
    · rw [escape_cons hquote, List.count_cons_of_ne hquote, List.length_cons, List.length_cons, ih]
      omega

theorem escape_eq_self_iff : escape c = c ↔ QUOTE ∉ c := by
  constructor
  · intro h
    have hlength := congrArg List.length h
    rw [length_escape] at hlength
    exact List.count_eq_zero.mp (by omega)
  · intro h
    induction c with
    | nil => rfl
    | cons u us ih =>
      rw [List.mem_cons, not_or] at h
      rw [escape_cons (fun heq => h.1 heq.symm), ih h.2]

theorem cellText_raw_iff : CellText c c ↔ isPlain c = true := by
  refine ⟨fun h => ?_, .plain⟩
  have hcases : ∀ w, CellText w c → w = c → isPlain c = true := by
    intro w htext hw
    cases htext with
    | plain hplain => exact hplain
    | quoted =>
      have hlength := congrArg List.length hw
      rw [List.length_cons, List.length_append, length_escape] at hlength
      omega
  exact hcases c h rfl

theorem cellText_unescaped_iff : CellText (QUOTE :: (c ++ [QUOTE])) c ↔ QUOTE ∉ c := by
  rw [← escape_eq_self_iff]
  constructor
  · intro h
    generalize hw : QUOTE :: (c ++ [QUOTE]) = w at h
    cases h with
    | plain hplain =>
      have hlength := congrArg List.length hw
      rw [List.length_cons, List.length_append] at hlength
      omega
    | quoted => exact (List.append_cancel_right (List.cons.inj hw).2).symm
  · intro h
    have hquoted := CellText.quoted c
    rw [h] at hquoted
    exact hquoted

/-! ## 5. Records -/

/-- `Array.prototype.join` -/
def join (separator : UInt16) : List JsString → JsString
  | [] => []
  | [part] => part
  | part :: parts => part ++ separator :: join separator parts

/-- What is written for a cell. -/
structure Written where
  text : JsString
  cell : JsString

def recordText (row : List Written) : JsString := join COMMA (row.map Written.text)

def fileText (rows : List (List Written)) : JsString := join LF (rows.map recordText)

theorem join_cons {parts : List JsString} (h : parts ≠ []) (separator : UInt16) (part : JsString) :
    join separator (part :: parts) = part ++ separator :: join separator parts := by
  cases parts with
  | nil => exact absurd rfl h
  | cons _ _ => rfl

/-- A record is read back exactly when each of its cells is written as a text of it. -/
theorem record_read {row : List Written} (hrow : row ≠ [])
    (htight : ∀ written ∈ row, Tight written.text written.cell) (hends : endsCell t = true) :
    readFrom (recordText row ++ t) .cell = some (row.map Written.cell :: rs) ↔
      (∀ written ∈ row, CellText written.text written.cell) ∧
        readFrom t .closed = some ([[]] :: rs) := by
  induction row with
  | nil => exact absurd rfl hrow
  | cons written row ih =>
    rw [List.forall_mem_cons] at htight
    rw [List.forall_mem_cons, List.map_cons]
    have hcell : ∀ {t cs}, endsCell t = true →
        (readFrom (written.text ++ t) .cell = some ((written.cell :: cs) :: rs) ↔
          CellText written.text written.cell ∧ readFrom t .closed = some (([] :: cs) :: rs)) := by
      intro t cs hends
      refine ⟨fun hread => ?_, fun h => cellText_read h.1 hends h.2⟩
      obtain ⟨w, rest, heq, htext, hrest, hclosed⟩ := cell_read hread
      obtain rfl := htight.1 w t rest hends hrest heq htext
      obtain rfl := List.append_cancel_left heq
      exact ⟨htext, hclosed⟩
    by_cases hlast : row = []
    · rw [hlast]
      have hone := @hcell t [] hends
      rw [List.map_nil]
      refine hone.trans ⟨fun h => ⟨⟨h.1, fun _ hmem => absurd hmem List.not_mem_nil⟩, h.2⟩,
        fun h => ⟨h.1.1, h.2⟩⟩
    · have htext : recordText (written :: row) ++ t =
          written.text ++ (COMMA :: (recordText row ++ t)) := by
        rw [recordText, List.map_cons, join_cons (by rwa [ne_eq, List.map_eq_nil_iff]),
          List.append_assoc]
        rfl
      have hcomma : readFrom (COMMA :: (recordText row ++ t)) .closed =
          some (([] :: row.map Written.cell) :: rs) ↔
            readFrom (recordText row ++ t) .cell = some (row.map Written.cell :: rs) :=
        newCell_some.trans (and_iff_right rfl)
      rw [htext, hcell rfl, hcomma, ih hlast htight.2, and_assoc]

theorem readFrom_line (h : t ≠ []) : readFrom t .line = readFrom t .cell := by
  cases t with
  | nil => exact absurd rfl h
  | cons u us => rfl

/-- Records with a line feed in between are read back exactly when each of their cells is written as a
text of it; the last one is not blank. -/
theorem file_read {rows : List (List Written)} (hrows : ∀ row ∈ rows, row ≠ [])
    (hlast : ∀ row ∈ rows.getLast?, recordText row ≠ [])
    (htight : ∀ row ∈ rows, ∀ written ∈ row, Tight written.text written.cell) :
    read (fileText rows) = some (rows.map fun row => row.map Written.cell) ↔
      ∀ row ∈ rows, ∀ written ∈ row, CellText written.text written.cell := by
  unfold read
  induction rows with
  | nil => exact ⟨fun _ _ hmem => absurd hmem List.not_mem_nil, fun _ => rfl⟩
  | cons row rows ih =>
    rw [List.forall_mem_cons] at hrows htight
    rw [List.forall_mem_cons, List.map_cons]
    by_cases hmore : rows = []
    · subst hmore
      have hne : recordText row ≠ [] := hlast row rfl
      have hone := @record_read [] [] row hrows.1 htight.1 rfl
      rw [List.append_nil] at hone
      show readFrom (recordText row) .line = some (row.map Written.cell :: []) ↔ _
      rw [readFrom_line hne, hone]
      exact ⟨fun h => ⟨h.1, fun _ hmem => absurd hmem List.not_mem_nil⟩, fun h => ⟨h.1, rfl⟩⟩
    · have htext : fileText (row :: rows) = recordText row ++ LF :: fileText rows :=
        join_cons (by rwa [ne_eq, List.map_eq_nil_iff]) LF (recordText row)
      have hlf : readFrom (LF :: fileText rows) .closed =
          some ([[]] :: rows.map fun row => row.map Written.cell) ↔
            readFrom (fileText rows) .line = some (rows.map fun row => row.map Written.cell) :=
        newRecord_some.trans (and_iff_right rfl |>.trans (and_iff_right rfl))
      have hne : recordText row ++ LF :: fileText rows ≠ [] := by
        rw [ne_eq, List.append_eq_nil_iff]
        exact fun h => List.cons_ne_nil _ _ h.2
      obtain ⟨first, others, rfl⟩ := List.exists_cons_of_ne_nil hmore
      rw [List.getLast?_cons_cons] at hlast
      rw [htext, readFrom_line hne, record_read hrows.1 htight.1 rfl, hlf,
        ih hrows.2 hlast htight.2]

end Csv
