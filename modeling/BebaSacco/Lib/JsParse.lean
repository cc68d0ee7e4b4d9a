import BebaSacco.Lib.JsText

/-! # Reading JSON

`JSON.parse` on UTF-16 code units: blanks may stand between the parts, a string has escapes, and an
object has the last value of each key. A lexeme is turned into a number and printed again by
`numberText`, which is left open.

Results:
1. `readChars_escapeFrom`: the rest of a quoted text is read back, and what follows it is left.
2. `readValue_stringify`: a value is read off its text when no more of a number follows.
3. `parse_stringify`, `stringify_inj`: the text of a value is read as this value alone.
-/

open JsString

namespace JsValue

/-! ## 1. The reader -/

def isBlank (u : UInt16) : Bool := u == 32 || u == 9 || u == 10 || u == 13

/-- The text behind its blanks. -/
def skip (text : JsString) : JsString := text.dropWhile isBlank

/-- What follows the unit, which comes next but for blanks. -/
def expect (unit : UInt16) (text : JsString) : Option JsString :=
  match skip text with
  | [] => none
  | u :: rest => if u = unit then some rest else none

def hexValue (u : UInt16) : Option Nat :=
  if 48 ≤ u.toNat ∧ u.toNat ≤ 57 then some (u.toNat - 48)
  else if 65 ≤ u.toNat ∧ u.toNat ≤ 70 then some (u.toNat - 55)
  else if 97 ≤ u.toNat ∧ u.toNat ≤ 102 then some (u.toNat - 87)
  else none

/-- The unit with these four digits. -/
def hexUnit (a b c d : UInt16) : Option UInt16 := do
  let a ← hexValue a
  let b ← hexValue b
  let c ← hexValue c
  let d ← hexValue d
  some (4096 * a + 256 * b + 16 * c + d).toUInt16

/-- The unit that a letter behind a backslash stands for. -/
def escaped (u : UInt16) : Option UInt16 :=
  if u = 34 ∨ u = 92 ∨ u = 47 then some u
  else if u = 98 then some 8
  else if u = 102 then some 12
  else if u = 110 then some 10
  else if u = 114 then some 13
  else if u = 116 then some 9
  else none

/-- A unit in front of the rest of a string. -/
def withUnit (u : UInt16) (read : JsString × JsString) : JsString × JsString :=
  (u :: read.1, read.2)

/-- The rest of a string behind its opening quote, and what follows the string. -/
def readChars : JsString → Option (JsString × JsString)
  | [] => none
  | u :: rest =>
    if u = 34 then some ([], rest)
    else if u = 92 then
      match rest with
      | [] => none
      | e :: rest =>
        if e = 117 then
          match rest with
          | a :: b :: c :: d :: rest =>
            (hexUnit a b c d).bind fun v => (readChars rest).map (withUnit v)
          | _ => none
        else (escaped e).bind fun v => (readChars rest).map (withUnit v)
    else if u.toNat < 32 then none
    else (readChars rest).map (withUnit u)

/-- `e`, perhaps a sign, and digits. -/
def isExponent : JsString → Bool
  | [] => true
  | e :: rest =>
    (e == 101 || e == 69) &&
      let power := if rest.head? = some 43 ∨ rest.head? = some 45 then rest.tail else rest
      !power.isEmpty && power.all isDigit

/-- A point and digits, or none of it, and an exponent. -/
def isFraction : JsString → Bool
  | 46 :: rest => !(rest.takeWhile isDigit).isEmpty && isExponent (rest.dropWhile isDigit)
  | text => isExponent text

/-- The numbers of JSON: no sign but a minus and no zero in front of other digits. -/
def isNumber (text : JsString) : Bool :=
  let unsigned := if text.head? = some 45 then text.tail else text
  let whole := unsigned.takeWhile isDigit
  !whole.isEmpty && (whole == [48] || whole.head? != some 48) &&
    isFraction (unsigned.dropWhile isDigit)

/-- The units that a number is made of. -/
def isNumberUnit (u : UInt16) : Bool :=
  isDigit u || u == 45 || u == 43 || u == 46 || u == 101 || u == 69

/-- An own property is defined, also one named `__proto__`; a key that is there keeps its place. -/
def define (output : Fields) (field : JsString × JsValue) : Fields :=
  if (output.map Prod.fst).contains field.1 then
    output.map fun old => if old.1 = field.1 then field else old
  else output ++ [field]

def defineAll (fields : Fields) : Fields := fields.foldl define []

def readWord (word : String) (value : JsValue) (text : JsString) : Option (JsValue × JsString) :=
  if (js word).isPrefixOf text then some (value, text.drop (js word).length) else none

def readNumber (numberText : JsString → JsString) (text : JsString) :
    Option (JsValue × JsString) :=
  if isNumber (text.takeWhile isNumberUnit) then
    some (.number (numberText (text.takeWhile isNumberUnit)), text.dropWhile isNumberUnit)
  else none

mutual

/-- A value and what follows it; each level of the value takes one of the fuel. -/
def readValue (numberText : JsString → JsString) : Nat → JsString → Option (JsValue × JsString)
  | 0, _ => none
  | fuel + 1, text =>
    match skip text with
    | [] => none
    | u :: rest =>
      if u = 34 then (readChars rest).map fun read => (.string read.1, read.2)
      else if u = 91 then
        match expect 93 rest with
        | some rest => some (.array [], rest)
        | none => (readItems numberText fuel rest).map fun read => (.array read.1, read.2)
      else if u = 123 then
        match expect 125 rest with
        | some rest => some (.object [], rest)
        | none =>
          (readFields numberText fuel rest).map fun read => (.object (defineAll read.1), read.2)
      else if u = 110 then readWord "null" .null (u :: rest)
      else if u = 116 then readWord "true" (.bool true) (u :: rest)
      else if u = 102 then readWord "false" (.bool false) (u :: rest)
      else readNumber numberText (u :: rest)

/-- One item or more, up to the bracket. -/
def readItems (numberText : JsString → JsString) :
    Nat → JsString → Option (List JsValue × JsString)
  | 0, _ => none
  | fuel + 1, text => do
    let item ← readValue numberText fuel text
    match expect 44 item.2 with
    | some rest => (readItems numberText fuel rest).map fun read => (item.1 :: read.1, read.2)
    | none => (expect 93 item.2).map fun rest => ([item.1], rest)

/-- One property or more, up to the brace. -/
def readFields (numberText : JsString → JsString) : Nat → JsString → Option (Fields × JsString)
  | 0, _ => none
  | fuel + 1, text => do
    let quoted ← expect 34 text
    let key ← readChars quoted
    let colon ← expect 58 key.2
    let value ← readValue numberText fuel colon
    match expect 44 value.2 with
    | some rest =>
      (readFields numberText fuel rest).map fun read => ((key.1, value.1) :: read.1, read.2)
    | none => (expect 125 value.2).map fun rest => ([(key.1, value.1)], rest)

end

/-- `JSON.parse`; a text has fewer levels than units. -/
def parse (numberText : JsString → JsString) (text : JsString) : Option JsValue :=
  (readValue numberText (text.length + 1) text).bind fun read =>
    if (skip read.2).isEmpty then some read.1 else none

example :
    (parse id (js " \x7b\"a\" : [1, \"\\u00e9\"], \"b\":null,\"a\":-0.5e3 \x7d")).map stringify =
      some (js "\x7b\"a\":-0.5e3,\"b\":null\x7d") := by decide +kernel

/-! ## 2. What JSON can say -/

mutual

/-- Every number in the value satisfies `p`. -/
def everyNumber (p : JsString → Bool) : JsValue → Bool
  | .number text => p text
  | .array items => everyNumberItems p items
  | .object fields => everyNumberFields p fields
  | _ => true

def everyNumberItems (p : JsString → Bool) : List JsValue → Bool
  | [] => true
  | item :: items => everyNumber p item && everyNumberItems p items

def everyNumberFields (p : JsString → Bool) : Fields → Bool
  | [] => true
  | (_, value) :: fields => everyNumber p value && everyNumberFields p fields

end

/-- The text is a number of JSON, and is the one that is printed for it. -/
def isPrinted (numberText : JsString → JsString) (text : JsString) : Bool :=
  isNumber text && numberText text == text

/-- Objects have one property for each key, and numbers are as they are printed. -/
def isJson (numberText : JsString → JsString) (v : JsValue) : Bool :=
  proper v && everyNumber (isPrinted numberText) v

section

variable {numberText : JsString → JsString} {items : List JsValue} {fields : Fields}

theorem everyNumber_array {p : JsString → Bool} :
    everyNumber p (.array items) = true ↔ ∀ item ∈ items, everyNumber p item = true := by
  rw [everyNumber]
  induction items with
  | nil => exact ⟨fun _ _ hmem => absurd hmem List.not_mem_nil, fun _ => rfl⟩
  | cons item items ih => rw [everyNumberItems, Bool.and_eq_true, ih, List.forall_mem_cons]

theorem everyNumber_object {p : JsString → Bool} :
    everyNumber p (.object fields) = true ↔ ∀ field ∈ fields, everyNumber p field.2 = true := by
  rw [everyNumber]
  induction fields with
  | nil => exact ⟨fun _ _ hmem => absurd hmem List.not_mem_nil, fun _ => rfl⟩
  | cons field fields ih => rw [everyNumberFields, Bool.and_eq_true, ih, List.forall_mem_cons]

theorem isJson_array :
    isJson numberText (.array items) = true ↔ ∀ item ∈ items, isJson numberText item = true := by
  simp only [isJson, Bool.and_eq_true, proper_array, everyNumber_array, forall_and]

theorem isJson_object :
    isJson numberText (.object fields) = true ↔
      (fields.map Prod.fst).Nodup ∧ ∀ field ∈ fields, isJson numberText field.2 = true := by
  simp only [isJson, Bool.and_eq_true, proper_object, everyNumber_object, forall_and, and_assoc]

end

/-! ## 3. Strings -/

theorem hexValue_hexDigit : ∀ n < 16, hexValue (hexDigit n) = some n := by decide

theorem hexUnit_digits (u : UInt16) :
    hexUnit (hexDigit (u.toNat / 4096 % 16)) (hexDigit (u.toNat / 256 % 16))
      (hexDigit (u.toNat / 16 % 16)) (hexDigit (u.toNat / 1 % 16)) = some u := by
  have hvalue : ∀ n, hexValue (hexDigit (n % 16)) = some (n % 16) := fun n =>
    hexValue_hexDigit _ (Nat.mod_lt n (by decide))
  have hu := u.toNat_lt
  have hsum : 4096 * (u.toNat / 4096 % 16) + 256 * (u.toNat / 256 % 16) +
      16 * (u.toNat / 16 % 16) + u.toNat / 1 % 16 = u.toNat := by omega
  simp only [hexUnit, hvalue, Option.bind_eq_bind, Option.bind_some, hsum]
  rw [Nat.toUInt16_eq, UInt16.ofNat_toNat]

theorem readChars_letter {e v : UInt16} (he : e ≠ 117) (h : escaped e = some v)
    (text : JsString) : readChars (92 :: e :: text) = (readChars text).map (withUnit v) := by
  rw [readChars.eq_def]
  dsimp only
  rw [if_neg (by decide), if_pos rfl, if_neg he, h, Option.bind_some]

/-- A unit is read off what is written for it. -/
theorem readChars_escapeUnit (b c : Bool) (u : UInt16) (text : JsString) :
    readChars (escapeUnit b c u ++ text) = (readChars text).map (withUnit u) := by
  have hunicode : readChars (unicodeEscape u ++ text) = (readChars text).map (withUnit u) := by
    show (hexUnit _ _ _ _).bind _ = _
    rw [hexUnit_digits]
    rfl
  unfold escapeUnit
  iterate 7
    split
    · next h => exact h ▸ readChars_letter (by decide) rfl text
  split
  · exact hunicode
  split
  · exact hunicode
  · next hquote hslash _ _ _ _ _ hcontrol _ =>
    rw [List.singleton_append, readChars.eq_def]
    dsimp only
    rw [if_neg hquote, if_neg hslash, if_neg hcontrol]

/-- The rest of a quoted text is read back, and what follows it is left. -/
theorem readChars_escapeFrom (b : Bool) (s rest : JsString) :
    readChars (escapeFrom b s ++ 34 :: rest) = some (s, rest) := by
  induction s generalizing b with
  | nil =>
    rw [escapeFrom, List.nil_append, readChars.eq_def]
    exact if_pos rfl
  | cons u us ih =>
    rw [escapeFrom, List.append_assoc, readChars_escapeUnit, ih]
    rfl

/-! ## 4. Values -/

section

variable {numberText : JsString → JsString} {v : JsValue} {items : List JsValue} {fields : Fields}
  {rest text : JsString} {fuel : Nat} {u : UInt16}

/-- No more of a number follows. -/
def Ends (rest : JsString) : Prop := ∀ u us, rest = u :: us → isNumberUnit u = false

theorem ends_nil : Ends [] := fun u us heq => absurd heq.symm (List.cons_ne_nil u us)

theorem ends_cons (h : isNumberUnit u = false) : Ends (u :: rest) := by
  intro v vs heq
  rw [← (List.cons.inj heq).1]
  exact h

theorem skip_cons (h : isBlank u = false) : skip (u :: rest) = u :: rest :=
  List.dropWhile_cons_of_neg (by rw [h]; exact Bool.false_ne_true)

theorem expect_self (h : isBlank u = false) : expect u (u :: rest) = some rest := by
  rw [expect, skip_cons h]
  exact if_pos rfl

theorem expect_other {unit : UInt16} (h : isBlank u = false) (hne : u ≠ unit) :
    expect unit (u :: rest) = none := by
  rw [expect, skip_cons h]
  exact if_neg hne

theorem isNumberUnit_of_digit (h : isDigit u = true) : isNumberUnit u = true := by
  simp [isNumberUnit, h]

theorem all_of_dropWhile {p q : UInt16 → Bool} (h : ∀ u, p u = true → q u = true)
    (hrest : (text.dropWhile p).all q = true) : text.all q = true := by
  rw [← List.takeWhile_append_dropWhile (p := p) (l := text), List.all_append, hrest, Bool.and_true,
    List.all_eq_true]
  exact fun u hu => h u (List.all_eq_true.mp List.all_takeWhile u hu)

theorem units_of_isExponent (h : isExponent text = true) : text.all isNumberUnit = true := by
  cases text with
  | nil => rfl
  | cons e power =>
    rw [isExponent, Bool.and_eq_true, Bool.and_eq_true] at h
    obtain ⟨hletter, _, hdigits⟩ := h
    have he : isNumberUnit e = true := by
      rcases Bool.or_eq_true_iff.mp hletter with he | he <;> rw [beq_iff_eq.mp he] <;> decide
    have hall : ∀ {l : JsString}, l.all isDigit = true → l.all isNumberUnit = true := fun hl =>
      List.all_eq_true.mpr fun u hu => isNumberUnit_of_digit (List.all_eq_true.mp hl u hu)
    rw [List.all_cons, he, Bool.true_and]
    split at hdigits
    · next hsign =>
      cases power with
      | nil => rfl
      | cons sign digits =>
        have hunit : isNumberUnit sign = true := by
          rcases hsign with hsign | hsign <;> rw [Option.some.inj hsign] <;> decide
        rw [List.all_cons, hunit, Bool.true_and]
        exact hall hdigits
    · exact hall hdigits

theorem units_of_isFraction (h : isFraction text = true) : text.all isNumberUnit = true := by
  unfold isFraction at h
  split at h
  · rw [Bool.and_eq_true] at h
    rw [List.all_cons, all_of_dropWhile (fun _ => isNumberUnit_of_digit) (units_of_isExponent h.2)]
    decide
  · exact units_of_isExponent h

/-- A number begins with a minus or a digit, and is made of its units. -/
theorem units_of_isNumber (h : isNumber text = true) :
    text.all isNumberUnit = true ∧ ∃ u us, text = u :: us ∧ (u = 45 ∨ isDigit u = true) := by
  unfold isNumber at h
  dsimp only at h
  rw [Bool.and_eq_true, Bool.and_eq_true, Bool.not_eq_true'] at h
  obtain ⟨⟨hwhole, _⟩, hfraction⟩ := h
  have hunits := all_of_dropWhile (fun _ => isNumberUnit_of_digit) (units_of_isFraction hfraction)
  split at hwhole
  · next hminus =>
    rw [if_pos hminus] at hunits
    cases text with
    | nil => cases hminus
    | cons u us =>
      obtain rfl : u = 45 := Option.some.inj hminus
      refine ⟨?_, 45, us, rfl, .inl rfl⟩
      rw [List.all_cons]
      exact hunits
  · next hminus =>
    rw [if_neg hminus] at hunits
    cases text with
    | nil => cases hwhole
    | cons u us =>
      refine ⟨hunits, u, us, rfl, .inr ?_⟩
      cases hu : isDigit u with
      | true => rfl
      | false =>
        rw [List.takeWhile_cons_of_neg (by rw [hu]; exact Bool.false_ne_true)] at hwhole
        cases hwhole

theorem readNumber_append (h : isPrinted numberText text = true) (hrest : Ends rest) :
    readNumber numberText (text ++ rest) = some (.number text, rest) := by
  rw [isPrinted, Bool.and_eq_true, beq_iff_eq] at h
  have hunits := List.all_eq_true.mp (units_of_isNumber h.1).1
  have hnone : rest.takeWhile isNumberUnit = [] ∧ rest.dropWhile isNumberUnit = rest := by
    cases rest with
    | nil => exact ⟨rfl, rfl⟩
    | cons u us =>
      have hu : ¬ isNumberUnit u = true := by
        rw [hrest u us rfl]
        exact Bool.false_ne_true
      exact ⟨List.takeWhile_cons_of_neg hu, List.dropWhile_cons_of_neg hu⟩
  rw [readNumber, List.takeWhile_append_of_pos hunits, List.dropWhile_append_of_pos hunits,
    hnone.1, hnone.2, List.append_nil, h.2, if_pos h.1]

/-! ### Objects -/

theorem defineAll_append {output fields : Fields} (h : ((output ++ fields).map Prod.fst).Nodup) :
    fields.foldl define output = output ++ fields := by
  induction fields generalizing output with
  | nil => exact (List.append_nil output).symm
  | cons field fields ih =>
    have hnew : field.1 ∉ output.map Prod.fst := by
      rw [List.map_append, List.map_cons, List.nodup_append] at h
      exact fun hmem => h.2.2 field.1 hmem field.1 List.mem_cons_self rfl
    have hcontains : ¬ (output.map Prod.fst).contains field.1 = true := by
      rw [List.contains_iff_mem]
      exact hnew
    rw [List.append_cons] at h
    rw [List.foldl_cons, define, if_neg hcontains, ih h, ← List.append_cons]

/-- Properties with one key each are the properties of the object. -/
theorem defineAll_eq (h : (fields.map Prod.fst).Nodup) : defineAll fields = fields :=
  defineAll_append h

/-! ### What is read back -/

/-- The value is read off its text, with fuel for each unit of it. -/
def Reads (numberText : JsString → JsString) (v : JsValue) : Prop :=
  ∀ fuel rest, (stringify v).length ≤ fuel → Ends rest →
    readValue numberText fuel (stringify v ++ rest) = some (v, rest)

/-- The first unit of a text says which kind of value it is of. -/
theorem first_stringify (h : isJson numberText v = true) :
    ∃ u us, stringify v = u :: us ∧ isBlank u = false ∧ u ≠ 93 := by
  cases v with
  | null => exact ⟨110, _, rfl, by decide, by decide⟩
  | bool b =>
    cases b with
    | false => exact ⟨102, _, rfl, by decide, by decide⟩
    | true => exact ⟨116, _, rfl, by decide, by decide⟩
  | number text =>
    rw [isJson, everyNumber, isPrinted, Bool.and_eq_true, Bool.and_eq_true] at h
    obtain ⟨-, u, us, heq, hfirst⟩ := units_of_isNumber h.2.1
    refine ⟨u, us, heq, ?_⟩
    rcases hfirst with rfl | hdigit
    · decide
    · rw [isDigit, Bool.and_eq_true, decide_eq_true_eq, decide_eq_true_eq] at hdigit
      have hne : ∀ n : UInt16, n.toNat < 48 ∨ 57 < n.toNat → u ≠ n := by
        rintro n hn rfl
        omega
      refine ⟨?_, hne 93 (.inr (by decide))⟩
      rw [isBlank, beq_false_of_ne (hne 32 (.inl (by decide))),
        beq_false_of_ne (hne 9 (.inl (by decide))), beq_false_of_ne (hne 10 (.inl (by decide))),
        beq_false_of_ne (hne 13 (.inl (by decide)))]
      rfl
  | string s => exact ⟨34, _, rfl, by decide, by decide⟩
  | array items => exact ⟨91, _, rfl, by decide, by decide⟩
  | object fields => exact ⟨123, _, rfl, by decide, by decide⟩

theorem length_stringify_pos (h : isJson numberText v = true) : 0 < (stringify v).length := by
  obtain ⟨u, us, heq, -⟩ := first_stringify h
  rw [heq]
  exact Nat.succ_pos _

theorem reads_scalar (hscalar : v.isScalar = true) (h : isJson numberText v = true) :
    Reads numberText v := by
  intro fuel rest hfuel hrest
  obtain ⟨fuel, rfl⟩ := Nat.exists_eq_succ_of_ne_zero
    (Nat.ne_of_gt (Nat.lt_of_lt_of_le (length_stringify_pos h) hfuel))
  cases v with
  | null => rfl
  | bool b => cases b <;> rfl
  | number text =>
    rw [isJson, everyNumber, Bool.and_eq_true] at h
    have hread := readNumber_append h.2 hrest
    rw [isPrinted, Bool.and_eq_true] at h
    obtain ⟨-, u, us, rfl, hfirst⟩ := units_of_isNumber h.2.1
    have hne : ∀ n : UInt16, isDigit n = false → n ≠ 45 → u ≠ n := by
      rintro n hdigit hminus rfl
      rcases hfirst with heq | heq
      · exact hminus heq
      · rw [hdigit] at heq
        cases heq
    have hblank : isBlank u = false := by
      rw [isBlank, beq_false_of_ne (hne 32 (by decide) (by decide)),
        beq_false_of_ne (hne 9 (by decide) (by decide)),
        beq_false_of_ne (hne 10 (by decide) (by decide)),
        beq_false_of_ne (hne 13 (by decide) (by decide))]
      rfl
    rw [stringify, List.cons_append, readValue, skip_cons hblank]
    dsimp only
    rw [if_neg (hne 34 (by decide) (by decide)), if_neg (hne 91 (by decide) (by decide)),
      if_neg (hne 123 (by decide) (by decide)), if_neg (hne 110 (by decide) (by decide)),
      if_neg (hne 116 (by decide) (by decide)), if_neg (hne 102 (by decide) (by decide))]
    exact hread
  | string s =>
    have hread := readChars_escapeFrom false s rest
    show ((readChars (escapeFrom false s ++ [34] ++ rest)).map _) = _
    rw [List.append_assoc, List.singleton_append, hread]
    rfl
  | array items => cases hscalar
  | object fields => cases hscalar

/-- Items are read up to the bracket. -/
theorem readItems_stringify (hne : items ≠ []) (hreads : ∀ item ∈ items, Reads numberText item)
    (hjson : ∀ item ∈ items, isJson numberText item = true)
    (hfuel : (stringifyItems items).length < fuel) :
    readItems numberText fuel (stringifyItems items ++ 93 :: rest) = some (items, rest) := by
  induction items generalizing fuel with
  | nil => exact absurd rfl hne
  | cons item items ih =>
    obtain ⟨fuel, rfl⟩ := Nat.exists_eq_succ_of_ne_zero (Nat.ne_of_gt (Nat.zero_lt_of_lt hfuel))
    rw [List.forall_mem_cons] at hreads hjson
    rw [stringifyItems, List.length_append] at hfuel
    rw [stringifyItems, List.append_assoc, readItems]
    cases items with
    | nil =>
      rw [List.isEmpty_nil, if_pos rfl, List.nil_append,
        hreads.1 fuel (93 :: rest) (by omega) (ends_cons (by decide))]
      rfl
    | cons next items =>
      have hpos := length_stringify_pos hjson.1
      have hlength : (js ",").length = 1 := rfl
      have hitem := hreads.1 fuel (44 :: (stringifyItems (next :: items) ++ 93 :: rest)) (by omega)
        (ends_cons (by decide))
      rw [List.isEmpty_cons, if_neg Bool.false_ne_true, List.length_append] at hfuel
      have hrest : (stringifyItems (next :: items)).length < fuel := by omega
      have hitems := ih (List.cons_ne_nil _ _) hreads.2 hjson.2 hrest
      show ((readValue numberText fuel
        (stringify item ++ 44 :: (stringifyItems (next :: items) ++ 93 :: rest))).bind _) = _
      rw [hitem, Option.bind_some]
      dsimp only
      rw [expect_self (by decide)]
      dsimp only
      rw [hitems]
      rfl

/-- Properties are read up to the brace. -/
theorem readFields_stringify (hne : fields ≠ [])
    (hreads : ∀ field ∈ fields, Reads numberText field.2)
    (hfuel : (stringifyFields fields).length < fuel) :
    readFields numberText fuel (stringifyFields fields ++ 125 :: rest) = some (fields, rest) := by
  induction fields generalizing fuel with
  | nil => exact absurd rfl hne
  | cons field fields ih =>
    rcases field with ⟨key, value⟩
    obtain ⟨fuel, rfl⟩ := Nat.exists_eq_succ_of_ne_zero (Nat.ne_of_gt (Nat.zero_lt_of_lt hfuel))
    have hvalues : Reads numberText value := hreads (key, value) List.mem_cons_self
    rw [stringifyFields, List.length_append, List.length_append, List.length_append] at hfuel
    have hquote : 0 < (quote key).length := Nat.succ_pos _
    have hlength : (js ",").length = 1 := rfl
    have hcolon : (js ":").length = 1 := rfl
    -- a field is read back whatever follows it, as long as that ends a value
    have hread : ∀ following, Ends following →
        readFields numberText (fuel + 1) (quote key ++ (js ":" ++ stringify value) ++ following) =
          match expect 44 following with
          | some rest =>
            (readFields numberText fuel rest).map fun read => ((key, value) :: read.1, read.2)
          | none => (expect 125 following).map fun rest => ([(key, value)], rest) := by
      intro following hends
      have hkey := readChars_escapeFrom false key (58 :: (stringify value ++ following))
      have hvalue := hvalues fuel following (by omega) hends
      have htext : quote key ++ (js ":" ++ stringify value) ++ following =
          34 :: (escapeFrom false key ++ 34 :: 58 :: (stringify value ++ following)) := by
        simp [quote, show js ":" = [58] from rfl]
      rw [htext, readFields, expect_self (by decide), Option.bind_eq_bind, Option.bind_some, hkey,
        Option.bind_eq_bind, Option.bind_some]
      dsimp only
      rw [expect_self (by decide), Option.bind_some, hvalue, Option.bind_eq_bind, Option.bind_some]
    rw [stringifyFields, List.append_assoc]
    cases fields with
    | nil =>
      show readFields _ _ (_ ++ 125 :: rest) = _
      rw [hread _ (ends_cons (by decide))]
      rfl
    | cons next fields =>
      rw [List.isEmpty_cons, if_neg Bool.false_ne_true, List.length_append] at hfuel
      have hrest : (stringifyFields (next :: fields)).length < fuel := by omega
      have hfields := ih (List.cons_ne_nil _ _)
        (fun field hmem => hreads field (List.mem_cons_of_mem _ hmem)) hrest
      show readFields _ _ (_ ++ 44 :: (stringifyFields (next :: fields) ++ 125 :: rest)) = _
      rw [hread _ (ends_cons (by decide)), expect_self (by decide)]
      dsimp only
      rw [hfields]
      rfl

theorem reads_array (hreads : ∀ item ∈ items, Reads numberText item)
    (h : ∀ item ∈ items, isJson numberText item = true) : Reads numberText (.array items) := by
  intro fuel rest hfuel _
  rw [stringify, List.length_append, List.length_append] at hfuel
  have hbrackets : (js "[").length = 1 ∧ (js "]").length = 1 := ⟨rfl, rfl⟩
  obtain ⟨fuel, rfl⟩ := Nat.exists_eq_succ_of_ne_zero (show fuel ≠ 0 by omega)
  have htext : stringify (.array items) ++ rest = 91 :: (stringifyItems items ++ 93 :: rest) := by
    simp [stringify, show js "[" = [91] from rfl, show js "]" = [93] from rfl]
  rw [htext, readValue, skip_cons (by decide)]
  dsimp only
  rw [if_neg (by decide), if_pos rfl]
  cases items with
  | nil =>
    rw [stringifyItems, List.nil_append, expect_self (by decide)]
  | cons item items =>
    obtain ⟨u, us, hfirst, hblank, hne⟩ := first_stringify (h item List.mem_cons_self)
    have hexpect : expect 93 (stringifyItems (item :: items) ++ 93 :: rest) = none := by
      rw [stringifyItems, hfirst, List.cons_append, List.cons_append]
      exact expect_other hblank hne
    rw [hexpect, readItems_stringify (List.cons_ne_nil _ _) hreads h (by omega)]
    rfl

theorem reads_object (hkeys : (fields.map Prod.fst).Nodup)
    (hreads : ∀ field ∈ fields, Reads numberText field.2) : Reads numberText (.object fields) := by
  intro fuel rest hfuel _
  rw [stringify, List.length_append, List.length_append] at hfuel
  have hbraces : (js "\x7b").length = 1 ∧ (js "\x7d").length = 1 := ⟨rfl, rfl⟩
  obtain ⟨fuel, rfl⟩ := Nat.exists_eq_succ_of_ne_zero (show fuel ≠ 0 by omega)
  have htext : stringify (.object fields) ++ rest =
      123 :: (stringifyFields fields ++ 125 :: rest) := by
    simp [stringify, show js "\x7b" = [123] from rfl, show js "\x7d" = [125] from rfl]
  rw [htext, readValue, skip_cons (by decide)]
  dsimp only
  rw [if_neg (by decide), if_neg (by decide), if_pos rfl]
  cases fields with
  | nil => rw [stringifyFields, List.nil_append, expect_self (by decide)]
  | cons field fields =>
    have hexpect : expect 125 (stringifyFields (field :: fields) ++ 125 :: rest) = none :=
      expect_other (u := 34) (by decide) (by decide)
    rw [hexpect, readFields_stringify (List.cons_ne_nil _ _) hreads (by omega), Option.map_some,
      defineAll_eq hkeys]

/-- A value is read off its text when no more of a number follows. -/
theorem readValue_stringify (h : isJson numberText v = true) : Reads numberText v := by
  induction v using induct with
  | scalar v hscalar => exact reads_scalar hscalar h
  | array items ih =>
    have hitems := isJson_array.mp h
    exact reads_array (fun item hmem => ih item hmem (hitems item hmem)) hitems
  | object fields ih =>
    obtain ⟨hkeys, hfields⟩ := isJson_object.mp h
    exact reads_object hkeys fun field hmem => ih field hmem (hfields field hmem)

/-- The text of a value is read as this value. -/
theorem parse_stringify (h : isJson numberText v = true) :
    parse numberText (stringify v) = some v := by
  have hread := readValue_stringify h ((stringify v).length + 1) [] (Nat.le_succ _) ends_nil
  rw [List.append_nil] at hread
  rw [parse, hread]
  rfl

/-- No other value has this text. -/
theorem stringify_inj {w : JsValue} (hv : isJson numberText v = true)
    (hw : isJson numberText w = true) (h : stringify v = stringify w) : v = w := by
  have hread := parse_stringify hv
  rw [h, parse_stringify hw] at hread
  exact (Option.some.inj hread).symm

end

end JsValue
