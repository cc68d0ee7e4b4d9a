import BebaSacco.Lib.JsValue

/-! # The text of a value, and its measures

`stringify` writes a value as `JSON.stringify` does. The measures look at all of a value: how deep its
arrays and objects are nested, how long its texts are, and how many items and keys there are at one
place.

Results:
1. `length_quote`: a text between quotes has a unit more for each quote and each backslash in it.
2. `utf8From_ascii_append`: a text of ASCII characters takes a byte for each.
3. `nesting_array_le`, `everyString_array`, `everyContainer_array` and those for objects: a measure of a
   container is one of what is in it.
-/

namespace JsString

/-! ## 1. The text of a string -/

def hexDigit (n : Nat) : UInt16 := (if n < 10 then 48 + n else 87 + n).toUInt16

/-- `\u` and four digits. -/
def unicodeEscape (u : UInt16) : JsString :=
  js "\\u" ++ [4096, 256, 16, 1].map fun place => hexDigit (u.toNat / place % 16)

/-- How a unit is written between quotes: half a pair is escaped when the other half is missing. -/
def escapeUnit (afterHigh beforeLow : Bool) (u : UInt16) : JsString :=
  if u = 34 then js "\\\""
  else if u = 92 then js "\\\\"
  else if u = 8 then js "\\b"
  else if u = 9 then js "\\t"
  else if u = 10 then js "\\n"
  else if u = 12 then js "\\f"
  else if u = 13 then js "\\r"
  else if u.toNat < 32 then unicodeEscape u
  else if isHigh u && !beforeLow || isLow u && !afterHigh then unicodeEscape u
  else [u]

def escapeFrom (afterHigh : Bool) : JsString → JsString
  | [] => []
  | u :: us => escapeUnit afterHigh (us.head?.any isLow) u ++ escapeFrom (isHigh u) us

/-- `JSON.stringify` of a string. -/
def quote (s : JsString) : JsString := 34 :: (escapeFrom false s ++ [34])

example : quote (js "a\"\n") = js "\"a\\\"\\n\"" := by decide +kernel

/-- The units that are written as two. -/
def isQuoted (u : UInt16) : Bool := u == 34 || u == 92

theorem length_escapeUnit (b c : Bool) (u : UInt16) :
    1 + (if isQuoted u then 1 else 0) ≤ (escapeUnit b c u).length := by
  by_cases hquote : u = 34
  · rw [hquote]
    exact Nat.le_refl 2
  by_cases hslash : u = 92
  · rw [hslash]
    exact Nat.le_refl 2
  have hplain : isQuoted u = false := by
    rw [isQuoted, beq_false_of_ne hquote, beq_false_of_ne hslash, Bool.or_self]
  rw [hplain, if_neg Bool.false_ne_true, escapeUnit, if_neg hquote, if_neg hslash]
  split_ifs <;> exact Nat.succ_le_succ (Nat.zero_le _)

/-- An escaped text has a unit more for each quote and each backslash. -/
theorem length_escapeFrom (b : Bool) (s : JsString) :
    s.length + s.countP isQuoted ≤ (escapeFrom b s).length := by
  induction s generalizing b with
  | nil => exact Nat.le_refl 0
  | cons u us ih =>
    have hu := length_escapeUnit b (us.head?.any isLow) u
    have hus := ih (isHigh u)
    rw [escapeFrom, List.length_append, List.length_cons, List.countP_cons]
    omega

theorem length_quote (s : JsString) : s.length + s.countP isQuoted + 2 ≤ (quote s).length := by
  have hescape := length_escapeFrom false s
  rw [quote, List.length_cons, List.length_append, List.length_singleton]
  omega

/-! ### Bytes -/

def isAscii (u : UInt16) : Bool := u.toNat < 0x80

theorem width_ascii {u : UInt16} (b : Bool) (h : isAscii u = true) : width b u = 1 :=
  if_pos (of_decide_eq_true h)

theorem isHigh_ascii {u : UInt16} (h : isAscii u = true) : isHigh u = false := by
  have hu := of_decide_eq_true h
  unfold isHigh
  rw [Bool.and_eq_false_iff]
  exact .inl (decide_eq_false (by omega))

/-- A text of ASCII characters takes a byte for each, and does not touch what comes after it. -/
theorem utf8From_ascii_append (b : Bool) {s : JsString} (h : ∀ u ∈ s, isAscii u = true)
    (hs : s ≠ []) (t : JsString) : utf8From b (s ++ t) = s.length + utf8From false t := by
  induction s generalizing b with
  | nil => exact absurd rfl hs
  | cons u us ih =>
    rw [List.forall_mem_cons] at h
    rw [List.cons_append, utf8From, width_ascii b h.1, isHigh_ascii h.1, List.length_cons]
    cases us with
    | nil => rfl
    | cons v vs =>
      rw [ih false h.2 (List.cons_ne_nil v vs)]
      omega

theorem utf8From_ascii (b : Bool) {s : JsString} (h : ∀ u ∈ s, isAscii u = true) :
    utf8From b s = s.length := by
  cases s with
  | nil => rfl
  | cons u us =>
    have happend := utf8From_ascii_append b h (List.cons_ne_nil u us) []
    rw [List.append_nil] at happend
    exact happend

/-- A text takes three bytes a unit at most. -/
theorem utf8From_le (b : Bool) (s : JsString) : utf8From b s ≤ 3 * s.length := by
  induction s generalizing b with
  | nil => exact Nat.le_refl 0
  | cons u us ih =>
    have hu := width_le b u
    have hus := ih (isHigh u)
    rw [List.length_cons, utf8From]
    omega

theorem length_unitsOfChar_le (c : Char) : (unitsOfChar c).length ≤ 2 := by
  unfold unitsOfChar
  split
  · exact Nat.le_succ 1
  · exact Nat.le_refl 2

theorem length_js_le (s : String) : (js s).length ≤ 2 * s.toList.length := by
  unfold js
  induction s.toList with
  | nil => exact Nat.le_refl 0
  | cons c cs ih =>
    have hc := length_unitsOfChar_le c
    rw [List.flatMap_cons, List.length_append, List.length_cons]
    omega

end JsString

namespace JsValue

open JsString

/-! ## 2. The text of a value -/

mutual

/-- `JSON.stringify` -/
def stringify : JsValue → JsString
  | .null => js "null"
  | .bool b => if b then js "true" else js "false"
  | .number text => text
  | .string s => quote s
  | .array items => js "[" ++ (stringifyItems items ++ js "]")
  | .object fields => js "\x7b" ++ (stringifyFields fields ++ js "\x7d")

def stringifyItems : List JsValue → JsString
  | [] => []
  | item :: items =>
    stringify item ++ if items.isEmpty then [] else js "," ++ stringifyItems items

def stringifyFields : Fields → JsString
  | [] => []
  | (key, value) :: fields =>
    (quote key ++ (js ":" ++ stringify value)) ++
      if fields.isEmpty then [] else js "," ++ stringifyFields fields

end

example : stringify (.object [(js "a", .array [.null, .bool true])]) =
    js "\x7b\"a\":[null,true]\x7d" := by decide +kernel

/-! ## 3. Measures -/

mutual

/-- How many arrays and objects stand one in another. -/
def nesting : JsValue → Nat
  | .array items => nestingItems items + 1
  | .object fields => nestingFields fields + 1
  | _ => 0

def nestingItems : List JsValue → Nat
  | [] => 0
  | item :: items => max (nesting item) (nestingItems items)

def nestingFields : Fields → Nat
  | [] => 0
  | (_, value) :: fields => max (nesting value) (nestingFields fields)

end

mutual

/-- Every string in the value satisfies `p`, its keys apart. -/
def everyString (p : JsString → Bool) : JsValue → Bool
  | .string s => p s
  | .array items => everyStringItems p items
  | .object fields => everyStringFields p fields
  | _ => true

def everyStringItems (p : JsString → Bool) : List JsValue → Bool
  | [] => true
  | item :: items => everyString p item && everyStringItems p items

def everyStringFields (p : JsString → Bool) : Fields → Bool
  | [] => true
  | (_, value) :: fields => everyString p value && everyStringFields p fields

end

mutual

/-- The number of items of every array satisfies `p`, and the properties of every object `q`. -/
def everyContainer (p : Nat → Bool) (q : Fields → Bool) : JsValue → Bool
  | .array items => p items.length && everyContainerItems p q items
  | .object fields => q fields && everyContainerFields p q fields
  | _ => true

def everyContainerItems (p : Nat → Bool) (q : Fields → Bool) : List JsValue → Bool
  | [] => true
  | item :: items => everyContainer p q item && everyContainerItems p q items

def everyContainerFields (p : Nat → Bool) (q : Fields → Bool) : Fields → Bool
  | [] => true
  | (_, value) :: fields => everyContainer p q value && everyContainerFields p q fields

end

theorem nestingItems_le {items : List JsValue} {n : Nat} :
    nestingItems items ≤ n ↔ ∀ item ∈ items, nesting item ≤ n := by
  induction items with
  | nil => exact ⟨fun _ _ hmem => absurd hmem List.not_mem_nil, fun _ => Nat.zero_le n⟩
  | cons item items ih => rw [nestingItems, Nat.max_le, ih, List.forall_mem_cons]

theorem nestingFields_le {fields : Fields} {n : Nat} :
    nestingFields fields ≤ n ↔ ∀ field ∈ fields, nesting field.2 ≤ n := by
  induction fields with
  | nil => exact ⟨fun _ _ hmem => absurd hmem List.not_mem_nil, fun _ => Nat.zero_le n⟩
  | cons field fields ih => rw [nestingFields, Nat.max_le, ih, List.forall_mem_cons]

theorem nesting_array_le {items : List JsValue} {n : Nat} :
    nesting (.array items) ≤ n + 1 ↔ ∀ item ∈ items, nesting item ≤ n := by
  rw [nesting, Nat.add_le_add_iff_right, nestingItems_le]

theorem nesting_object_le {fields : Fields} {n : Nat} :
    nesting (.object fields) ≤ n + 1 ↔ ∀ field ∈ fields, nesting field.2 ≤ n := by
  rw [nesting, Nat.add_le_add_iff_right, nestingFields_le]

theorem everyString_array {p : JsString → Bool} {items : List JsValue} :
    everyString p (.array items) = true ↔ ∀ item ∈ items, everyString p item = true := by
  rw [everyString]
  induction items with
  | nil => exact ⟨fun _ _ hmem => absurd hmem List.not_mem_nil, fun _ => rfl⟩
  | cons item items ih => rw [everyStringItems, Bool.and_eq_true, ih, List.forall_mem_cons]

theorem everyString_object {p : JsString → Bool} {fields : Fields} :
    everyString p (.object fields) = true ↔ ∀ field ∈ fields, everyString p field.2 = true := by
  rw [everyString]
  induction fields with
  | nil => exact ⟨fun _ _ hmem => absurd hmem List.not_mem_nil, fun _ => rfl⟩
  | cons field fields ih => rw [everyStringFields, Bool.and_eq_true, ih, List.forall_mem_cons]

theorem everyContainer_array {p : Nat → Bool} {q : Fields → Bool} {items : List JsValue} :
    everyContainer p q (.array items) = true ↔
      p items.length = true ∧ ∀ item ∈ items, everyContainer p q item = true := by
  have hitems : everyContainerItems p q items = true ↔
      ∀ item ∈ items, everyContainer p q item = true := by
    induction items with
    | nil => exact ⟨fun _ _ hmem => absurd hmem List.not_mem_nil, fun _ => rfl⟩
    | cons item items ih => rw [everyContainerItems, Bool.and_eq_true, ih, List.forall_mem_cons]
  rw [everyContainer, Bool.and_eq_true, hitems]

theorem everyContainer_object {p : Nat → Bool} {q : Fields → Bool} {fields : Fields} :
    everyContainer p q (.object fields) = true ↔
      q fields = true ∧ ∀ field ∈ fields, everyContainer p q field.2 = true := by
  have hfields : everyContainerFields p q fields = true ↔
      ∀ field ∈ fields, everyContainer p q field.2 = true := by
    induction fields with
    | nil => exact ⟨fun _ _ hmem => absurd hmem List.not_mem_nil, fun _ => rfl⟩
    | cons field fields ih => rw [everyContainerFields, Bool.and_eq_true, ih, List.forall_mem_cons]
  rw [everyContainer, Bool.and_eq_true, hfields]

end JsValue
