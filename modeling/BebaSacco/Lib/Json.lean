import Mathlib.Data.List.Lex
import Mathlib.Data.List.Sort
import Mathlib.Tactic.Common

/-! # JSON values

A value is null, a boolean, a number, a string, an array or an object. A number is kept as the text
that `JSON.stringify` prints for it, which is one text for one number. An object is a list of its
properties; `lookup` reads a property and `spread` is the object literal `{...fields, key: value}`.

Results:
 1. `lookup_spread_self`, `lookup_spread_other`: the last property of an object literal wins and the
    others are read as before.
 2. `print_sorted`: sorting the properties changes nothing when the objects are in order.
 3. `print_inj`: a value is read off its text, whatever follows it; `print_sort_inj`: so it is off
    the text with sorted properties.
-/

/-- The characters that a printed number is made of. -/
def numberChar (c : Char) : Bool :=
  c.isDigit || c == '-' || c == '+' || c == '.' || c == 'e'

/-- A number as it is printed. -/
structure JsonNumber where
  text : String
  printed : (!text.toList.isEmpty && text.toList.all numberChar) = true
  deriving DecidableEq

inductive Json where
  | null
  | bool (b : Bool)
  | number (n : JsonNumber)
  | string (s : String)
  | array (items : List Json)
  | object (fields : List (String × Json))

namespace Json

/-- The properties of an object, in the order in which they were set. -/
abbrev Fields := List (String × Json)

/-- A column that may be null. -/
def textOrNull : Option String → Json
  | none => .null
  | some text => .string text

variable {fields : Fields} {key key' : String} {value : Json}

/-- `{...fields, key: value}` -/
def spread (fields : Fields) (key : String) (value : Json) : Fields :=
  (key, value) :: fields.filter (·.1 != key)

/-! ## 1. Properties of an object literal -/

@[simp] theorem lookup_spread_self : (spread fields key value).lookup key = some value := by
  simp [spread]

theorem lookup_filter_other (h : key' ≠ key) :
    (fields.filter (·.1 != key)).lookup key' = fields.lookup key' := by
  induction fields with
  | nil => rfl
  | cons field fields ih =>
    rcases field with ⟨k, v⟩
    by_cases hk : k = key
    · subst hk
      have hne : (key' == k) = false := by simp [h]
      rw [List.filter_cons_of_neg (by simp), List.lookup_cons, hne, ih]
    · rw [List.filter_cons_of_pos (by simp [hk]), List.lookup_cons, List.lookup_cons, ih]

theorem lookup_spread_other (h : key' ≠ key) :
    (spread fields key value).lookup key' = fields.lookup key' := by
  have hne : (key' == key) = false := by simp [h]
  rw [spread, List.lookup_cons, hne]
  exact lookup_filter_other h

/-! ## 2. Printing -/

/-- The UTF-16 code units of a string, in whose order JavaScript sorts. -/
def utf16 (s : String) : List Nat :=
  s.toList.flatMap fun c =>
    if c.toNat < 0x10000 then [c.toNat]
    else [0xD800 + (c.toNat - 0x10000) / 0x400, 0xDC00 + (c.toNat - 0x10000) % 0x400]

def keyLe (a b : String) : Bool := decide (utf16 a ≤ utf16 b)

def hexDigit (n : Nat) : Char := Char.ofNat (if n < 10 then 48 + n else 87 + n)

/-- A character inside a JSON string. -/
def escape (c : Char) : List Char :=
  if c.toNat == 34 then ['\\', '"']
  else if c.toNat == 92 then ['\\', '\\']
  else if c.toNat == 8 then ['\\', 'b']
  else if c.toNat == 9 then ['\\', 't']
  else if c.toNat == 10 then ['\\', 'n']
  else if c.toNat == 12 then ['\\', 'f']
  else if c.toNat == 13 then ['\\', 'r']
  else if c.toNat < 32 then
    ['\\', 'u', '0', '0', hexDigit (c.toNat / 16), hexDigit (c.toNat % 16)]
  else [c]

def quote (s : String) : List Char := '"' :: (s.toList.flatMap escape ++ ['"'])

/-- `texts.join(',')` -/
def commas : List (List Char) → List Char
  | [] => []
  | [text] => text
  | text :: texts => text ++ ',' :: commas texts

/-- The properties of an object with their values printed. -/
abbrev Printed := List (String × List Char)

def printProperty (property : String × List Char) : List Char :=
  quote property.1 ++ ':' :: property.2

mutual

/-- The text of a value, the properties of each object arranged by `order`. -/
def print (order : Printed → Printed) : Json → List Char
  | .null => ['n', 'u', 'l', 'l']
  | .bool true => ['t', 'r', 'u', 'e']
  | .bool false => ['f', 'a', 'l', 's', 'e']
  | .number n => n.text.toList
  | .string s => quote s
  | .array items => '[' :: (commas (printItems order items) ++ [']'])
  | .object fields =>
    '{' :: (commas ((order (printFields order fields)).map printProperty) ++ ['}'])

def printItems (order : Printed → Printed) : List Json → List (List Char)
  | [] => []
  | item :: items => print order item :: printItems order items

def printFields (order : Printed → Printed) : List (String × Json) → Printed
  | [] => []
  | (key, value) :: fields => (key, print order value) :: printFields order fields

end

/-- `JSON.stringify` -/
def stringify (v : Json) : String := String.ofList (print id v)

def sortProperties (properties : Printed) : Printed :=
  properties.insertionSort fun a b => keyLe a.1 b.1 = true

mutual

/-- Every object has its properties in the order of their keys, one for each key. An object without
an order is represented so. -/
def sorted : Json → Bool
  | .array items => sortedItems items
  | .object fields =>
    decide (fields.Pairwise fun a b => keyLe a.1 b.1 = true ∧ a.1 ≠ b.1) && sortedFields fields
  | _ => true

def sortedItems : List Json → Bool
  | [] => true
  | item :: items => sorted item && sortedItems items

def sortedFields : List (String × Json) → Bool
  | [] => true
  | (_, value) :: fields => sorted value && sortedFields fields

end

/-! ### Objects in order are printed as they are -/

theorem printFields_keys (order : Printed → Printed) (fields : List (String × Json)) :
    (printFields order fields).map Prod.fst = fields.map Prod.fst := by
  induction fields with
  | nil => rw [printFields]; rfl
  | cons field fields ih =>
    rcases field with ⟨key, value⟩
    rw [printFields, List.map_cons, List.map_cons, ih]

theorem sortProperties_of_sorted {properties : Printed}
    (h : (properties.map Prod.fst).Pairwise fun a b => keyLe a b = true) :
    sortProperties properties = properties :=
  (List.pairwise_map.mp h).insertionSort_eq

mutual

theorem print_sorted : ∀ v : Json, v.sorted = true → print sortProperties v = print id v
  | .null, _ => by rw [print, print]
  | .bool true, _ => by rw [print, print]
  | .bool false, _ => by rw [print, print]
  | .number n, _ => by rw [print, print]
  | .string s, _ => by rw [print, print]
  | .array items, h => by
    rw [sorted] at h
    rw [print, print, printItems_sorted items h]
  | .object fields, h => by
    rw [sorted, Bool.and_eq_true, decide_eq_true_eq] at h
    have hkeys : ((printFields id fields).map Prod.fst).Pairwise fun a b => keyLe a b = true := by
      rw [printFields_keys]
      exact List.pairwise_map.mpr (h.1.imp fun hab => hab.1)
    rw [print, print, printFields_sorted fields h.2, sortProperties_of_sorted hkeys, id]

theorem printItems_sorted : ∀ items : List Json, sortedItems items = true →
    printItems sortProperties items = printItems id items
  | [], _ => by rw [printItems, printItems]
  | item :: items, h => by
    rw [sortedItems, Bool.and_eq_true] at h
    rw [printItems, printItems, print_sorted item h.1, printItems_sorted items h.2]

theorem printFields_sorted : ∀ fields : List (String × Json), sortedFields fields = true →
    printFields sortProperties fields = printFields id fields
  | [], _ => by rw [printFields, printFields]
  | (key, value) :: fields, h => by
    rw [sortedFields, Bool.and_eq_true] at h
    rw [printFields, printFields, print_sorted value h.1, printFields_sorted fields h.2]

end

theorem textOrNull_sorted (text : Option String) : (textOrNull text).sorted = true := by
  cases text <;> simp [textOrNull, sorted]

theorem textOrNull_inj {text text' : Option String} (h : textOrNull text = textOrNull text') :
    text = text' := by
  cases text <;> cases text' <;> simp_all [textOrNull]

/-! ## 3. Reading a printed text back -/

variable {c c' : Char} {s s' : String} {r r' : List Char}

def hexValue (c : Char) : Nat := if c.toNat < 58 then c.toNat - 48 else c.toNat - 87

/-- The first character of the rest of a JSON string, `none` at its end. -/
def unescape : List Char → Option (Char × List Char)
  | '"' :: _ => none
  | '\\' :: 'b' :: r => some (Char.ofNat 8, r)
  | '\\' :: 't' :: r => some (Char.ofNat 9, r)
  | '\\' :: 'n' :: r => some (Char.ofNat 10, r)
  | '\\' :: 'f' :: r => some (Char.ofNat 12, r)
  | '\\' :: 'r' :: r => some (Char.ofNat 13, r)
  | '\\' :: 'u' :: '0' :: '0' :: high :: low :: r =>
    some (Char.ofNat (16 * hexValue high + hexValue low), r)
  | '\\' :: c :: r => some (c, r)
  | c :: r => some (c, r)
  | [] => none

theorem char_of_toNat {n : Nat} (h : c.toNat = n) : c = Char.ofNat n := by
  rw [← h, Char.ofNat_toNat]

theorem hexValue_hexDigit : ∀ n < 32,
    16 * hexValue (hexDigit (n / 16)) + hexValue (hexDigit (n % 16)) = n := by
  decide

theorem unescape_escape (c : Char) (r : List Char) : unescape (escape c ++ r) = some (c, r) := by
  unfold escape
  iterate 7
    split
    · next h => rw [char_of_toNat (beq_iff_eq.mp h)]; rfl
  split
  · next h =>
    show some (Char.ofNat (16 * _ + _), r) = _
    rw [hexValue_hexDigit _ h, Char.ofNat_toNat]
  · -- a character that is not escaped is neither a quote nor a backslash
    next hquote hslash _ _ _ _ _ _ =>
    have hq : c ≠ '"' := by rintro rfl; exact hquote rfl
    have hs : c ≠ '\\' := by rintro rfl; exact hslash rfl
    show unescape (c :: r) = _
    unfold unescape
    split <;> simp_all

theorem escaped_inj {l l' : List Char}
    (h : l.flatMap escape ++ '"' :: r = l'.flatMap escape ++ '"' :: r') : l = l' ∧ r = r' := by
  induction l generalizing l' with
  | nil =>
    cases l' with
    | nil => exact ⟨rfl, (List.cons.inj h).2⟩
    | cons c' l' =>
      have hread := congrArg unescape h
      rw [List.flatMap_cons, List.append_assoc, unescape_escape] at hread
      cases hread
  | cons c l ih =>
    have hread := congrArg unescape h
    rw [List.flatMap_cons, List.append_assoc, unescape_escape] at hread
    cases l' with
    | nil => cases hread
    | cons c' l' =>
      rw [List.flatMap_cons, List.append_assoc, unescape_escape] at hread
      obtain ⟨rfl, hrest⟩ := Prod.mk.inj (Option.some.inj hread)
      obtain ⟨rfl, hr⟩ := ih hrest
      exact ⟨rfl, hr⟩

theorem quote_inj (h : quote s ++ r = quote s' ++ r') : s = s' ∧ r = r' := by
  simp only [quote, List.cons_append, List.append_assoc, List.nil_append, List.cons.injEq,
    true_and] at h
  obtain ⟨hs, hr⟩ := escaped_inj h
  exact ⟨String.toList_inj.mp hs, hr⟩

/-- What may follow a number. -/
def Ends (r : List Char) : Prop := ∀ c cs, r = c :: cs → numberChar c = false

theorem numberChars_inj {l l' : List Char} (hl : ∀ c ∈ l, numberChar c = true)
    (hl' : ∀ c ∈ l', numberChar c = true) (hr : Ends r) (hr' : Ends r')
    (h : l ++ r = l' ++ r') : l = l' ∧ r = r' := by
  induction l generalizing l' with
  | nil =>
    cases l' with
    | nil => exact ⟨rfl, h⟩
    | cons c' l' =>
      have hc := hr _ _ h
      rw [hl' c' List.mem_cons_self] at hc
      cases hc
  | cons c l ih =>
    cases l' with
    | nil =>
      have hc := hr' _ _ h.symm
      rw [hl c List.mem_cons_self] at hc
      cases hc
    | cons c' l' =>
      obtain ⟨rfl, hrest⟩ := List.cons.inj h
      obtain ⟨rfl, hr⟩ := ih (fun c hc => hl c (List.mem_cons_of_mem _ hc))
        (fun c hc => hl' c (List.mem_cons_of_mem _ hc)) hrest
      exact ⟨rfl, hr⟩

theorem JsonNumber.chars (n : JsonNumber) : ∀ c ∈ n.text.toList, numberChar c = true :=
  List.all_eq_true.mp (Bool.and_eq_true_iff.mp n.printed).2

theorem JsonNumber.text_ne_nil (n : JsonNumber) : n.text.toList ≠ [] := by
  have h := (Bool.and_eq_true_iff.mp n.printed).1
  intro hnil
  rw [hnil] at h
  cases h

/-- The constructor of a value, and what the first character of its text says about it. -/
def kind : Json → Nat
  | .null => 0
  | .bool true => 1
  | .bool false => 2
  | .number _ => 3
  | .string _ => 4
  | .array _ => 5
  | .object _ => 6

def kindOf (c : Char) : Nat :=
  if c == 'n' then 0
  else if c == 't' then 1
  else if c == 'f' then 2
  else if numberChar c then 3
  else if c == '"' then 4
  else if c == '[' then 5
  else if c == '{' then 6
  else 7

theorem kindOf_number (h : numberChar c = true) : kindOf c = 3 := by
  have hn : c ≠ 'n' := by rintro rfl; exact absurd h (by decide)
  have ht : c ≠ 't' := by rintro rfl; exact absurd h (by decide)
  have hf : c ≠ 'f' := by rintro rfl; exact absurd h (by decide)
  simp [kindOf, hn, ht, hf, h]

theorem print_head (v : Json) : ∃ c cs, print id v = c :: cs ∧ kindOf c = v.kind := by
  cases v with
  | null => exact ⟨_, _, by rw [print], by decide⟩
  | bool b => cases b <;> exact ⟨_, _, by rw [print], by decide⟩
  | number n =>
    cases hn : n.text.toList with
    | nil => exact absurd hn (JsonNumber.text_ne_nil n)
    | cons c cs =>
      refine ⟨c, cs, by rw [print, hn], ?_⟩
      exact kindOf_number (JsonNumber.chars n c (hn ▸ List.mem_cons_self))
  | string s => exact ⟨_, _, by rw [print, quote], rfl⟩
  | array items => exact ⟨_, _, by rw [print], rfl⟩
  | object fields => exact ⟨_, _, by rw [print], rfl⟩

theorem kind_of_print {v v' : Json} (h : print id v ++ r = print id v' ++ r') :
    v.kind = v'.kind := by
  obtain ⟨c, cs, hv, hc⟩ := print_head v
  obtain ⟨c', cs', hv', hc'⟩ := print_head v'
  rw [hv, hv'] at h
  rw [← hc, ← hc', (List.cons.inj h).1]

/-- The text after the first of some texts: the end of the list, or a comma and the others. -/
def after (close : Char) (texts : List (List Char)) (r : List Char) : List Char :=
  if texts.isEmpty then close :: r else ',' :: (commas texts ++ close :: r)

theorem commas_cons (close : Char) (text : List Char) (texts : List (List Char)) (r : List Char) :
    commas (text :: texts) ++ close :: r = text ++ after close texts r := by
  cases texts with
  | nil => rfl
  | cons text' texts =>
    rw [commas, after, List.append_assoc]
    · rfl
    · simp

theorem ends_after {close : Char} (hclose : numberChar close = false) (texts : List (List Char)) :
    Ends (after close texts r) := by
  intro c cs h
  unfold after at h
  split at h
  · rw [← (List.cons.inj h).1]
    exact hclose
  · rw [← (List.cons.inj h).1]
    decide

/-- What follows the first text is the end in both texts or in none. -/
theorem after_inj {close : Char} (hclose : close ≠ ',') {texts texts' : List (List Char)}
    (h : after close texts r = after close texts' r') :
    (texts = [] ∧ texts' = [] ∧ r = r') ∨
    (texts ≠ [] ∧ texts' ≠ [] ∧ commas texts ++ close :: r = commas texts' ++ close :: r') := by
  cases texts with
  | nil =>
    cases texts' with
    | nil => exact .inl ⟨rfl, rfl, (List.cons.inj h).2⟩
    | cons text' texts' => exact absurd (List.cons.inj h).1 hclose
  | cons text texts =>
    cases texts' with
    | nil => exact absurd (List.cons.inj h).1.symm hclose
    | cons text' texts' => exact .inr ⟨by simp, by simp, (List.cons.inj h).2⟩

/-- No text of a value starts like the end of a list. -/
theorem print_ne_close {v : Json} {close : Char} (hclose : kindOf close = 7) {l : List Char} :
    print id v ++ r ≠ close :: l := by
  intro h
  obtain ⟨c, cs, hv, hc⟩ := print_head v
  rw [hv] at h
  rw [(List.cons.inj h).1, hclose] at hc
  cases v with
  | bool b => cases b <;> cases hc
  | _ => cases hc

theorem printItems_nil_iff (items : List Json) : printItems id items = [] ↔ items = [] := by
  cases items <;> simp [printItems]

theorem printFields_nil_iff (fields : List (String × Json)) :
    (printFields id fields).map printProperty = [] ↔ fields = [] := by
  cases fields with
  | nil => simp [printFields]
  | cons field fields => rcases field with ⟨key, value⟩; simp [printFields]

mutual

/-- A value is read off its text, whatever follows it. -/
theorem print_inj : ∀ (v v' : Json) (r r' : List Char), Ends r → Ends r' →
    print id v ++ r = print id v' ++ r' → v = v' ∧ r = r'
  | .null, v', r, r', hr, hr', h => by
    have hkind := kind_of_print h
    cases v' with
    | null => exact ⟨rfl, List.append_cancel_left h⟩
    | bool b => cases b <;> cases hkind
    | _ => cases hkind
  | .bool b, v', r, r', hr, hr', h => by
    have hkind := kind_of_print h
    cases v' with
    | bool b' =>
      cases b <;> cases b' <;> first
        | exact ⟨rfl, List.append_cancel_left h⟩
        | cases hkind
    | _ => cases b <;> cases hkind
  | .number n, v', r, r', hr, hr', h => by
    have hkind := kind_of_print h
    cases v' with
    | number n' =>
      rw [print, print] at h
      obtain ⟨htext, hrest⟩ := numberChars_inj (JsonNumber.chars n) (JsonNumber.chars n') hr hr' h
      refine ⟨?_, hrest⟩
      rcases n with ⟨text, hprinted⟩
      rcases n' with ⟨text', hprinted'⟩
      obtain rfl : text = text' := String.toList_inj.mp htext
      rfl
    | bool b => cases b <;> cases hkind
    | _ => cases hkind
  | .string s, v', r, r', hr, hr', h => by
    have hkind := kind_of_print h
    cases v' with
    | string s' =>
      rw [print, print] at h
      obtain ⟨rfl, hrest⟩ := quote_inj h
      exact ⟨rfl, hrest⟩
    | bool b => cases b <;> cases hkind
    | _ => cases hkind
  | .array items, v', r, r', hr, hr', h => by
    have hkind := kind_of_print h
    cases v' with
    | array items' =>
      rw [print, print] at h
      simp only [List.cons_append, List.append_assoc, List.nil_append, List.cons.injEq,
        true_and] at h
      obtain ⟨rfl, hrest⟩ := printItems_inj items items' r r' h
      exact ⟨rfl, hrest⟩
    | bool b => cases b <;> cases hkind
    | _ => cases hkind
  | .object fields, v', r, r', hr, hr', h => by
    have hkind := kind_of_print h
    cases v' with
    | object fields' =>
      rw [print, print] at h
      simp only [List.cons_append, List.append_assoc, List.nil_append, List.cons.injEq,
        true_and, id] at h
      obtain ⟨rfl, hrest⟩ := printFields_inj fields fields' r r' h
      exact ⟨rfl, hrest⟩
    | bool b => cases b <;> cases hkind
    | _ => cases hkind

theorem printItems_inj : ∀ (items items' : List Json) (r r' : List Char),
    commas (printItems id items) ++ ']' :: r = commas (printItems id items') ++ ']' :: r' →
    items = items' ∧ r = r'
  | [], [], r, r', h => ⟨rfl, (List.cons.inj h).2⟩
  | [], item' :: items', r, r', h => by
    rw [printItems, printItems, commas_cons] at h
    exact absurd h.symm (print_ne_close (by decide))
  | item :: items, [], r, r', h => by
    rw [printItems, printItems, commas_cons] at h
    exact absurd h (print_ne_close (by decide))
  | item :: items, item' :: items', r, r', h => by
    rw [printItems, printItems, commas_cons, commas_cons] at h
    obtain ⟨rfl, hafter⟩ := print_inj item item' _ _ (ends_after (by decide) _)
      (ends_after (by decide) _) h
    rcases after_inj (by decide) hafter with ⟨hnil, hnil', hr⟩ | ⟨-, -, hrest⟩
    · rw [(printItems_nil_iff items).mp hnil, (printItems_nil_iff items').mp hnil']
      exact ⟨rfl, hr⟩
    · obtain ⟨rfl, hr⟩ := printItems_inj items items' r r' hrest
      exact ⟨rfl, hr⟩

theorem printFields_inj : ∀ (fields fields' : List (String × Json)) (r r' : List Char),
    commas ((printFields id fields).map printProperty) ++ '}' :: r =
      commas ((printFields id fields').map printProperty) ++ '}' :: r' →
    fields = fields' ∧ r = r'
  | [], [], r, r', h => ⟨rfl, (List.cons.inj h).2⟩
  | [], (key', value') :: fields', r, r', h => by
    rw [printFields, printFields, List.map_cons, commas_cons] at h
    exact absurd (List.cons.inj h).1 (by decide)
  | (key, value) :: fields, [], r, r', h => by
    rw [printFields, printFields, List.map_cons, commas_cons] at h
    exact absurd (List.cons.inj h).1 (by decide)
  | (key, value) :: fields, (key', value') :: fields', r, r', h => by
    rw [printFields, printFields, List.map_cons, List.map_cons, commas_cons, commas_cons,
      printProperty, printProperty, List.append_assoc, List.append_assoc] at h
    -- the key, the colon, the value, and then the end or the next property
    obtain ⟨rfl, hvalue⟩ := quote_inj h
    obtain ⟨rfl, hafter⟩ := print_inj value value' _ _ (ends_after (by decide) _)
      (ends_after (by decide) _) (List.cons.inj hvalue).2
    rcases after_inj (by decide) hafter with ⟨hnil, hnil', hr⟩ | ⟨-, -, hrest⟩
    · rw [(printFields_nil_iff fields).mp hnil, (printFields_nil_iff fields').mp hnil']
      exact ⟨rfl, hr⟩
    · obtain ⟨rfl, hr⟩ := printFields_inj fields fields' r r' hrest
      exact ⟨rfl, hr⟩

end

theorem print_sort_inj {v v' : Json} (hv : v.sorted = true) (hv' : v'.sorted = true)
    (h : print sortProperties v = print sortProperties v') : v = v' := by
  rw [print_sorted v hv, print_sorted v' hv'] at h
  have hends : Ends [] := by
    intro c cs hnil
    cases hnil
  exact (print_inj v v' [] [] hends hends (by rw [h])).1

end Json
