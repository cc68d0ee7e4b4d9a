import Mathlib.Data.List.Basic
import Mathlib.Tactic.Common

/-! # Values of JavaScript

A text of JavaScript is a list of UTF-16 code units, so that it can be cut in the middle of a pair. A
value is what `JSON.parse` gives: an object is the list of its own properties, in the order of
`Object.entries`, one for each key.

An object is built by assigning one property after the other. The key `__proto__` is no property then:
assigning to it sets the prototype, or does nothing.

Results:
1. `utf8From_append`: the bytes of a text are those of its parts, the second counted after the first.
2. `induct`: what holds of a container when it holds of everything in it holds of every value.
3. `mem_assignAll`, `assignAll_eq`: an object that is rebuilt has the properties that were assigned,
   but for `__proto__`.
-/

/-! ## 1. Texts -/

abbrev JsString := List UInt16

/-- The code units of a character. -/
def unitsOfChar (c : Char) : JsString :=
  if c.toNat < 0x10000 then [c.toNat.toUInt16]
  else
    [(0xD800 + (c.toNat - 0x10000) / 0x400).toUInt16, (0xDC00 + (c.toNat - 0x10000) % 0x400).toUInt16]

/-- A text as it stands in the source. -/
def js (s : String) : JsString := s.toList.flatMap unitsOfChar

namespace JsString

def isHigh (u : UInt16) : Bool := 0xD800 ≤ u.toNat && u.toNat < 0xDC00

def isLow (u : UInt16) : Bool := 0xDC00 ≤ u.toNat && u.toNat < 0xE000

/-- `/\d/` -/
def isDigit (u : UInt16) : Bool := 48 ≤ u.toNat && u.toNat ≤ 57

/-- `/\s/` -/
def isSpace (u : UInt16) : Bool :=
  (9 ≤ u.toNat && u.toNat ≤ 13) || (0x2000 ≤ u.toNat && u.toNat ≤ 0x200a) ||
    [0x20, 0xa0, 0x1680, 0x2028, 0x2029, 0x202f, 0x205f, 0x3000, 0xfeff].contains u.toNat

/-- A unit without the difference between capital and small ASCII letters. -/
def foldCase (u : UInt16) : UInt16 :=
  if 65 ≤ u.toNat ∧ u.toNat ≤ 90 then u + 32 else u

/-- The word, in small letters, stands somewhere in the text, whatever the case. -/
def hasWord (word : String) (s : JsString) : Bool :=
  (s.map foldCase).tails.any ((js word).isPrefixOf ·)

/-! ### Bytes -/

/-- The bytes that a unit adds. Half a pair alone takes the three of U+FFFD, so that the second half of a
pair adds one. -/
def width (afterHigh : Bool) (u : UInt16) : Nat :=
  if u.toNat < 0x80 then 1
  else if u.toNat < 0x800 then 2
  else if afterHigh && isLow u then 1
  else 3

def utf8From (afterHigh : Bool) : JsString → Nat
  | [] => 0
  | u :: us => width afterHigh u + utf8From (isHigh u) us

/-- `Buffer.byteLength(s, 'utf8')` -/
def byteLength (s : JsString) : Nat := utf8From false s

theorem width_pos (b : Bool) (u : UInt16) : 1 ≤ width b u := by
  unfold width
  split_ifs <;> omega

theorem width_le (b : Bool) (u : UInt16) : width b u ≤ 3 := by
  unfold width
  split_ifs <;> omega

/-- Whether the unit before the next one is the first half of a pair. -/
def endsHigh (afterHigh : Bool) (s : JsString) : Bool := (s.getLast?.map isHigh).getD afterHigh

theorem utf8From_append (b : Bool) (s t : JsString) :
    utf8From b (s ++ t) = utf8From b s + utf8From (endsHigh b s) t := by
  induction s generalizing b with
  | nil => simp [utf8From, endsHigh]
  | cons u us ih =>
    have hends : endsHigh b (u :: us) = endsHigh (isHigh u) us := by
      cases us with
      | nil => rfl
      | cons v vs => simp [endsHigh, List.getLast?_cons]
    rw [List.cons_append, utf8From, utf8From, ih, hends, Nat.add_assoc]

theorem length_le_utf8From (b : Bool) (s : JsString) : s.length ≤ utf8From b s := by
  induction s generalizing b with
  | nil => exact Nat.le_refl 0
  | cons u us ih =>
    have hu := width_pos b u
    have hus := ih (isHigh u)
    rw [List.length_cons, utf8From]
    omega

end JsString

/-! ## 2. Values -/

inductive JsValue where
  | null
  | bool (b : Bool)
  | number (text : JsString)
  | string (s : JsString)
  | array (items : List JsValue)
  | object (fields : List (JsString × JsValue))

namespace JsValue

/-- The own properties of an object. -/
abbrev Fields := List (JsString × JsValue)

def isScalar : JsValue → Bool
  | .array _ | .object _ => false
  | _ => true

mutual

/-- Every object has one property for each key. -/
def proper : JsValue → Bool
  | .array items => properItems items
  | .object fields => decide (fields.map Prod.fst).Nodup && properFields fields
  | _ => true

def properItems : List JsValue → Bool
  | [] => true
  | item :: items => proper item && properItems items

def properFields : Fields → Bool
  | [] => true
  | (_, value) :: fields => proper value && properFields fields

end

/-- What holds of a container when it holds of everything in it holds of every value. -/
@[elab_as_elim] theorem induct {motive : JsValue → Prop}
    (scalar : ∀ value, value.isScalar = true → motive value)
    (array : ∀ items, (∀ item ∈ items, motive item) → motive (.array items))
    (object : ∀ fields : Fields, (∀ field ∈ fields, motive field.2) → motive (.object fields)) :
    ∀ value, motive value :=
  @JsValue.rec motive (fun items => ∀ item ∈ items, motive item)
    (fun fields => ∀ field ∈ fields, motive field.2) (fun field => motive field.2)
    (scalar .null rfl) (fun b => scalar (.bool b) rfl) (fun n => scalar (.number n) rfl)
    (fun s => scalar (.string s) rfl) array object
    (fun _ hmem => absurd hmem List.not_mem_nil)
    (fun _ _ hitem hitems => List.forall_mem_cons.mpr ⟨hitem, hitems⟩)
    (fun _ hmem => absurd hmem List.not_mem_nil)
    (fun _ _ hfield hfields => List.forall_mem_cons.mpr ⟨hfield, hfields⟩)
    (fun _ _ hvalue => hvalue)

theorem proper_array {items : List JsValue} :
    proper (.array items) = true ↔ ∀ item ∈ items, proper item = true := by
  rw [proper]
  induction items with
  | nil => exact ⟨fun _ _ hmem => absurd hmem List.not_mem_nil, fun _ => rfl⟩
  | cons item items ih => rw [properItems, Bool.and_eq_true, ih, List.forall_mem_cons]

theorem proper_object {fields : Fields} :
    proper (.object fields) = true ↔
      (fields.map Prod.fst).Nodup ∧ ∀ field ∈ fields, proper field.2 = true := by
  have hfields : properFields fields = true ↔ ∀ field ∈ fields, proper field.2 = true := by
    induction fields with
    | nil => exact ⟨fun _ _ hmem => absurd hmem List.not_mem_nil, fun _ => rfl⟩
    | cons field fields ih => rw [properFields, Bool.and_eq_true, ih, List.forall_mem_cons]
  rw [proper, Bool.and_eq_true, decide_eq_true_eq, hfields]

/-! ## 3. Building an object -/

/-- `output[key] = value` on an object literal. -/
def assign (output : Fields) (key : JsString) (value : JsValue) : Fields :=
  if key = js "__proto__" then output
  else if (output.map Prod.fst).contains key then
    output.map fun field => if field.1 = key then (key, value) else field
  else output ++ [(key, value)]

/-- Properties that are assigned one after the other. -/
def assignAll (output fields : Fields) : Fields :=
  fields.foldl (fun output field => assign output field.1 field.2) output

def isProto (field : JsString × JsValue) : Bool := field.1 == js "__proto__"

theorem assign_new {output : Fields} {key : JsString} {value : JsValue}
    (hproto : key ≠ js "__proto__") (hnew : key ∉ output.map Prod.fst) :
    assign output key value = output ++ [(key, value)] := by
  rw [assign, if_neg hproto, if_neg (by simpa using hnew)]

theorem assignAll_append {output fields : Fields} (h : ((output ++ fields).map Prod.fst).Nodup) :
    assignAll output fields = output ++ fields.filter fun field => !isProto field := by
  induction fields generalizing output with
  | nil => exact (List.append_nil output).symm
  | cons field fields ih =>
    rcases field with ⟨key, value⟩
    rw [List.map_append, List.map_cons, List.nodup_append] at h
    obtain ⟨hout, hfields, hdisjoint⟩ := h
    have hnew : key ∉ output.map Prod.fst := fun hmem =>
      hdisjoint key hmem key List.mem_cons_self rfl
    rw [assignAll, List.foldl_cons]
    by_cases hproto : key = js "__proto__"
    · have hskip : isProto (key, value) = true := by simp [isProto, hproto]
      rw [assign, if_pos hproto, List.filter_cons_of_neg (by simp [hskip])]
      refine ih ?_
      rw [List.map_append, List.nodup_append]
      exact ⟨hout, (List.nodup_cons.mp hfields).2, fun a ha b hb =>
        hdisjoint a ha b (List.mem_cons_of_mem _ hb)⟩
    · have hkeep : isProto (key, value) = false := by simp [isProto, hproto]
      rw [assign_new hproto hnew, List.filter_cons_of_pos (by simp [hkeep]), ← assignAll, ih,
        List.append_assoc, List.singleton_append]
      rw [List.append_assoc, List.singleton_append, List.map_append, List.map_cons,
        List.nodup_append]
      exact ⟨hout, hfields, hdisjoint⟩

/-- An object that is rebuilt has the properties that were assigned, but for `__proto__`. -/
theorem assignAll_eq {fields : Fields} (h : (fields.map Prod.fst).Nodup) :
    assignAll [] fields = fields.filter fun field => !isProto field :=
  assignAll_append h

theorem assignAll_eq_self_iff {fields : Fields} (h : (fields.map Prod.fst).Nodup) :
    assignAll [] fields = fields ↔ ∀ field ∈ fields, isProto field = false := by
  rw [assignAll_eq h, List.filter_eq_self]
  simp

theorem mem_assign {output : Fields} {key : JsString} {value : JsValue} {field : JsString × JsValue}
    (h : field ∈ assign output key value) : field ∈ output ∨ field = (key, value) := by
  unfold assign at h
  split at h
  · exact Or.inl h
  · split at h
    · obtain ⟨old, hold, heq⟩ := List.mem_map.mp h
      split at heq
      · exact Or.inr heq.symm
      · exact Or.inl (heq ▸ hold)
    · rcases List.mem_append.mp h with hold | hnew
      · exact Or.inl hold
      · exact Or.inr (List.mem_singleton.mp hnew)

/-- Whatever is put together was assigned. -/
theorem mem_assignAll {output fields : Fields} {field : JsString × JsValue}
    (h : field ∈ assignAll output fields) : field ∈ output ∨ field ∈ fields := by
  induction fields generalizing output with
  | nil => exact Or.inl h
  | cons first fields ih =>
    rcases ih h with hout | hrest
    · rcases mem_assign hout with hold | heq
      · exact Or.inl hold
      · exact Or.inr (heq ▸ List.mem_cons_self)
    · exact Or.inr (List.mem_cons_of_mem _ hrest)

end JsValue
