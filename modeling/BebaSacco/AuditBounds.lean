import BebaSacco.Lib.JsText

/-! # The size of what an audit event keeps

A record is copied before it is queued: long texts are cut, deep values, the items beyond the 25th and
the keys beyond the 50th are left out, and a copy whose text is still too long is replaced by the
beginning of that text. The beginning is a text again, with a limit of its own, and its quotes are escaped
once more when the event is written.

Results:
1. `byteLength_truncateString`: a text is cut to its limit and a suffix.
2. `nesting_boundValue`, `strings_boundValue`, `boundValue_eq`: the copy is within the limits, and the same
   where the value is.
3. `audit_bounded`: what holds of every record that is kept.
4. `kept_within_iff`: the records that are kept within all the limits.
5. `summary_too_long`: a record whose summary takes it beyond its limit again.
-/

namespace BebaSacco

open JsValue JsString

/-! ## 1. Cutting -/

def AUDIT_MAX_FIELD_BYTES : Nat := 4096

def AUDIT_MAX_STRING_BYTES : Nat := 1024

def AUDIT_MAX_DEPTH : Nat := 4

def AUDIT_MAX_ARRAY_ITEMS : Nat := 25

def AUDIT_MAX_OBJECT_KEYS : Nat := 50

def truncatedSuffix : JsString := js "...[truncated]"

/-- The loop that goes back from `stop` until the text fits. -/
def cutEnd (value : JsString) (maxBytes : Nat) : Nat → Nat
  | 0 => 0
  | stop + 1 =>
    if maxBytes < byteLength (value.take (stop + 1)) then cutEnd value maxBytes stop else stop + 1

def truncateString (value : JsString) (maxBytes : Nat) : JsString :=
  if byteLength value ≤ maxBytes then value
  else value.take (cutEnd value maxBytes (min value.length maxBytes)) ++ truncatedSuffix

/-- `[Truncated: N additional items]` -/
def additionalItems (omitted : Nat) : JsString :=
  js "[Truncated: " ++ (js (toString omitted) ++ js " additional items]")

def depthReached : JsString := js "[Truncated: max audit depth reached]"

/-- The items that are kept, and a word about the others. -/
def closeArray (items : List JsValue) (omitted : Nat) : List JsValue :=
  if 0 < omitted then items ++ [.string (additionalItems omitted)] else items

/-- An object of the properties that are kept, and the number of the others. -/
def closeObject (entries : Fields) (omitted : Nat) : Fields :=
  let output := assignAll [] entries
  if 0 < omitted then assign output (js "__truncatedKeys") (.number (js (toString omitted)))
  else output

mutual

def boundValue (depth : Nat) : JsValue → JsValue
  | .null => .null
  | .bool b => .bool b
  | .number text => .number text
  | .string s => .string (truncateString s AUDIT_MAX_STRING_BYTES)
  | .array items =>
    if AUDIT_MAX_DEPTH ≤ depth then .string depthReached
    else
      .array (closeArray (boundItems (depth + 1) AUDIT_MAX_ARRAY_ITEMS items)
        (items.length - AUDIT_MAX_ARRAY_ITEMS))
  | .object fields =>
    if AUDIT_MAX_DEPTH ≤ depth then .string depthReached
    else
      .object (closeObject (boundEntries (depth + 1) AUDIT_MAX_OBJECT_KEYS fields)
        (fields.length - AUDIT_MAX_OBJECT_KEYS))

/-- The first `left` items. -/
def boundItems (depth left : Nat) : List JsValue → List JsValue
  | [] => []
  | item :: items =>
    if left = 0 then [] else boundValue depth item :: boundItems depth (left - 1) items

/-- The first `left` entries. -/
def boundEntries (depth left : Nat) : Fields → Fields
  | [] => []
  | (key, child) :: entries =>
    if left = 0 then [] else (key, boundValue depth child) :: boundEntries depth (left - 1) entries

end

def summaryOf (value : Fields) (maxBytes : Nat) : JsString :=
  truncateString (stringify (.object value)) (maxBytes - 128)

def truncateToBytes (value : Fields) (maxBytes : Nat) : Fields :=
  if byteLength (stringify (.object value)) ≤ maxBytes then value
  else [(js "__truncated", .bool true), (js "summary", .string (summaryOf value maxBytes))]

/-- The copy, before its text is measured. -/
def boundedRecord (value : Fields) : Fields :=
  match boundValue 0 (.object value) with
  | .object record => record
  | bounded => [(js "value", bounded)]

def boundRecord (value : Fields) : Fields :=
  truncateToBytes (boundedRecord value) AUDIT_MAX_FIELD_BYTES

/-! ## 2. The limits -/

/-- A record of JSON: no object has a key twice, and no array is longer than arrays can be. -/
structure JsonRecord where
  fields : Fields
  isProper : proper (.object fields) = true
  lengths : everyContainer (fun items => items < 4294967296) (fun _ => true) (.object fields) = true

/-- The text of the copy is short enough. -/
def fits (value : Fields) : Bool :=
  byteLength (stringify (.object (boundedRecord value))) ≤ AUDIT_MAX_FIELD_BYTES

def isShort (s : JsString) : Bool :=
  byteLength s ≤ AUDIT_MAX_STRING_BYTES + byteLength truncatedSuffix

/-- The value is within the limits of depth, items, keys and texts. -/
structure Within (value : JsValue) : Prop where
  depth : nesting value ≤ AUDIT_MAX_DEPTH
  sizes : everyContainer (fun items => items ≤ AUDIT_MAX_ARRAY_ITEMS)
    (fun fields => fields.length ≤ AUDIT_MAX_OBJECT_KEYS) value = true
  texts : everyString (fun s => byteLength s ≤ AUDIT_MAX_STRING_BYTES) value = true

/-- No object in the value has a key `__proto__`. -/
def protoless (value : JsValue) : Bool :=
  everyContainer (fun _ => true) (fun fields => fields.all fun field => !isProto field) value

/-- What a record that is kept should be. -/
structure KeptWithin (value : Fields) : Prop where
  bytes : byteLength (stringify (.object (boundRecord value))) ≤ AUDIT_MAX_FIELD_BYTES
  depth : nesting (.object (boundRecord value)) ≤ AUDIT_MAX_DEPTH
  texts : everyString isShort (.object (boundRecord value)) = true
  unchanged : Within (.object value) →
    byteLength (stringify (.object value)) ≤ AUDIT_MAX_FIELD_BYTES → boundRecord value = value

/-- What it is: only a copy that fits has short texts and a short text. -/
structure KeptRecord (value : Fields) : Prop where
  depth : nesting (.object (boundRecord value)) ≤ AUDIT_MAX_DEPTH
  copied : fits value = true →
    byteLength (stringify (.object (boundRecord value))) ≤ AUDIT_MAX_FIELD_BYTES ∧
      everyString isShort (.object (boundRecord value)) = true
  unchanged : Within (.object value) → protoless (.object value) = true →
    byteLength (stringify (.object value)) ≤ AUDIT_MAX_FIELD_BYTES → boundRecord value = value

/-! ## 3. The copy -/

namespace AuditBoundLemmas

theorem byteLength_cut (value : JsString) (maxBytes : Nat) (stop : Nat) :
    byteLength (value.take (cutEnd value maxBytes stop)) ≤ maxBytes := by
  induction stop with
  | zero => exact Nat.zero_le maxBytes
  | succ stop ih =>
    rw [cutEnd]
    split
    · exact ih
    · next hfits => exact Nat.le_of_not_lt hfits

theorem utf8From_suffix (b : Bool) : utf8From b truncatedSuffix = byteLength truncatedSuffix := by
  -- the list itself is run: the characters of the type are too many to be tried
  have hascii : ∀ u ∈ truncatedSuffix, isAscii u = true :=
    List.all_eq_true.mp rfl
  rw [byteLength, utf8From_ascii b hascii, utf8From_ascii false hascii]

theorem truncateString_cut {value : JsString} {maxBytes : Nat}
    (h : maxBytes < byteLength value) :
    truncateString value maxBytes =
      value.take (cutEnd value maxBytes (min value.length maxBytes)) ++ truncatedSuffix :=
  if_neg (Nat.not_le.mpr h)

/-- A text is cut to its limit and the suffix, wherever a pair is split. -/
theorem byteLength_truncateString (value : JsString) (maxBytes : Nat) :
    byteLength (truncateString value maxBytes) ≤ maxBytes + byteLength truncatedSuffix := by
  rcases Nat.lt_or_ge maxBytes (byteLength value) with hlong | hfits
  · rw [truncateString_cut hlong]
    have hcut := byteLength_cut value maxBytes (min value.length maxBytes)
    rw [byteLength, utf8From_append, utf8From_suffix]
    exact Nat.add_le_add_right hcut _
  · rw [truncateString, if_pos hfits]
    exact Nat.le_trans hfits (Nat.le_add_right _ _)

theorem boundItems_eq (depth left : Nat) (items : List JsValue) :
    boundItems depth left items = (items.take left).map (boundValue depth) := by
  induction items generalizing left with
  | nil => rw [List.take_nil]; rfl
  | cons item items ih =>
    rw [boundItems]
    cases left with
    | zero => rfl
    | succ left =>
      rw [if_neg (Nat.succ_ne_zero left), ih, Nat.add_sub_cancel]
      rfl

theorem boundEntries_eq (depth left : Nat) (fields : Fields) :
    boundEntries depth left fields =
      (fields.take left).map fun field => (field.1, boundValue depth field.2) := by
  induction fields generalizing left with
  | nil => rw [List.take_nil]; rfl
  | cons field fields ih =>
    rcases field with ⟨key, child⟩
    rw [boundEntries]
    cases left with
    | zero => rfl
    | succ left =>
      rw [if_neg (Nat.succ_ne_zero left), ih, Nat.add_sub_cancel]
      rfl

/-- An item of a copy is the copy of an item, or the word about those that were left out. -/
theorem mem_copiedItems {items : List JsValue} {depth left omitted : Nat} {item : JsValue}
    (h : item ∈ closeArray (boundItems depth left items) omitted) :
    (∃ old ∈ items, item = boundValue depth old) ∨ item = .string (additionalItems omitted) := by
  have hold : item ∈ boundItems depth left items → ∃ old ∈ items, item = boundValue depth old := by
    intro hmem
    rw [boundItems_eq] at hmem
    obtain ⟨old, htake, rfl⟩ := List.mem_map.mp hmem
    exact ⟨old, List.mem_of_mem_take htake, rfl⟩
  unfold closeArray at h
  split at h
  · rcases List.mem_append.mp h with hmem | hmem
    · exact .inl (hold hmem)
    · exact .inr (List.mem_singleton.mp hmem)
  · exact .inl (hold h)

/-- A property of a copy is the copy of a property, or the number of those that were left out. -/
theorem mem_copiedEntries {fields : Fields} {depth left omitted : Nat} {field : JsString × JsValue}
    (h : field ∈ closeObject (boundEntries depth left fields) omitted) :
    (∃ old ∈ fields, field.2 = boundValue depth old.2) ∨
      field.2 = .number (js (toString omitted)) := by
  have hold : field ∈ assignAll [] (boundEntries depth left fields) →
      ∃ old ∈ fields, field.2 = boundValue depth old.2 := by
    intro hmem
    rcases mem_assignAll hmem with hnone | hmem
    · exact absurd hnone List.not_mem_nil
    · rw [boundEntries_eq] at hmem
      obtain ⟨old, htake, rfl⟩ := List.mem_map.mp hmem
      exact ⟨old, List.mem_of_mem_take htake, rfl⟩
  unfold closeObject at h
  dsimp only at h
  split at h
  · rcases mem_assign h with hmem | hnew
    · exact .inl (hold hmem)
    · exact .inr (congrArg Prod.snd hnew)
  · exact .inl (hold h)

theorem nesting_boundValue (value : JsValue) :
    ∀ depth, nesting (boundValue depth value) ≤ AUDIT_MAX_DEPTH - depth := by
  induction value using JsValue.induct with
  | scalar value hscalar =>
    intro depth
    cases value with
    | null | bool _ | number _ | string _ => exact Nat.zero_le _
    | array _ | object _ => cases hscalar
  | array items ih =>
    intro depth
    rw [boundValue]
    split
    · exact Nat.zero_le _
    · next hdepth =>
      have hlevel : AUDIT_MAX_DEPTH - depth = AUDIT_MAX_DEPTH - (depth + 1) + 1 := by omega
      rw [hlevel, nesting_array_le]
      intro item hmem
      rcases mem_copiedItems hmem with ⟨old, hold, rfl⟩ | rfl
      · exact ih old hold (depth + 1)
      · exact Nat.zero_le _
  | object fields ih =>
    intro depth
    rw [boundValue]
    split
    · exact Nat.zero_le _
    · next hdepth =>
      have hlevel : AUDIT_MAX_DEPTH - depth = AUDIT_MAX_DEPTH - (depth + 1) + 1 := by omega
      rw [hlevel, nesting_object_le]
      intro field hmem
      rcases mem_copiedEntries hmem with ⟨old, hold, hvalue⟩ | hvalue
      · rw [hvalue]
        exact ih old hold (depth + 1)
      · rw [hvalue]
        exact Nat.zero_le _

theorem short_depthReached : isShort depthReached = true := rfl

theorem short_additionalItems {omitted : Nat} (h : omitted < 4294967296) :
    isShort (additionalItems omitted) = true := by
  have hdigits : (toString omitted).toList.length ≤ 10 :=
    (Nat.length_repr_le_iff (by decide)).mpr (Nat.lt_trans h (by decide))
  have hnumber := length_js_le (toString omitted)
  have hlength : (additionalItems omitted).length = 12 + ((js (toString omitted)).length + 18) := by
    unfold additionalItems
    rw [List.length_append, List.length_append]
    rfl
  have hbytes := utf8From_le false (additionalItems omitted)
  refine decide_eq_true ?_
  unfold byteLength AUDIT_MAX_STRING_BYTES
  omega

theorem strings_boundValue (value : JsValue) :
    everyContainer (fun items => items < 4294967296) (fun _ => true) value = true →
      ∀ depth, everyString isShort (boundValue depth value) = true := by
  induction value using JsValue.induct with
  | scalar value hscalar =>
    intro _ depth
    cases value with
    | null | bool _ | number _ => rfl
    | string s => exact decide_eq_true (byteLength_truncateString s AUDIT_MAX_STRING_BYTES)
    | array _ | object _ => cases hscalar
  | array items ih =>
    intro hlengths depth
    rw [everyContainer_array, decide_eq_true_eq] at hlengths
    obtain ⟨hlength, hitems⟩ := hlengths
    rw [boundValue]
    split
    · exact short_depthReached
    · rw [everyString_array]
      intro item hmem
      rcases mem_copiedItems hmem with ⟨old, hold, rfl⟩ | rfl
      · exact ih old hold (hitems old hold) (depth + 1)
      · rw [everyString]
        exact short_additionalItems (Nat.lt_of_le_of_lt (Nat.sub_le _ _) hlength)
  | object fields ih =>
    intro hlengths depth
    rw [everyContainer_object] at hlengths
    rw [boundValue]
    split
    · exact short_depthReached
    · rw [everyString_object]
      intro field hmem
      rcases mem_copiedEntries hmem with ⟨old, hold, hvalue⟩ | hvalue
      · rw [hvalue]
        exact ih old hold (hlengths.2 old hold) (depth + 1)
      · rw [hvalue]
        rfl

/-- What is within the limits is copied as it is. -/
theorem boundValue_eq (value : JsValue) :
    proper value = true → protoless value = true →
    everyContainer (fun items => items ≤ AUDIT_MAX_ARRAY_ITEMS)
      (fun fields => fields.length ≤ AUDIT_MAX_OBJECT_KEYS) value = true →
    everyString (fun s => byteLength s ≤ AUDIT_MAX_STRING_BYTES) value = true →
      ∀ depth, nesting value + depth ≤ AUDIT_MAX_DEPTH → boundValue depth value = value := by
  induction value using JsValue.induct with
  | scalar value hscalar =>
    intro _ _ _ htexts depth _
    cases value with
    | null | bool _ | number _ => rfl
    | string s =>
      rw [boundValue, truncateString, if_pos (of_decide_eq_true htexts)]
    | array _ | object _ => cases hscalar
  | array items ih =>
    intro hproper hproto hsizes htexts depth hdepth
    unfold protoless at hproto ih
    rw [proper_array] at hproper
    rw [everyContainer_array] at hproto hsizes
    rw [everyString_array] at htexts
    rw [decide_eq_true_eq] at hsizes
    rw [nesting] at hdepth
    -- no item is cut: each is within the bounds and one level deeper
    have hitems : ∀ item ∈ items, boundValue (depth + 1) item = item := by
      intro item hmem
      have hlevel := nestingItems_le.mp (Nat.le_refl _) item hmem
      exact ih item hmem (hproper item hmem) (hproto.2 item hmem) (hsizes.2 item hmem)
        (htexts item hmem) (depth + 1) (by omega)
    have hnone : items.length - AUDIT_MAX_ARRAY_ITEMS = 0 := Nat.sub_eq_zero_of_le hsizes.1
    rw [boundValue, if_neg (by omega), boundItems_eq, List.take_of_length_le hsizes.1,
      List.map_congr_left hitems, List.map_id', closeArray, hnone, if_neg (Nat.lt_irrefl 0)]
  | object fields ih =>
    intro hproper hproto hsizes htexts depth hdepth
    unfold protoless at hproto ih
    rw [proper_object] at hproper
    rw [everyContainer_object] at hproto hsizes
    rw [everyString_object] at htexts
    rw [decide_eq_true_eq] at hsizes
    rw [nesting] at hdepth
    have hfields : ∀ field ∈ fields, (field.1, boundValue (depth + 1) field.2) = field := by
      intro field hmem
      have hlevel := nestingFields_le.mp (Nat.le_refl _) field hmem
      rw [ih field hmem (hproper.2 field hmem) (hproto.2 field hmem) (hsizes.2 field hmem)
        (htexts field hmem) (depth + 1) (by omega)]
    have hnone : fields.length - AUDIT_MAX_OBJECT_KEYS = 0 := Nat.sub_eq_zero_of_le hsizes.1
    have hnoproto : ∀ field ∈ fields, isProto field = false := by
      intro field hmem
      exact (Bool.not_eq_true' _).mp (List.all_eq_true.mp hproto.1 field hmem)
    rw [boundValue, if_neg (by omega), boundEntries_eq, List.take_of_length_le hsizes.1,
      List.map_congr_left hfields, List.map_id', closeObject, hnone, if_neg (Nat.lt_irrefl 0),
      (assignAll_eq_self_iff hproper.1).mpr hnoproto]

/-- A value within the limits that is its own copy has no key `__proto__`. -/
theorem protoless_of_boundValue (value : JsValue) :
    proper value = true → everyContainer (fun items => items ≤ AUDIT_MAX_ARRAY_ITEMS)
      (fun fields => fields.length ≤ AUDIT_MAX_OBJECT_KEYS) value = true →
    ∀ depth, depth + nesting value ≤ AUDIT_MAX_DEPTH → boundValue depth value = value →
      protoless value = true := by
  induction value using JsValue.induct with
  | scalar value hscalar =>
    intro _ _ _ _ _
    cases value with
    | null | bool _ | number _ | string _ => rfl
    | array _ | object _ => cases hscalar
  | array items ih =>
    intro hproper hsizes depth hdepth hcopy
    rw [proper_array] at hproper
    rw [everyContainer_array, decide_eq_true_eq] at hsizes
    rw [nesting] at hdepth
    have hnone : items.length - AUDIT_MAX_ARRAY_ITEMS = 0 := Nat.sub_eq_zero_of_le hsizes.1
    rw [boundValue, if_neg (by omega), boundItems_eq, List.take_of_length_le hsizes.1, closeArray,
      hnone, if_neg (Nat.lt_irrefl 0), array.injEq] at hcopy
    have hitems := List.map_inj_left.mp (hcopy.trans (List.map_id items).symm)
    unfold protoless at ih ⊢
    rw [everyContainer_array]
    refine ⟨rfl, fun item hmem => ?_⟩
    have hlevel := nestingItems_le.mp (Nat.le_refl _) item hmem
    exact ih item hmem (hproper item hmem) (hsizes.2 item hmem) (depth + 1) (by omega)
      (hitems item hmem)
  | object fields ih =>
    intro hproper hsizes depth hdepth hcopy
    rw [proper_object] at hproper
    rw [everyContainer_object, decide_eq_true_eq] at hsizes
    rw [nesting] at hdepth
    have hnone : fields.length - AUDIT_MAX_OBJECT_KEYS = 0 := Nat.sub_eq_zero_of_le hsizes.1
    have hkeys : ((fields.map fun field => (field.1, boundValue (depth + 1) field.2)).map
        Prod.fst).Nodup := by
      rw [List.map_map]
      exact hproper.1
    rw [boundValue, if_neg (by omega), boundEntries_eq, List.take_of_length_le hsizes.1, closeObject,
      hnone, if_neg (Nat.lt_irrefl 0), object.injEq] at hcopy
    -- what is assigned has no such key, and the copies of the properties are all there
    have hnoproto : ∀ field ∈ fields, isProto field = false := by
      intro field hmem
      rw [← hcopy, assignAll_eq hkeys] at hmem
      exact (Bool.not_eq_true' _).mp (List.mem_filter.mp hmem).2
    rw [(assignAll_eq_self_iff hkeys).mpr] at hcopy
    · have hfields := List.map_inj_left.mp (hcopy.trans (List.map_id fields).symm)
      unfold protoless at ih ⊢
      rw [everyContainer_object]
      refine ⟨List.all_eq_true.mpr fun field hmem => ?_, fun field hmem => ?_⟩
      · rw [hnoproto field hmem]
        rfl
      · have hlevel := nestingFields_le.mp (Nat.le_refl _) field hmem
        exact ih field hmem (hproper.2 field hmem) (hsizes.2 field hmem) (depth + 1) (by omega)
          (congrArg Prod.snd (hfields field hmem))
    · intro field hmem
      obtain ⟨old, hold, rfl⟩ := List.mem_map.mp hmem
      exact hnoproto old hold

theorem boundValue_record (value : Fields) :
    boundValue 0 (.object value) = .object (boundedRecord value) := by
  unfold boundedRecord
  rw [boundValue, if_neg (by decide)]

theorem strings_summary (summary : JsString) :
    everyString isShort (.object
      [(js "__truncated", .bool true), (js "summary", .string summary)]) = isShort summary := by
  simp only [everyString, everyStringFields, Bool.true_and, Bool.and_true]

theorem byteLength_summary (summary : JsString) :
    byteLength (stringify (.object
      [(js "__truncated", .bool true), (js "summary", .string summary)])) =
      31 + byteLength (quote summary) := by
  have htext : stringify (.object
      [(js "__truncated", .bool true), (js "summary", .string summary)]) =
      js "\x7b\"__truncated\":true,\"summary\":" ++ (quote summary ++ js "\x7d") := by
    simp only [stringify, stringifyFields, List.isEmpty_cons, List.isEmpty_nil, if_true,
      Bool.false_eq_true, if_false, List.append_nil, List.append_assoc]
    rfl
  have hopen : ∀ u ∈ js "\x7b\"__truncated\":true,\"summary\":", isAscii u = true :=
    List.all_eq_true.mp rfl
  have hclose : ∀ u ∈ js "\x7d", isAscii u = true := List.all_eq_true.mp rfl
  rw [htext, byteLength, utf8From_ascii_append false hopen (List.cons_ne_nil _ _),
    utf8From_append, utf8From_ascii (endsHigh false (quote summary)) hclose]
  show 30 + (byteLength (quote summary) + 1) = _
  omega

end AuditBoundLemmas

open AuditBoundLemmas

/-! ## 4. The record that is kept -/

theorem boundRecord_fits {value : Fields} (h : fits value = true) :
    boundRecord value = boundedRecord value :=
  if_pos (of_decide_eq_true h)

theorem boundRecord_summarised {value : Fields} (h : fits value = false) :
    boundRecord value = [(js "__truncated", .bool true),
      (js "summary", .string (summaryOf (boundedRecord value) AUDIT_MAX_FIELD_BYTES))] :=
  if_neg (of_decide_eq_false h)

/-- A record that is kept is never nested too deeply, and is the record that came when that one is
within the limits; a copy of it that fits has short texts and a short text. -/
theorem audit_bounded (record : JsonRecord) : KeptRecord record.fields := by
  have hbounded := boundValue_record record.fields
  refine ⟨?_, fun hfits => ⟨?_, ?_⟩, fun hwithin hproto hbytes => ?_⟩
  · cases hfits : fits record.fields with
    | true =>
      rw [boundRecord_fits hfits, ← hbounded]
      exact nesting_boundValue (.object record.fields) 0
    | false =>
      rw [boundRecord_summarised hfits]
      exact Nat.succ_le_succ (Nat.zero_le 3)
  · rw [boundRecord_fits hfits]
    exact of_decide_eq_true hfits
  · rw [boundRecord_fits hfits, ← hbounded]
    exact strings_boundValue (.object record.fields) record.lengths 0
  · have hcopy : boundedRecord record.fields = record.fields := by
      have hvalue := boundValue_eq (.object record.fields) record.isProper hproto hwithin.sizes
        hwithin.texts 0 hwithin.depth
      exact JsValue.object.inj (hbounded.symm.trans hvalue)
    have hfits : fits record.fields = true := decide_eq_true (by rw [hcopy]; exact hbytes)
    rw [boundRecord_fits hfits, hcopy]

/-! ## 5. A record that is replaced by its summary -/

namespace AuditBoundLemmas

/-- The loop stops at once, or before a unit that would be too much. -/
theorem cutEnd_maximal (value : JsString) (maxBytes stop : Nat) :
    cutEnd value maxBytes stop = stop ∨
      maxBytes < byteLength (value.take (cutEnd value maxBytes stop + 1)) := by
  induction stop with
  | zero => exact .inl rfl
  | succ stop ih =>
    rw [cutEnd]
    split
    · next hlong =>
      rcases ih with hstop | hmore
      · rw [hstop]
        exact .inr hlong
      · exact .inr hmore
    · exact .inl rfl

/-- A text that is cut loses two bytes of its limit at most. -/
theorem le_byteLength_cut {value : JsString} {maxBytes : Nat} (h : maxBytes < byteLength value) :
    maxBytes ≤
      byteLength (value.take (cutEnd value maxBytes (min value.length maxBytes))) + 2 := by
  rcases cutEnd_maximal value maxBytes (min value.length maxBytes) with hstop | hmore
  · have hcut := byteLength_cut value maxBytes (min value.length maxBytes)
    rw [hstop] at hcut ⊢
    rcases Nat.le_total value.length maxBytes with hle | hle
    · rw [Nat.min_eq_left hle, List.take_length] at hcut
      omega
    · have hlength := length_le_utf8From false (value.take (min value.length maxBytes))
      rw [List.length_take, Nat.min_eq_right hle, Nat.min_eq_left hle] at hlength
      rw [Nat.min_eq_right hle]
      exact Nat.le_trans hlength (Nat.le_add_right _ 2)
  · rw [List.take_add_one, byteLength, utf8From_append] at hmore
    have hunit := utf8From_le (endsHigh false
      (value.take (cutEnd value maxBytes (min value.length maxBytes))))
      value[cutEnd value maxBytes (min value.length maxBytes)]?.toList
    have hone : value[cutEnd value maxBytes (min value.length maxBytes)]?.toList.length ≤ 1 := by
      cases value[cutEnd value maxBytes (min value.length maxBytes)]? with
      | none => exact Nat.zero_le 1
      | some _ => exact Nat.le_refl 1
    unfold byteLength
    omega

/-- A summary is longer than a text may be. -/
theorem summary_long {value : Fields} (h : fits value = false) :
    isShort (summaryOf (boundedRecord value) AUDIT_MAX_FIELD_BYTES) = false := by
  have hlong : AUDIT_MAX_FIELD_BYTES - 128 <
      byteLength (stringify (.object (boundedRecord value))) :=
    Nat.lt_of_le_of_lt (Nat.sub_le _ _) (Nat.not_le.mp (of_decide_eq_false h))
  have hcut := le_byteLength_cut hlong
  have happend : ∀ kept : JsString,
      byteLength (kept ++ truncatedSuffix) = byteLength kept + byteLength truncatedSuffix := by
    intro kept
    unfold byteLength
    rw [utf8From_append, utf8From_suffix]
    rfl
  have hlimit : AUDIT_MAX_STRING_BYTES + 2 < AUDIT_MAX_FIELD_BYTES - 128 := by decide
  refine decide_eq_false (Nat.not_le.mpr ?_)
  unfold summaryOf
  rw [truncateString_cut hlong, happend]
  omega

end AuditBoundLemmas

/-- A record is kept within all the limits, and unchanged where it is within them already, exactly when
the text of its copy is short enough and no key of a record within the limits is lost. -/
theorem kept_within_iff (record : JsonRecord) :
    KeptWithin record.fields ↔ fits record.fields = true ∧ (Within (.object record.fields) →
      byteLength (stringify (.object record.fields)) ≤ AUDIT_MAX_FIELD_BYTES →
      protoless (.object record.fields) = true) := by
  obtain ⟨hdepth, hcopied, hunchanged⟩ := audit_bounded record
  constructor
  · intro h
    have hfits : fits record.fields = true := by
      by_contra hnot
      rw [Bool.not_eq_true] at hnot
      have htexts := h.texts
      rw [boundRecord_summarised hnot, strings_summary, summary_long hnot] at htexts
      cases htexts
    refine ⟨hfits, fun hwithin hbytes => ?_⟩
    have hcopy := h.unchanged hwithin hbytes
    rw [boundRecord_fits hfits] at hcopy
    exact protoless_of_boundValue _ record.isProper hwithin.sizes 0
      ((Nat.zero_add _).symm ▸ hwithin.depth) (by rw [boundValue_record, hcopy])
  · rintro ⟨hfits, hproto⟩
    obtain ⟨hbytes, htexts⟩ := hcopied hfits
    exact ⟨hbytes, hdepth, htexts, fun hwithin hshort =>
      hunchanged hwithin (hproto hwithin hshort) hshort⟩

/-- Three texts of a thousand quotes. -/
def exQuotes : Fields :=
  [(js "a", .string (List.replicate 1000 34)), (js "b", .string (List.replicate 1000 34)),
    (js "c", .string (List.replicate 1000 34))]

namespace AuditBoundLemmas

/-- A text of quotes is written without another unit than quotes and backslashes. -/
theorem quoted_quotes (n : Nat) : ∀ u ∈ quote (List.replicate n 34), isQuoted u = true := by
  have hescape : ∀ b, ∀ u ∈ escapeFrom b (List.replicate n 34), isQuoted u = true := by
    induction n with
    | zero => exact fun _ _ hmem => absurd hmem List.not_mem_nil
    | succ n ih =>
      intro b u hmem
      rw [List.replicate_succ, escapeFrom] at hmem
      rcases List.mem_append.mp hmem with hunit | hrest
      · have hboth : ∀ v ∈ js "\\\"", isQuoted v = true :=
          List.all_eq_true.mp rfl
        exact hboth u hunit
      · exact ih _ u hrest
  intro u hmem
  rcases List.mem_cons.mp hmem with rfl | hmem
  · rfl
  rcases List.mem_append.mp hmem with hmem | hmem
  · exact hescape false u hmem
  · rw [List.mem_singleton.mp hmem]
    rfl

theorem stringify_three (s : JsString) :
    stringify (.object [(js "a", .string s), (js "b", .string s), (js "c", .string s)]) =
      js "\x7b\"a\":" ++ (quote s ++ (js ",\"b\":" ++ (quote s ++ (js ",\"c\":" ++
        (quote s ++ js "\x7d"))))) := by
  simp only [stringify, stringifyFields, List.isEmpty_cons, List.isEmpty_nil, if_true,
    Bool.false_eq_true, if_false, List.append_nil, List.append_assoc]
  rfl

theorem quotes_text :
    4096 < (stringify (.object exQuotes)).length ∧
      (stringify (.object exQuotes)).countP (fun u => !isQuoted u) = 10 ∧
      ∀ u ∈ stringify (.object exQuotes), isAscii u = true := by
  have hquoted := quoted_quotes 1000
  have hlength := length_quote (List.replicate 1000 34)
  have hnone : (quote (List.replicate 1000 34)).countP (fun u => !isQuoted u) = 0 := by
    rw [List.countP_eq_zero]
    intro u hmem
    rw [hquoted u hmem]
    decide
  have hascii : ∀ u ∈ quote (List.replicate 1000 34), isAscii u = true := by
    intro u hmem
    have hu := hquoted u hmem
    rw [isQuoted, Bool.or_eq_true, beq_iff_eq, beq_iff_eq] at hu
    rcases hu with rfl | rfl <;> rfl
  unfold exQuotes
  rw [stringify_three]
  generalize quote (List.replicate 1000 34) = text at *
  refine ⟨?_, ?_, ?_⟩
  · rw [List.length_replicate, List.countP_replicate, if_pos (by decide)] at hlength
    simp only [List.length_append]
    omega
  · simp only [List.countP_append, hnone]
    rfl
  · have hparts : [js "\x7b\"a\":", js ",\"b\":", js ",\"c\":", js "\x7d"].all
        (fun part => part.all isAscii) = true := rfl
    simp only [List.forall_mem_append]
    simp only [List.all_eq_true, List.forall_mem_cons] at hparts
    exact ⟨hparts.1, hascii, hparts.2.1, hascii, hparts.2.2.1, hascii, hparts.2.2.2.1⟩

/-- The copy of the three texts is the same as they are. -/
theorem quotes_copied : boundedRecord exQuotes = exQuotes := by
  have htext : byteLength (List.replicate 1000 34) = 1000 := by
    rw [byteLength, utf8From_ascii false, List.length_replicate]
    intro u hmem
    rw [(List.mem_replicate.mp hmem).2]
    rfl
  have htexts : everyString (fun s => byteLength s ≤ AUDIT_MAX_STRING_BYTES) (.object exQuotes) =
      true := by
    have hshort : byteLength (List.replicate 1000 34) ≤ AUDIT_MAX_STRING_BYTES := by
      rw [htext]
      decide
    have hstring : ∀ s, byteLength s ≤ AUDIT_MAX_STRING_BYTES →
        everyString (fun s => byteLength s ≤ AUDIT_MAX_STRING_BYTES) (.string s) = true :=
      fun _ h => decide_eq_true h
    rw [everyString_object]
    intro field hmem
    unfold exQuotes at hmem
    simp only [List.mem_cons, List.not_mem_nil, or_false] at hmem
    rcases hmem with rfl | rfl | rfl <;> exact hstring _ hshort
  have hvalue := boundValue_eq (.object exQuotes) rfl rfl
    rfl htexts 0 (by decide)
  exact JsValue.object.inj ((boundValue_record exQuotes).symm.trans hvalue)

theorem quotes_long : AUDIT_MAX_FIELD_BYTES < byteLength (stringify (.object exQuotes)) :=
  Nat.lt_of_lt_of_le quotes_text.1 (length_le_utf8From false _)

end AuditBoundLemmas

/-- Its text is replaced by a summary that is longer than a text may be, and whose quotes take the
record beyond the limit again. -/
theorem summary_too_long :
    (∃ record : JsonRecord, record.fields = exQuotes) ∧
    AUDIT_MAX_FIELD_BYTES < byteLength (stringify (.object (boundRecord exQuotes))) ∧
      everyString isShort (.object (boundRecord exQuotes)) = false ∧ ¬ KeptWithin exQuotes := by
  obtain ⟨_, hplain, hascii⟩ := quotes_text
  have hfits : fits exQuotes = false := by
    refine decide_eq_false ?_
    rw [quotes_copied]
    exact Nat.not_le.mpr quotes_long
  have hrecord := boundRecord_summarised hfits
  rw [quotes_copied] at hrecord
  -- at least 3966 units of the text are kept, and all of them but ten are escaped once more
  obtain ⟨kept, hkept, hsublist, hsummary⟩ : ∃ kept, 3966 ≤ kept.length ∧
      List.Sublist kept (stringify (.object exQuotes)) ∧
      summaryOf exQuotes AUDIT_MAX_FIELD_BYTES = kept ++ truncatedSuffix := by
    have hlong : AUDIT_MAX_FIELD_BYTES - 128 < byteLength (stringify (.object exQuotes)) :=
      Nat.lt_of_le_of_lt (Nat.sub_le _ _) quotes_long
    refine ⟨_, ?_, List.take_sublist _ _, truncateString_cut hlong⟩
    have hcut := le_byteLength_cut hlong
    rw [byteLength, utf8From_ascii false fun u hmem => hascii u (List.mem_of_mem_take hmem)] at hcut
    have hlimit : AUDIT_MAX_FIELD_BYTES = 4096 := rfl
    omega
  have hlong : everyString isShort (.object (boundRecord exQuotes)) = false := by
    have hsummaryLong := summary_long hfits
    rw [quotes_copied] at hsummaryLong
    rw [hrecord, strings_summary]
    exact hsummaryLong
  have hbeyond : AUDIT_MAX_FIELD_BYTES <
      byteLength (stringify (.object (boundRecord exQuotes))) := by
    have hquote := length_le_utf8From false (quote (summaryOf exQuotes AUDIT_MAX_FIELD_BYTES))
    have hescaped := length_quote (summaryOf exQuotes AUDIT_MAX_FIELD_BYTES)
    have hcount := List.length_eq_countP_add_countP (l := kept) isQuoted
    have hfew := hsublist.countP_le (p := fun u => !isQuoted u)
    rw [hplain] at hfew
    rw [hsummary, List.length_append, List.countP_append] at hescaped
    rw [hrecord, byteLength_summary, hsummary, byteLength]
    rw [hsummary] at hquote
    simp only [Bool.not_eq_true, Bool.decide_eq_false] at hcount
    unfold AUDIT_MAX_FIELD_BYTES
    omega
  refine ⟨⟨⟨exQuotes, rfl, rfl⟩, rfl⟩, hbeyond, hlong, fun h => ?_⟩
  exact absurd h.bytes (Nat.not_le.mpr hbeyond)

end BebaSacco
