import BebaSacco.Lib.JsKeyOrder
import BebaSacco.AuditEvents

/-! # Canonical JSON

Two places hash a value of JSON by a text in which the keys of every object are sorted: the body of
a request is compared with the one that an idempotency key was used with, and an event of the audit
chain is hashed again when the chain is verified. Both write the text by a recursion of their own.

A number is known by the text that `JSON.stringify` prints for it.

Results:
1. `ordered_eq`: the text is the one of the value with its keys sorted.
2. `canonical_json`: two values have one text if and only if they are the same up to the order of
   keys, and reading the text gives such a value.
-/

namespace BebaSacco.CanonicalJson

open JsString JsValue

/-! ## 1. The texts -/

/-- `texts.join(',')` -/
def join : List JsString → JsString
  | [] => []
  | text :: texts => text ++ if texts.isEmpty then [] else js "," ++ join texts

/-- A key and the text of what the object has under it. -/
def property (entry : JsString × JsString) : JsString := quote entry.1 ++ (js ":" ++ entry.2)

/-- The keys in the order of `sort()`, and under each what the object has under it. -/
def sorted (texts : List (JsString × JsString)) : List (JsString × JsString) :=
  ((texts.map Prod.fst).insertionSort fun x y => keyLe x y = true).map fun key =>
    (key, (texts.lookup key).getD (js "undefined"))

mutual

/-- The recursion of both; `scalar` writes what is no object to it. -/
def ordered (scalar : JsValue → JsString) : JsValue → JsString
  | .array items => js "[" ++ (join (orderedItems scalar items) ++ js "]")
  | .object fields =>
    js "\x7b" ++ (join ((sorted (orderedFields scalar fields)).map property) ++ js "\x7d")
  | value => scalar value

def orderedItems (scalar : JsValue → JsString) : List JsValue → List JsString
  | [] => []
  | item :: items => ordered scalar item :: orderedItems scalar items

def orderedFields (scalar : JsValue → JsString) : Fields → List (JsString × JsString)
  | [] => []
  | (key, value) :: fields => (key, ordered scalar value) :: orderedFields scalar fields

end

/-- `stableStringify` of the idempotency middleware. -/
def stableStringify (value : JsValue) : JsString := ordered stringify value

/-- What `canonicalJson` writes for a value that is no object. -/
def scalarText : JsValue → JsString
  | .null => js "null"
  | value => stringify value

/-- `canonicalJson` of the audit chain. -/
def canonicalJson (value : JsValue) : JsString := ordered scalarText value

example : stableStringify (.object [(js "b", .null), (js "a", .array [.bool true, .object []])]) =
    js "\x7b\"a\":[true,\x7b\x7d],\"b\":null\x7d" := by decide +kernel

/-! ## 2. The text of the value with its keys sorted -/

section

variable {scalar : JsValue → JsString} {v : JsValue} {texts : List (JsString × JsString)}

theorem stringifyItems_eq (items : List JsValue) :
    stringifyItems items = join (items.map stringify) := by
  induction items with
  | nil => rfl
  | cons item items ih => rw [stringifyItems, List.map_cons, join, List.isEmpty_map, ih]

theorem stringifyFields_eq (fields : Fields) :
    stringifyFields fields =
      join ((fields.map fun field => (field.1, stringify field.2)).map property) := by
  induction fields with
  | nil => rfl
  | cons field fields ih =>
    rw [stringifyFields, List.map_cons, List.map_cons, join, List.isEmpty_map, List.isEmpty_map, ih,
      property]

theorem orderedItems_eq (items : List JsValue) :
    orderedItems scalar items = items.map (ordered scalar) := by
  induction items with
  | nil => rfl
  | cons item items ih => rw [orderedItems, ih, List.map_cons]

theorem orderedFields_eq (fields : Fields) :
    orderedFields scalar fields = fields.map fun field => (field.1, ordered scalar field.2) := by
  induction fields with
  | nil => rfl
  | cons field fields ih => rw [orderedFields, ih, List.map_cons]

/-- Where each key is there once, a text is found under it. -/
theorem lookup_of_mem (hkeys : (texts.map Prod.fst).Nodup) {entry : JsString × JsString}
    (h : entry ∈ texts) : texts.lookup entry.1 = some entry.2 := by
  induction texts with
  | nil => exact absurd h List.not_mem_nil
  | cons first texts ih =>
    rw [List.map_cons, List.nodup_cons] at hkeys
    rw [List.lookup_cons]
    rcases List.mem_cons.mp h with rfl | hmem
    · rw [beq_self_eq_true]
    · have hne : entry.1 ≠ first.1 := fun heq =>
        hkeys.1 (heq ▸ List.mem_map_of_mem hmem)
      rw [beq_false_of_ne hne]
      exact ih hkeys.2 hmem

/-- Reading the keys one after the other gives the entries sorted by their keys. -/
theorem sorted_eq (hkeys : (texts.map Prod.fst).Nodup) : sorted texts = byKey texts := by
  rw [sorted, ← byKey_keys, List.map_map]
  conv => rhs; rw [← List.map_id (byKey texts)]
  refine List.map_congr_left fun entry hmem => ?_
  have hlookup := lookup_of_mem hkeys ((byKey_perm texts).mem_iff.mp hmem)
  rw [Function.comp_apply, hlookup]
  rfl

/-- The text is the one of the value with its keys sorted. -/
theorem ordered_eq (hscalar : ∀ v : JsValue, v.isScalar = true → scalar v = stringify v)
    (h : proper v = true) : ordered scalar v = stringify (sortKeys v) := by
  induction v using induct with
  | scalar v hv =>
    rw [sortKeys_scalar hv, ← hscalar v hv]
    cases v with
    | array items => cases hv
    | object fields => cases hv
    | _ => rfl
  | array items ih =>
    have hitems : items.map (ordered scalar) = (items.map sortKeys).map stringify := by
      rw [List.map_map]
      exact List.map_congr_left fun item hmem => ih item hmem (proper_array.mp h item hmem)
    rw [sortKeys_array, ordered, stringify, stringifyItems_eq, orderedItems_eq, hitems]
  | object fields ih =>
    obtain ⟨hkeys, hvalues⟩ := proper_object.mp h
    have hfields : (fields.map fun field => (field.1, ordered scalar field.2)) =
        (fields.map fun field => (field.1, sortKeys field.2)).map fun field =>
          (field.1, stringify field.2) := by
      rw [List.map_map]
      refine List.map_congr_left fun field hmem => ?_
      exact congrArg (Prod.mk field.1) (ih field hmem (hvalues field hmem))
    have hnodup : ((fields.map fun field => (field.1, ordered scalar field.2)).map
        Prod.fst).Nodup := by
      rw [List.map_map]
      exact hkeys
    rw [sortKeys_object, ordered, stringify, stringifyFields_eq, orderedFields_eq,
      sorted_eq hnodup, hfields, byKey_map]

theorem stableStringify_eq (h : proper v = true) : stableStringify v = stringify (sortKeys v) :=
  ordered_eq (fun _ _ => rfl) h

theorem canonicalJson_eq (h : proper v = true) : canonicalJson v = stringify (sortKeys v) := by
  refine ordered_eq (fun value hvalue => ?_) h
  cases value <;> rfl

end

/-! ## 3. One text for one value -/

/-- A value of JSON: each object has a key once, and each number is as it is printed. -/
structure JsonValue (numberText : JsString → JsString) where
  value : JsValue
  json : isJson numberText value = true

namespace CanonicalJsonLemmas

variable {numberText : JsString → JsString} (x y : JsonValue numberText)

theorem sorted_text_eq_iff :
    stringify (sortKeys x.value) = stringify (sortKeys y.value) ↔ Same x.value y.value := by
  rw [sortKeys_eq_iff (proper_of_isJson x.json) (proper_of_isJson y.json)]
  exact ⟨stringify_inj (isJson_sortKeys x.json) (isJson_sortKeys y.json), congrArg stringify⟩

theorem parse_sorted_text : ∃ z : JsonValue numberText,
    parse numberText (stringify (sortKeys x.value)) = some z.value ∧ Same x.value z.value :=
  ⟨⟨sortKeys x.value, isJson_sortKeys x.json⟩, parse_stringify (isJson_sortKeys x.json),
    same_sortKeys x.json⟩

end CanonicalJsonLemmas

open CanonicalJsonLemmas

/-- Two values have one text if and only if they are the same up to the order of keys, and reading
the text gives such a value. -/
theorem canonical_json (numberText : JsString → JsString) (x y : JsonValue numberText) :
    (stableStringify x.value = stableStringify y.value ↔ Same x.value y.value) ∧
      (canonicalJson x.value = canonicalJson y.value ↔ Same x.value y.value) ∧
      (∃ z : JsonValue numberText, parse numberText (stableStringify x.value) = some z.value ∧
        Same x.value z.value) ∧
      ∃ z : JsonValue numberText, parse numberText (canonicalJson x.value) = some z.value ∧
        Same x.value z.value := by
  have hx := proper_of_isJson x.json
  have hy := proper_of_isJson y.json
  rw [stableStringify_eq hx, stableStringify_eq hy, canonicalJson_eq hx, canonicalJson_eq hy]
  exact ⟨sorted_text_eq_iff x y, sorted_text_eq_iff x y, parse_sorted_text x, parse_sorted_text x⟩

end BebaSacco.CanonicalJson
