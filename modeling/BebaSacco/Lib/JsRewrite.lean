import BebaSacco.Lib.JsValue

/-! # Values that are copied with changes

A value is copied: its texts go through `onString`, what is stored under some keys is replaced by what
`onKey` says, and objects are rebuilt property by property. `Rewritten` says what such a copy should be,
without the building: the same structure and the same keys, with a relation on the texts and another one
on what is stored under the special keys.

Results:
1. `rewritten_rebuild_iff`: a copy is what it should be exactly when no object that is copied has a key
   `__proto__` and every text, and everything that is replaced, becomes what it should.
2. `clean_rebuild`: nothing survives under a key whose value is always replaced.
-/

namespace JsValue

/-! ## 1. Copying -/

section

variable (onString : JsString → JsString) (onKey : JsString → JsValue → Option JsValue)

mutual

def rebuild : JsValue → JsValue
  | .null => .null
  | .bool b => .bool b
  | .number text => .number text
  | .string s => .string (onString s)
  | .array items => .array (rebuildItems items)
  | .object fields => .object (assignAll [] (rebuildFields fields))

def rebuildItems : List JsValue → List JsValue
  | [] => []
  | item :: items => rebuild item :: rebuildItems items

def rebuildFields : Fields → Fields
  | [] => []
  | (key, value) :: fields => (key, (onKey key value).getD (rebuild value)) :: rebuildFields fields

end

end

/-! ## 2. What a copy should be -/

section

variable (special : JsString → JsValue → Bool) (text : JsString → JsString → Prop)
  (stored : JsString → JsValue → JsValue → Prop)

mutual

inductive Rewritten : JsValue → JsValue → Prop
  | null : Rewritten .null .null
  | bool (b : Bool) : Rewritten (.bool b) (.bool b)
  | number (n : JsString) : Rewritten (.number n) (.number n)
  | string {s s' : JsString} : text s s' → Rewritten (.string s) (.string s')
  | array {items items' : List JsValue} :
      RewrittenItems items items' → Rewritten (.array items) (.array items')
  | object {fields fields' : Fields} :
      RewrittenFields fields fields' → Rewritten (.object fields) (.object fields')

inductive RewrittenItems : List JsValue → List JsValue → Prop
  | nil : RewrittenItems [] []
  | cons {item item' : JsValue} {items items' : List JsValue} :
      Rewritten item item' → RewrittenItems items items' →
      RewrittenItems (item :: items) (item' :: items')

inductive RewrittenFields : Fields → Fields → Prop
  | nil : RewrittenFields [] []
  | special {key : JsString} {value value' : JsValue} {fields fields' : Fields} :
      special key value = true → stored key value value' → RewrittenFields fields fields' →
      RewrittenFields ((key, value) :: fields) ((key, value') :: fields')
  | plain {key : JsString} {value value' : JsValue} {fields fields' : Fields} :
      special key value = false → Rewritten value value' → RewrittenFields fields fields' →
      RewrittenFields ((key, value) :: fields) ((key, value') :: fields')

end

mutual

/-- No object that is copied has a key `__proto__`. -/
def plain : JsValue → Bool
  | .array items => plainItems items
  | .object fields => plainFields fields
  | _ => true

def plainItems : List JsValue → Bool
  | [] => true
  | item :: items => plain item && plainItems items

def plainFields : Fields → Bool
  | [] => true
  | (key, value) :: fields =>
    key != js "__proto__" && (special key value || plain value) && plainFields fields

end

variable (copied : JsString → Prop) (replaced : JsString → JsValue → Prop)

mutual

/-- Every text that is copied is `copied`, and everything that is replaced is `replaced`. -/
def Every : JsValue → Prop
  | .string s => copied s
  | .array items => EveryItem items
  | .object fields => EveryFields fields
  | _ => True

def EveryItem : List JsValue → Prop
  | [] => True
  | item :: items => Every item ∧ EveryItem items

def EveryFields : Fields → Prop
  | [] => True
  | (key, value) :: fields =>
    (if special key value then replaced key value else Every value) ∧ EveryFields fields

end

end

variable {onString : JsString → JsString} {onKey : JsString → JsValue → Option JsValue}
  {text : JsString → JsString → Prop} {stored : JsString → JsValue → JsValue → Prop}

theorem rebuildItems_eq (items : List JsValue) :
    rebuildItems onString onKey items = items.map (rebuild onString onKey) := by
  induction items with
  | nil => rfl
  | cons item items ih => rw [rebuildItems, ih, List.map_cons]

theorem rebuildFields_eq (fields : Fields) :
    rebuildFields onString onKey fields = fields.map fun field =>
      (field.1, (onKey field.1 field.2).getD (rebuild onString onKey field.2)) := by
  induction fields with
  | nil => rfl
  | cons field fields ih =>
    rcases field with ⟨key, value⟩
    rw [rebuildFields, ih, List.map_cons]

theorem rebuildFields_keys (fields : Fields) :
    (rebuildFields onString onKey fields).map Prod.fst = fields.map Prod.fst := by
  rw [rebuildFields_eq, List.map_map]
  rfl

theorem every_array {special : JsString → JsValue → Bool} {copied : JsString → Prop}
    {replaced : JsString → JsValue → Prop} {items : List JsValue} :
    Every special copied replaced (.array items) ↔
      ∀ item ∈ items, Every special copied replaced item := by
  rw [Every]
  induction items with
  | nil => exact ⟨fun _ _ hmem => absurd hmem List.not_mem_nil, fun _ => trivial⟩
  | cons item items ih => rw [EveryItem, ih, List.forall_mem_cons]

theorem every_of_forall {special : JsString → JsValue → Bool} {copied : JsString → Prop}
    {replaced : JsString → JsValue → Prop} (hcopied : ∀ s, copied s)
    (hreplaced : ∀ key value, replaced key value) (value : JsValue) :
    Every special copied replaced value := by
  induction value using JsValue.induct with
  | scalar value h =>
    cases value with
    | null | bool _ | number _ => exact trivial
    | string s => exact hcopied s
    | array _ | object _ => cases h
  | array items ih => exact every_array.mpr ih
  | object fields ih =>
    rw [Every]
    induction fields with
    | nil => exact trivial
    | cons field fields ihf =>
      obtain ⟨hfield, hfields⟩ := List.forall_mem_cons.mp ih
      rw [EveryFields]
      refine ⟨?_, ihf hfields⟩
      split
      · exact hreplaced field.1 field.2
      · exact hfield

theorem no_proto_of_plain {special : JsString → JsValue → Bool} {fields : Fields}
    (h : plainFields special fields = true) : js "__proto__" ∉ fields.map Prod.fst := by
  induction fields with
  | nil => exact List.not_mem_nil
  | cons field fields ih =>
    rcases field with ⟨key, value⟩
    rw [plainFields, Bool.and_eq_true, Bool.and_eq_true, bne_iff_ne] at h
    rw [List.map_cons, List.mem_cons, not_or]
    exact ⟨fun heq => h.1.1 heq.symm, ih h.2⟩

theorem isProto_false_iff {fields : Fields} :
    (∀ field ∈ fields, isProto field = false) ↔ js "__proto__" ∉ fields.map Prod.fst := by
  simp only [isProto, beq_eq_false_iff_ne, List.mem_map, not_exists, not_and]

/-- Without a key `__proto__` an object is rebuilt as it was put together. -/
theorem assignAll_rebuildFields {fields : Fields} (hnodup : (fields.map Prod.fst).Nodup)
    (hproto : js "__proto__" ∉ fields.map Prod.fst) :
    assignAll [] (rebuildFields onString onKey fields) = rebuildFields onString onKey fields := by
  rw [assignAll_eq_self_iff (by rw [rebuildFields_keys]; exact hnodup), isProto_false_iff,
    rebuildFields_keys]
  exact hproto

/-! ## 3. When a copy is what it should be -/

theorem rewrittenFields_keys {special : JsString → JsValue → Bool} :
    ∀ {fields fields' : Fields}, RewrittenFields special text stored fields fields' →
      fields'.map Prod.fst = fields.map Prod.fst
  | [], _, h => by
    cases h
    rfl
  | (key, value) :: fields, _, h => by
    cases h with
    | special _ _ hrest => rw [List.map_cons, List.map_cons, rewrittenFields_keys hrest]
    | plain _ _ hrest => rw [List.map_cons, List.map_cons, rewrittenFields_keys hrest]

/-- What is rebuilt has all the keys only if `__proto__` is none of them. -/
theorem no_proto_of_keys {fields : Fields} (hnodup : (fields.map Prod.fst).Nodup)
    (h : (assignAll [] (rebuildFields onString onKey fields)).map Prod.fst = fields.map Prod.fst) :
    js "__proto__" ∉ fields.map Prod.fst := by
  have hkeys : (rebuildFields onString onKey fields).map Prod.fst = fields.map Prod.fst :=
    rebuildFields_keys fields
  rw [assignAll_eq (by rw [hkeys]; exact hnodup)] at h
  have hlen := congrArg List.length h
  rw [List.length_map, ← hkeys, List.length_map] at hlen
  have hall := List.length_filter_eq_length_iff.mp hlen
  rw [← hkeys, ← isProto_false_iff]
  intro field hfield
  simpa using hall field hfield

variable (onString onKey text stored) in
/-- The texts that are copied, and what is replaced, become what they should. -/
abbrev BecomesRight : JsValue → Prop :=
  Every (fun key value => (onKey key value).isSome) (fun s => text s (onString s))
    (fun key value => ∀ value', onKey key value = some value' → stored key value value')

theorem rewritten_items {items : List JsValue}
    (h : ∀ item ∈ items, Rewritten (fun key value => (onKey key value).isSome) text stored item
        (rebuild onString onKey item) ↔
      plain (fun key value => (onKey key value).isSome) item = true ∧
        BecomesRight onString onKey text stored item) :
    RewrittenItems (fun key value => (onKey key value).isSome) text stored items
        (rebuildItems onString onKey items) ↔
      plainItems (fun key value => (onKey key value).isSome) items = true ∧
        ∀ item ∈ items, BecomesRight onString onKey text stored item := by
  induction items with
  | nil => exact ⟨fun _ => ⟨rfl, fun _ hmem => absurd hmem List.not_mem_nil⟩, fun _ => .nil⟩
  | cons item items ih =>
    obtain ⟨hitem, hitems⟩ := List.forall_mem_cons.mp h
    rw [plainItems, Bool.and_eq_true, List.forall_mem_cons, rebuildItems]
    constructor
    · intro hrewritten
      cases hrewritten with
      | cons hfirst hrest =>
        obtain ⟨hplain, hright⟩ := hitem.mp hfirst
        obtain ⟨hplains, hrights⟩ := (ih hitems).mp hrest
        exact ⟨⟨hplain, hplains⟩, hright, hrights⟩
    · rintro ⟨⟨hplain, hplains⟩, hright, hrights⟩
      exact .cons (hitem.mpr ⟨hplain, hright⟩) ((ih hitems).mpr ⟨hplains, hrights⟩)

theorem rewritten_fields {fields : Fields} (hproto : js "__proto__" ∉ fields.map Prod.fst)
    (h : ∀ field ∈ fields, Rewritten (fun key value => (onKey key value).isSome) text stored
        field.2 (rebuild onString onKey field.2) ↔
      plain (fun key value => (onKey key value).isSome) field.2 = true ∧
        BecomesRight onString onKey text stored field.2) :
    RewrittenFields (fun key value => (onKey key value).isSome) text stored fields
        (rebuildFields onString onKey fields) ↔
      plainFields (fun key value => (onKey key value).isSome) fields = true ∧
        EveryFields (fun key value => (onKey key value).isSome) (fun s => text s (onString s))
          (fun key value => ∀ value', onKey key value = some value' → stored key value value')
          fields := by
  induction fields with
  | nil => exact ⟨fun _ => ⟨rfl, trivial⟩, fun _ => .nil⟩
  | cons field fields ih =>
    rcases field with ⟨key, value⟩
    rw [List.map_cons, List.mem_cons, not_or] at hproto
    obtain ⟨hvalue, hfields⟩ := List.forall_mem_cons.mp h
    have hrest := ih hproto.2 hfields
    have hkey : (key != js "__proto__") = true := bne_iff_ne.mpr fun heq => hproto.1 heq.symm
    rw [plainFields, hkey, Bool.true_and, Bool.and_eq_true, EveryFields, rebuildFields]
    cases hspecial : onKey key value with
    | some value' =>
      rw [Option.getD_some, Option.isSome_some, Bool.true_or, if_pos rfl]
      constructor
      · intro hrewritten
        cases hrewritten with
        | special _ hstored hmore =>
          obtain ⟨hplain, hright⟩ := hrest.mp hmore
          exact ⟨⟨rfl, hplain⟩, fun _ heq => Option.some.inj heq ▸ hstored, hright⟩
        | plain hnone _ _ => simp [hspecial] at hnone
      · rintro ⟨⟨-, hplain⟩, hstored, hright⟩
        exact .special (by rw [hspecial]; rfl) (hstored value' rfl) (hrest.mpr ⟨hplain, hright⟩)
    | none =>
      rw [Option.getD_none, Option.isSome_none, Bool.false_or, if_neg Bool.false_ne_true]
      constructor
      · intro hrewritten
        cases hrewritten with
        | special hsome _ _ => simp [hspecial] at hsome
        | plain _ hcopied hmore =>
          obtain ⟨hplain, hright⟩ := hvalue.mp hcopied
          obtain ⟨hplains, hrights⟩ := hrest.mp hmore
          exact ⟨⟨hplain, hplains⟩, hright, hrights⟩
      · rintro ⟨⟨hplain, hplains⟩, hright, hrights⟩
        exact .plain (by rw [hspecial]; rfl) (hvalue.mpr ⟨hplain, hright⟩)
          (hrest.mpr ⟨hplains, hrights⟩)

/-- A copy is what it should be if and only if no object that is copied has a key `__proto__` and
every text and everything that is replaced becomes what it should. -/
theorem rewritten_rebuild_iff (value : JsValue) (hproper : proper value = true) :
    Rewritten (fun key value => (onKey key value).isSome) text stored value
        (rebuild onString onKey value) ↔
      plain (fun key value => (onKey key value).isSome) value = true ∧
        BecomesRight onString onKey text stored value := by
  induction value using JsValue.induct with
  | scalar value hscalar =>
    cases value with
    | null => exact ⟨fun _ => ⟨rfl, trivial⟩, fun _ => .null⟩
    | bool b => exact ⟨fun _ => ⟨rfl, trivial⟩, fun _ => .bool b⟩
    | number n => exact ⟨fun _ => ⟨rfl, trivial⟩, fun _ => .number n⟩
    | string s =>
      refine ⟨fun h => ?_, fun h => .string h.2⟩
      cases h with
      | string htext => exact ⟨rfl, htext⟩
    | array _ | object _ => cases hscalar
  | array items ih =>
    have hitems := rewritten_items fun item hmem => ih item hmem (proper_array.mp hproper item hmem)
    rw [plain, BecomesRight, every_array, ← hitems, rebuild]
    exact ⟨fun h => by cases h with | array h => exact h, .array⟩
  | object fields ih =>
    obtain ⟨hnodup, hfields⟩ := proper_object.mp hproper
    have hright := fun hproto => rewritten_fields hproto fun field hmem =>
      ih field hmem (hfields field hmem)
    rw [rebuild, plain, BecomesRight, Every]
    constructor
    · intro h
      cases h with
      | object h =>
        have hproto := no_proto_of_keys hnodup (rewrittenFields_keys h)
        rw [assignAll_rebuildFields hnodup hproto] at h
        exact (hright hproto).mp h
    · intro h
      have hproto := no_proto_of_plain h.1
      rw [assignAll_rebuildFields hnodup hproto]
      exact .object ((hright hproto).mpr h)

/-! ## 4. Keys whose values are replaced -/

section

variable (sensitive : JsString → Bool) (mark : JsValue)

/-- Nothing but the mark is stored under a sensitive key, at any level. -/
inductive Clean : JsValue → Prop
  | scalar {value : JsValue} : value.isScalar = true → Clean value
  | array {items : List JsValue} : (∀ item ∈ items, Clean item) → Clean (.array items)
  | object {fields : Fields} :
      (∀ field ∈ fields, sensitive field.1 = true → field.2 = mark) →
      (∀ field ∈ fields, sensitive field.1 = false → Clean field.2) → Clean (.object fields)

end

section

variable {sensitive : JsString → Bool} {mark : JsValue}

/-- Nothing survives under a key whose value is always replaced, at any level. -/
theorem clean_rebuild (hmark : ∀ key value, sensitive key = true → onKey key value = some mark)
    (hscalar : ∀ key value value', sensitive key = false → onKey key value = some value' →
      value'.isScalar = true) (value : JsValue) :
    Clean sensitive mark (rebuild onString onKey value) := by
  induction value using JsValue.induct with
  | scalar value h =>
    cases value with
    | null | bool _ | number _ | string _ => exact .scalar rfl
    | array _ | object _ => cases h
  | array items ih =>
    rw [rebuild]
    refine .array fun item hmem => ?_
    rw [rebuildItems_eq] at hmem
    obtain ⟨old, hold, rfl⟩ := List.mem_map.mp hmem
    exact ih old hold
  | object fields ih =>
    rw [rebuild]
    -- what is in the copy was assigned, whatever became of the key `__proto__`
    have hold : ∀ field ∈ assignAll [] (rebuildFields onString onKey fields), ∃ old ∈ fields,
        field = (old.1, (onKey old.1 old.2).getD (rebuild onString onKey old.2)) := by
      intro field hmem
      have hassigned := (mem_assignAll hmem).resolve_left List.not_mem_nil
      rw [rebuildFields_eq] at hassigned
      obtain ⟨old, hold, heq⟩ := List.mem_map.mp hassigned
      exact ⟨old, hold, heq.symm⟩
    refine .object (fun field hmem hkey => ?_) fun field hmem hkey => ?_
    · obtain ⟨⟨key, value⟩, -, rfl⟩ := hold field hmem
      dsimp only
      rw [hmark key value hkey, Option.getD_some]
    · obtain ⟨⟨key, value⟩, hvalue, rfl⟩ := hold field hmem
      dsimp only
      cases hspecial : onKey key value with
      | some value' => exact .scalar (hscalar key value value' hkey hspecial)
      | none => exact ih (key, value) hvalue

end

end JsValue
