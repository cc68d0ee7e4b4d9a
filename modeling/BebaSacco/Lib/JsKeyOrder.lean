import BebaSacco.Lib.JsParse
import Mathlib.Data.List.Sort
import Mathlib.Data.List.Perm.Subperm

/-! # Values up to the order of their keys

An object of JavaScript keeps the order in which its properties were made. Two values are the same
for a reader by keys when only this order differs.

Results:
1. `sortKeys_eq_iff`: two values are the same up to the order of keys if and only if they are equal
   with all their keys sorted.
2. `isJson_sortKeys`: sorting the keys of a value of JSON leaves a value of JSON.
3. `same_sortKeys`: a value is the same as it is with its keys sorted.
-/

open JsString

namespace JsValue

/-! ## 1. The order of keys -/

/-- Texts are compared by their code units, as `sort()` does. -/
def keyLe : JsString → JsString → Bool
  | [], _ => true
  | _ :: _, [] => false
  | u :: us, v :: vs => decide (u.toNat < v.toNat) || (u == v && keyLe us vs)

theorem keyLe_cons {u v : UInt16} {us vs : JsString} :
    keyLe (u :: us) (v :: vs) = true ↔ u.toNat < v.toNat ∨ u = v ∧ keyLe us vs = true := by
  rw [keyLe, Bool.or_eq_true, Bool.and_eq_true, decide_eq_true_eq, beq_iff_eq]

theorem keyLe_total (a b : JsString) : keyLe a b = true ∨ keyLe b a = true := by
  induction a generalizing b with
  | nil => exact .inl rfl
  | cons u us ih =>
    cases b with
    | nil => exact .inr rfl
    | cons v vs =>
      rw [keyLe_cons, keyLe_cons]
      rcases Nat.lt_trichotomy u.toNat v.toNat with hlt | heq | hgt
      · exact .inl (.inl hlt)
      · have heq : u = v := UInt16.toNat_inj.mp heq
        rcases ih vs with hle | hle
        · exact .inl (.inr ⟨heq, hle⟩)
        · exact .inr (.inr ⟨heq.symm, hle⟩)
      · exact .inr (.inl hgt)

theorem keyLe_trans {a b c : JsString} (hab : keyLe a b = true) (hbc : keyLe b c = true) :
    keyLe a c = true := by
  induction a generalizing b c with
  | nil => rfl
  | cons u us ih =>
    cases b with
    | nil => cases hab
    | cons v vs =>
      cases c with
      | nil => cases hbc
      | cons w ws =>
        rw [keyLe_cons] at hab hbc ⊢
        rcases hab with huv | ⟨rfl, hus⟩
        · rcases hbc with hvw | ⟨rfl, _⟩
          · exact .inl (Nat.lt_trans huv hvw)
          · exact .inl huv
        · rcases hbc with hvw | ⟨rfl, hvs⟩
          · exact .inl hvw
          · exact .inr ⟨rfl, ih hus hvs⟩

theorem keyLe_antisymm {a b : JsString} (hab : keyLe a b = true) (hba : keyLe b a = true) :
    a = b := by
  induction a generalizing b with
  | nil =>
    cases b with
    | nil => rfl
    | cons v vs => cases hba
  | cons u us ih =>
    cases b with
    | nil => cases hab
    | cons v vs =>
      rw [keyLe_cons] at hab hba
      rcases hab with huv | ⟨rfl, hus⟩
      · rcases hba with hvu | ⟨rfl, _⟩ <;> omega
      · rcases hba with hlt | ⟨_, hvs⟩
        · exact absurd hlt (Nat.lt_irrefl _)
        · rw [ih hus hvs]

/-! ## 2. Entries sorted by their keys -/

section

variable {α β : Type} {a b : List (JsString × α)}

def byKey (entries : List (JsString × α)) : List (JsString × α) :=
  entries.insertionSort fun x y => keyLe x.1 y.1 = true

theorem byKey_perm (a : List (JsString × α)) : (byKey a).Perm a := List.perm_insertionSort _ a

theorem byKey_map (f : α → β) (a : List (JsString × α)) :
    byKey (a.map fun entry => (entry.1, f entry.2)) =
      (byKey a).map fun entry => (entry.1, f entry.2) :=
  (List.map_insertionSort (fun x y : JsString × α => keyLe x.1 y.1 = true)
    (fun x y : JsString × β => keyLe x.1 y.1 = true) (fun entry => (entry.1, f entry.2)) a
    fun _ _ _ _ => Iff.rfl).symm

theorem byKey_keys (a : List (JsString × α)) :
    (byKey a).map Prod.fst = (a.map Prod.fst).insertionSort fun x y => keyLe x y = true :=
  List.map_insertionSort (fun x y : JsString × α => keyLe x.1 y.1 = true)
    (fun x y => keyLe x y = true) Prod.fst a fun _ _ _ _ => Iff.rfl

theorem byKey_pairwise (a : List (JsString × α)) :
    (byKey a).Pairwise fun x y => keyLe x.1 y.1 = true :=
  haveI : Std.Total fun x y : JsString × α => keyLe x.1 y.1 = true :=
    ⟨fun x y => keyLe_total x.1 y.1⟩
  haveI : IsTrans (JsString × α) fun x y => keyLe x.1 y.1 = true := ⟨fun _ _ _ => keyLe_trans⟩
  List.pairwise_insertionSort _ a

theorem byKey_byKey (a : List (JsString × α)) : byKey (byKey a) = byKey a :=
  (byKey_pairwise a).insertionSort_eq

/-- Entries under one key are one entry. -/
theorem entry_unique (hkeys : (a.map Prod.fst).Nodup) {x y : JsString × α} (hx : x ∈ a) (hy : y ∈ a)
    (h : x.1 = y.1) : x = y :=
  List.inj_on_of_nodup_map hkeys hx hy h

/-- Sorted entries are equal if and only if they were the same but for their order. -/
theorem byKey_eq_iff (hkeys : (a.map Prod.fst).Nodup) : byKey a = byKey b ↔ a.Perm b := by
  constructor
  · intro h
    exact (byKey_perm a).symm.trans (h ▸ byKey_perm b)
  · intro h
    refine List.Perm.eq_of_pairwise (fun x y hx hy hxy hyx => ?_) (byKey_pairwise a)
      (byKey_pairwise b) (((byKey_perm a).trans h).trans (byKey_perm b).symm)
    exact entry_unique hkeys ((byKey_perm a).mem_iff.mp hx)
      (h.mem_iff.mpr ((byKey_perm b).mem_iff.mp hy)) (keyLe_antisymm hxy hyx)

/-- Two lists of entries with unique keys have the same entries when each of the first is in the
second, and there are no more. -/
theorem perm_iff (hkeys : (a.map Prod.fst).Nodup) :
    a.Perm b ↔ a.length = b.length ∧ ∀ x ∈ a, x ∈ b := by
  constructor
  · exact fun h => ⟨h.length_eq, fun x hx => h.mem_iff.mp hx⟩
  · rintro ⟨hlength, hsubset⟩
    exact (List.subperm_of_subset (List.Nodup.of_map _ hkeys) hsubset).perm_of_length_le
      (Nat.le_of_eq hlength.symm)

end

/-! ## 3. Values with their keys sorted -/

mutual

def sortKeys : JsValue → JsValue
  | .array items => .array (sortKeysItems items)
  | .object fields => .object (byKey (sortKeysFields fields))
  | value => value

def sortKeysItems : List JsValue → List JsValue
  | [] => []
  | item :: items => sortKeys item :: sortKeysItems items

def sortKeysFields : Fields → Fields
  | [] => []
  | (key, value) :: fields => (key, sortKeys value) :: sortKeysFields fields

end

mutual

/-- Two values are the same but for the order of keys: an object has under each of its keys what the
other one has under it, and the other one has no more. -/
def Same : JsValue → JsValue → Prop
  | .array items, .array others => SameItems items others
  | .object fields, .object others => fields.length = others.length ∧ SameFields fields others
  | value, other => value = other

def SameItems : List JsValue → List JsValue → Prop
  | [], [] => True
  | item :: items, other :: others => Same item other ∧ SameItems items others
  | _, _ => False

def SameFields : Fields → Fields → Prop
  | [], _ => True
  | (key, value) :: fields, others =>
    (∃ other, (key, other) ∈ others ∧ Same value other) ∧ SameFields fields others

end

section

variable {numberText : JsString → JsString} {v w : JsValue} {items others : List JsValue}
  {fields : Fields}

theorem sortKeysItems_eq (items : List JsValue) : sortKeysItems items = items.map sortKeys := by
  induction items with
  | nil => rfl
  | cons item items ih => rw [sortKeysItems, ih, List.map_cons]

theorem sortKeysFields_eq (fields : Fields) :
    sortKeysFields fields = fields.map fun field => (field.1, sortKeys field.2) := by
  induction fields with
  | nil => rfl
  | cons field fields ih => rw [sortKeysFields, ih, List.map_cons]

theorem sortKeys_array (items : List JsValue) :
    sortKeys (.array items) = .array (items.map sortKeys) := by
  rw [sortKeys, sortKeysItems_eq]

theorem sortKeys_object (fields : Fields) :
    sortKeys (.object fields) =
      .object (byKey (fields.map fun field => (field.1, sortKeys field.2))) := by
  rw [sortKeys, sortKeysFields_eq]

theorem sortKeys_scalar (h : v.isScalar = true) : sortKeys v = v := by
  cases v with
  | array items => cases h
  | object fields => cases h
  | _ => rfl

theorem isScalar_sortKeys (v : JsValue) : (sortKeys v).isScalar = v.isScalar := by
  cases v <;> rfl

theorem sameItems_iff (h : ∀ item ∈ items, ∀ w, proper w = true →
      (Same item w ↔ sortKeys item = sortKeys w))
    (hothers : ∀ w ∈ others, proper w = true) :
    SameItems items others ↔ items.map sortKeys = others.map sortKeys := by
  induction items generalizing others with
  | nil =>
    cases others with
    | nil => exact ⟨fun _ => rfl, fun _ => trivial⟩
    | cons other others => exact ⟨fun hsame => hsame.elim, fun heq => by cases heq⟩
  | cons item items ih =>
    cases others with
    | nil => exact ⟨fun hsame => hsame.elim, fun heq => by cases heq⟩
    | cons other others =>
      rw [List.forall_mem_cons] at h hothers
      rw [SameItems, List.map_cons, List.map_cons, List.cons.injEq, h.1 other hothers.1,
        ih h.2 hothers.2]

theorem sameFields_iff {others : Fields} (h : ∀ field ∈ fields, ∀ w, proper w = true →
      (Same field.2 w ↔ sortKeys field.2 = sortKeys w))
    (hothers : ∀ field ∈ others, proper field.2 = true) :
    SameFields fields others ↔
      ∀ x ∈ fields.map fun field => (field.1, sortKeys field.2),
        x ∈ others.map fun field => (field.1, sortKeys field.2) := by
  induction fields with
  | nil => exact ⟨fun _ x hmem => absurd hmem List.not_mem_nil, fun _ => trivial⟩
  | cons field fields ih =>
    rcases field with ⟨key, value⟩
    have hfield : (∃ other, (key, other) ∈ others ∧ Same value other) ↔
        (key, sortKeys value) ∈ others.map fun field => (field.1, sortKeys field.2) := by
      rw [List.mem_map]
      constructor
      · rintro ⟨other, hmem, hsame⟩
        refine ⟨(key, other), hmem, ?_⟩
        rw [(h (key, value) List.mem_cons_self other (hothers _ hmem)).mp hsame]
      · rintro ⟨⟨k, other⟩, hmem, heq⟩
        obtain ⟨rfl, hvalue⟩ := Prod.mk.inj heq
        exact ⟨other, hmem,
          (h (k, value) List.mem_cons_self other (hothers _ hmem)).mpr hvalue.symm⟩
    rw [SameFields, List.map_cons, List.forall_mem_cons, hfield,
      ih fun field hmem => h field (List.mem_cons_of_mem _ hmem)]

theorem mapped_keys (fields : Fields) :
    (fields.map fun field => (field.1, sortKeys field.2)).map Prod.fst = fields.map Prod.fst := by
  rw [List.map_map]
  rfl

theorem same_scalar (h : v.isScalar = true) : Same v w ↔ v = w := by
  cases v with
  | array items => cases h
  | object fields => cases h
  | _ => exact Iff.rfl

/-- Two values are the same up to the order of keys if and only if they are equal when all their
keys are sorted. -/
theorem sortKeys_eq_iff (hv : proper v = true) (hw : proper w = true) :
    Same v w ↔ sortKeys v = sortKeys w := by
  induction v using induct generalizing w with
  | scalar v hscalar =>
    rw [same_scalar hscalar, sortKeys_scalar hscalar]
    constructor
    · rintro rfl
      exact (sortKeys_scalar hscalar).symm
    · intro heq
      have hw : w.isScalar = true := by
        rw [← isScalar_sortKeys, ← heq]
        exact hscalar
      exact heq.trans (sortKeys_scalar hw)
  | array items ih =>
    rw [proper_array] at hv
    cases w with
    | array others =>
      rw [proper_array] at hw
      rw [sortKeys_array, sortKeys_array, array.injEq, Same]
      exact sameItems_iff (fun item hmem w hw => ih item hmem (hv item hmem) hw) hw
    | _ =>
      rw [sortKeys_array]
      constructor <;> intro heq <;> cases heq
  | object fields ih =>
    obtain ⟨hkeys, hfields⟩ := proper_object.mp hv
    cases w with
    | object others =>
      rw [sortKeys_object, sortKeys_object, object.injEq, Same,
        byKey_eq_iff ((mapped_keys fields).symm ▸ hkeys),
        perm_iff ((mapped_keys fields).symm ▸ hkeys), List.length_map, List.length_map,
        sameFields_iff (fun field hmem w hw => ih field hmem (hfields field hmem) hw)
          (proper_object.mp hw).2]
    | _ =>
      rw [sortKeys_object]
      constructor <;> intro heq <;> cases heq

theorem sortKeys_sortKeys (v : JsValue) : sortKeys (sortKeys v) = sortKeys v := by
  induction v using induct with
  | scalar v hscalar => rw [sortKeys_scalar hscalar, sortKeys_scalar hscalar]
  | array items ih =>
    rw [sortKeys_array, sortKeys_array, List.map_map]
    exact congrArg array (List.map_congr_left ih)
  | object fields ih =>
    rw [sortKeys_object, sortKeys_object, ← byKey_map, byKey_byKey, List.map_map]
    refine congrArg (object ∘ byKey) (List.map_congr_left fun field hmem => ?_)
    exact congrArg (Prod.mk field.1) (ih field hmem)

/-- Sorting the keys of a value of JSON leaves a value of JSON. -/
theorem isJson_sortKeys (h : isJson numberText v = true) :
    isJson numberText (sortKeys v) = true := by
  induction v using induct with
  | scalar v hscalar =>
    rw [sortKeys_scalar hscalar]
    exact h
  | array items ih =>
    rw [sortKeys_array, isJson_array, List.forall_mem_map]
    exact fun item hmem => ih item hmem (isJson_array.mp h item hmem)
  | object fields ih =>
    obtain ⟨hkeys, hfields⟩ := isJson_object.mp h
    rw [sortKeys_object, isJson_object]
    constructor
    · rw [((byKey_perm _).map Prod.fst).nodup_iff, mapped_keys]
      exact hkeys
    · intro x hx
      obtain ⟨field, hmem, rfl⟩ := List.mem_map.mp ((byKey_perm _).mem_iff.mp hx)
      exact ih field hmem (hfields field hmem)

theorem proper_of_isJson (h : isJson numberText v = true) : proper v = true :=
  (Bool.and_eq_true_iff.mp h).1

/-- A value is the same as it is with its keys sorted. -/
theorem same_sortKeys (h : isJson numberText v = true) : Same v (sortKeys v) := by
  rw [sortKeys_eq_iff (proper_of_isJson h) (proper_of_isJson (isJson_sortKeys h)),
    sortKeys_sortKeys]

end

end JsValue
