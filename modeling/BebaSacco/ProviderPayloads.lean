import BebaSacco.Lib.JsRewrite

/-! # What is kept of a provider's answer

`sanitizeProviderPayload` copies the answer and replaces what is stored under a sensitive key. The copy
is put together by assigning its properties, so that an own key `__proto__`, which a parsed text may
have, is lost with what is under it.

Results:
1. `sensitive_redacted`: nothing that is stored under a sensitive key survives, at any level.
2. `payload_redacted_iff`: the copy has the structure of the answer and all the rest of it, exactly when
   no object in it has a key `__proto__`.
-/

namespace BebaSacco

open JsValue JsString

/-! ## 1. The copy -/

/-- `/(token|password|secret|api[_-]?key|authorization|credential)/i` -/
def isSensitiveProviderKey (key : JsString) : Bool :=
  ["token", "password", "secret", "apikey", "api_key", "api-key", "authorization", "credential"].any
    fun word => hasWord word key

def redacted : JsValue := .string (js "[REDACTED]")

def sanitizeProviderKey (key : JsString) (_ : JsValue) : Option JsValue :=
  if isSensitiveProviderKey key then some redacted else none

def sanitizeProviderPayload (value : JsValue) : JsValue := rebuild id sanitizeProviderKey value

/-! ## 2. Redaction -/

/-- The same structure and the same keys, with every value under a sensitive key replaced and every
other one kept. -/
def Redacts (value value' : JsValue) : Prop :=
  Rewritten (fun key _ => isSensitiveProviderKey key) (fun s s' => s' = s)
    (fun _ _ value' => value' = redacted) value value'

/-- No object of the answer has a key `__proto__`, what is under a sensitive key apart. -/
def assignable (value : JsValue) : Bool := plain (fun key _ => isSensitiveProviderKey key) value

namespace ProviderPayloadLemmas

theorem isSome_sanitizeProviderKey :
    (fun key value => (sanitizeProviderKey key value).isSome) =
      fun key _ => isSensitiveProviderKey key := by
  funext key value
  unfold sanitizeProviderKey
  split
  · next h => rw [h]; rfl
  · next h => rw [Bool.not_eq_true] at h; rw [h]; rfl

theorem eq_redacted_of_sanitizeProviderKey (key : JsString) (value value' : JsValue)
    (h : sanitizeProviderKey key value = some value') : value' = redacted := by
  unfold sanitizeProviderKey at h
  split at h
  · exact (Option.some.inj h).symm
  · cases h

end ProviderPayloadLemmas

open ProviderPayloadLemmas

/-- Whatever the answer, nothing survives under a sensitive key. -/
theorem sensitive_redacted (answer : JsValue) :
    Clean isSensitiveProviderKey redacted (sanitizeProviderPayload answer) := by
  refine clean_rebuild (fun key value hkey => ?_) (fun key value value' hkey h => ?_) answer
  · rw [sanitizeProviderKey, if_pos hkey]
  · rw [eq_redacted_of_sanitizeProviderKey key value value' h]
    rfl

/-- The copy of a parsed answer is a redaction of it exactly when no object in it has a key
`__proto__`. -/
theorem payload_redacted_iff (answer : { value : JsValue // value.proper = true }) :
    Redacts answer.val (sanitizeProviderPayload answer.val) ↔ assignable answer.val = true := by
  unfold Redacts assignable sanitizeProviderPayload
  rw [← isSome_sanitizeProviderKey]
  rw [rewritten_rebuild_iff answer.val answer.property, and_iff_left_iff_imp]
  exact fun _ => every_of_forall (fun _ => rfl) eq_redacted_of_sanitizeProviderKey answer.val

/-- An answer whose only property is called `__proto__`. -/
def exProtoAnswer : JsValue := .object [(js "__proto__", .string (js "paid"))]

/-- It is lost with what is under it. -/
theorem proto_lost :
    exProtoAnswer.proper = true ∧ sanitizeProviderPayload exProtoAnswer = .object [] ∧
      ¬ Redacts exProtoAnswer (sanitizeProviderPayload exProtoAnswer) := by
  have hlost : sanitizeProviderPayload exProtoAnswer = .object [] := rfl
  refine ⟨by decide +kernel, hlost, fun h => ?_⟩
  rw [hlost] at h
  cases h with
  | object h => cases h

end BebaSacco
