import BebaSacco.Deposits
import BebaSacco.Lib.Rounding

/-! # The names of stages

An imported name is corrected from a table of known spellings and then compared with the names of the
ward: by its normal form, or else by the Levenshtein distance between the normal forms. `upper` is
`toUpperCase`; the database compares names regardless of case in the same way.

A similarity is a rational number here, and the percentage is rounded over the rationals; the code
rounds a product of floating-point numbers.
-/

namespace BebaSacco

/-! ## 1. Normal forms -/

variable (upper : String → String)

/-- `STAGE_NAME_ALIASES` -/
def stageNameAliases : List (String × String) :=
  [("KIBOS GALYNES", "KIBOS GALYNES"), ("KIBOS GARLYNES", "KIBOS GALYNES"),
    ("GYLINES", "KIBOS GALYNES"), ("TEAM PRACIOUS", "TEAM PRECIOUS"),
    ("TEAM PRECIOUS", "TEAM PRECIOUS"), ("KASULE WHITE HOUSE", "KASULE WHITEHOUSE"),
    ("KASULE WHITEHOUSE", "KASULE WHITEHOUSE")]

def applyKnownAliases (stageName : String) : String :=
  (stageNameAliases.lookup (jsTrim (upper stageName))).getD stageName

/-- `[A-Z0-9\s-]` -/
def keptInNames (c : Char) : Bool :=
  ('A' ≤ c && c ≤ 'Z') || ('0' ≤ c && c ≤ '9') || jsWhitespace c || c == '-'

/-- `.replace(/\s+/g, ' ')`; `inSpace` when the character before was white space. -/
def collapseSpaces (inSpace : Bool) : List Char → List Char
  | [] => []
  | c :: cs =>
    if jsWhitespace c then
      if inSpace then collapseSpaces true cs else ' ' :: collapseSpaces true cs
    else c :: collapseSpaces false cs

def normalize (s : String) : String :=
  jsTrim (String.ofList (collapseSpaces false ((upper s).toList.filter keptInNames)))

/-! ## 2. Similarity -/

/-- The rest of the row of `c`: `row` is what is left of the row above, from the column to the left on,
and `left` the entry before. -/
def levenshteinRow {α : Type} [DecidableEq α] (c : α) : List α → List Nat → Nat → List Nat
  | d :: ds, diagonal :: above :: row, left =>
    let entry := if c = d then diagonal else 1 + min (min above left) diagonal
    entry :: levenshteinRow c ds (above :: row) entry
  | _, _, _ => []

def levenshtein {α : Type} [DecidableEq α] (a b : List α) : Nat :=
  let rows := a.foldl (fun row c =>
    let first := row.headD 0 + 1
    first :: levenshteinRow c b row first) (List.range (b.length + 1))
  rows.getLastD 0

def similarity (a b : String) : ℚ :=
  if a = b then 1
  else if a = "" ∨ b = "" then 0
  else 1 - (levenshtein a.toList b.toList : ℚ) / max a.toList.length b.toList.length

structure FuzzyMatchResult where
  matched : Option String
  confidence : Int
  isExact : Bool
  deriving DecidableEq, Repr

/-- The loop over the candidates: the best one so far and its score. -/
def bestMatch (input : String) (candidates : List String) : Option String × ℚ :=
  candidates.foldl (fun best candidate =>
    let score := similarity input (normalize upper candidate)
    if best.2 < score then (some candidate, score) else best) (none, 0)

def fuzzyMatchStageName (input : String) (candidates : List String)
    (minConfidence : ℚ := 70) : FuzzyMatchResult :=
  if input = "" ∨ candidates = [] then ⟨none, 0, false⟩
  else
    match (candidates.find? fun c => normalize upper c == normalize upper input).filter (· ≠ "") with
    | some exactMatch => ⟨some exactMatch, 100, true⟩
    | none =>
      let best := bestMatch upper (normalize upper input) candidates
      let confidence := Rounding.roundHalfUp (best.2 * 100)
      if confidence < minConfidence then ⟨none, confidence, false⟩ else ⟨best.1, confidence, false⟩

example : (fuzzyMatchStageName String.toUpper "TEAM PRACIOUS" ["KIBOS", "TEAM PRECIOUS"]).matched =
    some "TEAM PRECIOUS" := by decide +kernel

end BebaSacco
