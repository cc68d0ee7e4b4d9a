import BebaSacco.Lib.DateText
import BebaSacco.Lib.JsText

/-! # Daraja timestamps

A callback says when the money moved, by a text `YYYYMMDDHHmmss` in East Africa Time. The text is
cut into six parts and `Date.parse` reads what is put together from them; only its length is checked.
The job that books the money prints the date, and logs how far it is from the clock.

A date is known by its time value, also where it is printed; no time value is `NaN`. The clock
stands still during a job.

Results:
1. `parse_isSome_iff`: a valid date is read if and only if the digits are those of a date and time.
2. `parse_text`: an instant is read off its text.
3. `goesThrough_iff`: a job goes through if and only if its timestamp gives a valid date.
-/

namespace BebaSacco.DarajaTimestamps

open JsString DateText

/-! ## 1. The timestamps -/

abbrev Date := Option Int

/-- `ts.slice(start, stop)` -/
def slice (start stop : Nat) (ts : JsString) : JsString := (ts.take stop).drop start

/-- The text that `new Date` is given. -/
def dateText (ts : JsString) : JsString :=
  slice 0 4 ts ++ (js "-" ++ (slice 4 6 ts ++ (js "-" ++ (slice 6 8 ts ++ (js "T" ++
    (slice 8 10 ts ++ (js ":" ++ (slice 10 12 ts ++ (js ":" ++ (slice 12 14 ts ++
      js "+03:00"))))))))))

/-- `other` is what the engine reads off a text that is not a date and time with an offset. -/
def parseDarajaTimestamp (other : JsString → Date) (now : Int) (ts : JsString) : Date :=
  if ts.isEmpty ∨ ts.length < 14 then some now else dateParse other (dateText ts)

structure Skew where
  skewed : Bool
  skewSeconds : Option Nat
  deriving DecidableEq, Repr

def isTimestampSkewed (other : JsString → Date) (now : Int) (darajaTs : JsString)
    (maxSkewMs : Nat) : Skew :=
  match parseDarajaTimestamp other now darajaTs with
  -- `NaN` is greater than nothing, and `Math.round` keeps it
  | none => ⟨false, none⟩
  | some txDate =>
    let skewMs := (now - txDate).natAbs
    ⟨decide (skewMs > maxSkewMs), some ((skewMs + 500) / 1000)⟩

/-! ## 2. The jobs -/

/-- A value is known by what `String` prints for it. -/
structure DarajaCallbackItem where
  Name : JsString
  Value : Option JsString

/-- The entries of the object, of which the last one under a key counts. -/
def parseStkMeta : Option (List DarajaCallbackItem) → List (JsString × JsString)
  | none => []
  | some items => items.filterMap fun item => item.Value.map fun value => (item.Name, value)

/-- `meta.TransactionDate`, when it is no empty text. -/
def transactionDate (items : Option (List DarajaCallbackItem)) : Option JsString :=
  ((parseStkMeta items).reverse.lookup (js "TransactionDate")).filter fun ts => !ts.isEmpty

/-- `toISOString` of an invalid date throws. -/
inductive JobError where
  | rangeError
  deriving DecidableEq, Repr

/-- What is logged and written of the date. -/
structure Booked where
  skew : Option Skew
  transactionDate : Int
  deriving DecidableEq, Repr

/-- `Date.prototype.toISOString` -/
def toISOString : Date → Except JobError Int
  | none => .error .rangeError
  | some time => .ok time

/-- A callback that says that the money was paid. A missing `TransTime` is `undefined`. -/
inductive Callback where
  | stk (items : Option (List DarajaCallbackItem))
  | c2b (transTime : Option JsString)

/-- The date in the metadata of the audit log, on both ways of booking. -/
def postLedgerEntry (skew : Option Skew) (date : Date) : Except JobError Booked :=
  (toISOString date).map fun text => ⟨skew, text⟩

def handleStkCallback (other : JsString → Date) (now : Int)
    (items : Option (List DarajaCallbackItem)) : Except JobError Booked :=
  match transactionDate items with
  | some ts =>
    postLedgerEntry (some (isTimestampSkewed other now ts (5 * 60 * 1000)))
      (parseDarajaTimestamp other now ts)
  | none => postLedgerEntry none (some now)

def handleC2bCallback (other : JsString → Date) (now : Int) (transTime : Option JsString) :
    Except JobError Booked :=
  postLedgerEntry none (parseDarajaTimestamp other now (transTime.getD []))

def handle (other : JsString → Date) (now : Int) : Callback → Except JobError Booked
  | .stk items => handleStkCallback other now items
  | .c2b transTime => handleC2bCallback other now transTime

/-- The timestamp that the job reads. -/
def Callback.timestamp : Callback → Option JsString
  | .stk items => transactionDate items
  | .c2b transTime => transTime

/-- The job goes through, and the skew that it logs is a number. -/
def goesThrough : Except JobError Booked → Bool
  | .error _ => false
  | .ok booked => booked.skew.all fun skew => skew.skewSeconds.isSome

/-! ## 3. What should be read -/

/-- The number in a place of the timestamp. -/
def numberAt (start stop : Nat) (ts : JsString) : Nat := readNat (slice start stop ts)

/-- The digits are those of a day and of a time of it. -/
def inBounds (ts : JsString) : Bool :=
  isDay (numberAt 4 6 ts) (numberAt 6 8 ts) &&
    isTime (numberAt 8 10 ts) (numberAt 10 12 ts) (numberAt 12 14 ts)

/-- A timestamp that gives a valid date: it is too short to be one, or it has digits in bounds, or
it has other units that the engine makes a date of. -/
def readable (other : JsString → Date) (ts : JsString) : Bool :=
  decide (ts.length < 14) ||
    if (ts.take 14).all isDigit then inBounds ts else (other (dateText ts)).isSome

/-- An instant at a whole second of a year that has four digits in East Africa Time. -/
structure EatSecond where
  seconds : Int
  first : -62167230000 ≤ seconds
  last : seconds < 253402290000

/-- Its text `YYYYMMDDHHmmss`, three hours ahead of UTC. -/
def EatSecond.text (t : EatSecond) : JsString :=
  let eat := (t.seconds + 10800 + epoch).toNat
  let (y, m, d) := civilDate (eat / 86400)
  let rest := eat % 86400
  padded 4 y ++ (padded 2 m ++ (padded 2 d ++ (padded 2 (rest / 3600) ++
    (padded 2 (rest / 60 % 60) ++ padded 2 (rest % 60)))))

example : (EatSecond.mk 1704099600 (by decide) (by decide)).text = js "20240101120000" := by
  decide +kernel

/-! ## 4. Which timestamps are read -/

namespace DarajaTimestampsLemmas

variable {other : JsString → Date} {now : Int} {ts : JsString}

theorem length_slice {start stop : Nat} (h : stop ≤ ts.length) :
    (slice start stop ts).length = stop - start := by
  rw [slice, List.length_drop, List.length_take, Nat.min_eq_left h]

theorem take_append_slice {start stop : Nat} (h : start ≤ stop) (ts : JsString) :
    ts.take start ++ slice start stop ts = ts.take stop := by
  have htake : (ts.take stop).take start = ts.take start := by
    rw [List.take_take, Nat.min_eq_left h]
  rw [slice, ← htake, List.take_append_drop]

/-- The parts of the timestamp, and those of the offset. -/
def parts (ts : JsString) : List JsString :=
  [slice 0 4 ts, slice 4 6 ts, slice 6 8 ts, slice 8 10 ts, slice 10 12 ts, slice 12 14 ts,
    js "03", js "00"]

theorem dateText_eq (ts : JsString) : dateText ts = fill dateTimeForm (parts ts) := rfl

theorem parts_fit (h : 14 ≤ ts.length) : fitsForm dateTimeForm (parts ts) = true := by
  have hlength : ∀ start stop, stop ≤ 14 → (slice start stop ts).length = stop - start :=
    fun start stop hstop => length_slice (Nat.le_trans hstop h)
  simp only [parts, dateTimeForm, fitsForm, hlength _ _ (show 4 ≤ 14 by decide),
    hlength _ _ (show 6 ≤ 14 by decide), hlength _ _ (show 8 ≤ 14 by decide),
    hlength _ _ (show 10 ≤ 14 by decide), hlength _ _ (show 12 ≤ 14 by decide),
    hlength _ _ (Nat.le_refl 14)]
  rfl

theorem parts_digits (ts : JsString) :
    (parts ts).all (·.all isDigit) = (ts.take 14).all isDigit := by
  have hoffset : (js "03").all isDigit = true ∧ (js "00").all isDigit = true := by decide
  rw [← take_append_slice (show 12 ≤ 14 by decide), ← take_append_slice (show 10 ≤ 12 by decide),
    ← take_append_slice (show 8 ≤ 10 by decide), ← take_append_slice (show 6 ≤ 8 by decide),
    ← take_append_slice (show 4 ≤ 6 by decide), ← take_append_slice (show 0 ≤ 4 by decide)]
  simp only [parts, List.all_cons, List.all_nil, List.all_append, List.take_zero, Bool.true_and,
    Bool.and_assoc, hoffset.1, hoffset.2, Bool.and_true]

theorem parse_short (h : ts.length < 14) : parseDarajaTimestamp other now ts = some now :=
  if_pos (.inr h)

theorem parse_long (h : 14 ≤ ts.length) :
    parseDarajaTimestamp other now ts =
      if (ts.take 14).all isDigit then timeValue ((parts ts).map readNat)
      else other (dateText ts) := by
  have hnot : ¬ (ts.isEmpty = true ∨ ts.length < 14) := by
    rw [List.isEmpty_iff]
    rintro (rfl | hlt)
    · exact absurd h (by decide)
    · omega
  rw [parseDarajaTimestamp, if_neg hnot, dateText_eq, dateParse_fill other (parts_fit h),
    parts_digits]

theorem numbers_eq (ts : JsString) :
    (parts ts).map readNat =
      [numberAt 0 4 ts, numberAt 4 6 ts, numberAt 6 8 ts, numberAt 8 10 ts, numberAt 10 12 ts,
        numberAt 12 14 ts, 3, 0] := rfl

theorem timeValue_isSome (ts : JsString) :
    (timeValue ((parts ts).map readNat)).isSome = inBounds ts := by
  have hoffset : decide (3 < 24) = true ∧ decide (0 < 60) = true := by decide
  rw [numbers_eq, timeValue, hoffset.1, hoffset.2, Bool.and_true, Bool.and_true, ← inBounds]
  split
  · next h => exact h.symm
  · next h => exact (Bool.eq_false_iff.mpr h).symm

/-- A valid date is read if and only if the timestamp is readable. -/
theorem parse_isSome_iff :
    (parseDarajaTimestamp other now ts).isSome = true ↔ readable other ts = true := by
  rw [readable]
  rcases Nat.lt_or_ge ts.length 14 with hshort | hlong
  · rw [parse_short hshort, decide_eq_true hshort, Bool.true_or]
    exact ⟨fun _ => rfl, fun _ => rfl⟩
  · rw [parse_long hlong, decide_eq_false (Nat.not_lt.mpr hlong), Bool.false_or]
    split
    · rw [timeValue_isSome]
    · exact Iff.rfl

/-! ### The text of an instant -/

theorem text_parts (y m d hour minute second : Nat) :
    parts (padded 4 y ++ (padded 2 m ++ (padded 2 d ++ (padded 2 hour ++ (padded 2 minute ++
      padded 2 second))))) =
    [padded 4 y, padded 2 m, padded 2 d, padded 2 hour, padded 2 minute, padded 2 second, js "03",
      js "00"] := rfl

theorem text_digits (y m d hour minute second : Nat) :
    ((padded 4 y ++ (padded 2 m ++ (padded 2 d ++ (padded 2 hour ++ (padded 2 minute ++
      padded 2 second))))).take 14).all isDigit = true := by
  rw [← parts_digits, text_parts]
  simp only [List.all_cons, padded_digits]
  decide

/-- An instant is read off its text. -/
theorem parse_text (other : JsString → Date) (now : Int) (t : EatSecond) :
    parseDarajaTimestamp other now t.text = some (t.seconds * 1000) := by
  have hfirst := t.first
  have hlast := t.last
  have hepoch : epoch = 62167219200 := rfl
  obtain ⟨eat, heat⟩ := Int.eq_ofNat_of_zero_le (show 0 ≤ t.seconds + 10800 + epoch by omega)
  rcases hcivil : civilDate (eat / 86400) with ⟨y, m, d⟩
  obtain ⟨hnumber, hm, hm', hd, hd'⟩ := civilDate_spec hcivil
  have hy := civilDate_year hcivil (by omega)
  have hmonth := IsoDate.monthLength_le y m
  have htext : t.text = padded 4 y ++ (padded 2 m ++ (padded 2 d ++
      (padded 2 (eat % 86400 / 3600) ++ (padded 2 (eat % 86400 / 60 % 60) ++
        padded 2 (eat % 86400 % 60))))) := by
    rw [EatSecond.text, heat, Int.toNat_natCast, hcivil]
  have hlength : 14 ≤ t.text.length := by
    rw [htext]
    exact Nat.le_refl 14
  rw [parse_long hlength, htext, text_digits, if_pos rfl, text_parts]
  simp only [List.map_cons, List.map_nil, readNat_padded (show y < 10 ^ 4 by omega),
    readNat_padded (show m < 10 ^ 2 by omega), readNat_padded (show d < 10 ^ 2 by omega),
    readNat_padded (show eat % 86400 / 3600 < 10 ^ 2 by omega),
    readNat_padded (show eat % 86400 / 60 % 60 < 10 ^ 2 by omega),
    readNat_padded (show eat % 86400 % 60 < 10 ^ 2 by omega)]
  have hday : isDay m d = true := by
    simp only [isDay, Bool.and_eq_true, decide_eq_true_eq]
    omega
  have htime : isTime (eat % 86400 / 3600) (eat % 86400 / 60 % 60) (eat % 86400 % 60) = true := by
    simp only [isTime, Bool.or_eq_true, Bool.and_eq_true, decide_eq_true_eq]
    exact .inl (by omega)
  have hoffset : readNat (js "03") = 3 ∧ readNat (js "00") = 0 := ⟨by decide, by decide⟩
  rw [hoffset.1, hoffset.2, timeValue, hday, htime, if_pos (by decide), secondNumber, hnumber]
  refine congrArg some (congrArg (· * 1000) ?_)
  omega

/-! ### The jobs -/

theorem skewSeconds_isSome {maxSkewMs : Nat} :
    (isTimestampSkewed other now ts maxSkewMs).skewSeconds.isSome =
      (parseDarajaTimestamp other now ts).isSome := by
  unfold isTimestampSkewed
  cases parseDarajaTimestamp other now ts <;> rfl

theorem goesThrough_postLedgerEntry (skew : Option Skew) (date : Date) :
    goesThrough (postLedgerEntry skew date) =
      (date.isSome && skew.all fun skew => skew.skewSeconds.isSome) := by
  cases date <;> rfl

theorem readable_nil : readable other [] = true := rfl

/-- A job goes through if and only if its timestamp is readable. -/
theorem goesThrough_iff {callback : Callback} :
    goesThrough (handle other now callback) = true ↔
      ∀ ts, callback.timestamp = some ts → readable other ts = true := by
  cases callback with
  | stk items =>
    rw [handle, handleStkCallback, Callback.timestamp]
    cases transactionDate items with
    | none => exact ⟨fun _ _ h => absurd h.symm (Option.some_ne_none _), fun _ => rfl⟩
    | some ts =>
      dsimp only
      rw [goesThrough_postLedgerEntry, Option.all_some, skewSeconds_isSome, Bool.and_self,
        parse_isSome_iff]
      exact ⟨fun h _ heq => Option.some.inj heq ▸ h, fun h => h ts rfl⟩
  | c2b transTime =>
    rw [handle, handleC2bCallback, goesThrough_postLedgerEntry, Option.all_none, Bool.and_true,
      parse_isSome_iff, Callback.timestamp]
    cases transTime with
    | none => exact ⟨fun _ _ h => absurd h.symm (Option.some_ne_none _), fun _ => readable_nil⟩
    | some ts => exact ⟨fun h _ heq => Option.some.inj heq ▸ h, fun h => h ts rfl⟩

end DarajaTimestampsLemmas

open DarajaTimestampsLemmas

/-- A valid date is read if and only if the timestamp is readable, an instant is read off its text,
and a job goes through if and only if its timestamp is readable. -/
theorem daraja_timestamps (other : JsString → Date) (now : Int) (ts : JsString) (t : EatSecond)
    (callback : Callback) :
    ((parseDarajaTimestamp other now ts).isSome = true ↔ readable other ts = true) ∧
      parseDarajaTimestamp other now t.text = some (t.seconds * 1000) ∧
      (goesThrough (handle other now callback) = true ↔
        ∀ ts, callback.timestamp = some ts → readable other ts = true) :=
  ⟨parse_isSome_iff, parse_text other now t, goesThrough_iff⟩

/-- Fourteen digits with a month 13. -/
def exTimestamp : JsString := js "20261301120000"

def exCallback : Callback := .c2b (some exTimestamp)

/-- Month 13 is no date: printing it throws, and the skew to it is `NaN`, which counts as none. -/
theorem month_thirteen : parseDarajaTimestamp (fun _ => some 0) 1767225600000 exTimestamp = none ∧
    handle (fun _ => some 0) 1767225600000 exCallback = .error .rangeError ∧
    isTimestampSkewed (fun _ => some 0) 1767225600000 exTimestamp 300000 = ⟨false, none⟩ := by
  decide +kernel

end BebaSacco.DarajaTimestamps
