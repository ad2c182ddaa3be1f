import NodePressure.Number.Digits
import NodePressure.Text.Blank

/-!
# NodePressure.Time.Utc - instants of universal time

An instant is a calendar date and a time of day in UTC, so its fields in order compare as instants
do. `Utc.text` writes the RFC 3339 form with as many groups of three digits of the second's
fraction as it needs; `Utc.parse?` reads that form, and also blanks around the parts, short
numbers and offsets from UTC.
-/

namespace NodePressure

/-- Whether a year of the Gregorian calendar has a 29th of February. -/
def isLeapYear (y : Int) : Bool :=
  y % 4 == 0 && (y % 100 != 0 || y % 400 == 0)

/-- The number of days of a month. -/
def daysIn (y : Int) (m : Nat) : Nat :=
  match m with
  | 2 => if isLeapYear y then 29 else 28
  | 4 | 6 | 9 | 11 => 30
  | _ => 31

/-- A calendar date. -/
structure Date where
  year : Int
  month : Nat
  day : Nat
  deriving DecidableEq, Repr

/-- Whether the month and the day exist. -/
def Date.Valid (d : Date) : Prop :=
  1 ≤ d.month ∧ d.month ≤ 12 ∧ 1 ≤ d.day ∧ d.day ≤ daysIn d.year d.month

instance (d : Date) : Decidable d.Valid :=
  inferInstanceAs (Decidable (_ ∧ _ ∧ _ ∧ _))

/-- The day after a date. -/
def Date.next (d : Date) : Date :=
  if d.day < daysIn d.year d.month then { d with day := d.day + 1 }
  else if d.month < 12 then ⟨d.year, d.month + 1, 1⟩
  else ⟨d.year + 1, 1, 1⟩

/-- The day before a date. -/
def Date.previous (d : Date) : Date :=
  if 1 < d.day then { d with day := d.day - 1 }
  else if 1 < d.month then ⟨d.year, d.month - 1, daysIn d.year (d.month - 1)⟩
  else ⟨d.year - 1, 12, 31⟩

theorem Date.valid_next {d : Date} (h : d.Valid) : d.next.Valid := by
  obtain ⟨h1, h2, h3, h4⟩ := h
  unfold Date.next
  split
  · exact ⟨h1, h2, by simp, by assumption⟩
  · split
    · refine ⟨by simp, by dsimp only; omega, by simp, ?_⟩
      dsimp only [daysIn]; split <;> (try split) <;> omega
    · exact ⟨by simp, by simp, by simp, by simp [daysIn]⟩

theorem Date.valid_previous {d : Date} (h : d.Valid) : d.previous.Valid := by
  obtain ⟨h1, h2, h3, h4⟩ := h
  unfold Date.previous
  split
  · exact ⟨h1, h2, by dsimp only; omega, by dsimp only; omega⟩
  · split
    · refine ⟨by dsimp only; omega, by dsimp only; omega, ?_, by simp⟩
      dsimp only [daysIn]; split <;> (try split) <;> omega
    · exact ⟨by simp, by simp, by simp, by simp [daysIn]⟩

/-- An instant of universal time. A leap second is the second 59 with nanoseconds from
`1000000000` on. -/
structure Utc where
  date : Date
  /-- The second of the day. -/
  second : Nat
  nanos : Nat
  date_valid : date.Valid
  second_lt : second < 86400
  nanos_lt : nanos < 2000000000
  deriving DecidableEq

namespace Utc

/-- The fields that order instants. -/
def key (t : Utc) : Int × Nat × Nat × Nat × Nat :=
  (t.date.year, t.date.month, t.date.day, t.second, t.nanos)

/-- Which of two instants is the earlier one. -/
def order (a b : Utc) : Ordering :=
  (compare a.date.year b.date.year).then <| (compare a.date.month b.date.month).then <|
    (compare a.date.day b.date.day).then <| (compare a.second b.second).then <|
      compare a.nanos b.nanos

/-- The year in four digits, with a sign if it has more or is negative. -/
def yearText (y : Int) : List Char :=
  match y with
  | .ofNat n => if n ≤ 9999 then Number.padded 4 n else '+' :: Number.padded 4 n
  | .negSucc n => '-' :: Number.padded 4 (n + 1)

/-- The date and the time of day to the second, without the mark of universal time. -/
def wholeText (t : Utc) : List Char :=
  let s := t.second % 60 + (if t.nanos < 1000000000 then 0 else 1)
  yearText t.date.year ++ '-' :: (Number.padded 2 t.date.month ++ '-' ::
    (Number.padded 2 t.date.day ++ 'T' :: (Number.padded 2 (t.second / 3600) ++ ':' ::
      (Number.padded 2 (t.second / 60 % 60) ++ ':' :: Number.padded 2 s))))

/-- The fraction of the second: nothing, or a point and three, six or nine digits. -/
def fractionText (t : Utc) : List Char :=
  let n := t.nanos % 1000000000
  if n = 0 then []
  else if n % 1000000 = 0 then '.' :: Number.padded 3 (n / 1000000)
  else if n % 1000 = 0 then '.' :: Number.padded 6 (n / 1000)
  else '.' :: Number.padded 9 n

/-- The instant in the form of RFC 3339. -/
def text (t : Utc) : String :=
  String.ofList (wholeText t ++ (fractionText t ++ ['Z']))

/-- The instant cut to the second, in the form of RFC 3339. -/
def textToSecond (t : Utc) : String :=
  String.ofList (wholeText t ++ ['Z'])

/-- Moves an instant by less than a day. -/
def shift (t : Utc) (offset : Int) : Utc :=
  let s : Int := t.second + offset
  if h : 0 ≤ s ∧ s < 86400 then { t with second := s.toNat, second_lt := by omega }
  else if h : s < 0 then
    { t with
      date := t.date.previous, second := (s + 86400).toNat % 86400
      date_valid := Date.valid_previous t.date_valid
      second_lt := Nat.mod_lt _ (by decide) }
  else
    { t with
      date := t.date.next, second := (s - 86400).toNat % 86400
      date_valid := Date.valid_next t.date_valid
      second_lt := Nat.mod_lt _ (by decide) }

/-- Whether the calendar of instants goes as far as a year. -/
def yearInReach (y : Int) : Bool :=
  -262143 ≤ y && y ≤ 262142

/-- The instant with the given fields; the second 60 is the leap second behind second 59. -/
def ofFields? (year : Int) (month day hour minute second nanos : Nat) : Option Utc :=
  let date : Date := ⟨year, month, day⟩
  let leap := second == 60
  let s := hour * 3600 + minute * 60 + (if leap then 59 else second)
  let n := nanos + (if leap then 1000000000 else 0)
  if h : date.Valid ∧ hour < 24 ∧ minute < 60 ∧ second ≤ 60 ∧ s < 86400 ∧ n < 2000000000 ∧
      yearInReach year then
    some ⟨date, s, n, h.1, h.2.2.2.2.1, h.2.2.2.2.2.1⟩
  else none

/-- Digits at the beginning of a text, at least one and at most `width`, and the text behind. -/
def readDigits (width : Nat) (s : List Char) : Option (Nat × List Char) :=
  let ds := (s.take width).takeWhile Number.isDigit
  if ds.isEmpty then none else some (Number.ofDigits 0 ds, s.drop ds.length)

/-- A number of at most two digits behind blanks. -/
def readPair (s : List Char) : Option (Nat × List Char) :=
  readDigits 2 (Text.trimStart s)

/-- A year behind blanks: up to four digits, or a sign and any number of them. -/
def readYear (s : List Char) : Option (Int × List Char) :=
  match Text.trimStart s with
  | '-' :: r => (readDigits r.length r).map fun (n, r) => (-(n : Int), r)
  | '+' :: r => (readDigits r.length r).map fun (n, r) => ((n : Int), r)
  | r => (readDigits 4 r).map fun (n, r) => ((n : Int), r)

/-- The text behind a separator, which may have blanks before it. -/
def skipMark (c : Char) (s : List Char) : Option (List Char) :=
  match Text.trimStart s with
  | x :: r => if x == c then some r else none
  | [] => none

/-- The nanoseconds of a fraction: nine digits count, further ones are dropped. Without a point
there is no fraction. -/
def readFraction : List Char → Option (Nat × List Char)
  | '.' :: r =>
    let ds := r.takeWhile Number.isDigit
    if ds.isEmpty then none
    else
      let used := ds.take 9
      some (Number.ofDigits 0 used * Number.tenTo (9 - used.length), r.drop ds.length)
  | r => some (0, r)

/-- Two digits that have to stand at the beginning of a text. -/
def readTwo : List Char → Option (Nat × List Char)
  | a :: b :: r => do
    let x ← Number.digit? a
    let y ← Number.digit? b
    return (x * 10 + y, r)
  | _ => none

/-- The offset from UTC in seconds: `Z`, `UTC`, or a sign, hours and minutes. -/
def readOffset (s : List Char) : Option (Int × List Char) :=
  match s with
  | 'Z' :: r => some (0, r)
  | 'z' :: r => some (0, r)
  | s =>
    if (s.take 3).map Char.toUpper == ['U', 'T', 'C'] then some (0, s.drop 3)
    else
      match s with
      | [] => none
      | c :: r => do
        let negative ← if c == '+' then some false
          else if c == '-' || c.toNat == 0x2212 then some true else none
        let (hours, r) ← readTwo r
        let (minutes, r) ← readTwo (r.dropWhile fun c => c == ':' || Text.isBlank c)
        if minutes < 60 ∧ hours < 24 then
          let n : Int := hours * 3600 + minutes * 60
          return (if negative then -n else n, r)
        else none

/-- Reads an instant: date, `T` or a blank, time of day and offset. Both the date that is written
and the one in universal time have to be in reach. -/
def parse? (s : List Char) : Option Utc := do
  let (year, s) ← readYear s
  let s ← skipMark '-' s
  let (month, s) ← readPair s
  let s ← skipMark '-' s
  let (day, s) ← readPair s
  let s ← match s with
    | c :: r => if c == 't' || c == 'T' || c == ' ' then some r else none
    | [] => none
  let (hour, s) ← readPair s
  let s ← skipMark ':' s
  let (minute, s) ← readPair s
  let s ← skipMark ':' s
  let (second, s) ← readPair s
  let (nanos, s) ← readFraction s
  let (offset, s) ← readOffset (Text.trimStart s)
  if !(Text.trimStart s).isEmpty then none
  else
    let t := (← ofFields? year month day hour minute second nanos).shift (-offset)
    if yearInReach t.date.year then some t else none

end Utc

end NodePressure
