import NodePressure.Time.Utc

/-!
# NodePressure.Settings.Format.Toml.DateTime - dates and times of a TOML document

A date, a time of day, or both with an offset or without. A date or time is settled by its first
characters: what begins like one and does not go on as one is no value at all. It is taken up as a
text in the usual form.
-/

namespace NodePressure.Settings.Toml

/-- Two digits that stand for a number within bounds. -/
def pair? (least greatest : Nat) (s : List Char) : Option (List Char × List Char) :=
  (Utc.readTwo s).bind fun (n, r) => if least ≤ n && n ≤ greatest then some (s.take 2, r) else none

/-- Whether a text begins like a date: with four digits and a hyphen. -/
def beginsDate (s : List Char) : Bool :=
  ((s.take 4).takeWhile Number.isDigit).length == 4 && (s.drop 4).head? == some '-'

/-- Whether a text begins like a time of day: with an hour and a colon. -/
def beginsTime (s : List Char) : Bool :=
  match pair? 0 23 s with
  | some (_, ':' :: _) => true
  | _ => false

/-- A date that exists, as text. -/
def date? (s : List Char) : Option (List Char × List Char) := do
  let year := s.take 4
  let (month, r) ← pair? 1 12 (s.drop 5)
  match r with
  | '-' :: r =>
    let (day, r) ← pair? 1 (daysIn (Number.ofDigits 0 year) (Number.ofDigits 0 month)) r
    return (year ++ '-' :: (month ++ '-' :: day), r)
  | _ => none

/-- The fraction of a second, of which nine digits count and zeros at the end do not. -/
def fraction (s : List Char) : List Char × List Char :=
  match s with
  | '.' :: r =>
    let ds := r.takeWhile Number.isDigit
    let used := ((ds.take 9).reverse.dropWhile (· == '0')).reverse
    if ds.isEmpty then ([], s)
    else (if used.isEmpty then [] else '.' :: used, r.drop ds.length)
  | _ => ([], s)

/-- A time of day, as text. The second may be a leap second. -/
def time? (s : List Char) : Option (List Char × List Char) := do
  let (hour, r) ← pair? 0 23 s
  let (minute, r) ← pair? 0 59 (r.drop 1)
  match r with
  | ':' :: r =>
    let (second, r) ← pair? 0 60 r
    let (part, r) := fraction r
    return (hour ++ ':' :: (minute ++ ':' :: (second ++ part)), r)
  | _ => none

/-- An offset from universal time, as text; nothing if there is none. -/
def offset? (s : List Char) : Option (List Char × List Char) :=
  match s with
  | [] => some ([], [])
  | c :: r =>
    if c == 'Z' || c == 'z' then some (['Z'], r)
    else if c == '+' || c == '-' then do
      let (hour, r) ← pair? 0 23 r
      match r with
      | ':' :: r =>
        let (minute, r) ← pair? 0 59 r
        let sign := if (hour ++ minute).all (· == '0') then '+' else c
        return (sign :: (hour ++ ':' :: minute), r)
      | _ => none
    else some ([], s)

/-- A date, a time or both, as text, where `beginsDate` or `beginsTime` holds. -/
def dateTime? (s : List Char) : Option (String × List Char) := do
  if beginsDate s then
    let (date, r) ← date? s
    match r with
    | c :: t =>
      if (c == 'T' || c == 't' || c == ' ') && beginsTime t then
        let (time, r) ← time? t
        let (offset, r) ← offset? r
        return (String.ofList (date ++ 'T' :: (time ++ offset)), r)
      else return (String.ofList date, r)
    | [] => return (String.ofList date, [])
  else
    let (time, r) ← time? s
    return (String.ofList time, r)

end NodePressure.Settings.Toml
