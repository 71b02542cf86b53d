/-!
# Dates and times

    1979-05-27T07:32:00.5-07:00        a date and a time with an offset
    1979-05-27 07:32                   a date and a time
    1979-05-27                         a date
    07:32:00                           a time

`checkMoment` tells whether a text is one of these and, if not, what is wrong with it.  All parts of
a date or of a time must be there before any of them is looked at.
-/

namespace ZMachine.Toml

/-! ## Marks -/

/-- What dates and times are made of. -/
inductive Mark where
  | digits (run : List Char)
  | dash
  | colon
  | point
  | plus
  | space
  /-- The letter between a date and a time. -/
  | letterT
  /-- The letter for no offset. -/
  | letterZ
  /-- Everything from another character on. -/
  | other
deriving DecidableEq, Repr

/-- Puts a character in front of marks. -/
def Mark.put (c : Char) (ms : List Mark) : List Mark :=
  match c with
  | '-' => .dash :: ms
  | ':' => .colon :: ms
  | '.' => .point :: ms
  | '+' => .plus :: ms
  | ' ' => .space :: ms
  | 'T' | 't' => .letterT :: ms
  | 'Z' | 'z' => .letterZ :: ms
  | c =>
    if c.isDigit then match ms with
      | .digits run :: ms => .digits (c :: run) :: ms
      | ms => .digits [c] :: ms
    else [.other]

def marks (chars : List Char) : List Mark :=
  chars.foldr Mark.put []

/-! ## Parts -/

/-- Tells what is wrong with a date or a time, and what was expected. -/
def misread {α : Type} (kind expected : String) : Except String α :=
  .error s!"invalid {kind}, expected {expected}"

/-- A run of digits that must be here. -/
def digitsOf (kind expected : String) : List Mark → Except String (List Char × List Mark)
  | .digits run :: rest => .ok (run, rest)
  | _ => misread kind expected

/-- What follows a mark that must be here. -/
def expect (m : Mark) (kind expected : String) : List Mark → Except String (List Mark)
  | first :: rest => if first = m then .ok rest else misread kind expected
  | [] => misread kind expected

/-- The number of a run of a fixed number of digits. -/
def sized (size : Nat) (kind expected : String) (run : List Char) : Except String Nat :=
  if run.length = size then .ok (run.foldl (fun n c => 10 * n + (c.toNat - '0'.toNat)) 0)
  else misread kind expected

/-- A number that must be in a range. -/
def within? (first last : Nat) (kind expected : String) (n : Nat) : Except String Unit :=
  if first ≤ n ∧ n ≤ last then .ok () else misread kind expected

/-! ## Dates -/

def monthDays (year month : Nat) : Nat :=
  if month = 2 then
    if year % 4 = 0 ∧ (year % 100 ≠ 0 ∨ year % 400 = 0) then 29 else 28
  else if month = 4 ∨ month = 6 ∨ month = 9 ∨ month = 11 then 30
  else 31

/-- A date after its year and the dash behind it. -/
def date (year : List Char) (ms : List Mark) : Except String (List Mark) := do
  let (month, ms) ← digitsOf "date" "month" ms
  let ms ← expect .dash "date" "`-` (MM-DD)" ms
  let (day, ms) ← digitsOf "date" "day" ms
  let year ← sized 4 "date" "a four-digit year (YYYY)" year
  let month ← sized 2 "date" "a two-digit month (MM)" month
  let day ← sized 2 "date" "a two-digit day (DD)" day
  within? 1 12 "date" "month between 01 and 12" month
  let days := monthDays year month
  within? 1 days "date" s!"day between 01 and {days}" day
  return ms

/-! ## Times -/

/-- The seconds of a time, and whether they have a fraction; they may be missing. -/
def seconds : List Mark → Except String (Option (List Char) × List Mark)
  | .colon :: ms => do
    let (second, ms) ← digitsOf "time" "second" ms
    match ms with
    | .point :: ms =>
      let (_, ms) ← digitsOf "time" "nanosecond" ms
      return (some second, ms)
    | ms => return (some second, ms)
  | ms => .ok (none, ms)

def time (ms : List Mark) : Except String (List Mark) := do
  let (hour, ms) ← digitsOf "time" "hour" ms
  let ms ← expect .colon "time" "`:` (HH:MM)" ms
  let (minute, ms) ← digitsOf "time" "minute" ms
  let (second, ms) ← seconds ms
  let hour ← sized 2 "time" "a two-digit hour (HH)" hour
  let minute ← sized 2 "time" "a two-digit minute (MM)" minute
  let second ← sized 2 "time" "a two-digit second (SS)" (second.getD ['0', '0'])
  within? 0 23 "time" "hour between 00 and 23" hour
  within? 0 59 "time" "minute between 00 and 59" minute
  within? 0 60 "time" "second between 00 and 60" second
  return ms

/-- The hours and minutes of an offset. -/
def offsetClock (ms : List Mark) : Except String (List Mark) := do
  let (hour, ms) ← digitsOf "offset" "hour" ms
  let ms ← expect .colon "offset" "`:` (HH:MM)" ms
  let (minute, ms) ← digitsOf "offset" "minute" ms
  let hour ← sized 2 "offset" "a two-digit hour (HH)" hour
  let minute ← sized 2 "offset" "a two-digit minute (MM)" minute
  within? 0 23 "offset" "hours between 00 and 23" hour
  within? 0 59 "offset" "minutes between 00 and 59" minute
  return ms

/-- An offset, which may be missing. -/
def offset : List Mark → Except String (List Mark)
  | [] => .ok []
  | .letterZ :: ms => .ok ms
  | .plus :: ms => offsetClock ms
  | .dash :: ms => offsetClock ms
  | _ => misread "offset" "`Z`, +OFFSET, -OFFSET"

/-! ## Dates and times -/

/-- What follows a date: nothing, or a time that may have an offset. -/
def afterDate : List Mark → Except String (List Mark)
  | [] => .ok []
  | .letterT :: ms => do offset (← time ms)
  | .space :: ms => do offset (← time ms)
  | _ => misread "date-time" "`T` between date and time"

/-- Checks that marks are a date, a time or both, perhaps with others behind them. -/
def momentOf (ms : List Mark) : Except String (List Mark) :=
  match ms with
  | .digits year :: .dash :: rest => do afterDate (← date year rest)
  | .digits _ :: .colon :: _ => time ms
  | .digits _ :: _ => misread "datetime" "`-` (YYYY-MM) or `:` (HH:MM)"
  | _ => misread "datetime" "year or hour"

/-- Checks that a text is a date, a time or both. -/
def checkMoment (chars : List Char) : Except String Unit := do
  let rest ← momentOf (marks chars)
  if rest.isEmpty then return () else .error "invalid datetime"

end ZMachine.Toml
