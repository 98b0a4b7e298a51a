import WorkflowEngine.Text.Basic

/-!
# Timestamps

Points in time on the calendar, in Coordinated Universal Time.  A timestamp is
read with any offset and written with the mark `Z`.
-/

namespace WorkflowEngine

/-- Seconds since the start of 1970 and nanoseconds within the second.  A leap
second shows as more than a second's worth of nanoseconds. -/
structure Timestamp where
  seconds : Int
  nanos : Nat
deriving Repr, DecidableEq, Inhabited

/-- A day of the calendar. -/
structure CalendarDay where
  year : Int
  month : Nat
  day : Nat
deriving Repr, DecidableEq

namespace CalendarDay

/-- Whether a year has a leap day. -/
def isLeapYear (year : Int) : Bool :=
  year % 4 == 0 && (year % 100 != 0 || year % 400 == 0)

/-- The number of days of a month. -/
def daysIn (year : Int) (month : Nat) : Nat :=
  if month == 2 then if isLeapYear year then 29 else 28
  else if month == 4 || month == 6 || month == 9 || month == 11 then 30
  else 31

/-- The number of days from the start of 1970, counted in eras of 400 years
that start in March. -/
def dayNumber (date : CalendarDay) : Int :=
  let year := if date.month ≤ 2 then date.year - 1 else date.year
  let era := year.fdiv 400
  let yearOfEra := year - era * 400
  let month : Int := if date.month ≤ 2 then date.month + 9 else date.month - 3
  let dayOfYear := (153 * month + 2) / 5 + date.day - 1
  let dayOfEra := yearOfEra * 365 + yearOfEra / 4 - yearOfEra / 100 + dayOfYear
  era * 146097 + dayOfEra - 719468

/-- The day with a number. -/
def ofDayNumber (number : Int) : CalendarDay :=
  let shifted := number + 719468
  let era := shifted.fdiv 146097
  let dayOfEra := shifted - era * 146097
  let yearOfEra := (dayOfEra - dayOfEra / 1460 + dayOfEra / 36524 - dayOfEra / 146096) / 365
  let dayOfYear := dayOfEra - (365 * yearOfEra + yearOfEra / 4 - yearOfEra / 100)
  let shiftedMonth := (5 * dayOfYear + 2) / 153
  let day := dayOfYear - (153 * shiftedMonth + 2) / 5 + 1
  let month := if shiftedMonth < 10 then shiftedMonth + 3 else shiftedMonth - 9
  let year := yearOfEra + era * 400 + (if month ≤ 2 then 1 else 0)
  ⟨year, month.toNat, day.toNat⟩

end CalendarDay

namespace Timestamp

/-- The start of 1970. -/
def epoch : Timestamp := ⟨0, 0⟩

/-- The time a number of milliseconds behind the start of 1970. -/
def ofMillis (millis : Nat) : Timestamp := ⟨millis / 1000, millis % 1000 * 1000000⟩

/-- The whole milliseconds from one time to another, none when the second comes
first. -/
def millisSince (later earlier : Timestamp) : Nat :=
  let nanos := (later.seconds - earlier.seconds) * 1000000000 + later.nanos - earlier.nanos
  nanos.toNat / 1000000

/-- Digits padded with zeros. -/
def padded (width value : Nat) : String :=
  let digits := Nat.toDigits 10 value
  String.ofList (List.replicate (width - digits.length) '0' ++ digits)

/-- A year, with a sign when it has no four digits. -/
def yearText (year : Int) : String :=
  if 0 ≤ year ∧ year ≤ 9999 then padded 4 year.toNat
  else (if year < 0 then "-" else "+") ++ padded 4 year.natAbs

/-- The fraction of a second in as few groups of three digits as it needs. -/
def fractionText (nanos : Nat) : String :=
  if nanos = 0 then ""
  else if nanos % 1000000 = 0 then "." ++ padded 3 (nanos / 1000000)
  else if nanos % 1000 = 0 then "." ++ padded 6 (nanos / 1000)
  else "." ++ padded 9 nanos

/-- The written form. -/
def text (time : Timestamp) : String :=
  let date := CalendarDay.ofDayNumber (time.seconds.fdiv 86400)
  let second := (time.seconds.fmod 86400).toNat
  let leap := time.nanos / 1000000000
  yearText date.year ++ "-" ++ padded 2 date.month ++ "-" ++ padded 2 date.day ++ "T" ++
    padded 2 (second / 3600) ++ ":" ++ padded 2 (second / 60 % 60) ++ ":" ++
    padded 2 (second % 60 + leap) ++ fractionText (time.nanos % 1000000000) ++ "Z"

/-- Between one and `most` leading digits as a number. -/
def digits? (most : Nat) (text : List Char) : Option (Nat × List Char) :=
  let digits := (text.take most).takeWhile Char.isDigit
  if digits.isEmpty then none
  else
    some
      (digits.foldl (fun value char => value * 10 + (char.toNat - '0'.toNat)) 0,
        text.drop digits.length)

/-- Drops leading white space. -/
def skipBlank (text : List Char) : List Char := text.dropWhile Text.isBlank

/-- A mark that has to come next, after any white space. -/
def mark? (mark : Char) (text : List Char) : Option (List Char) :=
  match skipBlank text with
  | char :: rest => if char = mark then some rest else none
  | [] => none

/-- A number of at most two digits, after any white space. -/
def short? (text : List Char) : Option (Nat × List Char) := digits? 2 (skipBlank text)

/-- A year: up to four digits, or a sign and any number of them. -/
def year? (text : List Char) : Option (Int × List Char) :=
  match skipBlank text with
  | '-' :: rest => (digits? rest.length rest).map fun (value, rest) => (-(value : Int), rest)
  | '+' :: rest => (digits? rest.length rest).map fun (value, rest) => ((value : Int), rest)
  | rest => (digits? 4 rest).map fun (value, rest) => ((value : Int), rest)

/-- The nanoseconds of a fraction; digits beyond the ninth are passed over. -/
def fraction? : List Char → Option (Nat × List Char)
  | '.' :: rest =>
    (digits? 9 rest).map fun (value, behind) =>
      (value * Nat.pow 10 (9 - (rest.length - behind.length)), behind.dropWhile Char.isDigit)
  | rest => some (0, rest)

/-- Exactly two digits. -/
def twoDigits? : List Char → Option (Nat × List Char)
  | first :: second :: rest =>
    if first.isDigit && second.isDigit then
      some ((first.toNat - '0'.toNat) * 10 + (second.toNat - '0'.toNat), rest)
    else none
  | _ => none

/-- An offset from Coordinated Universal Time in seconds. -/
def offset? (text : List Char) : Option (Int × List Char) :=
  match text with
  | 'Z' :: rest => some (0, rest)
  | 'z' :: rest => some (0, rest)
  | sign :: rest =>
    if (String.ofList ((sign :: rest.take 2).map Char.toLower)) = "utc" then some (0, rest.drop 2)
    else if sign = '+' ∨ sign = '-' ∨ sign = '\u2212' then do
      let (hours, rest) ← twoDigits? rest
      let rest := skipBlank rest
      let rest :=
        match rest with
        | ':' :: rest => skipBlank rest
        | rest => rest
      let (minutes, rest) ← twoDigits? rest
      if 59 < minutes ∨ 23 < hours then none
      else
        let seconds : Int := hours * 3600 + minutes * 60
        some (if sign = '+' then seconds else -seconds, rest)
    else none
  | [] => none

/-- Reads a timestamp. -/
def read? (text : String) : Option Timestamp := do
  let (year, rest) ← year? text.toList
  let (month, rest) ← short? (← mark? '-' rest)
  let (day, rest) ← short? (← mark? '-' rest)
  let rest ←
    match rest with
    | separator :: rest =>
      if separator = 't' ∨ separator = 'T' ∨ separator = ' ' then some rest else none
    | [] => none
  let (hour, rest) ← short? rest
  let (minute, rest) ← short? (← mark? ':' rest)
  let (second, rest) ← short? (← mark? ':' rest)
  let (nanos, rest) ← fraction? rest
  let (offset, rest) ← offset? (skipBlank rest)
  if !(skipBlank rest).isEmpty then none
  else if month < 1 ∨ 12 < month ∨ day < 1 ∨ CalendarDay.daysIn year month < day then none
  else if 23 < hour ∨ 59 < minute ∨ 60 < second then none
  else if year < -262143 ∨ 262142 < year then none
  else
    let days := CalendarDay.dayNumber ⟨year, month, day⟩
    let leap := if second = 60 then 1 else 0
    some
      ⟨days * 86400 + hour * 3600 + minute * 60 + (second - leap : Nat) - offset,
        nanos + leap * 1000000000⟩

end Timestamp
end WorkflowEngine
