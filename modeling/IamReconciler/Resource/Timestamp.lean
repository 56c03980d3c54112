import IamReconciler.Json.Format
import IamReconciler.Text.Blank

/-!
# Timestamps

A point in time in whole seconds of universal time, kept as its date and time of day.  It is written
with the letter `Z`, with four digits of the year, and with a sign for a year that needs more digits
or lies before the year zero.

It is read from a text in a relaxed form of RFC 3339.  White space may stand before each part,
numbers may have fewer digits, and a year may have a sign; the date and the time are separated by a
`T` or by a space; universal time is also called `UTC`.  Fractions of a second are dropped, and an
offset is settled by moving to universal time.
-/

namespace IamReconciler

/-! ## Days -/

/-- Whether a year has 366 days. -/
def isLeapYear (year : Int) : Bool :=
  year % 4 = 0 && (year % 100 ≠ 0 || year % 400 = 0)

/-- The number of days of a month. -/
def daysInMonth (year : Int) (month : Nat) : Nat :=
  if month = 2 then (if isLeapYear year then 29 else 28)
  else if month = 4 ∨ month = 6 ∨ month = 9 ∨ month = 11 then 30 else 31

/-- A day of the calendar. -/
structure Day where
  year : Int
  month : Nat
  day : Nat
  deriving DecidableEq, Repr, Inhabited

namespace Day

/-- The first year of the calendar. -/
def firstYear : Int := -262143

/-- The last year of the calendar. -/
def lastYear : Int := 262142

/-- The day lies in a year of the calendar. -/
def IsValid (d : Day) : Prop :=
  firstYear ≤ d.year ∧ d.year ≤ lastYear ∧ 1 ≤ d.month ∧ d.month ≤ 12 ∧ 1 ≤ d.day ∧
    d.day ≤ daysInMonth d.year d.month

instance (d : Day) : Decidable d.IsValid :=
  inferInstanceAs (Decidable (_ ∧ _))

/-- The day after. -/
def next (d : Day) : Day :=
  if d.day < daysInMonth d.year d.month then { d with day := d.day + 1 }
  else if d.month < 12 then ⟨d.year, d.month + 1, 1⟩
  else ⟨d.year + 1, 1, 1⟩

/-- The day before. -/
def previous (d : Day) : Day :=
  if 1 < d.day then { d with day := d.day - 1 }
  else if 1 < d.month then ⟨d.year, d.month - 1, daysInMonth d.year (d.month - 1)⟩
  else ⟨d.year - 1, 12, 31⟩

end Day

/-- A point in time in whole seconds; a minute may have a leap second. -/
structure Timestamp where
  day : Day
  hour : Nat
  minute : Nat
  second : Nat
  valid : day.IsValid ∧ hour < 24 ∧ minute < 60 ∧ second ≤ 60
  deriving DecidableEq

namespace Timestamp

/-! ## Writing -/

/-- A number with at least the given number of digits. -/
def padded (width n : Nat) : String :=
  let digits := Nat.toDigits 10 n
  String.ofList (List.replicate (width - digits.length) '0' ++ digits)

/-- The text of a year. -/
def yearText (year : Int) : String :=
  let sign := if year < 0 then "-" else if 9999 < year then "+" else ""
  sign ++ padded 4 year.natAbs

/-- The text of a timestamp. -/
def text (t : Timestamp) : String :=
  yearText t.day.year ++ "-" ++ padded 2 t.day.month ++ "-" ++ padded 2 t.day.day ++ "T" ++
    padded 2 t.hour ++ ":" ++ padded 2 t.minute ++ ":" ++ padded 2 t.second ++ "Z"

/-! ## Reading -/

/-- Why a text is no timestamp. -/
inductive Fault where
  | ended
  | malformed
  | outOfRange
  | impossible
  | trailing
  deriving DecidableEq, Repr

/-- What a fault says. -/
def Fault.message : Fault → String
  | .ended => "premature end of input"
  | .malformed => "input contains invalid characters"
  | .outOfRange => "input is out of range"
  | .impossible => "no possible date and time matching input"
  | .trailing => "trailing input"

/-- The text without the white space before it. -/
def dropBlank (cs : List Char) : List Char :=
  cs.dropWhile Text.isBlankChar

/-- The number that digits denote. -/
def digitsValue (digits : List Char) : Nat :=
  digits.foldl (fun n c => n * 10 + (c.toNat - '0'.toNat)) 0

/-- A number of digits, of which at least one is there, and what follows. -/
def takeNumber (digits rest : List Char) : Except Fault (Nat × List Char) :=
  match digits, rest with
  | [], [] => .error .ended
  | [], _ :: _ => .error .malformed
  | digits, rest => .ok (digitsValue digits, rest)

/-- A number of at most `most` digits, and what follows. -/
def shortNumber (most : Nat) (cs : List Char) : Except Fault (Nat × List Char) :=
  let digits := (cs.take most).takeWhile Char.isDigit
  takeNumber digits (cs.drop digits.length)

/-- A number of any length that has less than 64 bits, and what follows. -/
def longNumber (cs : List Char) : Except Fault (Nat × List Char) := do
  let (digits, rest) := cs.span Char.isDigit
  let (n, rest) ← takeNumber digits rest
  if n < Nat.pow 2 63 then .ok (n, rest) else .error .outOfRange

/-- A year of less than 32 bits, and what follows; without a sign it has at most four digits. -/
def readYear (cs : List Char) : Except Fault (Int × List Char) := do
  let (year, rest) ← (match dropBlank cs with
    | '-' :: cs => (longNumber cs).map fun read => (-(read.1 : Int), read.2)
    | '+' :: cs => (longNumber cs).map fun read => ((read.1 : Int), read.2)
    | cs => (shortNumber 4 cs).map fun read => ((read.1 : Int), read.2))
  let limit : Int := (Nat.pow 2 31 : Nat)
  if -limit ≤ year ∧ year < limit then .ok (year, rest) else .error .outOfRange

/-- A number of at most two digits that lies between two bounds, and what follows. -/
def readPart (low high : Nat) (cs : List Char) : Except Fault (Nat × List Char) := do
  let (n, rest) ← shortNumber 2 (dropBlank cs)
  if low ≤ n ∧ n ≤ high then .ok (n, rest) else .error .outOfRange

/-- What follows one of the given marks. -/
def readMark (marks : List Char) : List Char → Except Fault (List Char)
  | [] => .error .ended
  | c :: cs => if marks.contains c then .ok cs else .error .malformed

/-- What follows a fraction of a second, if there is one. -/
def skipFraction : List Char → Except Fault (List Char)
  | '.' :: cs => do
    let (_, rest) ← shortNumber 9 cs
    .ok (rest.dropWhile Char.isDigit)
  | cs => .ok cs

/-- A number of exactly two digits of less than the given tens, and what follows. -/
def twoDigits (tens : Nat) : List Char → Except Fault (Nat × List Char)
  | [] => .error .ended
  | [c] => if c.utf8Size = 1 then .error .ended else .error .malformed
  | a :: b :: rest =>
    if !(a.isDigit && b.isDigit) then .error .malformed
    else if tens ≤ digitsValue [a] then .error .outOfRange
    else .ok (digitsValue [a, b], rest)

/-- The minutes of an offset after its sign, and what follows. -/
def readDistance (cs : List Char) : Except Fault (Nat × List Char) := do
  let (hours, rest) ← twoDigits 10 cs
  let (minutes, rest) ← twoDigits 6 (rest.dropWhile fun c => c = ':' || Text.isBlankChar c)
  .ok (hours * 60 + minutes, rest)

/-- The minutes by which local time is ahead of universal time, and what follows. -/
def readOffset (cs : List Char) : Except Fault (Int × List Char) :=
  if (cs.take 3).map Char.toUpper = ['U', 'T', 'C'] then .ok (0, cs.drop 3)
  else
    match cs with
    | [] => .error .ended
    | c :: cs =>
      if c = 'Z' ∨ c = 'z' then .ok (0, cs)
      else if c = '+' then (readDistance cs).map fun read => ((read.1 : Int), read.2)
      else if c = '-' ∨ c = '−' then (readDistance cs).map fun read => (-(read.1 : Int), read.2)
      else .error .malformed

/-- The timestamp of a local date and time with an offset in minutes. -/
def ofLocal (day : Day) (hour minute second : Nat) (offset : Int) : Except Fault Timestamp :=
  if day.IsValid ∧ offset.natAbs < 1440 then
    let minutes : Int := (hour * 60 + minute : Nat) - offset
    let day := if minutes < 0 then day.previous else if 1440 ≤ minutes then day.next else day
    let inDay := (minutes % 1440).toNat
    if h : day.IsValid ∧ inDay / 60 < 24 ∧ inDay % 60 < 60 ∧ second ≤ 60 then
      .ok ⟨day, inDay / 60, inDay % 60, second, h⟩
    else .error .impossible
  else .error .outOfRange

/-- The timestamp that a text gives. -/
def ofChars (cs : List Char) : Except Fault Timestamp := do
  let (year, cs) ← readYear cs
  let cs ← readMark ['-'] (dropBlank cs)
  let (month, cs) ← readPart 1 12 cs
  let cs ← readMark ['-'] (dropBlank cs)
  let (day, cs) ← readPart 1 31 cs
  let cs ← readMark ['T', 't', ' '] cs
  let (hour, cs) ← readPart 0 23 cs
  let cs ← readMark [':'] (dropBlank cs)
  let (minute, cs) ← readPart 0 59 cs
  let cs ← readMark [':'] (dropBlank cs)
  let (second, cs) ← readPart 0 60 cs
  let cs ← skipFraction cs
  let (offset, cs) ← readOffset (dropBlank cs)
  match dropBlank cs with
  | [] => ofLocal ⟨year, month, day⟩ hour minute second offset
  | _ :: _ => .error .trailing

/-- The format of timestamps. -/
def format : Format Timestamp :=
  .scalar (fun t => .str t.text)
    (fun
      | .str s =>
        match ofChars s.toList with
        | .ok t => .ok t
        | .error fault => .error (.invalid fault.message)
      | other => .error (.wrongType other "an RFC 3339 formatted date and time string"))
    (.object [("format", .str "date-time"), ("type", .str "string")])

end Timestamp

end IamReconciler
