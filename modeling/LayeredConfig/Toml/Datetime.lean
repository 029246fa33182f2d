import LayeredConfig.Decimal.Reader
import LayeredConfig.Decimal.Layout

/-!
# TOML dates and times

A date, a time of day, or both with an optional distance from universal time. `Datetime.read` takes
one off the front of a text, `Datetime.ofText?` reads a whole text as one, and `Datetime.text` writes
it in one canonical form.
-/

namespace LayeredConfig.Toml

open LayeredConfig.Text (isDigit digitValue)

/-- A day of the calendar. -/
structure Date where
  year : Nat
  month : Nat
  day : Nat
deriving DecidableEq, Repr

/-- A time of day. -/
structure Time where
  hour : Nat
  minute : Nat
  second : Nat
  nanosecond : Nat
deriving DecidableEq, Repr

/-- A distance from universal time. -/
inductive Offset where
  | universal
  | minutes (value : Int)
deriving DecidableEq, Repr

/-- A date, a time of day, or both. -/
structure Datetime where
  date : Option Date
  time : Option Time
  offset : Option Offset
deriving DecidableEq, Repr

/-- The number of days of a month. -/
def daysOf (year month : Nat) : Nat :=
  if month = 2 then
    if year % 4 = 0 && (year % 100 ≠ 0 || year % 400 = 0) then 29 else 28
  else if [4, 6, 9, 11].contains month then 30
  else 31

/-- The outcome of reading: absent, malformed beyond doubt, or found with the text after it. -/
inductive Found (α : Type) where
  | absent
  | malformed
  | found (value : α) (rest : List Char)

/-- Reads a number of exactly `count` digits. -/
def readDigits (count : Nat) (s : List Char) : Option (Nat × List Char) :=
  let digits := s.take count
  if digits.length = count && digits.all isDigit then some (Decimal.ofDigits digits, s.drop count)
  else none

/-- Reads two digits within bounds. -/
def readTwoDigits (least greatest : Nat) (s : List Char) : Option (Nat × List Char) :=
  match readDigits 2 s with
  | some (n, rest) => if least ≤ n && n ≤ greatest then some (n, rest) else none
  | none => none

/-- Reads a date. -/
def readDate (s : List Char) : Found Date :=
  match readDigits 4 s with
  | some (year, '-' :: rest) => match readTwoDigits 1 12 rest with
    | some (month, '-' :: rest) => match readTwoDigits 1 31 rest with
      | some (day, rest) =>
        if daysOf year month < day then .malformed else .found ⟨year, month, day⟩ rest
      | none => .malformed
    | _ => .malformed
  | _ => .absent

/-- The nanoseconds of the digits after the point of a second; only nine of them count. -/
def nanoseconds (digits : List Char) : Nat :=
  let digits := digits.take 9
  Decimal.ofDigits digits * Nat.pow 10 (9 - digits.length)

/-- Reads a time of day. -/
def readTime (s : List Char) : Found Time :=
  match readTwoDigits 0 23 s with
  | some (hour, ':' :: rest) => match readTwoDigits 0 59 rest with
    | some (minute, ':' :: rest) => match readTwoDigits 0 60 rest with
      | some (second, '.' :: rest) =>
        let digits := rest.takeWhile isDigit
        if digits.isEmpty then .found ⟨hour, minute, second, 0⟩ ('.' :: rest)
        else .found ⟨hour, minute, second, nanoseconds digits⟩ (rest.dropWhile isDigit)
      | some (second, rest) => .found ⟨hour, minute, second, 0⟩ rest
      | none => .malformed
    | _ => .malformed
  | _ => .absent

/-- Reads a distance from universal time. -/
def readOffset : List Char → Found Offset
  | [] => .absent
  | c :: rest =>
    if c = 'Z' || c = 'z' then .found .universal rest
    else if c = '+' || c = '-' then match readTwoDigits 0 23 rest with
      | some (hours, ':' :: rest) => match readTwoDigits 0 59 rest with
        | some (minutes, rest) =>
          let total : Int := hours * 60 + minutes
          .found (.minutes (if c = '-' then -total else total)) rest
        | none => .malformed
      | _ => .malformed
    else .absent

/-- Reads the time after a date, if one follows, with its distance from universal time. -/
def readTimeAfter (date : Date) (s : List Char) : Found Datetime :=
  let dateOnly := Found.found (Datetime.mk (some date) none none) s
  match s with
  | c :: rest =>
    if c = 'T' || c = 't' || c = ' ' then match readTime rest with
      | .absent => dateOnly
      | .malformed => .malformed
      | .found time rest => match readOffset rest with
        | .absent => .found ⟨some date, some time, none⟩ rest
        | .malformed => .malformed
        | .found offset rest => .found ⟨some date, some time, some offset⟩ rest
    else dateOnly
  | [] => dateOnly

/-- Reads a date or time. -/
def Datetime.read (s : List Char) : Found Datetime :=
  match readDate s with
  | .malformed => .malformed
  | .found date rest => readTimeAfter date rest
  | .absent => match readTime s with
    | .absent => .absent
    | .malformed => .malformed
    | .found time rest => .found ⟨none, some time, none⟩ rest

/-- The date or time that a whole text is. -/
def Datetime.ofText? (text : String) : Option Datetime :=
  match Datetime.read text.toList with
  | .found d [] => some d
  | _ => none

/-- A number with zeros before it up to a width. -/
def padded (width n : Nat) : List Char :=
  let digits := Decimal.digitsOf n
  List.replicate (width - digits.length) '0' ++ digits

/-- A date as a text. -/
def Date.text (d : Date) : List Char :=
  padded 4 d.year ++ '-' :: padded 2 d.month ++ '-' :: padded 2 d.day

/-- A time as a text; the fraction of the second has no zeros at its end. -/
def Time.text (t : Time) : List Char :=
  let fraction :=
    if t.nanosecond = 0 then []
    else '.' :: ((padded 9 t.nanosecond).reverse.dropWhile (· = '0')).reverse
  padded 2 t.hour ++ ':' :: padded 2 t.minute ++ ':' :: padded 2 t.second ++ fraction

/-- A distance from universal time as a text. -/
def Offset.text : Offset → List Char
  | universal => ['Z']
  | minutes value =>
    (if value < 0 then '-' else '+') :: padded 2 (value.natAbs / 60) ++ ':' ::
      padded 2 (value.natAbs % 60)

/-- A date or time as a text. -/
def Datetime.text (d : Datetime) : String :=
  let date := d.date.elim [] Date.text
  let time := d.time.elim [] Time.text
  let between := if d.date.isSome && d.time.isSome then ['T'] else []
  String.ofList (date ++ between ++ time ++ d.offset.elim [] Offset.text)

end LayeredConfig.Toml
