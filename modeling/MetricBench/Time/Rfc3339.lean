import MetricBench.Number.Integer
import MetricBench.Time.Calendar

/-!
# Instants as calendar text

An instant is a number of milliseconds since the start of 1970.  It is written as a date and a time
of day in universal time, with up to three places after the second.  Reading also accepts any
separator between date and time, an offset from universal time, more places, and a leap second at
the end of a month.
-/

namespace MetricBench.Time

/-- The milliseconds of a day. -/
def dayMillis : Int := 86400000

/-- A number as decimal digits, at least `width` of them. -/
def padded (width : Nat) (number : Nat) : List Char :=
  let digits := Nat.toDigits 10 number
  List.replicate (width - digits.length) '0' ++ digits

/-- The places after the second: three digits without trailing zeros, after a point. -/
def subsecondText (millis : Nat) : List Char :=
  if millis = 0 then []
  else '.' :: ((padded 3 millis).reverse.dropWhile (· == '0')).reverse

/-- A date and a time of day in universal time, the time counted in milliseconds. -/
def calendarText (date : Date) (millis : Nat) : List Char :=
  let seconds := millis / 1000
  padded 4 date.year.toNat ++ '-' :: padded 2 date.month ++ '-' :: padded 2 date.day ++
    'T' :: padded 2 (seconds / 3600) ++ ':' :: padded 2 (seconds / 60 % 60) ++
    ':' :: padded 2 (seconds % 60) ++ subsecondText (millis % 1000) ++ ['Z']

/-- The text of an instant; outside the years 0 to 9999 the number itself. -/
def formatInstant (instant : Int) : String :=
  let date := Date.ofDays (instant / dayMillis)
  if 0 ≤ date.year ∧ date.year ≤ 9999 then
    .ofList (calendarText date (instant % dayMillis).toNat)
  else toString instant

/-- Reads exactly `count` decimal digits. -/
def readDigits? (count : Nat) (text : List Char) : Option (Nat × List Char) :=
  let digits := text.take count
  if digits.length = count then
    (Number.digitsValue? digits).map fun value => (value, text.drop count)
  else none

/-- Reads the given character. -/
def readChar? (wanted : Char) : List Char → Option (List Char)
  | [] => none
  | c :: rest => if c = wanted then some rest else none

/-- Reads the places after a second as nanoseconds; places beyond the ninth are dropped. -/
def readNanos? (text : List Char) : Option (Nat × List Char) :=
  match text with
  | '.' :: rest =>
    let digits := rest.takeWhile Char.isDigit
    (Number.digitsValue? ((digits ++ List.replicate 9 '0').take 9)).bind fun nanos =>
      if digits.isEmpty then none else some (nanos, rest.dropWhile Char.isDigit)
  | text => some (0, text)

/-- Reads an offset from universal time up to the end of the text, as seconds. -/
def readOffset? (text : List Char) : Option Int :=
  match text with
  | ['Z'] | ['z'] => some 0
  | sign :: rest => do
    let (hours, rest) ← readDigits? 2 rest
    let rest ← readChar? ':' rest
    let (minutes, rest) ← readDigits? 2 rest
    if 23 < hours || 59 < minutes || !rest.isEmpty then none
    else
      let seconds : Int := 3600 * hours + 60 * minutes
      if sign = '+' then some seconds else if sign = '-' then some (-seconds) else none
  | [] => none

/-- Whether the second that ends at the given one is the last of a month that the calendar can
write. -/
def endsMonth (seconds : Int) : Bool :=
  let date := Date.ofDays (seconds / 86400)
  seconds % 86400 == 86399 && date.day == daysInMonth date.year date.month &&
    -9999 ≤ date.year && date.year ≤ 9999

/-- Reads the instant of a calendar text, parts of a millisecond dropped towards 1970.  A leap
second stands for the last nanosecond before it. -/
def parseCalendar? (text : List Char) : Option Int := do
  let (year, text) ← readDigits? 4 text
  let text ← readChar? '-' text
  let (month, text) ← readDigits? 2 text
  let text ← readChar? '-' text
  let (day, text) ← readDigits? 2 text
  let text ← match text with
    | separator :: rest => if separator.toNat < 128 then some rest else none
    | [] => none
  let (hour, text) ← readDigits? 2 text
  let text ← readChar? ':' text
  let (minute, text) ← readDigits? 2 text
  let text ← readChar? ':' text
  let (second, text) ← readDigits? 2 text
  let (nanos, text) ← readNanos? text
  let offset ← readOffset? text
  let date : Date := ⟨year, month, day⟩
  if !date.isValid || 23 < hour || 59 < minute || 60 < second then none
  else
    let leap := second == 60
    let seconds : Int := date.toDays * 86400 + 3600 * hour + 60 * minute + min second 59 - offset
    let nanos : Int := seconds * 1000000000 + if leap then 999999999 else nanos
    if leap && !endsMonth seconds then none else some (nanos.tdiv 1000000)

end MetricBench.Time
