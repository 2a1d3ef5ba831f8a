import Questionnaire.Calendar.Moment
import Questionnaire.Calendar.TimeSpan
import Questionnaire.Decimal.Text

/-!
Moments and spans as text.

A moment is written as a date, with the time of day after a `T` unless it is midnight. A span is
written `[days.]hours:minutes:seconds` with a sign in front of the whole.
-/

namespace Questionnaire

namespace Calendar

def padded (width n : Nat) : List Char :=
  let ds := Decimal.digits n
  List.replicate (width - ds.length) '0' ++ ds

/-- A year in at least four characters, the sign among them. -/
def yearChars (year : Int) : List Char :=
  if year < 0 then '-' :: padded 3 year.natAbs else padded 4 year.natAbs

/-- Reads a number of exactly `count` digits. -/
def readFixed? : (count value : Nat) → List Char → Option (Nat × List Char)
  | 0, value, cs => some (value, cs)
  | _ + 1, _, [] => none
  | count + 1, value, c :: cs =>
    match Decimal.digit? c with
    | some d => readFixed? count (value * 10 + d) cs
    | none => none

def readMark? (mark : Char) : List Char → Option (List Char)
  | c :: cs => if c = mark then some cs else none
  | [] => none

/-- Reads a date: an optional sign, four digits of a year, two of a month and two of a day. -/
def readDate? (cs : List Char) : Option ((Int × Nat × Nat) × List Char) := do
  let (negative, cs) := match cs with
    | '-' :: rest => (true, rest)
    | '+' :: rest => (false, rest)
    | rest => (false, rest)
  let (year, cs) ← readFixed? 4 0 cs
  let cs ← readMark? '-' cs
  let (month, cs) ← readFixed? 2 0 cs
  let cs ← readMark? '-' cs
  let (day, cs) ← readFixed? 2 0 cs
  return ((if negative then -(year : Int) else year, month, day), cs)

/-- Reads a time of day, with or without seconds, that ends the text. -/
def readClock? (cs : List Char) : Option (Nat × Nat × Nat) := do
  let (hour, cs) ← readFixed? 2 0 cs
  let cs ← readMark? ':' cs
  let (minute, cs) ← readFixed? 2 0 cs
  match cs with
  | [] => return (hour, minute, 0)
  | cs =>
    let cs ← readMark? ':' cs
    let (second, cs) ← readFixed? 2 0 cs
    match cs with
    | [] => return (hour, minute, second)
    | _ => none

end Calendar

namespace Moment

open Calendar

def chars (m : Moment) : List Char :=
  yearChars m.year ++ '-' :: (padded 2 m.month ++ '-' :: padded 2 m.day) ++
    if m.isMidnight then []
    else 'T' :: (padded 2 m.hour ++ ':' :: (padded 2 m.minute ++ ':' :: padded 2 m.second))

/-- Reads a date, or a date and a time of day with a blank or a `T` between them. -/
def read? (cs : List Char) : Option Moment := do
  let ((year, month, day), rest) ← readDate? cs
  match rest with
  | [] => ofFields? year month day 0 0 0
  | c :: rest =>
    if c = ' ' ∨ c = 'T' then
      let (hour, minute, second) ← readClock? rest
      ofFields? year month day hour minute second
    else none

end Moment

namespace TimeSpan

open Calendar

/-- The text of a span, made from its exact size. That size is a count of 64 bits again for every span but
the least, where taking it would overflow. -/
def chars (t : TimeSpan) : List Char :=
  let total := t.seconds.natAbs
  let clock :=
    padded 2 (total % 86400 / 3600) ++ ':' :: (padded 2 (total % 3600 / 60) ++ ':' ::
      padded 2 (total % 60))
  (if t.seconds < 0 then ['-'] else []) ++
    (if 86400 ≤ total then Decimal.digits (total / 86400) ++ '.' :: clock else clock)

def readCount? (cs : List Char) : Option Nat :=
  if cs.isEmpty then none
  else cs.foldlM (fun n c => (Decimal.digit? c).map (n * 10 + ·)) 0

/-- The value of a part of a clock: one or two digits. -/
def readPart? (cs : List Char) : Option Nat := if cs.length ≤ 2 then readCount? cs else none

def readClock? (cs : List Char) : Option Nat := do
  let (hours, minutes, seconds) ← match Text.splitAll ':' cs with
    | [h, m] => some (h, m, ['0'])
    | [h, m, s] => some (h, m, s)
    | _ => none
  let hours ← readPart? hours
  let minutes ← readPart? minutes
  let seconds ← readPart? seconds
  if hours ≤ 23 ∧ minutes ≤ 59 ∧ seconds ≤ 59 then
    return hours * 3600 + minutes * 60 + seconds
  else none

def read? (cs : List Char) : Option TimeSpan := do
  let (negative, cs) := match cs with
    | '-' :: rest => (true, rest)
    | rest => (false, rest)
  let (days, clock) ← match Text.splitOnce? '.' cs with
    | some (days, clock) => (readCount? days).map fun days => (days, clock)
    | none => some (0, cs)
  let clock ← readClock? clock
  let total := days * 86400 + clock
  if total < twoTo 63 then ofSeconds? (if negative then -(total : Int) else total) else none

end TimeSpan

end Questionnaire
