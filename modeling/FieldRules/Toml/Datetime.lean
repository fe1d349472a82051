/-!
# Dates and times

A date, a time of day, or both with an optional offset from universal time. `read?` checks that the
date exists and that the time is at most a leap second past the minute; `text` writes the canonical
form, in which seconds are absent if they were not given and a fraction has no trailing zeros.
-/

namespace FieldRules.Toml

structure Date where
  year : Nat
  month : Nat
  day : Nat
deriving DecidableEq

structure Time where
  hour : Nat
  minute : Nat
  second : Option Nat
  nanosecond : Option Nat
deriving DecidableEq

inductive Offset
  | utc
  | minutes (east : Int)
deriving DecidableEq

inductive Datetime
  | dateOnly (date : Date)
  | timeOnly (time : Time)
  | dateTime (date : Date) (time : Time) (offset : Option Offset)
deriving DecidableEq

namespace Date

def isLeap (year : Nat) : Bool := year % 4 = 0 && (year % 100 ≠ 0 || year % 400 = 0)

def daysIn (year month : Nat) : Nat :=
  if month = 2 then (if isLeap year then 29 else 28)
  else if month = 4 ∨ month = 6 ∨ month = 9 ∨ month = 11 then 30
  else 31

def isValid (d : Date) : Bool :=
  1 ≤ d.month && d.month ≤ 12 && 1 ≤ d.day && d.day ≤ daysIn d.year d.month

end Date

def Time.isValid (t : Time) : Bool := t.hour ≤ 23 && t.minute ≤ 59 && t.second.all (· ≤ 60)

namespace Datetime

def digit? (c : Char) : Option Nat := if c.isDigit then some (c.toNat - 48) else none

def readNumber? : (count value : Nat) → List Char → Option (Nat × List Char)
  | 0, value, cs => some (value, cs)
  | count + 1, value, c :: cs => (digit? c).bind fun d => readNumber? count (value * 10 + d) cs
  | _ + 1, _, [] => none

def readDate? (cs : List Char) : Option (Date × List Char) := do
  let (year, cs) ← readNumber? 4 0 cs
  match cs with
  | '-' :: cs =>
    let (month, cs) ← readNumber? 2 0 cs
    match cs with
    | '-' :: cs =>
      let (day, cs) ← readNumber? 2 0 cs
      let date : Date := ⟨year, month, day⟩
      if date.isValid then some (date, cs) else none
    | _ => none
  | _ => none

/-- The first nine digits of a fraction as nanoseconds. -/
def nanoseconds (digits : List Char) : Nat :=
  (digits.take 9 ++ List.replicate (9 - digits.length) '0').foldl
    (fun n c => n * 10 + (c.toNat - 48)) 0

def readTime? (cs : List Char) : Option (Time × List Char) := do
  let (hour, cs) ← readNumber? 2 0 cs
  match cs with
  | ':' :: cs =>
    let (minute, cs) ← readNumber? 2 0 cs
    let (second, nanosecond, cs) ←
      match cs with
      | ':' :: cs => do
        let (second, cs) ← readNumber? 2 0 cs
        match cs with
        | '.' :: cs =>
          match cs.span Char.isDigit with
          | ([], _) => none
          | (digits, cs) => some (some second, some (nanoseconds digits), cs)
        | cs => some (some second, none, cs)
      | cs => some (none, none, cs)
    let time : Time := ⟨hour, minute, second, nanosecond⟩
    if time.isValid then some (time, cs) else none
  | _ => none

def readOffset? : List Char → Option (Option Offset)
  | [] => some none
  | ['Z'] => some (some .utc)
  | ['z'] => some (some .utc)
  | sign :: cs =>
    if sign = '+' ∨ sign = '-' then do
      let (hours, cs) ← readNumber? 2 0 cs
      match cs with
      | ':' :: cs =>
        let (minutes, cs) ← readNumber? 2 0 cs
        let east : Int := hours * 60 + minutes
        if cs.isEmpty && hours ≤ 23 && minutes ≤ 59 then
          some (some (.minutes (if sign = '-' then -east else east)))
        else none
      | _ => none
    else none

def read? (cs : List Char) : Option Datetime :=
  match readDate? cs with
  | some (date, []) => some (.dateOnly date)
  | some (date, c :: cs) =>
    if c = 'T' ∨ c = 't' ∨ c = ' ' then do
      let (time, cs) ← readTime? cs
      some (.dateTime date time (← readOffset? cs))
    else none
  | none =>
    match readTime? cs with
    | some (time, []) => some (.timeOnly time)
    | _ => none

def padded (width n : Nat) : String :=
  let digits := Nat.toDigits 10 n
  String.ofList (List.replicate (width - digits.length) '0' ++ digits)

def fractionText (nanosecond : Nat) : String :=
  let digits := ((padded 9 nanosecond).toList.reverse.dropWhile (· = '0')).reverse
  "." ++ String.ofList (if digits.isEmpty then ['0'] else digits)

def dateText (d : Date) : String :=
  padded 4 d.year ++ "-" ++ padded 2 d.month ++ "-" ++ padded 2 d.day

def timeText (t : Time) : String :=
  padded 2 t.hour ++ ":" ++ padded 2 t.minute
    ++ (t.second.map fun s => ":" ++ padded 2 s).getD ""
    ++ (t.nanosecond.map fractionText).getD ""

def offsetText : Offset → String
  | .utc => "Z"
  | .minutes east =>
    let n := east.natAbs
    (if east < 0 then "-" else "+") ++ padded 2 (n / 60) ++ ":" ++ padded 2 (n % 60)

def text : Datetime → String
  | .dateOnly d => dateText d
  | .timeOnly t => timeText t
  | .dateTime d t offset => dateText d ++ "T" ++ timeText t ++ (offset.map offsetText).getD ""

end Datetime

end FieldRules.Toml
