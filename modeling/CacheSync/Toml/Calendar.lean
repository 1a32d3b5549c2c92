import CacheSync.Decimal.Reader

/-!
# Dates and times in TOML

A date, a time of day, or both with an optional offset from universal time.  Reading one gives its
canonical text: the letter `T` between date and time, the letter `Z` for universal time, and no
needless zeros in a fraction of a second.
-/

namespace CacheSync.Toml.Calendar

open Decimal (digitsValue spanDigits)

def isLeapYear (year : Nat) : Bool :=
  year % 4 == 0 && (year % 100 != 0 || year % 400 == 0)

/-- The number of days of a month, counted from one; no days for a number that is no month. -/
def daysOf (year month : Nat) : Nat :=
  if month = 2 then if isLeapYear year then 29 else 28
  else if month = 4 ∨ month = 6 ∨ month = 9 ∨ month = 11 then 30
  else if 1 ≤ month ∧ month ≤ 12 then 31
  else 0

/-- A number of exactly `count` digits that passes a test: the digits and what is behind them. -/
def digits? (count : Nat) (allowed : Nat → Bool) (chars : List Char) :
    Option (List Char × List Char) :=
  let found := chars.take count
  if found.length = count ∧ found.all Char.isDigit ∧ allowed (digitsValue found) then
    some (found, chars.drop count)
  else none

def expect? (wanted : Char) : List Char → Option (List Char)
  | c :: rest => if c = wanted then some rest else none
  | [] => none

def date? (chars : List Char) : Option (List Char × List Char) := do
  let (year, rest) ← digits? 4 (fun _ => true) chars
  let rest ← expect? '-' rest
  let (month, rest) ← digits? 2 (fun n => 1 ≤ n && n ≤ 12) rest
  let rest ← expect? '-' rest
  let days := daysOf (digitsValue year) (digitsValue month)
  let (day, rest) ← digits? 2 (fun n => 1 ≤ n && n ≤ days) rest
  some (year ++ '-' :: month ++ '-' :: day, rest)

/-- The digits of a fraction that count: at most nine, and no zeros at their end but the first. -/
def fractionDigits (digits : List Char) : List Char :=
  match ((digits.take 9).reverse.dropWhile (· == '0')).reverse with
  | [] => ['0']
  | kept => kept

def fraction? : List Char → Option (List Char × List Char)
  | '.' :: rest =>
      let (digits, rest) := spanDigits rest
      if digits.isEmpty then none else some ('.' :: fractionDigits digits, rest)
  | rest => some ([], rest)

def seconds? : List Char → Option (List Char × List Char)
  | ':' :: rest => do
      let (second, rest) ← digits? 2 (· ≤ 60) rest
      let (fraction, rest) ← fraction? rest
      some (':' :: second ++ fraction, rest)
  | rest => some ([], rest)

def hourMinute? (chars : List Char) : Option (List Char × List Char) := do
  let (hour, rest) ← digits? 2 (· ≤ 23) chars
  let rest ← expect? ':' rest
  let (minute, rest) ← digits? 2 (· ≤ 59) rest
  some (hour ++ ':' :: minute, rest)

def time? (chars : List Char) : Option (List Char × List Char) := do
  let (start, rest) ← hourMinute? chars
  let (seconds, rest) ← seconds? rest
  some (start ++ seconds, rest)

/-- An offset from universal time, which may be missing.  No offset is written with a plus. -/
def offset? : List Char → Option (List Char × List Char)
  | [] => some ([], [])
  | c :: rest =>
      if c = 'Z' ∨ c = 'z' then some (['Z'], rest)
      else if c = '+' ∨ c = '-' then do
        let (amount, rest) ← hourMinute? rest
        some ((if amount = "00:00".toList then '+' else c) :: amount, rest)
      else some ([], c :: rest)

def isSeparator (c : Char) : Bool :=
  c == 'T' || c == 't' || c == ' '

/-- A date, and a time with an offset if a separator follows. -/
def dateTime? (chars : List Char) : Option (List Char × List Char) := do
  let (date, rest) ← date? chars
  match rest with
  | [] => some (date, [])
  | c :: after =>
      if isSeparator c then
        let (time, rest) ← time? after
        let (offset, rest) ← offset? rest
        some (date ++ 'T' :: time ++ offset, rest)
      else none

def ofToken? (token : List Char) : Option String :=
  match (dateTime? token).or (time? token) with
  | some (canonical, []) => some (String.ofList canonical)
  | _ => none

example : ofToken? "1979-05-27 07:32z".toList = some "1979-05-27T07:32Z" := by decide +kernel
example : ofToken? "07:32:00.5000".toList = some "07:32:00.5" := by decide +kernel
example : ofToken? "2023-02-29".toList = none := by decide +kernel

end CacheSync.Toml.Calendar
