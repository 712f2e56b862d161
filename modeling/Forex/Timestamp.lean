namespace Forex

structure Timestamp where
  nanoseconds : Nat
deriving DecidableEq

namespace Timestamp

def nanosecondsPerSecond : Nat := 1000000000

def secondsPerDay : Nat := 86400

/-- Year, month and day of a day that is counted from the start of 1970. Years are taken to begin in
March, so that a leap day is the last of its year, and eras have 400 years. -/
def civil (days : Nat) : Nat × Nat × Nat :=
  let z := days + 719468
  let era := z / 146097
  let day := z % 146097
  let year := (day - day / 1460 + day / 36524 - day / 146096) / 365
  let dayOfYear := day - (365 * year + year / 4 - year / 100)
  let month := (5 * dayOfYear + 2) / 153
  let d := dayOfYear - (153 * month + 2) / 5 + 1
  let m := if month < 10 then month + 3 else month - 9
  (year + era * 400 + (if m ≤ 2 then 1 else 0), m, d)

def padded (width n : Nat) : String :=
  let digits := Nat.toDigits 10 n
  String.ofList (List.replicate (width - digits.length) '0' ++ digits)

def fraction (n : Nat) : String :=
  if n = 0 then ""
  else if n % 1000000 = 0 then "." ++ padded 3 (n / 1000000)
  else if n % 1000 = 0 then "." ++ padded 6 (n / 1000)
  else "." ++ padded 9 n

def toText (t : Timestamp) : String :=
  let seconds := t.nanoseconds / nanosecondsPerSecond
  let (year, month, day) := civil (seconds / secondsPerDay)
  let time := seconds % secondsPerDay
  padded 4 year ++ "-" ++ padded 2 month ++ "-" ++ padded 2 day ++ "T" ++
    padded 2 (time / 3600) ++ ":" ++ padded 2 (time / 60 % 60) ++ ":" ++ padded 2 (time % 60) ++
    fraction (t.nanoseconds % nanosecondsPerSecond) ++ "Z"

end Timestamp

end Forex
