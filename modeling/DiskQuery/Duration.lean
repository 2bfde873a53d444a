/-!
# Durations

A length of time in whole nanoseconds, and its shortest exact text.
-/

namespace DiskQuery

/-- The nanoseconds in a second. -/
abbrev nanosInSecond : Nat := 1000000000

/-- The nanoseconds in a millisecond. -/
abbrev nanosInMilli : Nat := 1000000

/-- The nanoseconds in a microsecond. -/
abbrev nanosInMicro : Nat := 1000

/-- Seconds, and the nanoseconds after them. -/
structure Duration where
  seconds : Nat
  nanoseconds : Nat
  nanoseconds_lt : nanoseconds < nanosInSecond
deriving DecidableEq, Repr

namespace Duration

/-- A whole number of seconds. -/
def ofSeconds (seconds : Nat) : Duration :=
  ⟨seconds, 0, by decide⟩

/-- The first `places` digits of a fraction, which read `part` as a number,
without the zeros at their end. -/
def fraction (places part : Nat) : List Char :=
  let digits := Nat.toDigits 10 part
  let padded := List.replicate (places - digits.length) '0' ++ digits
  (padded.reverse.dropWhile (· == '0')).reverse

/-- The text of so many whole units and a fraction of one.  The point is
written only if digits follow it. -/
def decimal (whole places part : Nat) (unit : String) : String :=
  match fraction places part with
  | [] => toString whole ++ unit
  | digits => toString whole ++ "." ++ String.ofList digits ++ unit

/-- The text of a duration: its exact value in the largest of seconds,
milliseconds, microseconds and nanoseconds in which the whole part is not
zero, and `0ns` for no time at all. -/
def text (d : Duration) : String :=
  if d.seconds ≠ 0 then
    decimal d.seconds 9 d.nanoseconds "s"
  else if nanosInMilli ≤ d.nanoseconds then
    decimal (d.nanoseconds / nanosInMilli) 6 (d.nanoseconds % nanosInMilli) "ms"
  else if nanosInMicro ≤ d.nanoseconds then
    decimal (d.nanoseconds / nanosInMicro) 3 (d.nanoseconds % nanosInMicro) "µs"
  else
    decimal d.nanoseconds 0 0 "ns"

end Duration

end DiskQuery
