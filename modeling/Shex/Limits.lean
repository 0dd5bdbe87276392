/-!
# Limits

Bounds on what a validation run may use: how deep shape expressions may be nested during
evaluation, how many assignments of triples to constraints may be tried, how long a regular
expression and how large a normalized triple expression may be, and how long a run may take. Time is
an input: `Limits.checkTime` says what is wrong with a run that has taken so long, and no part of
evaluation reads a clock.
-/

namespace Shex

/-- The bounds of a run. -/
structure Limits where
  /-- Nested evaluations of shape expressions. -/
  depth : Nat
  /-- Assignments tried in one run, or no bound. -/
  assignments : Option Nat
  /-- Milliseconds for one run, or no bound. -/
  timeout : Option Nat
  /-- Bytes of a regular expression in UTF-8. -/
  patternLength : Nat
  /-- Nodes of a normalized triple expression. -/
  expansion : Nat
deriving DecidableEq, Repr

namespace Limits

/-- Bounds that ordinary schemas stay within. -/
def standard : Limits := ⟨256, none, none, 1000, 100000⟩

/-- Bounds for trusted schemas. -/
def permissive : Limits := ⟨4096, none, none, 100000, 10000000⟩

/-- Bounds for schemas from anywhere. -/
def strict : Limits := ⟨64, some 100000, some 5000, 500, 10000⟩

instance : Inhabited Limits := ⟨standard⟩

end Limits

/-- A run that has taken longer than it may. Both durations are in nanoseconds. -/
structure Overtime where
  elapsed : Nat
  limit : Nat
deriving DecidableEq, Inhabited, Repr

/-- Writes `n` in units of ten to the `places`, without zeros at the end of the fraction. -/
def printScaled (n places : Nat) : String :=
  let digits := (toString (n % Nat.pow 10 places)).toList
  let fraction := List.replicate (places - digits.length) '0' ++ digits
  let significant := (fraction.reverse.dropWhile (· = '0')).reverse
  toString (n / Nat.pow 10 places) ++
    String.ofList (if significant.isEmpty then [] else '.' :: significant)

/-- Writes nanoseconds in the greatest unit of which they are at least one. -/
def printDuration (nanos : Nat) : String :=
  if 1000000000 ≤ nanos then printScaled nanos 9 ++ "s"
  else if 1000000 ≤ nanos then printScaled nanos 6 ++ "ms"
  else if 1000 ≤ nanos then printScaled nanos 3 ++ "µs"
  else toString nanos ++ "ns"

/-- The wording for a run that takes too long. -/
def Overtime.message (o : Overtime) : String :=
  "Validation timeout exceeded: elapsed " ++ printDuration o.elapsed ++ ", limit is " ++
    printDuration o.limit

/-- The bound of a run in nanoseconds. -/
def Limits.allowance? (l : Limits) : Option Nat := l.timeout.map (· * 1000000)

/-- Refuses a run that has taken `elapsed` nanoseconds, if that is more than its limits allow. -/
def Limits.checkTime (l : Limits) (elapsed : Nat) : Except Overtime Unit :=
  match l.allowance? with
  | some limit => if limit < elapsed then .error ⟨elapsed, limit⟩ else .ok ()
  | none => .ok ()

end Shex
