import Vitals.Duration.Basic
import Vitals.Text.Blank

/-!
# Durations in settings

Settings give durations as numbers with units, `1h 30m` or `1.5s`. This file fixes

* `TimeUnit`, the units with their names;
* `Duration.text`, the written form: the count of every unit that is not zero, largest first;
* `Duration.ofText`, the reader, which takes blanks between and inside numbers, decimal fractions
  as long as they come out exact, and any order of units. A refusal says where the text went
  wrong, counted in bytes.
-/

namespace Vitals

/-! ## 1. Units -/

inductive TimeUnit where
  | nanosecond
  | microsecond
  | millisecond
  | second
  | minute
  | hour
  | day
  | week
  | month
  | year
  deriving DecidableEq, Repr

namespace TimeUnit

def all : List TimeUnit :=
  [.nanosecond, .microsecond, .millisecond, .second, .minute, .hour, .day, .week, .month, .year]

/-- The length of a unit in nanoseconds. A year has 365 days and a quarter, a month is a twelfth
of a year rounded to the second. -/
def nanos : TimeUnit → Nat
  | .nanosecond => 1
  | .microsecond => 1000
  | .millisecond => 1000000
  | .second => 1000000000
  | .minute => 60 * 1000000000
  | .hour => 3600 * 1000000000
  | .day => 86400 * 1000000000
  | .week => 604800 * 1000000000
  | .month => 2630016 * 1000000000
  | .year => 31557600 * 1000000000

/-- The names a unit goes by. -/
def names : TimeUnit → List String
  | .nanosecond => ["nanos", "nsec", "ns"]
  | .microsecond => ["usec", "us", "µs"]
  | .millisecond => ["millis", "msec", "ms"]
  | .second => ["seconds", "second", "secs", "sec", "s"]
  | .minute => ["minutes", "minute", "min", "mins", "m"]
  | .hour => ["hours", "hour", "hr", "hrs", "h"]
  | .day => ["days", "day", "d"]
  | .week => ["weeks", "week", "wk", "wks", "w"]
  | .month => ["months", "month", "M"]
  | .year => ["years", "year", "yr", "yrs", "y"]

def ofName? (name : String) : Option TimeUnit :=
  all.find? fun u => u.names.contains name

/-- The nanoseconds in which whole counts of a unit are added up: one, or those of a second. -/
def grain : TimeUnit → Nat
  | .nanosecond | .microsecond | .millisecond => 1
  | _ => 1000000000

/-- The nanoseconds in which fractions of a unit are added up; a nanosecond has no fractions. -/
def fractionGrain : TimeUnit → Option Nat
  | .nanosecond => none
  | .microsecond | .millisecond | .second | .minute => some 1
  | _ => some (1000000000)

end TimeUnit

namespace Duration

/-! ## 2. Writing -/

/-- The count of a unit behind its number, nothing for none. Counts other than one take the second
form of the name. -/
def item (n : Nat) (one many : List Char) : List (List Char) :=
  if n = 0 then [] else [Numeral.digits n ++ (if n = 1 then one else many)]

/-- The counts of a duration, largest unit first. -/
def items (d : Duration) : List (List Char) :=
  let s := d.seconds
  let inYear := s % 31557600
  let inMonth := inYear % 2630016
  let inDay := inMonth % 86400
  let n := d.subsecond
  item (s / 31557600) "year".toList "years".toList
    ++ item (inYear / 2630016) "month".toList "months".toList
    ++ item (inMonth / 86400) "day".toList "days".toList
    ++ item (inDay / 3600) ['h'] ['h']
    ++ item (inDay % 3600 / 60) ['m'] ['m']
    ++ item (inDay % 60) ['s'] ['s']
    ++ item (n / 1000000) ['m', 's'] ['m', 's']
    ++ item (n / 1000 % 1000) ['u', 's'] ['u', 's']
    ++ item (n % 1000) ['n', 's'] ['n', 's']

/-- The text of a duration in settings. -/
def text (d : Duration) : List Char :=
  if d.nanos = 0 then ['0', 's'] else [' '].intercalate d.items

/-! ## 3. Reading -/

/-- Why a text is no duration. -/
inductive Refusal where
  | empty
  /-- A number does not begin where the reader looked for one. -/
  | numberExpected (offset : Nat)
  | invalidCharacter (offset : Nat)
  | unitMissing (count : Nat)
  | unitUnknown (name : String)
  /-- The duration is too long, or not a whole number of nanoseconds. -/
  | tooLarge
  deriving DecidableEq, Repr

/-- The wording of a refusal. -/
def Refusal.message : Refusal → String
  | .empty => "value was empty"
  | .numberExpected offset => "expected number at " ++ Numeral.text offset
  | .invalidCharacter offset => "invalid character at " ++ Numeral.text offset
  | .unitMissing count =>
    let n := Numeral.text count
    "time unit needed, for example " ++ n ++ "sec or " ++ n ++ "ms"
  | .unitUnknown name => "unknown time unit \"" ++ name
    ++ "\", supported units: ns, us/µs, ms, sec, min, hours, days, weeks, months, years "
    ++ "(and few variations)"
  | .tooLarge => "number is too large or cannot be represented without a lack of precision "
    ++ "(values below 1ns are not supported)"

/-- A decimal fraction below one. -/
structure Fraction where
  numerator : Nat
  denominator : Nat
  deriving DecidableEq, Repr

/-- A count that stays in 64 bits. -/
def bounded (n : Nat) : Except Refusal Nat :=
  if n < Unsigned.bound64 then .ok n else .error .tooLarge

/-- One more decimal. Neither part of a fraction may leave 64 bits. -/
def Fraction.push (f : Fraction) (digit : Nat) : Except Refusal Fraction := do
  let denominator ← bounded (f.denominator * 10)
  let numerator ← bounded (f.numerator * 10 + digit)
  return ⟨numerator, denominator⟩

/-- Where the reader stands. -/
inductive Place where
  /-- In front of a number, looking for it since an offset. -/
  | between (since : Nat)
  | whole (n : Nat)
  /-- Behind the point; a wrong character is reported at `offset`. -/
  | decimals (n : Nat) (f : Fraction) (offset : Nat)
  /-- In a unit, whose letters are kept backwards. -/
  | unit (n : Nat) (f : Option Fraction) (letters : List Char)
  deriving DecidableEq, Repr

def isUnitLetter (c : Char) : Bool :=
  decide ('a' ≤ c ∧ c ≤ 'z') || decide ('A' ≤ c ∧ c ≤ 'Z') || decide (c = 'µ')

/-- Adds nanoseconds, counted in grains, to a duration read so far. -/
def add (total count grain : Nat) : Except Refusal Nat := do
  let _ ← bounded
    (if grain = 1 then total % 1000000000 + count else total / 1000000000 + count)
  let sum := total + count * grain
  if sum < UInt64.size * 1000000000 then return sum else throw .tooLarge

/-- Adds a count of a unit, and a fraction of one, to a duration read so far. -/
def addItem (total n : Nat) (f : Option Fraction) (name : List Char) : Except Refusal Nat := do
  if name = [] then throw (.unitMissing n)
  let some u := TimeUnit.ofName? (String.ofList name) | throw (.unitUnknown (String.ofList name))
  let whole ← bounded (n * (u.nanos / u.grain))
  let total ← add total whole u.grain
  let some f := f | return total
  let some grain := u.fractionGrain | throw .tooLarge
  let parts ← bounded (f.numerator * (u.nanos / grain))
  if parts % f.denominator = 0 then add total (parts / f.denominator) grain else throw .tooLarge

/-- Reads on. `total` is the duration of the items so far, if there were any, and `offset` the
number of bytes in front of the rest. -/
def readOn (total : Option Nat) (place : Place) (offset : Nat) :
    List Char → Except Refusal Nat
  | [] =>
    match place with
    | .between _ => total.elim (.error .empty) .ok
    | .whole n => addItem (total.getD 0) n none []
    | .decimals n f off =>
      if f.denominator = 1 then .error (.invalidCharacter off)
      else addItem (total.getD 0) n (some f) []
    | .unit n f letters => addItem (total.getD 0) n f letters.reverse
  | c :: cs =>
    let next := offset + c.utf8Size
    match place with
    | .between since =>
      if Numeral.isDigit c then readOn total (.whole (Numeral.digitValue c)) next cs
      else if Text.isBlank c then readOn total (.between since) next cs
      else .error (.numberExpected since)
    | .whole n =>
      if Numeral.isDigit c then do
        readOn total (.whole (← bounded (n * 10 + Numeral.digitValue c))) next cs
      else if Text.isBlank c then readOn total (.whole n) next cs
      else if isUnitLetter c then readOn total (.unit n none [c]) next cs
      else if c = '.' then readOn total (.decimals n ⟨0, 1⟩ offset) next cs
      else .error (.invalidCharacter offset)
    | .decimals n f off =>
      if Numeral.isDigit c then do
        readOn total (.decimals n (← f.push (Numeral.digitValue c)) next) next cs
      else if Text.isBlank c then readOn total (.decimals n f next) next cs
      else if isUnitLetter c && f.denominator != 1 then readOn total (.unit n (some f) [c]) next cs
      else .error (.invalidCharacter off)
    | .unit n f letters =>
      if Numeral.isDigit c then do
        readOn (some (← addItem (total.getD 0) n f letters.reverse))
          (.whole (Numeral.digitValue c)) next cs
      else if Text.isBlank c then do
        readOn (some (← addItem (total.getD 0) n f letters.reverse)) (.between next) next cs
      else if isUnitLetter c then readOn total (.unit n f (c :: letters)) next cs
      else .error (.invalidCharacter offset)

/-- Reads a duration; a lone zero needs no unit. -/
def ofText (cs : List Char) : Except Refusal Duration := do
  if cs = ['0'] then return default
  let n ← readOn none (.between 0) 0 cs
  let some d := ofNanos? n | throw .tooLarge
  return d

/-- Reads a duration between blanks. -/
def ofSetting (cs : List Char) : Except Refusal Duration :=
  ofText (Text.trim cs)

end Duration

end Vitals
