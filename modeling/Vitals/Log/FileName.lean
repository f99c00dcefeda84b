import Vitals.Numeral

/-!
# Names of log files

The file that records go to is named after the time it was begun, a file that is full after the
time it was begun and the time it was put aside, both in nanoseconds. This file fixes the two
names, and `createdAt?`, which reads the time of creation off either of them, so that a reader of
the log can put the files in order.
-/

namespace Vitals.Log.FileName

open Vitals.Numeral

/-- What every name begins with. -/
def stem : List Char :=
  ['s', 'n', 'a', 'p', 's', 'h', 'o', 't', 's']

/-- The name of the file that records go to. -/
def active (created : Nat) : List Char :=
  stem ++ '-' :: digits created

/-- The name of a file that was put aside. -/
def rotated (created put : Nat) : List Char :=
  active created ++ '-' :: digits put

/-- What follows `front` in a text that begins with it. -/
def after? : List Char → List Char → Option (List Char)
  | [], cs => some cs
  | _ :: _, [] => none
  | f :: fs, c :: cs => if f = c then after? fs cs else none

/-- The time of creation in a file's name, if it is a name of a log file: the number up to the
next dash, below `2 ^ 128`. A plus sign in front of the number is allowed. -/
def createdAt? (name : List Char) : Option Nat := do
  let rest ← after? (stem ++ ['-']) name
  (Unsigned.parse Unsigned.bound128 (rest.takeWhile (· ≠ '-'))).toOption

end Vitals.Log.FileName
