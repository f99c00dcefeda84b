import Vitals.Numeral
import Vitals.Settings.Basic
import Vitals.Text.Word

/-!
# Log filters

A log filter is a list of directives between commas. A directive names a level, or a target, or
both: `target[span{field,field}]=level`, where everything but the target or the span may be left
out. This file fixes

* `Level`, the levels and their texts;
* `Filter.Refusal`, why a filter is refused;
* `Filter.check`, which refuses a filter.

A directive is scanned without the blanks at its ends, but its parts are cut out of it where they
would stand if it began without blanks. So a level behind a target is never read if blanks stand
in front of the directive or behind it.
-/

namespace Vitals.Logging

/-! ## 1. Levels -/

/-- The least severity that passes. -/
inductive Level where
  | off
  | error
  | warn
  | info
  | debug
  | trace
  deriving DecidableEq, Repr

namespace Level

/-- Every level, from the one that nothing passes. -/
def all : List Level :=
  [.off, .error, .warn, .info, .debug, .trace]

def name : Level → String
  | .off => "off"
  | .error => "error"
  | .warn => "warn"
  | .info => "info"
  | .debug => "debug"
  | .trace => "trace"

/-- Levels are written by number or by name, in capitals or not. -/
def ofText? (cs : List Char) : Option Level :=
  match Unsigned.parse Unsigned.bound64 cs with
  | .ok n => all[n]?
  | .error _ => all.find? fun l => l.name.toList == cs.map Char.toLower

theorem ofText?_name (l : Level) : ofText? l.name.toList = some l := by
  cases l <;> decide +kernel

end Level

/-! ## 2. Directives -/

namespace Filter

/-- Why a filter is refused. -/
inductive Refusal where
  | directive
  | level
  /-- A part would begin or end within a character. -/
  | cut
  deriving DecidableEq, Repr

/-- The wording of a refusal. -/
def Refusal.message : Refusal → String
  | .directive => "invalid filter directive"
  | .level => "error parsing level filter: expected one of \"off\", \"error\", \"warn\", "
    ++ "\"info\", \"debug\", \"trace\", or a number 0-5"
  | .cut => "a part of a filter directive begins or ends within a character"

/-- Where the scan of a directive stands; a number is the offset of the part that is read. -/
inductive Place where
  | start
  | levelOrTarget
  | span (first : Nat)
  | field (first : Nat)
  /-- Behind the fields of a span. -/
  | fields
  /-- Behind a span. -/
  | target
  | level (first : Nat)
  deriving DecidableEq, Repr

/-- The rest behind a number of bytes, unless that is within a character. -/
def dropBytes? : Nat → List Char → Option (List Char)
  | 0, cs => some cs
  | _ + 1, [] => none
  | n + 1, c :: cs => if c.utf8Size ≤ n + 1 then dropBytes? (n + 1 - c.utf8Size) cs else none

/-- Whether a part of the directive may begin or end at each of the offsets. -/
def canCut (piece : List Char) (offsets : List Nat) : Bool :=
  offsets.all fun n => (dropBytes? n piece).isSome

/-- Goes on to `next` if the part that ends here can be cut out. -/
def cutting (piece : List Char) (first last : Nat) (next : Place) : Except Refusal Place :=
  if canCut piece [first, last] then .ok next else .error .cut

/-- The place behind a field that ends here. There is no empty field. -/
def fieldEnd (piece : List Char) (first last : Nat) (next : Place) : Except Refusal Place := do
  let next ← cutting piece first last next
  if first = last then throw .directive
  return next

/-- Goes past the character at `offset` in the scanned text; `piece` is the directive with its
blanks. -/
def step (piece : List Char) (place : Place) (offset : Nat) (c : Char) : Except Refusal Place :=
  match place, c with
  | .start, '[' => .ok (.span (offset + 1))
  | .start, c =>
    if ['-', ':', '_'].contains c || Text.isWord c then .ok .levelOrTarget else .error .directive
  | .levelOrTarget, '=' => cutting piece 0 offset (.level (offset + 1))
  | .levelOrTarget, '[' => cutting piece 0 offset (.span (offset + 1))
  | .levelOrTarget, _ => .ok .levelOrTarget
  | .span first, ']' => cutting piece first offset .target
  | .span first, '\x7b' => cutting piece first offset (.field (offset + 1))
  | .span first, _ => .ok (.span first)
  | .field first, '\x7d' => fieldEnd piece first offset .fields
  | .field first, _ => .ok (.field first)
  | .fields, ']' => .ok .target
  | .fields, _ => .error .directive
  | .target, '=' => .ok (.level (offset + 1))
  | .target, _ => .error .directive
  | .level first, _ => .ok (.level first)

/-- Scans the text of a directive. -/
def scan (piece : List Char) (place : Place) (offset : Nat) : List Char → Except Refusal Place
  | [] => .ok place
  | c :: cs => do scan piece (← step piece place offset c) (offset + c.utf8Size) cs

/-- Refuses a directive. -/
def checkDirective (piece : List Char) : Except Refusal Unit := do
  match ← scan piece .start 0 (Text.trim piece) with
  | .levelOrTarget | .target => return
  | .level first =>
    match dropBytes? first piece with
    | none => throw .cut
    | some [] => return
    | some cs => if (Level.ofText? cs).isNone then throw .level
  | .start | .span _ | .field _ | .fields => throw .directive

/-- Refuses a filter at its first directive that is refused. Nothing between commas is no
directive. -/
def check (filter : String) : Except Refusal Unit :=
  ((filter.toList.splitOn ',').filter fun piece => piece ≠ []).forM checkDirective

/-- The problem of settings with a filter that is refused. -/
def problem (filter : String) (refusal : Refusal) : Fault :=
  .configuration ("invalid log level " ++ Text.quoted filter ++ ": " ++ refusal.message)

/-- The filter in force: the first one if there is one and it is not refused, else the second. -/
def choose (first : Option String) (second : String) : Except Refusal String :=
  match first.map fun filter => (filter, check filter) with
  | some (filter, .ok ()) => .ok filter
  | some (_, .error .cut) => .error .cut
  | _ => (check second).map fun _ => second

end Filter

end Vitals.Logging
