import Vitals.Json.Text
import Vitals.Json.Number

/-!
# Reading JSON texts

How a text is taken apart. A decoder of records sees the members of the outermost object one by
one, so that wrong content in front of a flaw is reported before the flaw. This file fixes

* `readValue`, a whole value at the front of a text, with at most `depthLimit` arrays and objects
  open at once;
* `Outline`, an object as far as its text can be read: members, a member that is torn in the
  middle, a flaw where the next member should start, or the end;
* `outline`, which reads it.
-/

namespace Vitals.Json

/-- The number of arrays and objects that may be open at once. -/
abbrev depthLimit : Nat := 127

/-- Reads the remaining letters of a word such as `true`. -/
def readWord : List Char → List Char → Except Flaw (List Char)
  | [], cs => .ok cs
  | _ :: _, [] => .error .ended
  | w :: ws, c :: cs => if w = c then readWord ws cs else .error .malformed

/-- The string behind an opening quote. -/
def readString (cs : List Char) : Except Flaw (String × List Char) :=
  (readText (cs.length + 1) cs).map fun (s, rest) => (String.ofList s, rest)

/-- The colon between a key and its value. -/
def readColon (cs : List Char) : Except Flaw (List Char) :=
  match skipBlanks cs with
  | [] => .error .ended
  | ':' :: cs => .ok cs
  | _ => .error .malformed

/-- What stands behind an opening bracket or behind an item. -/
inductive Next where
  /-- The closing bracket, with what follows it. -/
  | closed (rest : List Char)
  /-- One more item, at the front of this text. -/
  | item (text : List Char)
  deriving Repr

/-- Reads up to the next item: a comma comes first unless it is the `first` one, and a comma in
front of the closing bracket is malformed. -/
def readSeparator (first : Bool) (closing : Char) (cs : List Char) : Except Flaw Next :=
  match skipBlanks cs with
  | [] => .error .ended
  | c :: cs =>
    if c = closing then .ok (.closed cs)
    else if first then .ok (.item (c :: cs))
    else if c = ',' then
      match skipBlanks cs with
      | [] => .error .ended
      | d :: ds => if d = closing then .error .malformed else .ok (.item (d :: ds))
    else .error .malformed

mutual

/-- The value at the front of a text, blanks skipped. `depth` is the number of containers that
may still be opened, `fuel` bounds the recursion and never runs out below the text's length. -/
def readValue (fuel depth : Nat) (cs : List Char) : Except Flaw (Value × List Char) :=
  match fuel with
  | 0 => .error .ended
  | fuel + 1 =>
    match skipBlanks cs with
    | [] => .error .ended
    | 'n' :: cs => (readWord ['u', 'l', 'l'] cs).map fun rest => (.null, rest)
    | 't' :: cs => (readWord ['r', 'u', 'e'] cs).map fun rest => (.bool true, rest)
    | 'f' :: cs => (readWord ['a', 'l', 's', 'e'] cs).map fun rest => (.bool false, rest)
    | '"' :: cs => (readString cs).map fun (s, rest) => (.text s, rest)
    | '[' :: cs =>
      match depth with
      | 0 => .error .malformed
      | depth + 1 => (readItems fuel depth true cs).map fun (vs, rest) => (.array vs, rest)
    | '{' :: cs =>
      match depth with
      | 0 => .error .malformed
      | depth + 1 => (readMembers fuel depth true cs).map fun (ms, rest) => (.object ms, rest)
    | c :: cs =>
      if c = '-' ∨ Numeral.isDigit c then
        (readNumber (c :: cs)).map fun (n, rest) => (.number n, rest)
      else .error .malformed

/-- The items of an array, up to and with its closing bracket. -/
def readItems (fuel depth : Nat) (first : Bool) (cs : List Char) :
    Except Flaw (List Value × List Char) :=
  match fuel with
  | 0 => .error .ended
  | fuel + 1 => do
    match ← readSeparator first ']' cs with
    | .closed rest => return ([], rest)
    | .item cs =>
      let (v, rest) ← readValue fuel depth cs
      let (vs, rest) ← readItems fuel depth false rest
      return (v :: vs, rest)

/-- The members of an object, up to and with its closing brace. -/
def readMembers (fuel depth : Nat) (first : Bool) (cs : List Char) :
    Except Flaw (List (String × Value) × List Char) :=
  match fuel with
  | 0 => .error .ended
  | fuel + 1 => do
    match ← readSeparator first '}' cs with
    | .closed rest => return ([], rest)
    | .item ('"' :: cs) =>
      let (key, rest) ← readString cs
      let rest ← readColon rest
      let (v, rest) ← readValue fuel depth rest
      let (ms, rest) ← readMembers fuel depth false rest
      return ((key, v) :: ms, rest)
    | .item _ => throw .malformed

end

/-! ## Outlines -/

/-- An object as far as its text can be read. -/
inductive Outline where
  | member (key : String) (value : Value) (next : Outline)
  /-- The key was read, but no whole value behind it. `opened` says whether the value had begun as
  an array or object. -/
  | torn (key : String) (opened : Bool) (flaw : Flaw)
  /-- Instead of a member or the closing brace there is a flaw. -/
  | stopped (flaw : Flaw)
  /-- The closing brace was read; `rest` follows it. -/
  | closed (rest : List Char)
  deriving Repr

/-- Whether the next character opens an array or object. -/
def opensContainer (cs : List Char) : Bool :=
  match skipBlanks cs with
  | '[' :: _ => true
  | '{' :: _ => true
  | _ => false

/-- The outline of the object whose opening brace was just read. -/
def outlineMembers (fuel depth : Nat) (first : Bool) (cs : List Char) : Outline :=
  match fuel with
  | 0 => .stopped .ended
  | fuel + 1 =>
    match readSeparator first '}' cs with
    | .error flaw => .stopped flaw
    | .ok (.closed rest) => .closed rest
    | .ok (.item ('"' :: cs)) =>
      match readString cs with
      | .error flaw => .stopped flaw
      | .ok (key, rest) =>
        match readColon rest with
        | .error flaw => .torn key false flaw
        | .ok rest =>
          match readValue fuel depth rest with
          | .error flaw => .torn key (opensContainer rest) flaw
          | .ok (v, rest) => .member key v (outlineMembers fuel depth false rest)
    | .ok (.item _) => .stopped .malformed

def outline (cs : List Char) : Outline :=
  outlineMembers (2 * cs.length + 2) (depthLimit - 1) true cs

end Vitals.Json
