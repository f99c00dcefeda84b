import Vitals.Json.Text

/-!
# YAML lexemes

Settings are written in a part of YAML: mappings and sequences in block and flow style, scalars on
one line, comments, and the marks that begin and end a document. This file fixes

* `Lexeme`, a mark or a scalar with its place;
* `Lexeme.ofText?`, which splits a text into lexemes, line by line: no lexeme goes on beyond its
  line. It refuses characters that cannot stand in a YAML text, tabs in an indentation, marks of
  other parts of YAML, and quotes that are not closed on their line.
-/

namespace Vitals.Yaml

/-! ## 1. Characters -/

/-- The ends of lines. -/
def isBreak (c : Char) : Bool :=
  c.toNat == 0x0A || c.toNat == 0x0D || c.toNat == 0x85 || c.toNat == 0x2028 || c.toNat == 0x2029

def isSpace (c : Char) : Bool :=
  c == ' ' || c == '\t'

/-- The characters that may stand in a text. -/
def isAllowed (c : Char) : Bool :=
  let n := c.toNat
  n == 0x09 || n == 0x0A || n == 0x0D || (decide (0x20 ≤ n) && decide (n ≤ 0x7E)) || n == 0x85
    || (decide (0xA0 ≤ n) && n != 0xFEFF && n != 0xFFFE && n != 0xFFFF)

/-- Cuts a text into lines; a carriage return and a line feed are one end. `line` is the line so
far, backwards. -/
def lines (line : List Char) : List Char → List (List Char)
  | [] => [line.reverse]
  | '\r' :: '\n' :: cs => line.reverse :: lines [] cs
  | c :: cs => if isBreak c then line.reverse :: lines [] cs else lines (c :: line) cs

/-- Whether a mark in front of `cs` stands alone. -/
def standsAlone (cs : List Char) : Bool :=
  cs.head?.all isSpace

/-- The marks of flow style. -/
def flowMarks : List Char :=
  [',', '[', ']', '\x7b', '\x7d']

/-- The characters that no plain scalar begins with, unless they stand for themselves in front of
other text. -/
def indicators : List Char :=
  ['-', '?', ':', ',', '[', ']', '\x7b', '\x7d', '#', '&', '*', '!', '|', '>', '\'', '"', '%', '@',
    '\x60']

/-! ## 2. Scalars -/

/-- Whether a plain scalar ends in front of `cs`. -/
def endsPlain (inFlow : Bool) : List Char → Bool
  | [] => true
  | c :: cs => (c == ':' && standsAlone cs) || (inFlow && flowMarks.contains c)

/-- Reads a plain scalar. `spaces` were read and belong to it if more text follows; `done` is the
text so far, backwards. -/
def readPlain (inFlow : Bool) (spaces done : List Char) :
    List Char → Option (List Char × List Char)
  | [] => some (done.reverse, [])
  | c :: cs =>
    if isSpace c then readPlain inFlow (c :: spaces) done cs
    else if endsPlain inFlow (c :: cs) || (c == '#' && spaces != []) then
      some (done.reverse, c :: cs)
    else if inFlow && c == ':' && cs.head?.any (fun d => d == '?' || flowMarks.contains d) then none
    else readPlain inFlow [] (c :: (spaces ++ done)) cs

/-- Reads a scalar in single quotes, behind the opening quote. -/
def readSingle (done : List Char) : List Char → Option (List Char × List Char)
  | [] => none
  | '\'' :: '\'' :: cs => readSingle ('\'' :: done) cs
  | '\'' :: cs => some (done.reverse, cs)
  | c :: cs => readSingle (c :: done) cs

/-- What a letter behind a backslash stands for. -/
def escaped? : Char → Option Char
  | '0' => some '\x00'
  | 'a' => some '\x07'
  | 'b' => some '\x08'
  | 't' | '\t' => some '\t'
  | 'n' => some '\n'
  | 'v' => some '\x0b'
  | 'f' => some '\x0c'
  | 'r' => some '\r'
  | 'e' => some '\x1b'
  | ' ' => some ' '
  | '"' => some '"'
  | '/' => some '/'
  | '\\' => some '\\'
  | 'N' => some '\u0085'
  | '_' => some '\u00a0'
  | 'L' => some '\u2028'
  | 'P' => some '\u2029'
  | _ => none

/-- The number of hexadecimal digits that a letter behind a backslash asks for. -/
def codeLength? : Char → Option Nat
  | 'x' => some 2
  | 'u' => some 4
  | 'U' => some 8
  | _ => none

/-- The number that hexadecimal digits stand for, if all are digits. -/
def hexadecimal? (cs : List Char) : Option Nat :=
  cs.foldlM (fun n c => (Json.hexValue? c).map (n * 16 + ·)) 0

/-- The character with a given code, if there is one. -/
def charOf? (n : Nat) : Option Char :=
  if n.isValidChar then some (Char.ofNat n) else none

/-- Reads a scalar in double quotes, behind the opening quote. -/
def readDouble (fuel : Nat) (done : List Char) : List Char → Option (List Char × List Char)
  | [] => none
  | '"' :: cs => some (done.reverse, cs)
  | '\\' :: c :: cs =>
    match fuel with
    | 0 => none
    | fuel + 1 =>
      match codeLength? c with
      | some n => do
        if cs.length < n then none
        let d ← charOf? (← hexadecimal? (cs.take n))
        readDouble fuel (d :: done) (cs.drop n)
      | none => do
        let d ← escaped? c
        readDouble fuel (d :: done) cs
  | c :: cs =>
    match fuel with
    | 0 => none
    | fuel + 1 => readDouble fuel (c :: done) cs

/-! ## 3. Lexemes -/

inductive Mark where
  | dash
  | colon
  | comma
  | openSequence
  | closeSequence
  | openMapping
  | closeMapping
  | documentStart
  | documentEnd
  /-- A scalar, and whether it stands there without quotes. -/
  | scalar (text : String) (isPlain : Bool)
  deriving DecidableEq, Repr

structure Lexeme where
  mark : Mark
  line : Nat
  column : Nat
  deriving DecidableEq, Repr

namespace Lexeme

/-- Where the splitting of a line stands. -/
structure Place where
  line : Nat
  column : Nat := 0
  /-- The number of open brackets. -/
  depth : Nat
  /-- Whether a block may begin here: the line has only dashes so far. -/
  fresh : Bool := true
  deriving DecidableEq, Repr

def Place.right (p : Place) (n : Nat) : Place :=
  { p with column := p.column + n }

/-- The marks that are one character, with the change of depth they bring. -/
def bracket? (depth : Nat) : Char → Option (Mark × Nat)
  | ',' => some (.comma, depth)
  | '[' => some (.openSequence, depth + 1)
  | ']' => some (.closeSequence, depth - 1)
  | '\x7b' => some (.openMapping, depth + 1)
  | '\x7d' => some (.closeMapping, depth - 1)
  | _ => none

/-- The mark of three equal characters at the beginning of a line. -/
def documentMark? (p : Place) : List Char → Option Mark
  | '-' :: '-' :: '-' :: cs => if p.column == 0 && standsAlone cs then some .documentStart else none
  | '.' :: '.' :: '.' :: cs => if p.column == 0 && standsAlone cs then some .documentEnd else none
  | _ => none

/-- Reads the scalar in front of the rest. -/
def readScalar (p : Place) : List Char → Option (Mark × List Char)
  | [] => none
  | '\'' :: cs => do
    let (text, rest) ← readSingle [] cs
    return (.scalar (String.ofList text) false, rest)
  | '"' :: cs => do
    let (text, rest) ← readDouble cs.length [] cs
    return (.scalar (String.ofList text) false, rest)
  | c :: cs => do
    let inFlow := decide (0 < p.depth)
    let begins := !indicators.contains c || (c == '-' && !cs.head?.any isSpace)
      || (!inFlow && (c == '?' || c == ':') && !standsAlone cs)
    if !begins then none
    let (text, rest) ← readPlain inFlow [] [] (c :: cs)
    return (.scalar (String.ofList text) true, rest)

/-- The mark in front of the rest, which is not blank, with the rest and the new depth. -/
def readMark (p : Place) (cs : List Char) : Option (Mark × List Char × Nat) :=
  match documentMark? p cs, cs with
  | some mark, cs => some (mark, cs.drop 3, p.depth)
  | none, c :: rest =>
    match bracket? p.depth c with
    | some (mark, depth) => some (mark, rest, depth)
    | none =>
      if c == '-' && standsAlone rest then some (.dash, rest, p.depth)
      else if c == ':' && (decide (0 < p.depth) || standsAlone rest) then
        some (.colon, rest, p.depth)
      else if c == '%' && p.column == 0 then none
      else (readScalar p cs).map fun (mark, rest) => (mark, rest, p.depth)
  | none, [] => none

/-- Splits a line, and tells how many brackets are open behind it. -/
def splitLine : Nat → Place → List Char → Option (List Lexeme × Nat)
  | _, p, [] => some ([], p.depth)
  | 0, _, _ => none
  | fuel + 1, p, c :: cs =>
    if c == ' ' then splitLine fuel (p.right 1) cs
    else if c == '\t' then
      if p.depth == 0 && p.fresh then none else splitLine fuel (p.right 1) cs
    else if c == '#' then some ([], p.depth)
    else do
      let (mark, rest, depth) ← readMark p (c :: cs)
      let next : Place :=
        { p with column := p.column + (cs.length + 1 - rest.length), depth
                 fresh := p.fresh && mark == .dash }
      let (lexemes, depth) ← splitLine fuel next rest
      return (⟨mark, p.line, p.column⟩ :: lexemes, depth)

/-- Splits lines, the first of which has a given number. -/
def splitLines (line depth : Nat) : List (List Char) → Option (List Lexeme)
  | [] => some []
  | cs :: rest => do
    let (lexemes, depth) ← splitLine cs.length { line, depth } cs
    return lexemes ++ (← splitLines (line + 1) depth rest)

/-- The lexemes of a text. A byte order mark at the beginning says nothing. -/
def ofText? (cs : List Char) : Option (List Lexeme) :=
  let cs := if cs.head?.any fun c => c.toNat == 0xFEFF then cs.drop 1 else cs
  if cs.all isAllowed then splitLines 0 0 (lines [] cs) else none

end Lexeme

end Vitals.Yaml
