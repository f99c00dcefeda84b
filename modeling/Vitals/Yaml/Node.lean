import Vitals.Yaml.Lexeme

/-!
# YAML nodes

A document is one node: a scalar, a sequence or a mapping. This file fixes

* `Node` with its three kinds;
* `Node.ofText?`, which reads the one document of a text. In block style the columns of the
  lexemes say what belongs together: a collection is the run of lexemes at its column, and what
  stands to the right of it belongs to an entry. In flow style the brackets say it.

Reading goes on with the rest of the lexemes; `fuel` bounds it, and more than the number of
lexemes asks for is never used up.
-/

namespace Vitals.Yaml

inductive Node where
  /-- A scalar, and whether it is written without quotes. -/
  | scalar (text : String) (isPlain : Bool)
  | sequence (entries : List Node)
  | mapping (members : List (Node × Node))
  deriving Repr

namespace Node

/-- The node where nothing is written. -/
def blank : Node :=
  .scalar "" true

/-! ## 1. Flow style -/

/-- The rest behind a colon on the given line. A key and its colon share a line. -/
def behindColon? (line : Nat) : List Lexeme → Option (List Lexeme)
  | ⟨.colon, l, _⟩ :: rest => if l == line then some rest else none
  | _ => none

mutual

/-- Reads a scalar or a bracketed collection. -/
def unit : Nat → List Lexeme → Option (Node × List Lexeme)
  | 0, _ => none
  | fuel + 1, ls =>
    match ls with
    | ⟨.scalar text isPlain, _, _⟩ :: rest => some (.scalar text isPlain, rest)
    | ⟨.openSequence, _, _⟩ :: rest =>
      (flowEntries fuel rest).map fun (entries, rest) => (.sequence entries, rest)
    | ⟨.openMapping, _, _⟩ :: rest =>
      (flowMembers fuel rest).map fun (members, rest) => (.mapping members, rest)
    | _ => none

/-- Reads a value behind a colon inside brackets. A comma or a closing bracket leaves it out. -/
def flowValue : Nat → List Lexeme → Option (Node × List Lexeme)
  | 0, _ => none
  | fuel + 1, ls =>
    match ls with
    | ⟨.comma, _, _⟩ :: _ => some (blank, ls)
    | ⟨.closeSequence, _, _⟩ :: _ => some (blank, ls)
    | ⟨.closeMapping, _, _⟩ :: _ => some (blank, ls)
    | ls => unit fuel ls

/-- Reads the entries of a bracketed sequence, to the bracket that closes it. An entry with a
colon is a mapping with that one member. -/
def flowEntries : Nat → List Lexeme → Option (List Node × List Lexeme)
  | 0, _ => none
  | fuel + 1, ls =>
    match ls with
    | [] => none
    | ⟨.closeSequence, _, _⟩ :: rest => some ([], rest)
    | first :: _ => do
      let (node, rest) ← unit fuel ls
      let (entry, rest) ←
        match behindColon? first.line rest with
        | none => some (node, rest)
        | some rest =>
          (flowValue fuel rest).map fun (value, rest) => (Node.mapping [(node, value)], rest)
      match rest with
      | ⟨.closeSequence, _, _⟩ :: rest => some ([entry], rest)
      | ⟨.comma, _, _⟩ :: rest =>
        (flowEntries fuel rest).map fun (entries, rest) => (entry :: entries, rest)
      | _ => none

/-- Reads the members of a bracketed mapping, to the bracket that closes it. A key without a
colon has a blank value. -/
def flowMembers : Nat → List Lexeme → Option (List (Node × Node) × List Lexeme)
  | 0, _ => none
  | fuel + 1, ls =>
    match ls with
    | [] => none
    | ⟨.closeMapping, _, _⟩ :: rest => some ([], rest)
    | first :: _ => do
      let (key, rest) ← unit fuel ls
      let (value, rest) ←
        match behindColon? first.line rest with
        | none => some (blank, rest)
        | some rest => flowValue fuel rest
      match rest with
      | ⟨.closeMapping, _, _⟩ :: rest => some ([(key, value)], rest)
      | ⟨.comma, _, _⟩ :: rest =>
        (flowMembers fuel rest).map fun (members, rest) => ((key, value) :: members, rest)
      | _ => none

end

/-! ## 2. Block style -/

/-- Whether the lexemes at or right of a column end here. -/
def endsBefore (least : Nat) : List Lexeme → Bool
  | [] => true
  | l :: _ => l.mark == .documentStart || l.mark == .documentEnd || l.column < least

mutual

/-- Reads the node whose lexemes stand at `least` or right of it. `mayNest` says whether a block
collection may begin here, which it may not behind a colon on the same line. -/
def block : Nat → Nat → Bool → List Lexeme → Option (Node × List Lexeme)
  | 0, _, _, _ => none
  | fuel + 1, least, mayNest, ls =>
    if endsBefore least ls then some (blank, ls)
    else
      match ls with
      | [] => none
      | ⟨.dash, _, column⟩ :: _ =>
        if mayNest then
          (blockEntries fuel column false ls).map fun (entries, rest) => (.sequence entries, rest)
        else none
      | ⟨mark, line, column⟩ :: _ => do
        let (node, rest) ← if mark == .colon then some (blank, ls) else unit fuel ls
        if (behindColon? line rest).isNone then some (node, rest)
        else if mayNest then
          (blockMembers fuel column ls).map fun (members, rest) => (.mapping members, rest)
        else none

/-- Reads the entries of the sequence whose dashes stand at `column`. `isValue` says that the
sequence is the value of a key at the same column, so that the next key ends it. -/
def blockEntries : Nat → Nat → Bool → List Lexeme → Option (List Node × List Lexeme)
  | 0, _, _, _ => none
  | fuel + 1, column, isValue, ls =>
    if endsBefore column ls then some ([], ls)
    else
      match ls with
      | [] => none
      | l :: rest =>
        if column < l.column then none
        else if l.mark == .dash then do
          let (entry, rest) ← block fuel (column + 1) true rest
          let (entries, rest) ← blockEntries fuel column isValue rest
          return (entry :: entries, rest)
        else if isValue then some ([], ls)
        else none

/-- Reads the members of the mapping whose keys stand at `column`. -/
def blockMembers : Nat → Nat → List Lexeme → Option (List (Node × Node) × List Lexeme)
  | 0, _, _ => none
  | fuel + 1, column, ls =>
    if endsBefore column ls then some ([], ls)
    else
      match ls with
      | [] => none
      | l :: _ =>
        if column < l.column then none
        else do
          let (key, rest) ← if l.mark == .colon then some (blank, ls) else unit fuel ls
          let rest ← behindColon? l.line rest
          let (value, rest) ← blockValue fuel column l.line rest
          let (members, rest) ← blockMembers fuel column rest
          return ((key, value) :: members, rest)

/-- Reads the value of a key at `column` on `line`. -/
def blockValue : Nat → Nat → Nat → List Lexeme → Option (Node × List Lexeme)
  | 0, _, _, _ => none
  | fuel + 1, column, line, ls =>
    match ls with
    | ⟨.dash, l, c⟩ :: _ =>
      if l != line && c == column then
        (blockEntries fuel column true ls).map fun (entries, rest) => (.sequence entries, rest)
      else block fuel (column + 1) (l != line) ls
    | ls => block fuel (column + 1) (ls.head?.all fun l => l.line != line) ls

end

/-! ## 3. Documents -/

/-- The node of a document. Nothing but marks that end it may follow. -/
def ofLexemes? (ls : List Lexeme) : Option Node := do
  let fuel := 4 * ls.length + 4
  let (node, rest) ←
    match ls with
    | ⟨.documentEnd, _, _⟩ :: _ => none
    | ⟨.documentStart, line, _⟩ :: rest =>
      block fuel 0 (rest.head?.all fun l => l.line != line) rest
    | ls => block fuel 0 true ls
  if rest.all fun l => l.mark == .documentEnd then some node else none

/-- The node of the one document in a text. -/
def ofText? (text : String) : Option Node := do
  ofLexemes? (← Lexeme.ofText? text.toList)

end Node

end Vitals.Yaml
