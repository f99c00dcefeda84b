import Vitals.Fault
import Vitals.Json.Text
import Vitals.Numeral

/-!
# Addresses to listen on

An address is a host and a port behind the last colon. The host is a numeric address of version 4
or 6, the latter in brackets or not, or a name. This file fixes

* `Host` and `Address`, with their readers;
* `Address.bind`, the address to listen on in a setting. Every host has the addresses of its own
  loopback and those that stand for all of its addresses; no others are known here.
-/

namespace Vitals.Streaming

/-! ## 1. Hosts -/

/-- A numeric address: four bytes, or eight words of 16 bits. -/
inductive Host where
  | four (bytes : List Nat)
  | six (words : List Nat)
  deriving DecidableEq, Repr

namespace Host

/-- A byte, without leading zeros. -/
def byte? (cs : List Char) : Option Nat := do
  let n ← Numeral.parse? cs
  if n < 256 && Numeral.digits n == cs then some n else none

/-- Four bytes between points. -/
def four? (cs : List Char) : Option Host := do
  let bytes ← (cs.splitOn '.').mapM byte?
  if bytes.length = 4 then some (.four bytes) else none

/-- A word of one to four digits in base 16. -/
def word? (cs : List Char) : Option Nat :=
  if cs = [] ∨ 4 < cs.length then none
  else cs.foldlM (fun n c => (Json.hexValue? c).map (n * 16 + ·)) 0

/-- Words between colons, or none at all. -/
def words? (cs : List Char) : Option (List Nat) :=
  if cs = [] then some [] else (cs.splitOn ':').mapM word?

/-- Cuts a text at the first two colons in a row. -/
def cutAtGap (before : List Char) : List Char → Option (List Char × List Char)
  | ':' :: ':' :: cs => some (before.reverse, cs)
  | c :: cs => cutAtGap (c :: before) cs
  | [] => none

/-- Eight words; two colons in a row stand for one word of zeros or more. -/
def six? (cs : List Char) : Option Host :=
  match cutAtGap [] cs with
  | some (front, back) => do
    let front ← words? front
    let back ← words? back
    let written := front.length + back.length
    if 8 ≤ written then none else some (.six (front ++ List.replicate (8 - written) 0 ++ back))
  | none => do
    let words ← words? cs
    if words.length = 8 then some (.six words) else none

/-- The host with a given text. The name of the own host is known. -/
def ofText? (cs : List Char) : Option Host :=
  if cs = "localhost".toList then some (.four [127, 0, 0, 1])
  else
    match cs with
    | '[' :: inner => if inner.getLast? = some ']' then six? inner.dropLast else none
    | cs => (four? cs).or (six? cs)

/-- Whether every host has the address for itself. -/
def isLocal : Host → Bool
  | .four bytes => bytes.head? == some 127 || bytes.all (· == 0)
  | .six words => words.take 7 == List.replicate 7 0 && words.drop 7 ∈ [[0], [1]]

end Host

/-! ## 2. Addresses -/

structure Address where
  host : Host
  port : Nat
  deriving DecidableEq, Repr

namespace Address

/-- Why no one can listen on an address. -/
inductive Refusal where
  | noPort
  | invalidPort
  | unknownHost
  | notLocal
  deriving DecidableEq, Repr

/-- The wording of a refusal. -/
def Refusal.message : Refusal → String
  | .noPort => "invalid socket address"
  | .invalidPort => "invalid port value"
  | .unknownHost => "failed to lookup address information: Name or service not known"
  | .notLocal => "Cannot assign requested address (os error 99)"

/-- Cuts a text at its last colon. -/
def cut? (cs : List Char) : Option (List Char × List Char) :=
  let port := cs.reverse.takeWhile (· ≠ ':')
  if port.length = cs.length then none
  else some (cs.take (cs.length - port.length - 1), port.reverse)

/-- Reads an address. -/
def ofText (text : String) : Except Refusal Address := do
  let some (host, port) := cut? text.toList | throw .noPort
  let .ok port := Unsigned.parse UInt16.size port | throw .invalidPort
  let some host := Host.ofText? host | throw .unknownHost
  return ⟨host, port⟩

/-- The address to listen on with a given text. -/
def bind (text : String) : Except Fault Address :=
  match ofText text with
  | .error why => .error (.bind text why.message)
  | .ok address =>
    if address.host.isLocal then .ok address else .error (.bind text Refusal.notLocal.message)

end Address

end Vitals.Streaming
