import FraudScreen.Decimal.Reader

/-!
# Internet addresses

The written forms of addresses of both versions. An address of version four is four octets without
leading zeros. One of version six is eight groups of up to four hexadecimal digits, where the last two
may be written as an address of version four, and `::` stands for one or more groups that are zero.
-/
namespace FraudScreen.Network

/-- An address of version four. -/
structure IPv4 where
  a : UInt8
  b : UInt8
  c : UInt8
  d : UInt8
deriving DecidableEq, Repr

namespace IPv4

/-- The octets in the order in which they are written. -/
def octets (x : IPv4) : List UInt8 := [x.a, x.b, x.c, x.d]

/-- An octet in decimal. -/
def octetText (n : UInt8) : List Char := Nat.toDigits 10 n.toNat

/-- The dotted form. -/
def text (x : IPv4) : List Char := ['.'].intercalate (x.octets.map octetText)

end IPv4

/-- An octet at the front: up to three digits, no leading zero, at most 255. A fourth digit spoils it. -/
def readOctet (cs : List Char) : Option (UInt8 × List Char) :=
  let (ds, rest) := cs.span Char.isDigit
  let n := Decimal.digitsValue ds
  if ds.isEmpty ∨ 3 < ds.length ∨ 255 < n ∨ (ds.head? = some '0' ∧ ds ≠ ['0']) then none
  else some (UInt8.ofNat n, rest)

/-- A given character at the front. -/
def readChar (c : Char) : List Char → Option (List Char)
  | [] => none
  | d :: rest => if d = c then some rest else none

/-- An address of version four at the front. -/
def readIPv4 (cs : List Char) : Option (IPv4 × List Char) := do
  let (a, cs) ← readOctet cs
  let (b, cs) ← readChar '.' cs >>= readOctet
  let (c, cs) ← readChar '.' cs >>= readOctet
  let (d, cs) ← readChar '.' cs >>= readOctet
  return (⟨a, b, c, d⟩, cs)

/-- Reads an address of version four. -/
def IPv4.read? (cs : List Char) : Option IPv4 :=
  match readIPv4 cs with
  | some (x, []) => some x
  | _ => none

/-- A group at the front: one to four hexadecimal digits. A fifth digit spoils it. -/
def readGroup (cs : List Char) : Option (List Char) :=
  let (ds, rest) := cs.span fun c => (Decimal.hexValue? c).isSome
  if ds.isEmpty ∨ 4 < ds.length then none else some rest

/-- How far a run of groups reaches: the number of groups, whether the last two are a dotted address,
and the text after them. -/
structure GroupRun where
  count : Nat
  dotted : Bool
  rest : List Char

/-- Reads up to `room` further groups; every group but the first of the run follows a colon, and a
dotted address, which takes the room of two, ends the run. -/
def readGroups : Nat → Nat → List Char → GroupRun
  | 0, count, cs => ⟨count, false, cs⟩
  | room + 1, count, cs =>
    let start := if count = 0 then some cs else readChar ':' cs
    match start.bind fun more => if room = 0 then none else readIPv4 more with
    | some (_, rest) => ⟨count + 2, true, rest⟩
    | none =>
      match start.bind readGroup with
      | some rest => readGroups room (count + 1) rest
      | none => ⟨count, false, cs⟩

/-- The text is an address of version six. -/
def isIPv6 (cs : List Char) : Bool :=
  let head := readGroups 8 0 cs
  if head.count = 8 then head.rest.isEmpty
  else if head.dotted then false
  else match head.rest with
    | ':' :: ':' :: more => (readGroups (7 - head.count) 0 more).rest.isEmpty
    | _ => false

/-- The text is an internet address. -/
def isAddress (s : String) : Bool := (IPv4.read? s.toList).isSome || isIPv6 s.toList

end FraudScreen.Network
