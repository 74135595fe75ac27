import FraudScreen.Network.Address
import FraudScreen.Text.Blank

/-!
# Blocks of addresses

A block is written as an address of version four and the number of leading bits that its addresses
share. As a regular expression a block is only told apart by whole octets: the expression fixes three
octets from 24 bits on, two from 16 on, and one below that.
-/
namespace FraudScreen.Network

/-- The bits of an address as one number. -/
def IPv4.toNat (x : IPv4) : Nat := x.octets.foldl (fun n o => 256 * n + o.toNat) 0

/-- The addresses whose first `length` bits are those of `address`. -/
structure Block where
  address : IPv4
  length : Nat
  length_le : length ≤ 32

/-- The address lies in the block. -/
def Block.contains (b : Block) (x : IPv4) : Bool :=
  x.toNat >>> (32 - b.length) == b.address.toNat >>> (32 - b.length)

/-- Why a text is not a block. -/
inductive BlockFault where
  | missingLength
  | lengthNotNumber
  | lengthOutOfRange
  | notAddress
deriving DecidableEq, Repr

def BlockFault.reason : BlockFault → String
  | missingLength => "missing prefix length"
  | lengthNotNumber => "prefix length is not a number"
  | lengthOutOfRange => "prefix length out of range"
  | notAddress => "not an IPv4 address"

/-- The message about a text that is not a block. -/
def BlockFault.message (f : BlockFault) (text : String) : String :=
  "invalid CIDR '" ++ text ++ "': " ++ f.reason

/-- Reads a block: an address, a slash and a length, both with blanks around them. -/
def Block.read? (cs : List Char) : Except BlockFault Block :=
  let address := cs.takeWhile (· != '/')
  match cs.drop address.length with
  | [] => .error .missingLength
  | _ :: length =>
    match Decimal.readNat? 255 (Text.trim length) with
    | none => .error .lengthNotNumber
    | some n =>
      if h : n ≤ 32 then
        match IPv4.read? (Text.trim address) with
        | some x => .ok ⟨x, n, h⟩
        | none => .error .notAddress
      else .error .lengthOutOfRange

/-- The number of octets that the expression of a block fixes. -/
def Block.fixedOctets (b : Block) : Nat :=
  if 24 ≤ b.length then 3 else if 16 ≤ b.length then 2 else 1

/-- The regular expression of a block: the fixed octets, and one to three digits for every other. -/
def Block.source (b : Block) : List Char :=
  let fixed := (b.address.octets.take b.fixedOctets).map IPv4.octetText
  '^' :: ['\\', '.'].intercalate fixed ++
    (List.replicate (4 - b.fixedOctets) "\\.\\d\x7b1,3\x7d".toList).flatten ++ ['$']

end FraudScreen.Network
