import InfraSynth.Check.Basic
import InfraSynth.Text.Numeral

/-!
# IPv4 blocks

A block of IPv4 addresses is written as an address and the number of bits that
its addresses have in common, as in `10.0.0.0/16`.  `Cidr.parse?` reads this form
and `Cidr.text` writes it.  The address may be any of the block; where the first
one is meant, `isNetwork` tells.

## Main definitions

* `size` is the number of addresses in a block.
* `isWithin` says that all addresses of a block belong to another one.
* `isPrivate` says that a block lies within one of the three private ranges.
* `checkCidr` is the check of a field that holds a block.
-/

namespace InfraSynth.Aws

/-- An address and the number of leading bits that are common to the addresses
of a block. -/
structure Cidr where
  address : UInt32
  length : Nat
  length_le : length ≤ 32 := by omega
  deriving DecidableEq

namespace Cidr

/-- How many addresses the block has. -/
def size (cidr : Cidr) : Nat :=
  Nat.pow 2 (32 - cidr.length)

/-- The bits that the addresses of the block have in common, as an address. -/
def mask (cidr : Cidr) : UInt32 :=
  if cidr.length = 0 then 0 else 0xffffffff <<< UInt32.ofNat (32 - cidr.length)

/-- Whether the address is the first one of the block. -/
def isNetwork (cidr : Cidr) : Bool :=
  cidr.address &&& ~~~cidr.mask = 0

/-- Whether all addresses of the block belong to another block. -/
def isWithin (cidr other : Cidr) : Bool :=
  other.length ≤ cidr.length &&
    cidr.address &&& other.mask = other.address &&& other.mask

/-! ## Private networks -/

/-- The octet of an address that a number of bits come after. -/
def octetAt (address bits : UInt32) : Nat :=
  ((address >>> bits) &&& 0xff).toNat

/-- Whether an address is set aside for private networks. -/
def isPrivateAddress (address : UInt32) : Bool :=
  let first := octetAt address 24
  let second := octetAt address 16
  first = 10 || (first = 172 && 16 ≤ second && second ≤ 31) || (first = 192 && second = 168)

/-- The length of the private range that a private address belongs to. -/
def privateLength (address : UInt32) : Nat :=
  match octetAt address 24 with
  | 10 => 8
  | 172 => 12
  | _ => 16

/-- Whether the block lies within one of the private ranges. -/
def isPrivate (cidr : Cidr) : Bool :=
  isPrivateAddress cidr.address && privateLength cidr.address ≤ cidr.length

/-! ## Reading and writing -/

/-- The address with four given octets. -/
def ofOctets (a b c d : UInt8) : UInt32 :=
  (a.toUInt32 <<< 24) ||| (b.toUInt32 <<< 16) ||| (c.toUInt32 <<< 8) ||| d.toUInt32

/-- The value of an octet: up to three digits, without leading zero, at most
255. -/
def octet? (digits : List Char) : Option UInt8 :=
  if digits.length ≤ 3 ∧ (digits.head? = some '0' → digits.length = 1) then
    (Text.digits? 255 digits).map .ofNat
  else none

/-- The parts of a text between occurrences of a character. -/
def splitOn (separator : Char) : List Char → List (List Char)
  | [] => [[]]
  | c :: rest =>
    match splitOn separator rest with
    | [] => [[c]]
    | first :: others => if c = separator then [] :: first :: others else (c :: first) :: others

/-- The address written as four octets with points between them. -/
def address? (text : String) : Option UInt32 :=
  match splitOn '.' text.toList with
  | [a, b, c, d] => do return ofOctets (← octet? a) (← octet? b) (← octet? c) (← octet? d)
  | _ => none

/-- The block that a text writes. -/
def parse? (text : String) : Option Cidr := do
  let (address, length) ← Text.splitAt? '/' text
  let address ← address? address
  let length ← Text.natural? 255 length
  if h : length ≤ 32 then some ⟨address, length, h⟩ else none

/-- The octets of an address as text. -/
def addressText (address : UInt32) : String :=
  s!"{octetAt address 24}.{octetAt address 16}.{octetAt address 8}.{octetAt address 0}"

/-- The block as text. -/
def text (cidr : Cidr) : String :=
  s!"{addressText cidr.address}/{cidr.length}"

end Cidr

/-- The block in a field that holds a block, if it is no interpolation. -/
def literalCidr? (value : String) : Option Cidr :=
  if Interpolation.isInterpolation value then none else Cidr.parse? value

/-- The field must hold a block with a netmask between two lengths, given by its
first address, or an interpolation. -/
def checkCidr (field value : String) (low high : Nat) : List Violation :=
  if Interpolation.isInterpolation value then []
  else match Cidr.parse? value with
    | none => [⟨.format, field, s!"'{value}' is not a valid IPv4 CIDR block"⟩]
    | some cidr =>
      Check.range s!"{field}.netmask" cidr.length low high ++
      Check.that cidr.isNetwork .format field s!"'{value}' has host bits set"

/-- The field must hold a list of blocks. -/
def checkCidrs (field : String) (values : List String) : List Violation :=
  Path.flatMapItems field values fun path value => checkCidr path value 0 32

end InfraSynth.Aws
