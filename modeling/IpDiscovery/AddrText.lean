import IpDiscovery.Types

/-! Addresses as text: the `Display` and `FromStr` of the standard library's `IpAddr`. -/

namespace IpDiscovery

/-! ## Writing -/

/-- The digits of a number, most significant first and without leading zeros. -/
def writeNumber (radix value : Nat) : List Char := Nat.toDigits radix value

/-- The dotted form of four octets. -/
def writeIpv4 (a b c d : UInt8) : List Char :=
  writeNumber 10 a.toNat ++ '.' :: writeNumber 10 b.toNat ++ '.' :: writeNumber 10 c.toNat ++
    '.' :: writeNumber 10 d.toNat

/-- The sixteen-bit groups of a byte string. -/
def segments : Bytes → List UInt16
  | high :: low :: rest => u16FromBeBytes high low :: segments rest
  | _ => []

/-- The bytes of a list of sixteen-bit groups. -/
def segmentBytes (groups : List UInt16) : Bytes := groups.flatMap u16ToBeBytes

/-- A run of groups. -/
structure Span where
  start : Nat
  length : Nat
deriving DecidableEq, Repr

/-- The leftmost longest run of zero groups, the fold of `Display` over the groups from `index`. -/
def longestZeroes : List UInt16 → (index : Nat) → (longest current : Span) → Span
  | [], _, longest, _ => longest
  | segment :: rest, index, longest, current =>
    if segment = 0 then
      -- A run begins at its first zero group.
      let current : Span :=
        ⟨if current.length = 0 then index else current.start, current.length + 1⟩
      longestZeroes rest (index + 1)
        -- Only a longer run replaces an earlier one.
        (if current.length > longest.length then current else longest) current
    else longestZeroes rest (index + 1) longest ⟨0, 0⟩

/-- A part of an address, with a colon between neighbouring groups. -/
def writeGroups : List UInt16 → List Char
  | [] => []
  | first :: tail =>
    writeNumber 16 first.toNat ++ tail.flatMap fun segment => ':' :: writeNumber 16 segment.toNat

/-- The octets of the IPv4 address an IPv6 address maps. -/
def toIpv4Mapped (octets : Bytes) : Option Bytes :=
  if octets.take 12 = List.replicate 10 0 ++ [0xFF, 0xFF] then some (octets.drop 12) else none

/-- The text of an IPv6 address. -/
def writeIpv6 (octets : Bytes) : List Char :=
  match toIpv4Mapped octets with
  -- A mapped address shows its IPv4 form.
  | some [a, b, c, d] => "::ffff:".toList ++ writeIpv4 a b c d
  | _ =>
    let groups := segments octets
    let zeroes := longestZeroes groups 0 ⟨0, 0⟩ ⟨0, 0⟩
    -- A single zero group is not compressed.
    if zeroes.length > 1 then
      writeGroups (groups.take zeroes.start) ++ "::".toList ++
        writeGroups (groups.drop (zeroes.start + zeroes.length))
    else writeGroups groups

/-- The characters of an address. -/
def IpAddr.write : IpAddr → List Char
  | .v4 ⟨[a, b, c, d], _⟩ => writeIpv4 a b c d
  | .v6 address => writeIpv6 address.bytes

/-- `IpAddr::to_string`. -/
def IpAddr.display (ip : IpAddr) : String := String.ofList ip.write

/-! ## Reading -/

/-- `char::to_digit`. -/
def toDigit (radix : Nat) (char : Char) : Option Nat :=
  let value :=
    if '0' ≤ char ∧ char ≤ '9' then char.toNat - '0'.toNat
    else if 'a' ≤ char ∧ char ≤ 'z' then char.toNat - 'a'.toNat + 10
    else if 'A' ≤ char ∧ char ≤ 'Z' then char.toNat - 'A'.toNat + 10
    else radix
  -- Letters past the radix are no digits.
  if value < radix then some value else none

/-- A character is a digit of a radix. -/
def isDigitOf (radix : Nat) (char : Char) : Bool := (toDigit radix char).isSome

/-- The number a list of digits spells. -/
def digitsValue (radix : Nat) (digits : List Char) : Nat :=
  digits.foldl (fun total digit => total * radix + (toDigit radix digit).getD 0) 0

/-- `Parser::read_number`, whose result must stay below `bound`. -/
def readNumber (radix maxDigits bound : Nat) (allowZeroPrefix : Bool) (input : List Char) :
    Option (Nat × List Char) :=
  -- The digits are counted before their value is looked at.
  let digits := input.takeWhile (isDigitOf radix)
  if digits.length > maxDigits then none
  else if digits.length = 0 then none
  else if allowZeroPrefix = false ∧ digits.head? = some '0' ∧ digits.length > 1 then none
  else if digitsValue radix digits < bound then
    some (digitsValue radix digits, input.dropWhile (isDigitOf radix))
  else none

/-- `Parser::read_given_char`. -/
def readGivenChar (target : Char) : List Char → Option (List Char)
  | char :: rest => if char = target then some rest else none
  | [] => none

/-- `Parser::read_separator`, which expects the separator before all but the first item. -/
def readSeparator {α : Type} (separator : Char) (index : Nat)
    (inner : List Char → Option (α × List Char)) (input : List Char) : Option (α × List Char) :=
  if index > 0 then (readGivenChar separator input).bind inner else inner input

/-- One of the four numbers of a dotted address. -/
def readOctet (input : List Char) : Option (UInt8 × List Char) :=
  (readNumber 10 3 256 false input).map fun (value, rest) => (UInt8.ofNat value, rest)

/-- `Parser::read_ipv4_addr`. -/
def readIpv4 (input : List Char) : Option (Octets 4 × List Char) := do
  let (a, input) ← readSeparator '.' 0 readOctet input
  let (b, input) ← readSeparator '.' 1 readOctet input
  let (c, input) ← readSeparator '.' 2 readOctet input
  let (d, input) ← readSeparator '.' 3 readOctet input
  return (.four a b c d, input)

/-- One group of hexadecimal digits. -/
def readGroup (input : List Char) : Option (UInt16 × List Char) :=
  (readNumber 16 4 65536 true input).map fun (value, rest) => (UInt16.ofNat value, rest)

/--
`read_groups` over the `left` slots that are still free, the first of them numbered `index`.

The flag tells whether an embedded IPv4 address ended the groups.
-/
def readGroups : (left index : Nat) → List Char → List UInt16 × Bool × List Char
  | 0, _, input => ([], false, input)
  | left + 1, index, input =>
    -- An embedded address needs two slots.
    match if 1 ≤ left then readSeparator ':' index readIpv4 input else none with
    | some (address, rest) => (segments address.bytes, true, rest)
    | none =>
      match readSeparator ':' index readGroup input with
      | some (group, rest) =>
        let (groups, embedded, rest) := readGroups left (index + 1) rest
        (group :: groups, embedded, rest)
      | none => ([], false, input)

/-- `Parser::read_ipv6_addr`, as the groups it reads. -/
def readIpv6 (input : List Char) : Option (List UInt16 × List Char) :=
  let (head, headIpv4, rest) := readGroups 8 0 input
  -- Eight groups need no double colon.
  if head.length = 8 then some (head, rest)
  else if headIpv4 then none
  else do
    -- The double colon stands for at least one group.
    let rest ← readGivenChar ':' rest
    let rest ← readGivenChar ':' rest
    let (tail, _, rest) := readGroups (8 - (head.length + 1)) 0 rest
    return (head ++ List.replicate (8 - tail.length - head.length) 0 ++ tail, rest)

/-- `Parser::read_ip_addr`. -/
def readIpAddr (input : List Char) : Option (IpAddr × List Char) :=
  -- A dotted address is tried first.
  match readIpv4 input with
  | some (address, rest) => some (.v4 address, rest)
  | none => do
    let (groups, rest) ← readIpv6 input
    let address ← Octets.ofBytes? 16 (segmentBytes groups)
    return (.v6 address, rest)

/-- `IpAddr::from_str`, which must use up its whole input. -/
def IpAddr.fromStr (text : String) : Option IpAddr :=
  match readIpAddr text.toList with
  | some (ip, []) => some ip
  | _ => none

end IpDiscovery
