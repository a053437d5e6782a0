import IpDiscovery.Dns.Answers
import IpDiscovery.Dns.Provider

/-! The query encoder: a header, the labels of the domain, and the two fields of the question. -/

namespace IpDiscovery.Dns

/-- The code of a class. -/
def DnsClass.toU16 : DnsClass → UInt16
  | .in => 1
  | .cs => 2
  | .ch => 3
  | .hs => 4

/-- Error returned when building a DNS query packet. -/
inductive DnsQueryError where
  | random (error : String)
  | labelTooLong (len : Nat)
  | emptyLabel
  | domainTooLong (len : Nat)
deriving DecidableEq, Repr

/-- The text of a query error. -/
def DnsQueryError.display : DnsQueryError → String
  | .random error => "Failed to generate transaction ID: " ++ error
  | .labelTooLong len => "Label too long: " ++ toString len ++ " bytes (max 63)"
  | .emptyLabel => "Empty label in domain name"
  | .domainTooLong len => "Domain too long: " ++ toString len ++ " bytes (max 253)"

/-- A computation that may return a query error. -/
abbrev QueryRun (α : Type) := Except (Fault DnsQueryError) α

/--
`for label in domain.split('.')`, with the packet and the encoded length so far.

The length stays within two of the domain's own, so its sums cannot overflow.
-/
def labelLoop : (labels : List String) → (packet : Bytes) → (totalLen : Nat) →
    QueryRun (Bytes × Nat)
  | [], packet, totalLen => .ok (packet, totalLen)
  | label :: labels, packet, totalLen => do
    -- An empty label would end the name before its last label.
    failIf label.isEmpty .emptyLabel
    let len := (utf8 label).length
    -- The top two bits of the length byte have to stay clear.
    failIf (len > 63) (.labelTooLong len)
    labelLoop labels (packet ++ [UInt8.ofNat len] ++ utf8 label) (totalLen + (len + 1))

/-- A standard query with recursion desired, for one question. -/
def queryHeader (idBytes : Octets 2) : Bytes :=
  idBytes.bytes ++ [0x01, 0x00] ++ [0x00, 0x01, 0x00, 0x00, 0x00, 0x00, 0x00, 0x00]

/-- `build_query`, with what `getrandom::fill` made of the two ID bytes. -/
def buildQuery (filled : Except String (Octets 2)) (domain : String) (recordType : RecordType)
    (dnsClass : DnsClass) : QueryRun Bytes := do
  let idBytes ← mapErr .random (filled.mapError .err)
  let domain := trimEndMatches '.' domain
  let (packet, totalLen) ← labelLoop (splitChar '.' domain) (queryHeader idBytes) 0
  -- The root label takes one more byte.
  let totalLen := totalLen + 1
  failIf (totalLen > 253) (.domainTooLong totalLen)
  return packet ++ [0x00] ++ u16ToBeBytes recordType.toU16 ++ u16ToBeBytes dnsClass.toU16

end IpDiscovery.Dns
