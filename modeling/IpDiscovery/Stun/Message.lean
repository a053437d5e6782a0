import IpDiscovery.Types

/-! STUN messages, their wire decoder, and the addresses their attributes carry. -/

namespace IpDiscovery.Stun

/-- STUN magic cookie. -/
def magicCookie : UInt32 := 0x2112A442

/-- STUN message types. -/
inductive StunMethod where
  | request
  | response
  | error
deriving DecidableEq, Repr

/-- The code of a message type. -/
def StunMethod.toU16 : StunMethod → UInt16
  | .request => 0x0001
  | .response => 0x0101
  | .error => 0x0111

/-- The message type with a code, if there is one. -/
def StunMethod.fromU16 (value : UInt16) : Option StunMethod :=
  if value = 0x0001 then some .request
  else if value = 0x0101 then some .response
  else if value = 0x0111 then some .error
  else none

/-- STUN attribute types. -/
inductive AttributeType where
  | mappedAddress
  | xorMappedAddress
  | unknown (code : UInt16)
deriving DecidableEq, Repr

/-- The attribute type with a code, which is kept if it is unknown. -/
def AttributeType.fromU16 (value : UInt16) : AttributeType :=
  if value = 0x0001 then .mappedAddress
  else if value = 0x0020 then .xorMappedAddress
  else .unknown value

/-- A STUN message. -/
structure StunMessage where
  msgType : StunMethod
  transactionId : Octets 12
  attributes : List (AttributeType × Bytes)
deriving DecidableEq, Repr

/-- `StunMessage::encode`, which writes a header that declares no attributes. -/
def StunMessage.encode (message : StunMessage) : Bytes :=
  u16ToBeBytes message.msgType.toU16 ++ u16ToBeBytes 0 ++ u32ToBeBytes magicCookie ++
    message.transactionId.bytes

/-! ## Decoding -/

/-- The bytes after a value that bring its length to a multiple of four. -/
def paddingFor (length : Nat) : Nat := (4 - length % 4) % 4

/-- One trip round the attribute loop: the attribute at `offset` and where the next one starts. -/
def decodeAttribute (target : Target) (data : Bytes) (stop offset : Nat) :
    Run (AttributeType × Bytes × Nat) := do
  let headerEnd ← okOr (target.checkedAdd offset 4) "attribute length overflow"
  failIf (headerEnd > stop) "truncated attribute header"
  let c₀ ← index data offset
  let c₁ ← index data (← target.add offset 1)
  let l₀ ← index data (← target.add offset 2)
  let l₁ ← index data (← target.add offset 3)
  let attrTypeRaw := u16FromBeBytes c₀ c₁
  let attrLen := (u16FromBeBytes l₀ l₁).toNat
  let valueStart ← target.add offset 4
  let valueEnd ← okOr (target.checkedAdd valueStart attrLen) "attribute length overflow"
  failIf (valueEnd > stop) "attribute exceeds message length"
  let attrValue ← slice data valueStart valueEnd
  let next ← okOr (target.checkedAdd valueEnd (paddingFor attrLen)) "attribute length overflow"
  failIf (next > stop) "invalid attribute padding"
  return (AttributeType.fromU16 attrTypeRaw, attrValue, next)

/-- Everything a successful trip round the attribute loop has read and checked. -/
theorem decodeAttribute_eq_ok {target : Target} {data value : Bytes} {stop offset next : Nat}
    {attrType : AttributeType}
    (decoded : decodeAttribute target data stop offset = .ok (attrType, value, next)) :
    ∃ c₀ c₁ l₀ l₁, data.drop offset = c₀ :: c₁ :: l₀ :: l₁ :: data.drop (offset + 4) ∧
      attrType = AttributeType.fromU16 (u16FromBeBytes c₀ c₁) ∧
      offset + 4 + (u16FromBeBytes l₀ l₁).toNat ≤ data.length ∧
      value = (data.drop (offset + 4)).take (u16FromBeBytes l₀ l₁).toNat ∧
      next = offset + 4 + (u16FromBeBytes l₀ l₁).toNat +
        paddingFor (u16FromBeBytes l₀ l₁).toNat ∧ next ≤ stop := by
  -- Each bind is one read, one checked sum or one guard of the loop body.
  obtain ⟨headerEnd, header, decoded⟩ := bind_eq_ok decoded
  obtain ⟨_, headerFits, decoded⟩ := bind_eq_ok decoded
  obtain ⟨c₀, read₀, decoded⟩ := bind_eq_ok decoded
  obtain ⟨at₁, sum₁, decoded⟩ := bind_eq_ok decoded
  obtain ⟨c₁, read₁, decoded⟩ := bind_eq_ok decoded
  obtain ⟨at₂, sum₂, decoded⟩ := bind_eq_ok decoded
  obtain ⟨l₀, read₂, decoded⟩ := bind_eq_ok decoded
  obtain ⟨at₃, sum₃, decoded⟩ := bind_eq_ok decoded
  obtain ⟨l₁, read₃, decoded⟩ := bind_eq_ok decoded
  obtain ⟨valueStart, sum₄, decoded⟩ := bind_eq_ok decoded
  obtain ⟨valueEnd, ended, decoded⟩ := bind_eq_ok decoded
  obtain ⟨_, valueFits, decoded⟩ := bind_eq_ok decoded
  obtain ⟨attrValue, taken, decoded⟩ := bind_eq_ok decoded
  obtain ⟨after, padded, decoded⟩ := bind_eq_ok decoded
  obtain ⟨_, paddingFits, decoded⟩ := bind_eq_ok decoded
  cases decoded
  cases Target.add_eq_ok sum₁
  cases Target.add_eq_ok sum₂
  cases Target.add_eq_ok sum₃
  cases Target.add_eq_ok sum₄
  cases Target.checkedAdd_eq_some (okOr_eq_ok ended)
  cases Target.checkedAdd_eq_some (okOr_eq_ok padded)
  obtain ⟨_, inside, same⟩ := slice_eq_ok taken
  have paddingFits := failIf_eq_ok paddingFits
  refine ⟨c₀, c₁, l₀, l₁, ?_, rfl, inside, ?_, rfl, by omega⟩
  · rw [drop_of_index read₀, drop_of_index read₁, drop_of_index read₂, drop_of_index read₃]
  · rw [same, Nat.add_sub_cancel_left]

/-- `while offset < end`, collecting the attributes. -/
def attributeLoop (target : Target) (data : Bytes) (stop offset : Nat)
    (attributes : List (AttributeType × Bytes)) : Run (List (AttributeType × Bytes)) :=
  if offset < stop then
    match _decoded : decodeAttribute target data stop offset with
    | .error fault => .error fault
    | .ok (attrType, attrValue, next) =>
      attributeLoop target data stop next (attributes ++ [(attrType, attrValue)])
  else .ok attributes
termination_by stop - offset
decreasing_by
  -- Every decoded attribute is at least its four header bytes long.
  obtain ⟨_, _, _, _, _, _, _, _, advanced, _⟩ := decodeAttribute_eq_ok _decoded
  omega

/-- `StunMessage::decode`. -/
def StunMessage.decode (target : Target) (data : Bytes) : Run StunMessage := do
  failIf (data.length < 20) "message too short"
  let msgTypeRaw := u16FromBeBytes (← index data 0) (← index data 1)
  let msgType ← okOr (StunMethod.fromU16 msgTypeRaw) "unknown message type"
  let msgLength := (u16FromBeBytes (← index data 2) (← index data 3)).toNat
  let magic := u32FromBeBytes (← index data 4) (← index data 5) (← index data 6)
    (← index data 7)
  failIf (magic ≠ magicCookie) "invalid magic cookie"
  let transactionId ← copyFromSlice 12 (← slice data 8 20)
  failIf (msgLength % 4 ≠ 0) "invalid message length"
  let stop ← okOr (target.checkedAdd 20 msgLength) "message length overflow"
  failIf (data.length < stop) "truncated message"
  let attributes ← attributeLoop target data stop 20 []
  return { msgType, transactionId, attributes }

/-! ## Mapped addresses -/

/-- `parse_mapped_address`. -/
def parseMappedAddress (data : Bytes) : Run (Option IpAddr) :=
  if data.length < 4 then .ok none
  else do
    let family ← index data 1
    if family = 0x01 then
      if data.length < 8 then .ok none
      else do
        let a ← index data 4
        let b ← index data 5
        let c ← index data 6
        let d ← index data 7
        return some (ipv4 a b c d)
    else if family = 0x02 then
      if data.length < 20 then .ok none
      else do
        let octets ← copyFromSlice 16 (← slice data 4 20)
        return some (.v6 octets)
    else .ok none

/-- The key of an IPv6 XOR-MAPPED-ADDRESS: the magic cookie, then the transaction ID. -/
def xorKey (transactionId : Octets 12) : Bytes :=
  u32ToBeBytes magicCookie ++ transactionId.bytes

/-- `parse_xor_mapped_address`. -/
def StunMessage.parseXorMappedAddress (message : StunMessage) (data : Bytes) :
    Run (Option IpAddr) :=
  if data.length < 4 then .ok none
  else do
    let family ← index data 1
    if family = 0x01 then
      if data.length < 8 then .ok none
      else do
        let xorAddr := u32FromBeBytes (← index data 4) (← index data 5) (← index data 6)
          (← index data 7)
        let octets ← copyFromSlice 4 (u32ToBeBytes (xorAddr ^^^ magicCookie))
        return some (.v4 octets)
    else if family = 0x02 then
      if data.length < 20 then .ok none
      else do
        -- `octets[i] = data[4 + i] ^ xor_key[i]` for the sixteen positions.
        let masked ← slice data 4 20
        let octets ← copyFromSlice 16 (applyMask (xorKey message.transactionId) masked)
        return some (.v6 octets)
    else .ok none

/-- `get_mapped_address`, which looks for an XOR-MAPPED-ADDRESS before a MAPPED-ADDRESS. -/
def StunMessage.getMappedAddress (message : StunMessage) : Run (Option IpAddr) :=
  match message.attributes.find? fun entry => entry.1 == .xorMappedAddress with
  | some (_, value) => message.parseXorMappedAddress value
  | none =>
    match message.attributes.find? fun entry => entry.1 == .mappedAddress with
    | some (_, value) => parseMappedAddress value
    | none => .ok none

end IpDiscovery.Stun
