import IpDiscovery.Stun.Address
import IpDiscovery.Stun.Provider

/-! Which replies a STUN client believes, and the address it takes from them. -/

namespace IpDiscovery.Stun

/-- The attribute that decides: the first XOR-MAPPED-ADDRESS, or else the first plain one. -/
def decisiveAttribute (attributes : List (UInt16 × Bytes)) : Option (UInt16 × Bytes) :=
  (attributes.find? fun entry => entry.1 == 0x0020).or
    (attributes.find? fun entry => entry.1 == 0x0001)

/-- The mask an attribute's address stands under. -/
def maskOf (transactionId : Octets 12) (code : UInt16) : Bytes :=
  if code = 0x0020 then xorKey transactionId else plainMask

/-- An attribute area reports an address to the sender of a request. -/
def Reports (transactionId : Octets 12) (attributes : List (UInt16 × Bytes)) (ip : IpAddr) :
    Prop :=
  ∃ code value, decisiveAttribute attributes = some (code, value) ∧
    Carries (maskOf transactionId code) value ip

/-- Every mask is as long as the longest address. -/
@[simp] theorem maskOf_length (transactionId : Octets 12) (code : UInt16) :
    (maskOf transactionId code).length = 16 := by
  unfold maskOf
  split <;> simp

/-! ## The preference search -/

/-- Looking for XOR-MAPPED-ADDRESS is looking for its code. -/
theorem fromU16_beq_xor (code : UInt16) :
    (AttributeType.fromU16 code == .xorMappedAddress) = (code == 0x0020) := by
  -- Only one code is named XOR-MAPPED-ADDRESS.
  unfold AttributeType.fromU16
  split
  · subst code; decide
  · split
    · subst code; decide
    · rename_i other
      simp [other]

/-- Looking for MAPPED-ADDRESS is looking for its code. -/
theorem fromU16_beq_mapped (code : UInt16) :
    (AttributeType.fromU16 code == .mappedAddress) = (code == 0x0001) := by
  unfold AttributeType.fromU16
  split
  · subst code; decide
  · rename_i other
    split <;> simp [other]

/-- Searching the decoded attributes finds what searching the wire attributes finds. -/
theorem find_fromWire {wanted : AttributeType} {code : UInt16}
    (named : ∀ other, (AttributeType.fromU16 other == wanted) = (other == code))
    (attributes : List (UInt16 × Bytes)) :
    (attributes.map fromWire).find? (fun entry => entry.1 == wanted) =
      (attributes.find? fun entry => entry.1 == code).map fromWire := by
  rw [List.find?_map]
  congr 1
  congr 1
  funext entry
  exact named entry.1

/-- The two-pass search reads the decisive attribute, and never panics. -/
theorem getMappedAddress_eq {message : StunMessage} {attributes : List (UInt16 × Bytes)}
    (named : message.attributes = attributes.map fromWire) :
    message.getMappedAddress = .ok ((decisiveAttribute attributes).bind fun entry =>
      readAddress (maskOf message.transactionId entry.1) entry.2) := by
  unfold StunMessage.getMappedAddress decisiveAttribute
  rw [named, find_fromWire fromU16_beq_xor, find_fromWire fromU16_beq_mapped]
  -- The first pass decides unless the area has no XOR-MAPPED-ADDRESS at all.
  cases xor : attributes.find? fun entry => entry.1 == 0x0020 with
  | some entry =>
    have code := List.find?_some xor
    simp only [beq_iff_eq] at code
    simp [fromWire, parseXorMappedAddress_eq, maskOf, code]
  | none =>
    cases mapped : attributes.find? fun entry => entry.1 == 0x0001 with
    | some entry =>
      have code := List.find?_some mapped
      simp only [beq_iff_eq] at code
      simp [fromWire, parseMappedAddress_eq, maskOf, code]
    | none => simp

/-! ## Accepted replies -/

/-- A reply is believed exactly when it answers the request and reports the address. -/
theorem processResponse_eq_ok_iff {target : Target} {request : StunMessage} {buf : Bytes}
    {name : String} {ip : IpAddr} :
    processResponse target request buf name = .ok ip ↔
      ∃ attributes, Datagram .response request.transactionId attributes buf ∧
        Reports request.transactionId attributes ip := by
  constructor
  · intro accepted
    obtain ⟨response, decoded, accepted⟩ := bind_eq_ok accepted
    obtain ⟨_, identified, accepted⟩ := bind_eq_ok accepted
    obtain ⟨_, successful, accepted⟩ := bind_eq_ok accepted
    obtain ⟨mapped, found, accepted⟩ := bind_eq_ok accepted
    obtain ⟨attributes, datagram, named⟩ := decode_sound (mapErr_eq_ok.mp decoded)
    -- The ID and the type have been checked, so the datagram is a response to this request.
    have identified := not_not.mp (failIf_eq_ok identified)
    have successful := not_not.mp (failIf_eq_ok successful)
    rw [successful, identified] at datagram
    rw [getMappedAddress_eq named, identified] at found
    cases found
    obtain ⟨⟨code, value⟩, decisive, read⟩ := Option.bind_eq_some_iff.mp (okOr_eq_ok accepted)
    exact ⟨attributes, datagram, code, value, decisive,
      (readAddress_eq_some (maskOf_length _ _)).mp read⟩
  · rintro ⟨attributes, datagram, code, value, decisive, carried⟩
    have read := (readAddress_eq_some (maskOf_length request.transactionId code)).mpr carried
    have mapped := @getMappedAddress_eq
      ⟨.response, request.transactionId, attributes.map fromWire⟩ attributes rfl
    simp only [processResponse, decode_complete datagram, mapErr_ok, ok_bind,
      failIf_neg (not_not_intro rfl), mapped, decisive, Option.bind_some, read,
      okOr_some]

/--
A believed reply is an authentic, well-formed success response.

The last part says what may not matter: any response to the same request with the same decisive
attribute gives the same address, whatever its other attributes, padding and trailing bytes are.
-/
theorem processResponse_sound {target : Target} {request : StunMessage} {buf : Bytes}
    {name : String} {ip : IpAddr}
    (accepted : processResponse target request buf name = .ok ip) :
    ∃ attributes area trailing,
      buf = u16ToBeBytes 0x0101 ++ u16ToBeBytes (UInt16.ofNat area.length) ++
        u32ToBeBytes magicCookie ++ request.transactionId.bytes ++ area ++ trailing ∧
      area.length < 2 ^ 16 ∧ area.length % 4 = 0 ∧ AttributeArea attributes area ∧
      Reports request.transactionId attributes ip ∧
      ∀ attributes' buf', Datagram .response request.transactionId attributes' buf' →
        decisiveAttribute attributes' = decisiveAttribute attributes →
          processResponse target request buf' name = .ok ip := by
  obtain ⟨attributes, ⟨area, trailing, fits, layout, shape⟩, reported⟩ :=
    processResponse_eq_ok_iff.mp accepted
  refine ⟨attributes, area, trailing, shape, fits, layout.length_mod, layout, reported, ?_⟩
  intro attributes' buf' datagram decisive
  obtain ⟨code, value, found, carried⟩ := reported
  exact processResponse_eq_ok_iff.mpr
    ⟨attributes', datagram, code, value, decisive.trans found, carried⟩

/-- A reply that masks 203.0.113.42 is an instance of the accepted shape. -/
theorem processResponse_sound_masked :
    ∃ attributes area trailing,
      [0x01, 0x01, 0, 12, 0x21, 0x12, 0xA4, 0x42] ++ List.replicate 12 0 ++
          [0x00, 0x20, 0, 8, 0, 1, 0, 0, 0xEA, 0x12, 0xD5, 0x68] =
        u16ToBeBytes 0x0101 ++ u16ToBeBytes (UInt16.ofNat (List.length area)) ++
          u32ToBeBytes magicCookie ++ List.replicate 12 0 ++ area ++ trailing ∧
      area.length < 2 ^ 16 ∧ area.length % 4 = 0 ∧ AttributeArea attributes area ∧
      Reports ⟨List.replicate 12 0, rfl⟩ attributes (ipv4 203 0 113 42) ∧
      ∀ attributes' buf', Datagram .response ⟨List.replicate 12 0, rfl⟩ attributes' buf' →
        decisiveAttribute attributes' = decisiveAttribute attributes →
          processResponse .x64 ⟨.request, ⟨List.replicate 12 0, rfl⟩, []⟩ buf' "stun" =
            .ok (ipv4 203 0 113 42) :=
  @processResponse_sound .x64 ⟨.request, ⟨List.replicate 12 0, rfl⟩, []⟩ _ "stun" _
    (by decide +kernel)

/-- The address a server encodes for a request is the address the client reports. -/
theorem processResponse_reports_encoded (target : Target) (request : StunMessage) (name : String)
    (ip : IpAddr) (port : UInt16) (before after : List (UInt16 × Bytes)) (buf : Bytes) :
    ((∀ entry ∈ before, entry.1 ≠ 0x0020) →
      Datagram .response request.transactionId
        (before ++ (0x0020, encodeXorMappedAddress request.transactionId port ip) :: after) buf →
      processResponse target request buf name = .ok ip) ∧
    ((∀ entry ∈ before ++ after, entry.1 ≠ 0x0020) → (∀ entry ∈ before, entry.1 ≠ 0x0001) →
      Datagram .response request.transactionId
        (before ++ (0x0001, encodeMappedAddress port ip) :: after) buf →
      processResponse target request buf name = .ok ip) := by
  -- A search that fails on every earlier entry stops at the encoded one.
  have skip {code : UInt16} {value : Bytes} (absent : ∀ entry ∈ before, entry.1 ≠ code) :
      (before ++ (code, value) :: after).find? (fun entry => entry.1 == code) =
        some (code, value) := by
    rw [List.find?_append, List.find?_eq_none.mpr (by simpa using absent)]
    simp
  constructor
  · intro absent datagram
    have carried : Carries (maskOf request.transactionId 0x0020)
        (encodeXorMappedAddress request.transactionId port ip) ip := encodeAddress_carries _ _ _
    refine processResponse_eq_ok_iff.mpr ⟨_, datagram, 0x0020, _, ?_, carried⟩
    rw [decisiveAttribute, skip absent]
    rfl
  · intro noXor absent datagram
    have carried : Carries (maskOf request.transactionId 0x0001) (encodeMappedAddress port ip) ip :=
      encodeAddress_carries _ _ _
    refine processResponse_eq_ok_iff.mpr ⟨_, datagram, 0x0001, _, ?_, carried⟩
    have noneXor : (before ++ (0x0001, encodeMappedAddress port ip) :: after).find?
        (fun entry => entry.1 == 0x0020) = none := by
      simp only [List.mem_append] at noXor
      simp only [List.find?_eq_none, List.mem_append, List.mem_cons, beq_iff_eq]
      rintro entry (earlier | rfl | later)
      · exact noXor entry (Or.inl earlier)
      · simp
      · exact noXor entry (Or.inr later)
    rw [decisiveAttribute, noneXor, skip absent]
    rfl

/-- An unknown attribute before the encoded one does not stand in the way. -/
theorem processResponse_reports_encoded_behind_unknown :
    processResponse .x64 ⟨.request, ⟨List.replicate 12 3, rfl⟩, []⟩
      ([0x01, 0x01, 0, 24, 0x21, 0x12, 0xA4, 0x42] ++ List.replicate 12 3 ++
        [0x80, 0x01, 0, 5, 1, 2, 3, 4, 5, 0, 0, 0] ++
        [0x00, 0x20, 0, 8, 0, 1, 0x2A, 0x44, 0xEA, 0x12, 0xD5, 0x68]) "stun" =
      .ok (ipv4 203 0 113 42) := by
  -- The response is laid out as one unknown attribute and the masked address.
  have layout : AttributeArea [(0x8001, [1, 2, 3, 4, 5]),
      (0x0020, encodeXorMappedAddress ⟨List.replicate 12 3, rfl⟩ 0x0B56 (ipv4 203 0 113 42))]
      ([0x80, 0x01, 0, 5, 1, 2, 3, 4, 5, 0, 0, 0] ++
        [0x00, 0x20, 0, 8, 0, 1, 0x2A, 0x44, 0xEA, 0x12, 0xD5, 0x68]) :=
    @AttributeArea.cons _ _ [0, 0, 0] _ _ (by decide) (by decide) (by decide)
      (@AttributeArea.cons _ _ [] _ _ (by decide) (by decide) (by decide) .nil)
  exact (processResponse_reports_encoded .x64 ⟨.request, ⟨List.replicate 12 3, rfl⟩, []⟩ "stun"
    (ipv4 203 0 113 42) 0x0B56 [(0x8001, [1, 2, 3, 4, 5])] [] _).1 (by decide)
    ⟨_, [], by decide, layout, by decide⟩

end IpDiscovery.Stun
