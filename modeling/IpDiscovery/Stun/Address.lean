import IpDiscovery.Stun.Wire

/-! The address attributes of STUN, and the two address parsers as exactly their reading. -/

namespace IpDiscovery.Stun

/-- The address family byte. -/
def familyByte : IpAddr → UInt8
  | .v4 _ => 0x01
  | .v6 _ => 0x02

/--
An attribute value carries an address under a mask.

It is a reserved byte, the family, a port, the masked octets, and anything after.
-/
def Carries (mask value : Bytes) (ip : IpAddr) : Prop :=
  ∃ reserved portHigh portLow rest,
    value = reserved :: familyByte ip :: portHigh :: portLow :: (applyMask mask ip.octets ++ rest)

/-- The mask of a MAPPED-ADDRESS, which hides nothing. -/
def plainMask : Bytes := List.replicate 16 0

/-- The value a server writes for an address and a port under a mask. -/
def encodeAddress (mask : Bytes) (port : UInt16) (ip : IpAddr) : Bytes :=
  [0x00, familyByte ip] ++ u16ToBeBytes port ++ applyMask mask ip.octets

/-- XOR-MAPPED-ADDRESS: the high half of the cookie masks the port, and the key the address. -/
def encodeXorMappedAddress (transactionId : Octets 12) (port : UInt16) (ip : IpAddr) : Bytes :=
  encodeAddress (xorKey transactionId) (port ^^^ 0x2112) ip

/-- MAPPED-ADDRESS: port and address stand as they are. -/
def encodeMappedAddress (port : UInt16) (ip : IpAddr) : Bytes :=
  encodeAddress plainMask port ip

/-- The plain mask is as long as a key. -/
@[simp] theorem plainMask_length : plainMask.length = 16 := rfl

/-- The key is as long as the longest address. -/
@[simp] theorem xorKey_length (transactionId : Octets 12) :
    (xorKey transactionId).length = 16 := by
  simp [xorKey, transactionId.sized]

/-- Every address is at most as long as the key. -/
theorem octets_length_le (ip : IpAddr) : ip.octets.length ≤ 16 := by
  cases ip <;> simp [IpAddr.octets, Octets.sized]

/-- An encoded address is carried, whatever the port. -/
theorem encodeAddress_carries (mask : Bytes) (port : UInt16) (ip : IpAddr) :
    Carries mask (encodeAddress mask port ip) ip := by
  obtain ⟨high, low, portBytes, _⟩ := u16ToBeBytes_spelled port
  exact ⟨0x00, high, low, [], by simp [encodeAddress, portBytes]⟩

/-- Unmasked octets determine what a value carries. -/
theorem carries_cons_iff {mask rest : Bytes} {reserved family high low : UInt8} {ip : IpAddr}
    (sized : mask.length = 16) :
    Carries mask (reserved :: family :: high :: low :: rest) ip ↔
      family = familyByte ip ∧ ip.octets.length ≤ rest.length ∧
        ip.octets = applyMask mask (rest.take ip.octets.length) := by
  -- Masking is its own inverse, so the octets and their masked form determine each other.
  have covered : ip.octets.length ≤ mask.length := sized ▸ octets_length_le ip
  have hidden := applyMask_length covered
  constructor
  · rintro ⟨_, _, _, after, shape⟩
    simp only [List.cons.injEq] at shape
    obtain ⟨_, same, _, _, rfl⟩ := shape
    refine ⟨same, by simp only [List.length_append]; omega, ?_⟩
    rw [List.take_left' hidden, applyMask_applyMask covered]
  · rintro ⟨rfl, long, unmasked⟩
    refine ⟨reserved, high, low, rest.drop ip.octets.length, ?_⟩
    have masked : applyMask mask ip.octets = rest.take ip.octets.length := by
      conv_lhs => rw [unmasked]
      exact applyMask_applyMask (by simp only [List.length_take]; omega)
    rw [masked, List.take_append_drop]

/-! ## Reading -/

/-- The address read from a value under a mask, which both parsers compute. -/
def readAddress (mask : Bytes) : Bytes → Option IpAddr
  | _ :: family :: _ :: _ :: rest =>
    if family = 0x01 then (Octets.ofBytes? 4 (applyMask mask (rest.take 4))).map .v4
    else if family = 0x02 then (Octets.ofBytes? 16 (applyMask mask (rest.take 16))).map .v6
    else none
  | _ => none

/-- A value too short for its four leading bytes has no address. -/
theorem readAddress_short {mask value : Bytes} (short : value.length < 4) :
    readAddress mask value = none := by
  match value, short with
  | [], _ | [_], _ | [_, _], _ | [_, _, _], _ => rfl

/-- Octets cut off by the end of the value are no address. -/
theorem readAddress_cut {mask rest : Bytes} {count : Nat}
    (cut : rest.length < count) :
    Octets.ofBytes? count (applyMask mask (rest.take count)) = none := by
  -- Masking never lengthens what it is given.
  have short : (applyMask mask (rest.take count)).length ≠ count := by
    simp only [applyMask, List.length_zipWith, List.length_take]
    omega
  simp [Octets.ofBytes?, short]

/-- Reading returns exactly the address that is carried. -/
theorem readAddress_eq_some {mask value : Bytes} {ip : IpAddr} (sized : mask.length = 16) :
    readAddress mask value = some ip ↔ Carries mask value ip := by
  by_cases short : value.length < 4
  · rw [readAddress_short short]
    refine iff_of_false (by simp) ?_
    rintro ⟨_, _, _, _, rfl⟩
    simp only [List.length_cons] at short
    omega
  obtain ⟨reserved, family, high, low, rest, rfl⟩ := split_four (Nat.le_of_not_lt short)
  rw [carries_cons_iff sized]
  -- The family byte selects the branch, and the branch fixes the number of octets.
  have long {count : Nat} {octets : Octets count}
      (unmasked : octets.bytes = applyMask mask (rest.take count)) : count ≤ rest.length := by
    have lengths := congrArg List.length unmasked
    simp only [octets.sized, applyMask, List.length_zipWith, List.length_take] at lengths
    omega
  cases ip with
  | v4 address =>
    simp only [readAddress, familyByte, IpAddr.octets, address.sized]
    by_cases four : family = 0x01
    · subst four
      simp only [if_true, Option.map_eq_some_iff, Octets.ofBytes?_eq_some, IpAddr.v4.injEq,
        exists_eq_right, true_and]
      exact ⟨fun unmasked => ⟨long unmasked, unmasked⟩, And.right⟩
    · simp [four]
  | v6 address =>
    simp only [readAddress, familyByte, IpAddr.octets, address.sized]
    by_cases six : family = 0x02
    · subst six
      simp only [if_neg (show ¬ (0x02 : UInt8) = 0x01 by decide), if_true, Option.map_eq_some_iff,
        Octets.ofBytes?_eq_some, IpAddr.v6.injEq, exists_eq_right, true_and]
      exact ⟨fun unmasked => ⟨long unmasked, unmasked⟩, And.right⟩
    · simp [six]

/-- `parse_mapped_address` never panics and reads the address as it stands. -/
theorem parseMappedAddress_eq (value : Bytes) :
    parseMappedAddress value = .ok (readAddress plainMask value) := by
  by_cases short : value.length < 4
  · simp [parseMappedAddress, short, readAddress_short short]
  obtain ⟨reserved, family, high, low, rest, rfl⟩ := split_four (Nat.le_of_not_lt short)
  have tagged : index (reserved :: family :: high :: low :: rest) 1 = .ok family := rfl
  simp only [parseMappedAddress, if_neg short, tagged, ok_bind, readAddress]
  -- The plain mask leaves port and address alone, so each family is read as it stands.
  by_cases four : family = 0x01
  · simp only [if_pos four]
    by_cases cut : rest.length < 4
    · rw [if_pos (by simp only [List.length_cons]; omega), readAddress_cut cut]
      rfl
    obtain ⟨a, b, c, d, tail, rfl⟩ := split_four (Nat.le_of_not_lt cut)
    rw [if_neg (by simp only [List.length_cons]; omega)]
    simp [index, ipv4, Octets.four, plainMask, applyMask, List.replicate, Octets.ofBytes?, pure,
      Except.pure]
  · simp only [if_neg four]
    by_cases six : family = 0x02
    · simp only [if_pos six]
      by_cases cut : rest.length < 16
      · rw [if_pos (by simp only [List.length_cons]; omega), readAddress_cut cut]
        rfl
      have sized : (rest.take 16).length = 16 := by simp only [List.length_take]; omega
      rw [if_neg (by simp only [List.length_cons]; omega),
        slice_inside (by decide) (by simp only [List.length_cons]; omega)]
      simp only [List.drop_succ_cons, List.drop_zero, ok_bind, plainMask,
        applyMask_zero (le_of_eq sized), Octets.ofBytes?_sized sized, copyFromSlice_sized sized]
      rfl
    · simp [six]

/-- `parse_xor_mapped_address` never panics and reads the address under the message's key. -/
theorem parseXorMappedAddress_eq (message : StunMessage) (value : Bytes) :
    message.parseXorMappedAddress value =
      .ok (readAddress (xorKey message.transactionId) value) := by
  by_cases short : value.length < 4
  · simp [StunMessage.parseXorMappedAddress, short, readAddress_short short]
  obtain ⟨reserved, family, high, low, rest, rfl⟩ := split_four (Nat.le_of_not_lt short)
  have tagged : index (reserved :: family :: high :: low :: rest) 1 = .ok family := rfl
  simp only [StunMessage.parseXorMappedAddress, if_neg short, tagged, ok_bind, readAddress]
  by_cases four : family = 0x01
  · simp only [if_pos four]
    by_cases cut : rest.length < 4
    · rw [if_pos (by simp only [List.length_cons]; omega), readAddress_cut cut]
      rfl
    obtain ⟨a, b, c, d, tail, rfl⟩ := split_four (Nat.le_of_not_lt cut)
    -- The 32-bit exclusive or meets only the cookie half of the key.
    have masked : u32ToBeBytes (u32FromBeBytes a b c d ^^^ magicCookie) =
        applyMask (xorKey message.transactionId) [a, b, c, d] := by
      rw [u32ToBeBytes_xor, u32ToBeBytes_fromBeBytes, xorKey, applyMask_append _ _ _ (by simp)]
    have sized : (applyMask (xorKey message.transactionId) [a, b, c, d]).length = 4 := by
      rw [applyMask_length (by simp)]
      rfl
    rw [if_neg (by simp only [List.length_cons]; omega)]
    simp only [index, List.getElem?_cons_succ, List.getElem?_cons_zero, ok_bind, masked,
      copyFromSlice_sized sized, List.take_succ_cons, List.take_zero, Octets.ofBytes?_sized sized]
    rfl
  · simp only [if_neg four]
    by_cases six : family = 0x02
    · simp only [if_pos six]
      by_cases cut : rest.length < 16
      · rw [if_pos (by simp only [List.length_cons]; omega), readAddress_cut cut]
        rfl
      have sized : (applyMask (xorKey message.transactionId) (rest.take 16)).length = 16 := by
        rw [applyMask_length (by simp)]
        simp only [List.length_take]
        omega
      rw [if_neg (by simp only [List.length_cons]; omega),
        slice_inside (by decide) (by simp only [List.length_cons]; omega)]
      simp only [List.drop_succ_cons, List.drop_zero, ok_bind, Nat.reduceSub,
        Octets.ofBytes?_sized sized, copyFromSlice_sized sized]
      rfl
    · simp [six]

end IpDiscovery.Stun
