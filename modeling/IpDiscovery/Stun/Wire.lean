import IpDiscovery.Stun.Message

/-! The STUN wire format as a relation, and the decoder as exactly that relation. -/

namespace IpDiscovery.Stun

/-- The type code of an attribute. -/
def AttributeType.toU16 : AttributeType → UInt16
  | .mappedAddress => 0x0001
  | .xorMappedAddress => 0x0020
  | .unknown code => code

/-- Attribute types the decoder can produce: a known code is never left unknown. -/
def AttributeType.Canonical : AttributeType → Prop
  | .unknown code => code ≠ 0x0001 ∧ code ≠ 0x0020
  | _ => True

/-- An attribute on the wire, read as the decoder names it. -/
def fromWire (entry : UInt16 × Bytes) : AttributeType × Bytes :=
  (AttributeType.fromU16 entry.1, entry.2)

/-- An attribute of a message, as its type code and value. -/
def toWire (entry : AttributeType × Bytes) : UInt16 × Bytes :=
  (entry.1.toU16, entry.2)

/--
The byte strings that lay out a list of attributes.

Every value is followed by up to three bytes that bring it to a multiple of four.
Nothing is asked of the contents of those bytes.
-/
inductive AttributeArea : List (UInt16 × Bytes) → Bytes → Prop where
  | nil : AttributeArea [] []
  | cons {code : UInt16} {value padding area : Bytes} {rest : List (UInt16 × Bytes)}
      (fits : value.length < 2 ^ 16) (short : padding.length < 4)
      (aligned : (value.length + padding.length) % 4 = 0) (tail : AttributeArea rest area) :
      AttributeArea ((code, value) :: rest)
        (u16ToBeBytes code ++ u16ToBeBytes (UInt16.ofNat value.length) ++ value ++ padding ++ area)

/-- A datagram that opens with a header, its declared attribute area, and anything after. -/
def Datagram (msgType : StunMethod) (transactionId : Octets 12)
    (attributes : List (UInt16 × Bytes)) (data : Bytes) : Prop :=
  ∃ area trailing : Bytes, area.length < 2 ^ 16 ∧ AttributeArea attributes area ∧
    data = u16ToBeBytes msgType.toU16 ++ u16ToBeBytes (UInt16.ofNat area.length) ++
      u32ToBeBytes magicCookie ++ transactionId.bytes ++ area ++ trailing

/-- A byte string is the serialisation of a message. -/
def Serialises (message : StunMessage) (data : Bytes) : Prop :=
  Datagram message.msgType message.transactionId (message.attributes.map toWire) data

/-! ## Type codes -/

/-- A message type is determined by its code. -/
theorem StunMethod.fromU16_eq_some {value : UInt16} {msgType : StunMethod} :
    StunMethod.fromU16 value = some msgType ↔ value = msgType.toU16 := by
  -- The three codes are distinct constants.
  constructor
  · intro read
    unfold StunMethod.fromU16 at read
    split at read
    · cases read; assumption
    · split at read
      · cases read; assumption
      · split at read
        · cases read; assumption
        · cases read
  · rintro rfl
    cases msgType <;> decide

/-- Every code is the code of what it is read as. -/
@[simp] theorem AttributeType.toU16_fromU16 (code : UInt16) :
    (AttributeType.fromU16 code).toU16 = code := by
  -- The two named types stand for their own codes, and any other code is kept.
  unfold AttributeType.fromU16
  split
  · simp_all [AttributeType.toU16]
  · split <;> simp_all [AttributeType.toU16]

/-- What is read from a code is canonical. -/
theorem AttributeType.fromU16_canonical (code : UInt16) :
    (AttributeType.fromU16 code).Canonical := by
  -- A code is left unknown only after both comparisons failed.
  unfold AttributeType.fromU16
  split
  · trivial
  · split
    · trivial
    · exact ⟨by assumption, by assumption⟩

/-- A canonical type is read back from its code. -/
theorem AttributeType.fromU16_toU16 {attrType : AttributeType} (canonical : attrType.Canonical) :
    AttributeType.fromU16 attrType.toU16 = attrType := by
  cases attrType with
  | mappedAddress => rfl
  | xorMappedAddress => rfl
  | unknown code =>
    obtain ⟨notMapped, notXor⟩ := canonical
    simp [AttributeType.toU16, AttributeType.fromU16, notMapped, notXor]

/-- Reading the wire form of canonical attributes gives the attributes back. -/
theorem map_fromWire_toWire {attributes : List (AttributeType × Bytes)}
    (canonical : ∀ entry ∈ attributes, entry.1.Canonical) :
    (attributes.map toWire).map fromWire = attributes := by
  -- Each entry survives on its own.
  rw [List.map_map]
  refine (List.map_congr_left ?_).trans (List.map_id attributes)
  intro entry member
  simp [fromWire, toWire, AttributeType.fromU16_toU16 (canonical entry member)]

/-- Writing what was read from the wire gives the wire form back. -/
theorem map_toWire_fromWire (attributes : List (UInt16 × Bytes)) :
    (attributes.map fromWire).map toWire = attributes := by
  simp [Function.comp_def, fromWire, toWire]

/-! ## The attribute loop -/

/-- The padding that aligns a value is the one the loop skips. -/
theorem paddingFor_eq {length padding : Nat} (short : padding < 4)
    (aligned : (length + padding) % 4 = 0) : paddingFor length = padding := by
  unfold paddingFor
  omega

/-- Padding is at most three bytes. -/
theorem paddingFor_lt (length : Nat) : paddingFor length < 4 := by
  unfold paddingFor
  omega

/-- Padding aligns the value. -/
theorem paddingFor_aligned (length : Nat) : (length + paddingFor length) % 4 = 0 := by
  unfold paddingFor
  omega

/-- An attribute that opens the unread bytes is decoded, and the loop moves behind its padding. -/
theorem decodeAttribute_complete {target : Target} {data value padding rest : Bytes}
    {stop offset : Nat} {code : UInt16} (bounded : stop ≤ target.usizeMax)
    (unread : data.drop offset = u16ToBeBytes code ++ u16ToBeBytes (UInt16.ofNat value.length) ++
      value ++ padding ++ rest)
    (fits : value.length < 2 ^ 16) (short : padding.length < 4)
    (aligned : (value.length + padding.length) % 4 = 0)
    (within : offset + 4 + value.length + padding.length ≤ stop) :
    decodeAttribute target data stop offset =
      .ok (AttributeType.fromU16 code, value, offset + 4 + value.length + padding.length) := by
  -- The four header bytes are read one at a time from the front of the unread bytes.
  obtain ⟨c₀, c₁, codeBytes, named⟩ := u16ToBeBytes_spelled code
  obtain ⟨l₀, l₁, lengthBytes, counted⟩ := u16ToBeBytes_spelled (UInt16.ofNat value.length)
  have counted : (u16FromBeBytes l₀ l₁).toNat = value.length := by
    rw [counted, UInt16.toNat_ofNat_of_lt' fits]
  simp only [codeBytes, lengthBytes, List.cons_append, List.nil_append] at unread
  have tail₁ := congrArg (List.drop 1) unread
  have tail₂ := congrArg (List.drop 2) unread
  have tail₃ := congrArg (List.drop 3) unread
  have tail₄ := congrArg (List.drop 4) unread
  simp only [List.drop_drop, List.drop_succ_cons, List.drop_zero] at tail₁ tail₂ tail₃ tail₄
  have skipped := paddingFor_eq short aligned
  have inside : offset + 4 + value.length ≤ data.length := by
    have lengths := congrArg List.length tail₄
    simp only [List.length_drop, List.length_append] at lengths
    have nonempty := congrArg List.length unread
    simp only [List.length_drop, List.length_cons, List.length_append] at nonempty
    omega
  simp only [decodeAttribute, Target.checkedAdd_fits (show offset + 4 ≤ target.usizeMax by omega),
    Target.add_fits (show offset + 1 ≤ target.usizeMax by omega),
    Target.add_fits (show offset + 2 ≤ target.usizeMax by omega),
    Target.add_fits (show offset + 3 ≤ target.usizeMax by omega),
    Target.add_fits (show offset + 4 ≤ target.usizeMax by omega),
    okOr_some, ok_bind, failIf_neg (show ¬ offset + 4 > stop by omega),
    index_of_drop unread, index_of_drop tail₁, index_of_drop tail₂, index_of_drop tail₃,
    named, counted,
    Target.checkedAdd_fits (show offset + 4 + value.length ≤ target.usizeMax by omega),
    failIf_neg (show ¬ offset + 4 + value.length > stop by omega),
    slice_inside (show offset + 4 ≤ offset + 4 + value.length by omega) inside, skipped,
    Target.checkedAdd_fits
      (show offset + 4 + value.length + padding.length ≤ target.usizeMax by omega),
    failIf_neg (show ¬ offset + 4 + value.length + padding.length > stop by omega),
    tail₄, Nat.add_sub_cancel_left, List.append_assoc, List.take_left']
  rfl

/-- A trip that decodes an attribute collects it, and the loop goes on behind it. -/
theorem attributeLoop_decoded {target : Target} {data value : Bytes} {stop offset next : Nat}
    {attrType : AttributeType} (collected : List (AttributeType × Bytes)) (running : offset < stop)
    (decoded : decodeAttribute target data stop offset = .ok (attrType, value, next)) :
    attributeLoop target data stop offset collected =
      attributeLoop target data stop next (collected ++ [(attrType, value)]) := by
  rw [attributeLoop, if_pos running]
  -- The outcome of the decoder is known, so only its success is left.
  split
  · rename_i failed
    rw [decoded] at failed
    cases failed
  · rename_i step
    rw [decoded] at step
    cases step
    rfl

/-- A trip that decodes none is the last. -/
theorem attributeLoop_failed {target : Target} {data : Bytes} {stop offset : Nat}
    {fault : Fault String} (collected : List (AttributeType × Bytes)) (running : offset < stop)
    (failed : decodeAttribute target data stop offset = .error fault) :
    attributeLoop target data stop offset collected = .error fault := by
  rw [attributeLoop, if_pos running]
  -- The outcome of the decoder is known, so only its failure is left.
  split
  · rename_i step
    rw [failed] at step
    cases step
    rfl
  · rename_i decoded
    rw [failed] at decoded
    cases decoded

/-- The loop walks over every attribute area it is pointed at, and goes on behind it. -/
theorem attributeLoop_through {target : Target} {data rest : Bytes} {stop : Nat}
    (bounded : stop ≤ target.usizeMax) {attributes : List (UInt16 × Bytes)} {area : Bytes}
    (layout : AttributeArea attributes area) :
    ∀ {offset : Nat} (collected : List (AttributeType × Bytes)),
      data.drop offset = area ++ rest → offset + area.length ≤ stop →
        attributeLoop target data stop offset collected =
          attributeLoop target data stop (offset + area.length)
            (collected ++ attributes.map fromWire) := by
  -- The induction follows the layout, one attribute for one trip round the loop.
  induction layout with
  | nil =>
    intro offset collected _ _
    simp
  | @cons code value padding area attributes fits short aligned _ ih =>
    intro offset collected unread ends
    simp only [List.length_append, u16ToBeBytes_length] at ends ⊢
    have decoded := decodeAttribute_complete bounded
      (by simpa only [List.append_assoc] using unread) fits short aligned (by omega)
    have remaining : data.drop (offset + 4 + value.length + padding.length) = area ++ rest := by
      have dropped := congrArg (List.drop (4 + value.length + padding.length)) unread
      rw [List.drop_drop] at dropped
      rw [show offset + 4 + value.length + padding.length =
        offset + (4 + value.length + padding.length) by omega, dropped]
      rw [List.append_assoc]
      exact List.drop_left' (by simp; omega)
    have onward := ih (collected ++ [(AttributeType.fromU16 code, value)]) remaining (by omega)
    rw [attributeLoop_decoded collected (by omega) decoded, onward,
      show offset + 4 + value.length + padding.length + area.length =
        offset + (2 + 2 + value.length + padding.length + area.length) by omega]
    simp [fromWire]

/-- The loop decodes every attribute area it is pointed at, in order. -/
theorem attributeLoop_complete {target : Target} {data rest : Bytes} {stop offset : Nat}
    (bounded : stop ≤ target.usizeMax) {attributes : List (UInt16 × Bytes)} {area : Bytes}
    (layout : AttributeArea attributes area) (collected : List (AttributeType × Bytes))
    (unread : data.drop offset = area ++ rest) (ends : stop = offset + area.length) :
    attributeLoop target data stop offset collected =
      .ok (collected ++ attributes.map fromWire) := by
  -- Behind the area the loop condition fails.
  rw [attributeLoop_through bounded layout collected unread (by omega), attributeLoop,
    if_neg (by omega)]

/-- What a successful trip has read is the layout of one attribute, up to where the next starts. -/
theorem decodeAttribute_sound {target : Target} {data value : Bytes} {stop offset next : Nat}
    {attrType : AttributeType} (bounded : stop ≤ data.length)
    (decoded : decodeAttribute target data stop offset = .ok (attrType, value, next)) :
    ∃ (code : UInt16) (padding : Bytes), attrType = AttributeType.fromU16 code ∧
      value.length < 2 ^ 16 ∧ padding.length < 4 ∧ (value.length + padding.length) % 4 = 0 ∧
      data.drop offset = u16ToBeBytes code ++ u16ToBeBytes (UInt16.ofNat value.length) ++ value ++
        padding ++ data.drop next := by
  obtain ⟨c₀, c₁, l₀, l₁, header, named, inside, taken, advanced, within⟩ :=
    decodeAttribute_eq_ok decoded
  have length : value.length = (u16FromBeBytes l₀ l₁).toNat := by
    rw [taken, List.length_take, List.length_drop]
    omega
  -- The skipped bytes are the padding, whatever they contain.
  let padding := (data.drop (offset + 4 + value.length)).take (paddingFor value.length)
  have padded : padding.length = paddingFor value.length := by
    rw [← length] at advanced
    simp only [padding, List.length_take, List.length_drop]
    omega
  refine ⟨u16FromBeBytes c₀ c₁, padding, named, ?_, ?_, ?_, ?_⟩
  · rw [length]
    exact UInt16.toNat_lt _
  · rw [padded]
    exact paddingFor_lt _
  · rw [padded]
    exact paddingFor_aligned _
  · have lengthBytes : u16ToBeBytes (UInt16.ofNat value.length) = [l₀, l₁] := by
      rw [length, UInt16.ofNat_toNat, u16ToBeBytes_fromBeBytes]
    have valueSplit :
        data.drop (offset + 4) = value ++ data.drop (offset + 4 + value.length) := by
      conv_lhs => rw [← List.take_append_drop value.length (data.drop (offset + 4))]
      rw [List.drop_drop, taken, ← length, List.length_take_of_le]
      rw [List.length_drop]
      omega
    have paddingSplit : data.drop (offset + 4 + value.length) = padding ++ data.drop next := by
      conv_lhs => rw [← List.take_append_drop (paddingFor value.length)
        (data.drop (offset + 4 + value.length))]
      rw [List.drop_drop, advanced, ← length]
    rw [header, valueSplit, paddingSplit, lengthBytes, u16ToBeBytes_fromBeBytes]
    simp

/-- What the loop collects lies in the declared area as a complete layout of attributes. -/
theorem attributeLoop_sound {target : Target} {data : Bytes} {stop : Nat}
    (bounded : stop ≤ data.length) (offset : Nat) (collected : List (AttributeType × Bytes)) :
    ∀ {result : List (AttributeType × Bytes)}, offset ≤ stop →
      attributeLoop target data stop offset collected = .ok result →
        ∃ attributes area, AttributeArea attributes area ∧
          data.drop offset = area ++ data.drop stop ∧
          result = collected ++ attributes.map fromWire := by
  -- The induction follows the loop, and each successful trip contributes one layout entry.
  induction offset, collected using attributeLoop.induct target data stop with
  | case1 offset collected running fault failed =>
    intro result _ ran
    rw [attributeLoop_failed collected running failed] at ran
    cases ran
  | case2 offset collected running attrType value next decoded ih =>
    intro result _ ran
    rw [attributeLoop_decoded collected running decoded] at ran
    obtain ⟨_, _, _, _, _, _, _, _, _, within⟩ := decodeAttribute_eq_ok decoded
    obtain ⟨attributes, area, layout, unread, same⟩ := ih within ran
    obtain ⟨code, padding, named, fits, short, aligned, opened⟩ :=
      decodeAttribute_sound bounded decoded
    refine ⟨(code, value) :: attributes, _, .cons fits short aligned layout, ?_, ?_⟩
    · rw [opened, unread]
      simp
    · rw [same, named]
      simp [fromWire]
  | case3 offset collected stopped =>
    intro result within ran
    rw [attributeLoop, if_neg stopped] at ran
    cases ran
    exact ⟨[], [], .nil, by simp [show offset = stop by omega], by simp⟩

/-! ## Whole messages -/

/-- The cookie as the four bytes that spell it. -/
theorem magicCookie_bytes : u32ToBeBytes magicCookie = [0x21, 0x12, 0xA4, 0x42] := by
  decide

/-- An area is a whole number of four-byte words. -/
theorem AttributeArea.length_mod {attributes : List (UInt16 × Bytes)} {area : Bytes}
    (layout : AttributeArea attributes area) : area.length % 4 = 0 := by
  -- Each entry adds a four-byte header and an aligned value.
  induction layout with
  | nil => rfl
  | cons fits short aligned _ ih =>
    simp only [List.length_append, u16ToBeBytes_length]
    omega

/-- Every datagram decodes to the message its header and area spell. -/
theorem decode_complete {target : Target} {data : Bytes} {msgType : StunMethod}
    {transactionId : Octets 12} {attributes : List (UInt16 × Bytes)}
    (datagram : Datagram msgType transactionId attributes data) :
    StunMessage.decode target data =
      .ok ⟨msgType, transactionId, attributes.map fromWire⟩ := by
  obtain ⟨area, trailing, fits, layout, shape⟩ := datagram
  obtain ⟨t₀, t₁, typeBytes, named⟩ := u16ToBeBytes_spelled msgType.toU16
  obtain ⟨l₀, l₁, lengthBytes, counted⟩ := u16ToBeBytes_spelled (UInt16.ofNat area.length)
  have counted : (u16FromBeBytes l₀ l₁).toNat = area.length := by
    rw [counted, UInt16.toNat_ofNat_of_lt' fits]
  -- The header is eight known bytes and the transaction ID.
  have spelled : data = t₀ :: t₁ :: l₀ :: l₁ :: 0x21 :: 0x12 :: 0xA4 :: 0x42 ::
      (transactionId.bytes ++ (area ++ trailing)) := by
    rw [shape, typeBytes, lengthBytes, magicCookie_bytes]
    simp
  have size : data.length = 20 + area.length + trailing.length := by
    simp [spelled, transactionId.sized]
    omega
  have identified : slice data 8 20 = .ok transactionId.bytes := by
    rw [slice_inside (by decide) (by omega), spelled]
    simp [List.take_left' transactionId.sized]
  have unread : data.drop 20 = area ++ trailing := by
    rw [spelled]
    simp only [List.drop_succ_cons]
    exact List.drop_left' transactionId.sized
  have known : StunMethod.fromU16 msgType.toU16 = some msgType :=
    StunMethod.fromU16_eq_some.mpr rfl
  have room := target.usizeMax_ge
  have aligned := layout.length_mod
  have bounded : 20 + area.length ≤ target.usizeMax := by omega
  have collected := attributeLoop_complete bounded layout [] unread rfl
  have r₀ : index data 0 = .ok t₀ := by simp [spelled, index]
  have r₁ : index data 1 = .ok t₁ := by simp [spelled, index]
  have r₂ : index data 2 = .ok l₀ := by simp [spelled, index]
  have r₃ : index data 3 = .ok l₁ := by simp [spelled, index]
  have r₄ : index data 4 = .ok 0x21 := by simp [spelled, index]
  have r₅ : index data 5 = .ok 0x12 := by simp [spelled, index]
  have r₆ : index data 6 = .ok 0xA4 := by simp [spelled, index]
  have r₇ : index data 7 = .ok 0x42 := by simp [spelled, index]
  have cookie : u32FromBeBytes 0x21 0x12 0xA4 0x42 = magicCookie := by decide
  simp only [StunMessage.decode, failIf_neg (show ¬ data.length < 20 by omega), ok_bind, r₀, r₁,
    r₂, r₃, r₄, r₅, r₆, r₇, named, known, okOr_some, cookie, failIf_neg (not_not_intro rfl),
    identified, copyFromSlice_octets, counted, failIf_neg (not_not_intro aligned),
    Target.checkedAdd_fits (show 20 + area.length ≤ target.usizeMax by omega),
    failIf_neg (show ¬ data.length < 20 + area.length by omega), collected, List.nil_append]
  rfl

/-- Whatever decodes is a datagram that spells the decoded message. -/
theorem decode_sound {target : Target} {data : Bytes} {message : StunMessage}
    (decoded : StunMessage.decode target data = .ok message) :
    ∃ attributes, Datagram message.msgType message.transactionId attributes data ∧
      message.attributes = attributes.map fromWire := by
  -- Each bind is one header read or one guard of the decoder.
  obtain ⟨_, long, decoded⟩ := bind_eq_ok decoded
  obtain ⟨t₀, r₀, decoded⟩ := bind_eq_ok decoded
  obtain ⟨t₁, r₁, decoded⟩ := bind_eq_ok decoded
  obtain ⟨msgType, known, decoded⟩ := bind_eq_ok decoded
  obtain ⟨l₀, r₂, decoded⟩ := bind_eq_ok decoded
  obtain ⟨l₁, r₃, decoded⟩ := bind_eq_ok decoded
  obtain ⟨m₀, r₄, decoded⟩ := bind_eq_ok decoded
  obtain ⟨m₁, r₅, decoded⟩ := bind_eq_ok decoded
  obtain ⟨m₂, r₆, decoded⟩ := bind_eq_ok decoded
  obtain ⟨m₃, r₇, decoded⟩ := bind_eq_ok decoded
  obtain ⟨_, magic, decoded⟩ := bind_eq_ok decoded
  obtain ⟨idBytes, taken, decoded⟩ := bind_eq_ok decoded
  obtain ⟨transactionId, copied, decoded⟩ := bind_eq_ok decoded
  obtain ⟨_, aligned, decoded⟩ := bind_eq_ok decoded
  obtain ⟨stop, ended, decoded⟩ := bind_eq_ok decoded
  obtain ⟨_, whole, decoded⟩ := bind_eq_ok decoded
  obtain ⟨collected, looped, decoded⟩ := bind_eq_ok decoded
  cases decoded
  cases Target.checkedAdd_eq_some (okOr_eq_ok ended)
  have whole := failIf_eq_ok whole
  have magic := not_not.mp (failIf_eq_ok magic)
  obtain ⟨_, _, same⟩ := slice_eq_ok taken
  obtain ⟨attributes, area, layout, unread, named⟩ :=
    attributeLoop_sound (by omega) 20 [] (by omega) looped
  refine ⟨attributes, ⟨area, data.drop (20 + (u16FromBeBytes l₀ l₁).toNat), ?_, layout, ?_⟩,
    by simpa using named⟩
  all_goals
    have size : area.length = (u16FromBeBytes l₀ l₁).toNat := by
      have lengths := congrArg List.length unread
      simp only [List.length_drop, List.length_append] at lengths
      omega
  · rw [size]
    exact UInt16.toNat_lt _
  · -- The bytes read one by one rebuild the header in front of the identifier.
    have idSplit : data.drop 8 = transactionId.bytes ++ data.drop 20 := by
      rw [copyFromSlice_eq_ok copied, same]
      simpa only [List.drop_drop] using (List.take_append_drop 12 (data.drop 8)).symm
    have cookie : u32ToBeBytes magicCookie = [m₀, m₁, m₂, m₃] := by
      rw [← magic, u32ToBeBytes_fromBeBytes]
    have header : data = t₀ :: t₁ :: l₀ :: l₁ :: m₀ :: m₁ :: m₂ :: m₃ :: data.drop 8 := by
      rw [← drop_of_index r₇, ← drop_of_index r₆, ← drop_of_index r₅, ← drop_of_index r₄,
        ← drop_of_index r₃, ← drop_of_index r₂, ← drop_of_index r₁, ← drop_of_index r₀]
      rfl
    rw [← StunMethod.fromU16_eq_some.mp (okOr_eq_ok known), size, UInt16.ofNat_toNat,
      u16ToBeBytes_fromBeBytes, u16ToBeBytes_fromBeBytes, cookie]
    simpa only [List.append_assoc, List.cons_append, List.nil_append, idSplit, unread] using header

/-- Decoding succeeds with a message exactly on the datagrams that spell it. -/
theorem decode_eq_ok_iff {target : Target} {data : Bytes} {message : StunMessage} :
    StunMessage.decode target data = .ok message ↔
      ∃ attributes, Datagram message.msgType message.transactionId attributes data ∧
        message.attributes = attributes.map fromWire := by
  constructor
  · exact decode_sound
  · rintro ⟨attributes, datagram, named⟩
    rw [decode_complete datagram, ← named]

/--
The decoder accepts exactly the serialisations of canonical messages, and inverts them.

Padding contents and trailing bytes are left free by the wire format, so they decide nothing.
-/
theorem decode_iff_serialises (target : Target) :
    (∀ (data : Bytes) (message : StunMessage),
      (∀ entry ∈ message.attributes, entry.1.Canonical) →
        (StunMessage.decode target data = .ok message ↔ Serialises message data)) ∧
    (∀ (data : Bytes) (message : StunMessage), StunMessage.decode target data = .ok message →
      ∀ entry ∈ message.attributes, entry.1.Canonical) ∧
    (∀ (data data' : Bytes) (message : StunMessage), Serialises message data →
      Serialises message data' →
        StunMessage.decode target data = StunMessage.decode target data') ∧
    (∀ message : StunMessage, message.attributes = [] →
      StunMessage.decode target message.encode = .ok message) := by
  refine ⟨?_, ?_, ?_, ?_⟩
  · intro data message canonical
    rw [decode_eq_ok_iff, Serialises]
    constructor
    · rintro ⟨attributes, datagram, named⟩
      rwa [named, map_toWire_fromWire]
    · intro datagram
      exact ⟨_, datagram, (map_fromWire_toWire canonical).symm⟩
  · intro data message decoded entry member
    obtain ⟨attributes, _, named⟩ := decode_sound decoded
    rw [named] at member
    obtain ⟨raw, _, rfl⟩ := List.mem_map.mp member
    exact AttributeType.fromU16_canonical raw.1
  · intro data data' message serialised serialised'
    rw [decode_complete serialised, decode_complete serialised']
  · intro message empty
    -- The encoder declares an empty area and writes nothing behind the identifier.
    have datagram : Datagram message.msgType message.transactionId [] message.encode :=
      ⟨[], [], by decide, .nil, by simp [StunMessage.encode]⟩
    rw [decode_complete datagram, List.map_nil, ← empty]

/-- A response with one odd-length attribute, padded with arbitrary bytes and followed by more. -/
theorem decode_iff_serialises_padded :
    Serialises ⟨.response, ⟨List.replicate 12 7, rfl⟩, [(.unknown 0x8001, [1, 2, 3, 4, 5])]⟩
      ([0x01, 0x01, 0, 12, 0x21, 0x12, 0xA4, 0x42] ++ List.replicate 12 7 ++
        [0x80, 0x01, 0, 5, 1, 2, 3, 4, 5, 9, 8, 7] ++ [42]) :=
  ((decode_iff_serialises .x64).1 _ _ (by simp [AttributeType.Canonical])).mp (by decide +kernel)

end IpDiscovery.Stun
