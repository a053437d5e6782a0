import IpDiscovery.Stun.Wire

/-! The attribute loop keeps four-byte alignment, and which of its error exits that leaves. -/

namespace IpDiscovery.Stun

/-! ## The header and the loop -/

/-- `decode` up to its attribute loop: the message type, the identifier and the declared end. -/
def decodeHeader (target : Target) (data : Bytes) : Run (StunMethod × Octets 12 × Nat) := do
  failIf (data.length < 20) "message too short"
  let msgTypeRaw := u16FromBeBytes (← index data 0) (← index data 1)
  let msgType ← okOr (StunMethod.fromU16 msgTypeRaw) "unknown message type"
  let msgLength := (u16FromBeBytes (← index data 2) (← index data 3)).toNat
  let magic := u32FromBeBytes (← index data 4) (← index data 5) (← index data 6)
    (← index data 7)
  failIf (magic ≠ magicCookie) "invalid magic cookie"
  let transactionId ← copyFromSlice 12 (← slice data 8 20)
  failIf (msgLength % 4 ≠ 0) "invalid message length"
  let stop ← okOr (target.checkedAdd 20 msgLength) "message length overflow"
  failIf (data.length < stop) "truncated message"
  return (msgType, transactionId, stop)

/-- The decoder is its header checks and then its attribute loop. -/
theorem decode_eq_header (target : Target) (data : Bytes) :
    StunMessage.decode target data = (do
      let (msgType, transactionId, stop) ← decodeHeader target data
      let attributes ← attributeLoop target data stop 20 []
      return { msgType, transactionId, attributes }) := by
  -- Sequencing is associative, so the header's steps can be grouped.
  simp only [StunMessage.decode, decodeHeader, bind_assoc, pure_bind]

/-- The positions at which the loop of a message that ends at `stop` tests its condition. -/
inductive LoopHead (target : Target) (data : Bytes) (stop : Nat) : Nat → Prop where
  | first : LoopHead target data stop 20
  | next {offset next : Nat} {attrType : AttributeType} {value : Bytes}
      (earlier : LoopHead target data stop offset) (running : offset < stop)
      (decoded : decodeAttribute target data stop offset = .ok (attrType, value, next)) :
      LoopHead target data stop next

/--
Some attribute's declared value runs past the declared end of the message.

Complete attributes come first, then a header whose value has fewer bytes left than it declares.
-/
def Overruns (data : Bytes) (stop offset : Nat) : Prop :=
  ∃ (attributes : List (UInt16 × Bytes)) (area rest : Bytes) (code length : UInt16),
    AttributeArea attributes area ∧
      (data.take stop).drop offset =
        area ++ (u16ToBeBytes code ++ u16ToBeBytes length ++ rest) ∧
      rest.length < length.toNat

/-! ## What one trip does from an aligned position -/

/-- From an aligned position inside the message a trip has one question left to ask. -/
theorem decodeAttribute_aligned {target : Target} {data : Bytes} {stop offset : Nat}
    (room : stop + 2 ^ 17 ≤ target.usizeMax) (inside : stop ≤ data.length)
    (aligned : offset % 4 = stop % 4) (running : offset < stop) :
    ∃ c₀ c₁ l₀ l₁, data.drop offset = c₀ :: c₁ :: l₀ :: l₁ :: data.drop (offset + 4) ∧
      decodeAttribute target data stop offset =
        if offset + 4 + (u16FromBeBytes l₀ l₁).toNat ≤ stop then
          .ok (AttributeType.fromU16 (u16FromBeBytes c₀ c₁),
            (data.drop (offset + 4)).take (u16FromBeBytes l₀ l₁).toNat,
            offset + 4 + (u16FromBeBytes l₀ l₁).toNat + paddingFor (u16FromBeBytes l₀ l₁).toNat)
        else .error (.err "attribute exceeds message length") := by
  -- Two aligned positions that differ are a whole header apart.
  have header : offset + 4 ≤ stop := by omega
  have read₀ := index_inside (show offset < data.length by omega)
  have read₁ := index_inside (show offset + 1 < data.length by omega)
  have read₂ := index_inside (show offset + 2 < data.length by omega)
  have read₃ := index_inside (show offset + 3 < data.length by omega)
  refine ⟨data[offset], data[offset + 1], data[offset + 2], data[offset + 3], ?_, ?_⟩
  · rw [drop_of_index read₀, drop_of_index read₁, drop_of_index read₂, drop_of_index read₃]
  · generalize declared : (u16FromBeBytes data[offset + 2] data[offset + 3]).toNat = length
    have small : length < 2 ^ 16 := declared ▸ UInt16.toNat_lt _
    have short := paddingFor_lt length
    have padded := paddingFor_aligned length
    simp only [decodeAttribute,
      Target.checkedAdd_fits (show offset + 4 ≤ target.usizeMax by omega),
      Target.add_fits (show offset + 1 ≤ target.usizeMax by omega),
      Target.add_fits (show offset + 2 ≤ target.usizeMax by omega),
      Target.add_fits (show offset + 3 ≤ target.usizeMax by omega),
      Target.add_fits (show offset + 4 ≤ target.usizeMax by omega), okOr_some, ok_bind,
      failIf_neg (show ¬ offset + 4 > stop by omega), read₀, read₁, read₂, read₃, declared,
      Target.checkedAdd_fits (show offset + 4 + length ≤ target.usizeMax by omega)]
    by_cases fits : offset + 4 + length ≤ stop
    · -- An aligned end leaves no room for padding that starts inside and ends outside.
      simp only [failIf_neg (show ¬ offset + 4 + length > stop by omega), ok_bind,
        slice_inside (show offset + 4 ≤ offset + 4 + length by omega)
          (show offset + 4 + length ≤ data.length by omega),
        Target.checkedAdd_fits
          (show offset + 4 + length + paddingFor length ≤ target.usizeMax by omega), okOr_some,
        failIf_neg (show ¬ offset + 4 + length + paddingFor length > stop by omega),
        Nat.add_sub_cancel_left, if_pos fits]
      rfl
    · rw [failIf_pos (show offset + 4 + length > stop by omega), if_neg fits]
      rfl

/-- A trip from an aligned position moves on to an aligned position inside the message. -/
theorem decodeAttribute_keeps {target : Target} {data value : Bytes} {stop offset next : Nat}
    {attrType : AttributeType} (aligned : offset % 4 = stop % 4)
    (decoded : decodeAttribute target data stop offset = .ok (attrType, value, next)) :
    next % 4 = stop % 4 ∧ offset < next ∧ next ≤ stop := by
  obtain ⟨_, _, l₀, l₁, _, _, _, _, advanced, within⟩ := decodeAttribute_eq_ok decoded
  have padded := paddingFor_aligned (u16FromBeBytes l₀ l₁).toNat
  omega

/-- Every head of the loop is aligned with the end of the message and not past it. -/
theorem LoopHead.aligned {target : Target} {data : Bytes} {stop : Nat}
    (words : stop % 4 = 0) (long : 20 ≤ stop) {offset : Nat}
    (head : LoopHead target data stop offset) : offset % 4 = stop % 4 ∧ offset ≤ stop := by
  -- The induction follows the trips, and each keeps the alignment.
  induction head with
  | first => omega
  | next _ _ decoded ih =>
    obtain ⟨kept, _, within⟩ := decodeAttribute_keeps ih.1 decoded
    exact ⟨kept, within⟩

/-- The heads are the positions of the calls the loop makes: its result is that of every one. -/
theorem LoopHead.resumes {target : Target} {data : Bytes} {stop offset : Nat}
    (head : LoopHead target data stop offset) :
    ∃ collected, attributeLoop target data stop 20 [] =
      attributeLoop target data stop offset collected := by
  induction head with
  | first => exact ⟨[], rfl⟩
  | @next offset next attrType value _ running decoded ih =>
    obtain ⟨collected, same⟩ := ih
    exact ⟨collected ++ [(attrType, value)],
      same.trans (attributeLoop_decoded collected running decoded)⟩

/-! ## What the loop returns -/

/-- From an aligned position the loop collects its attributes or meets a value that runs over. -/
theorem attributeLoop_outcome {target : Target} {data : Bytes} {stop : Nat}
    (room : stop + 2 ^ 17 ≤ target.usizeMax) (inside : stop ≤ data.length) (offset : Nat)
    (collected : List (AttributeType × Bytes)) :
    offset % 4 = stop % 4 → offset ≤ stop →
      (∃ attributes, attributeLoop target data stop offset collected = .ok attributes) ∨
        attributeLoop target data stop offset collected =
          .error (.err "attribute exceeds message length") := by
  -- The induction follows the loop, and every trip starts aligned.
  induction offset, collected using attributeLoop.induct target data stop with
  | case1 offset collected running fault failed =>
    intro aligned _
    obtain ⟨_, _, l₀, l₁, _, spelled⟩ := decodeAttribute_aligned room inside aligned running
    right
    rw [attributeLoop_failed collected running failed]
    rw [failed] at spelled
    split at spelled
    · cases spelled
    · cases spelled
      rfl
  | case2 offset collected running attrType value next decoded ih =>
    intro aligned _
    obtain ⟨kept, _, within⟩ := decodeAttribute_keeps aligned decoded
    rw [attributeLoop_decoded collected running decoded]
    exact ih kept within
  | case3 offset collected stopped =>
    intro _ _
    left
    exact ⟨collected, by rw [attributeLoop, if_neg stopped]⟩

/-- The bytes between a position and the declared end, seen from the whole datagram. -/
theorem declared_split {data front : Bytes} {stop offset : Nat} (within : offset ≤ stop)
    (inside : stop ≤ data.length) :
    (data.take stop).drop offset = front ↔ data.drop offset = front ++ data.drop stop := by
  -- What the declared end cuts off is what follows it.
  have whole : data.drop offset = (data.take stop).drop offset ++ data.drop stop := by
    conv_lhs => rw [← List.take_append_drop stop data]
    rw [List.drop_append_of_le_length (by simp; omega)]
  rw [whole, List.append_left_inj]

/-- The loop reports a value past the end exactly where some attribute declares one. -/
theorem attributeLoop_overruns_iff {target : Target} {data : Bytes} {stop : Nat}
    (room : stop + 2 ^ 17 ≤ target.usizeMax) (inside : stop ≤ data.length) {offset : Nat}
    (collected : List (AttributeType × Bytes)) (aligned : offset % 4 = stop % 4)
    (within : offset ≤ stop) :
    attributeLoop target data stop offset collected =
        .error (.err "attribute exceeds message length") ↔ Overruns data stop offset := by
  constructor
  · induction offset, collected using attributeLoop.induct target data stop with
    | case1 offset collected running fault failed =>
      -- The failing trip read a complete header, and its value did not fit.
      intro _
      obtain ⟨c₀, c₁, l₀, l₁, header, spelled⟩ :=
        decodeAttribute_aligned room inside aligned running
      rw [failed] at spelled
      split at spelled
      · cases spelled
      · rename_i beyond
        refine ⟨[], [], (data.take stop).drop (offset + 4), u16FromBeBytes c₀ c₁,
          u16FromBeBytes l₀ l₁, .nil, ?_, ?_⟩
        · rw [declared_split within inside, header, u16ToBeBytes_fromBeBytes,
            u16ToBeBytes_fromBeBytes, (declared_split (by omega) inside).mp rfl]
          simp
        · simp only [List.length_drop, List.length_take]
          omega
    | case2 offset collected running attrType value next decoded ih =>
      -- A decoded attribute is one more complete entry in front of the rest.
      intro ran
      obtain ⟨kept, _, behind⟩ := decodeAttribute_keeps aligned decoded
      rw [attributeLoop_decoded collected running decoded] at ran
      obtain ⟨attributes, area, rest, code, length, layout, unread, beyond⟩ :=
        ih kept behind ran
      rw [declared_split behind inside] at unread
      obtain ⟨named, padding, _, fits, short, whole, opened⟩ :=
        decodeAttribute_sound inside decoded
      refine ⟨(named, value) :: attributes, _, rest, code, length,
        .cons fits short whole layout, ?_, beyond⟩
      rw [declared_split within inside, opened, unread]
      simp
    | case3 offset collected stopped =>
      intro ran
      rw [attributeLoop, if_neg stopped] at ran
      cases ran
  · rintro ⟨attributes, area, rest, code, length, layout, unread, beyond⟩
    -- The complete attributes are walked beyond, and the next trip meets the header.
    have sizes := congrArg List.length unread
    simp only [List.length_drop, List.length_take, List.length_append, u16ToBeBytes_length]
      at sizes
    have words := layout.length_mod
    rw [declared_split within inside, List.append_assoc] at unread
    rw [attributeLoop_through (by omega) layout collected unread (by omega)]
    obtain ⟨c₀, c₁, l₀, l₁, header, spelled⟩ := decodeAttribute_aligned room inside
      (show (offset + area.length) % 4 = stop % 4 by omega) (by omega)
    have behind := congrArg (List.drop area.length) unread
    rw [List.drop_drop, List.drop_left, header, List.append_assoc, List.append_assoc] at behind
    have lengthBytes : u16FromBeBytes l₀ l₁ = length := by
      obtain ⟨_, _, codeBytes, _⟩ := u16ToBeBytes_spelled code
      obtain ⟨_, _, lengthBytes, declared⟩ := u16ToBeBytes_spelled length
      rw [codeBytes, lengthBytes] at behind
      simp only [List.cons_append, List.nil_append, List.cons.injEq] at behind
      rw [behind.2.2.1, behind.2.2.2.1, declared]
    rw [lengthBytes, if_neg (by omega)] at spelled
    exact attributeLoop_failed _ (by omega) spelled

/-! ## The whole decoder -/

/-- The errors of the header checks. -/
def headerErrors : List String :=
  ["message too short", "unknown message type", "invalid magic cookie", "invalid message length",
    "truncated message"]

/-- Passed header checks leave a message of whole words that lies inside the datagram. -/
theorem decodeHeader_eq_ok {target : Target} {data : Bytes} {msgType : StunMethod}
    {transactionId : Octets 12} {stop : Nat}
    (passed : decodeHeader target data = .ok (msgType, transactionId, stop)) :
    stop % 4 = 0 ∧ 20 ≤ stop ∧ stop < 20 + 2 ^ 16 ∧ stop ≤ data.length := by
  -- Only the declared length decides where the message ends.
  obtain ⟨_, _, passed⟩ := bind_eq_ok passed
  obtain ⟨_, _, passed⟩ := bind_eq_ok passed
  obtain ⟨_, _, passed⟩ := bind_eq_ok passed
  obtain ⟨_, _, passed⟩ := bind_eq_ok passed
  obtain ⟨l₀, _, passed⟩ := bind_eq_ok passed
  obtain ⟨l₁, _, passed⟩ := bind_eq_ok passed
  obtain ⟨_, _, passed⟩ := bind_eq_ok passed
  obtain ⟨_, _, passed⟩ := bind_eq_ok passed
  obtain ⟨_, _, passed⟩ := bind_eq_ok passed
  obtain ⟨_, _, passed⟩ := bind_eq_ok passed
  obtain ⟨_, _, passed⟩ := bind_eq_ok passed
  obtain ⟨_, _, passed⟩ := bind_eq_ok passed
  obtain ⟨_, _, passed⟩ := bind_eq_ok passed
  obtain ⟨_, words, passed⟩ := bind_eq_ok passed
  obtain ⟨_, ended, passed⟩ := bind_eq_ok passed
  obtain ⟨_, whole, passed⟩ := bind_eq_ok passed
  cases passed
  have words := not_not.mp (failIf_eq_ok words)
  have whole := failIf_eq_ok whole
  cases Target.checkedAdd_eq_some (okOr_eq_ok ended)
  have small := (u16FromBeBytes l₀ l₁).toNat_lt
  omega

/-- The header checks fail with their own errors and nothing else. -/
theorem decodeHeader_fails (target : Target) (data : Bytes) :
    FailsWith headerErrors (decodeHeader target data) := by
  -- Behind the first check every position the header reads is inside the datagram.
  have read (position : Nat) (inside : position < data.length) :
      FailsWith headerErrors (index data position) :=
    index_inside inside ▸ .ok _ _
  have room := target.usizeMax_ge
  unfold decodeHeader
  apply FailsWith.bind (.failIf _ (by decide))
  intro _ long
  have long := failIf_eq_ok long
  apply FailsWith.bind (read 0 (by omega))
  intro _ _
  apply FailsWith.bind (read 1 (by omega))
  intro _ _
  apply FailsWith.bind (.okOr _ (by decide))
  intro _ _
  apply FailsWith.bind (read 2 (by omega))
  intro l₀ _
  apply FailsWith.bind (read 3 (by omega))
  intro l₁ _
  apply FailsWith.bind (read 4 (by omega))
  intro _ _
  apply FailsWith.bind (read 5 (by omega))
  intro _ _
  apply FailsWith.bind (read 6 (by omega))
  intro _ _
  apply FailsWith.bind (read 7 (by omega))
  intro _ _
  apply FailsWith.bind (.failIf _ (by decide))
  intro _ _
  rw [slice_inside (by omega) (by omega), ok_bind,
    copyFromSlice_sized (by simp only [List.length_take, List.length_drop]; omega), ok_bind]
  apply FailsWith.bind (.failIf _ (by decide))
  intro _ _
  -- A 16-bit length behind twenty bytes does not overflow.
  have small := (u16FromBeBytes l₀ l₁).toNat_lt
  rw [Target.checkedAdd_fits (by omega), okOr_some, ok_bind]
  exact .bind (.failIf _ (by decide)) fun _ _ => .ok _ _

/-- The decoder fails with a header error or with a value past the declared end. -/
theorem decode_fails (target : Target) (data : Bytes) :
    FailsWith ("attribute exceeds message length" :: headerErrors)
      (StunMessage.decode target data) := by
  rw [decode_eq_header]
  apply FailsWith.bind
  · intro fault failed
    obtain ⟨error, listed, same⟩ := decodeHeader_fails target data fault failed
    exact ⟨error, List.mem_cons_of_mem _ listed, same⟩
  · rintro ⟨msgType, transactionId, stop⟩ passed
    obtain ⟨words, long, small, inside⟩ := decodeHeader_eq_ok passed
    have room : stop + 2 ^ 17 ≤ target.usizeMax := by
      have room := target.usizeMax_ge
      omega
    apply FailsWith.bind
    · intro fault failed
      -- The loop starts twenty bytes in, which is aligned.
      obtain ⟨attributes, collected⟩ | exceeded :=
        attributeLoop_outcome room inside 20 [] (by omega) long
      · rw [collected] at failed
        cases failed
      · rw [exceeded] at failed
        cases failed
        exact ⟨_, List.mem_cons_self, rfl⟩
    · intro attributes _
      exact .ok _ _

/--
The attribute loop keeps four-byte alignment, so most of its error exits are dead.

Every head of the loop is aligned with the declared end and inside the datagram, and a trip moves
forward.
Past the header checks the decoder succeeds or reports an attribute that runs past that end.
-/
theorem decode_alignment (target : Target) (data : Bytes) :
    (∀ msgType transactionId stop,
      decodeHeader target data = .ok (msgType, transactionId, stop) →
        stop ≤ data.length ∧
        (∀ offset, LoopHead target data stop offset →
          offset % 4 = stop % 4 ∧ offset ≤ stop ∧
          (∃ collected, attributeLoop target data stop 20 [] =
            attributeLoop target data stop offset collected) ∧
          ∀ attrType value next,
            decodeAttribute target data stop offset = .ok (attrType, value, next) →
              offset < next) ∧
        ((∃ message, StunMessage.decode target data = .ok message) ∨
          StunMessage.decode target data = .error (.err "attribute exceeds message length")) ∧
        (StunMessage.decode target data = .error (.err "attribute exceeds message length") ↔
          Overruns data stop 20)) ∧
    Safe (StunMessage.decode target data) ∧
    ∀ error ∈ ["truncated attribute header", "invalid attribute padding",
        "attribute length overflow", "message length overflow"],
      StunMessage.decode target data ≠ .error (.err error) := by
  refine ⟨?_, (decode_fails target data).safe, ?_⟩
  · intro msgType transactionId stop passed
    obtain ⟨words, long, small, inside⟩ := decodeHeader_eq_ok passed
    have room : stop + 2 ^ 17 ≤ target.usizeMax := by
      have room := target.usizeMax_ge
      omega
    -- Behind the header the decoder is its loop.
    have looped : StunMessage.decode target data =
        (attributeLoop target data stop 20 [] >>= fun attributes =>
          .ok { msgType, transactionId, attributes }) := by
      rw [decode_eq_header, passed]
      rfl
    have exceeds : StunMessage.decode target data =
          .error (.err "attribute exceeds message length") ↔
        attributeLoop target data stop 20 [] =
          .error (.err "attribute exceeds message length") := by
      rw [looped]
      cases attributeLoop target data stop 20 [] with
      | ok attributes => simp
      | error fault => constructor <;> rintro ⟨⟩ <;> rfl
    refine ⟨inside, ?_, ?_, ?_⟩
    · intro offset head
      obtain ⟨aligned, within⟩ := head.aligned words long
      refine ⟨aligned, within, head.resumes, ?_⟩
      intro attrType value next decoded
      exact (decodeAttribute_keeps aligned decoded).2.1
    · obtain ⟨attributes, collected⟩ | exceeded :=
        attributeLoop_outcome room inside 20 [] (by omega) long
      · left
        exact ⟨_, by rw [looped, collected]; rfl⟩
      · right
        exact exceeds.mpr exceeded
    · rw [exceeds, attributeLoop_overruns_iff room inside [] (by omega) long]
  · intro error dead
    apply (decode_fails target data).ne
    intro listed
    simp [headerErrors] at dead listed
    rcases dead with rfl | rfl | rfl | rfl <;> simp at listed

/-- A declared message of one attribute header whose value lies in the bytes behind the message. -/
theorem decode_alignment_beyond :
    Overruns ([0x01, 0x01, 0, 4, 0x21, 0x12, 0xA4, 0x42] ++ List.replicate 12 7 ++
      [0x00, 0x20, 0, 1] ++ [42]) 24 20 :=
  ((decode_alignment .x64 _).1 .response ⟨List.replicate 12 7, rfl⟩ 24
    (by decide +kernel)).2.2.2.mp (by decide +kernel)

end IpDiscovery.Stun
