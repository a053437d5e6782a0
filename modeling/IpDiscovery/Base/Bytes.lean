import IpDiscovery.Base.Machine

/-! Big-endian integers and exclusive-or masks over byte strings. -/

namespace IpDiscovery

/-! ## Big-endian integers -/

/-- `u16::from_be_bytes`. -/
def u16FromBeBytes (high low : UInt8) : UInt16 :=
  -- The first byte is the most significant.
  UInt16.ofNat (high.toNat * 256 + low.toNat)

/-- `u16::to_be_bytes`. -/
def u16ToBeBytes (value : UInt16) : Bytes :=
  [UInt8.ofNat (value.toNat / 256), UInt8.ofNat (value.toNat % 256)]

/-- `u32::from_be_bytes`. -/
def u32FromBeBytes (b₀ b₁ b₂ b₃ : UInt8) : UInt32 :=
  UInt32.ofNat (((b₀.toNat * 256 + b₁.toNat) * 256 + b₂.toNat) * 256 + b₃.toNat)

/-- `u32::to_be_bytes`. -/
def u32ToBeBytes (value : UInt32) : Bytes :=
  [UInt8.ofNat (value.toNat / 2 ^ 24 % 2 ^ 8), UInt8.ofNat (value.toNat / 2 ^ 16 % 2 ^ 8),
    UInt8.ofNat (value.toNat / 2 ^ 8 % 2 ^ 8), UInt8.ofNat (value.toNat % 2 ^ 8)]

/-- A 16-bit value is written in two bytes. -/
@[simp] theorem u16ToBeBytes_length (value : UInt16) : (u16ToBeBytes value).length = 2 := rfl

/-- A 32-bit value is written in four bytes. -/
@[simp] theorem u32ToBeBytes_length (value : UInt32) : (u32ToBeBytes value).length = 4 := rfl

/-- Two bytes hold their number without wrapping. -/
theorem u16FromBeBytes_toNat (high low : UInt8) :
    (u16FromBeBytes high low).toNat = high.toNat * 256 + low.toNat := by
  -- Both digits are below 256, so the number is below 2^16.
  have := high.toNat_lt
  have := low.toNat_lt
  simp only [u16FromBeBytes, UInt16.toNat_ofNat']
  omega

/-- Four bytes hold their number without wrapping. -/
theorem u32FromBeBytes_toNat (b₀ b₁ b₂ b₃ : UInt8) :
    (u32FromBeBytes b₀ b₁ b₂ b₃).toNat =
      ((b₀.toNat * 256 + b₁.toNat) * 256 + b₂.toNat) * 256 + b₃.toNat := by
  -- Four digits below 256 make a number below 2^32.
  have := b₀.toNat_lt
  have := b₁.toNat_lt
  have := b₂.toNat_lt
  have := b₃.toNat_lt
  simp only [u32FromBeBytes, UInt32.toNat_ofNat']
  omega

/-- Writing the number two bytes spell gives the two bytes back. -/
@[simp] theorem u16ToBeBytes_fromBeBytes (high low : UInt8) :
    u16ToBeBytes (u16FromBeBytes high low) = [high, low] := by
  -- Division and remainder separate the two digits again.
  have := high.toNat_lt
  have := low.toNat_lt
  simp only [u16ToBeBytes, u16FromBeBytes_toNat, List.cons.injEq, and_true]
  refine ⟨UInt8.toNat_inj.mp ?_, UInt8.toNat_inj.mp ?_⟩ <;> rw [UInt8.toNat_ofNat'] <;> omega

/-- The two bytes of a number spell that number. -/
theorem u16ToBeBytes_spelled (value : UInt16) :
    ∃ high low, u16ToBeBytes value = [high, low] ∧ u16FromBeBytes high low = value := by
  -- The quotient and the remainder by 256 rebuild the number.
  refine ⟨_, _, rfl, ?_⟩
  have := value.toNat_lt
  apply UInt16.toNat_inj.mp
  rw [u16FromBeBytes_toNat, UInt8.toNat_ofNat', UInt8.toNat_ofNat']
  omega

/-- Writing the number four bytes spell gives the four bytes back. -/
@[simp] theorem u32ToBeBytes_fromBeBytes (b₀ b₁ b₂ b₃ : UInt8) :
    u32ToBeBytes (u32FromBeBytes b₀ b₁ b₂ b₃) = [b₀, b₁, b₂, b₃] := by
  -- Each quotient isolates one digit.
  have := b₀.toNat_lt
  have := b₁.toNat_lt
  have := b₂.toNat_lt
  have := b₃.toNat_lt
  simp only [u32ToBeBytes, u32FromBeBytes_toNat, List.cons.injEq, and_true]
  refine ⟨UInt8.toNat_inj.mp ?_, UInt8.toNat_inj.mp ?_, UInt8.toNat_inj.mp ?_,
    UInt8.toNat_inj.mp ?_⟩ <;> rw [UInt8.toNat_ofNat'] <;> omega

/-! ## Masks -/

/-- A byte string combined with a key of at least its length, byte by byte. -/
def applyMask (key data : Bytes) : Bytes :=
  List.zipWith (· ^^^ ·) data key

/-- A mask changes no length, where its key covers the data. -/
theorem applyMask_length {key data : Bytes} (covered : data.length ≤ key.length) :
    (applyMask key data).length = data.length := by
  -- A zip is as long as its shorter side.
  simp [applyMask, covered]

/-- Masking twice with one key restores the bytes. -/
theorem applyMask_applyMask {key data : Bytes} (covered : data.length ≤ key.length) :
    applyMask key (applyMask key data) = data := by
  -- Each byte meets its own key byte twice, and the two cancel.
  induction data generalizing key with
  | nil => simp [applyMask]
  | cons byte rest ih =>
    cases key with
    | nil => simp at covered
    | cons mask key =>
      have shorter : rest.length ≤ key.length := by simpa using covered
      have tail := ih shorter
      simp only [applyMask, List.zipWith_cons_cons, List.cons.injEq] at tail ⊢
      exact ⟨by rw [UInt8.xor_assoc, UInt8.xor_self, UInt8.xor_zero], tail⟩

/-- Only the part of the key beside the data takes part. -/
theorem applyMask_append (key more data : Bytes) (covered : data.length ≤ key.length) :
    applyMask (key ++ more) data = applyMask key data := by
  -- Pairing stops with the data, before the key's second part begins.
  induction data generalizing key with
  | nil => simp [applyMask]
  | cons byte rest ih =>
    cases key with
    | nil => simp at covered
    | cons mask key =>
      have tail := ih key (by simpa using covered)
      simp only [applyMask, List.cons_append, List.zipWith_cons_cons, List.cons.injEq,
        true_and] at tail ⊢
      exact tail

/-- The zero key changes nothing. -/
theorem applyMask_zero {data : Bytes} {count : Nat} (covered : data.length ≤ count) :
    applyMask (List.replicate count 0) data = data := by
  -- Exclusive or with zero keeps each byte.
  induction data generalizing count with
  | nil => simp [applyMask]
  | cons byte rest ih =>
    cases count with
    | zero => simp at covered
    | succ count =>
      have shorter : rest.length ≤ count := by simpa using covered
      have tail := ih shorter
      simp only [applyMask, List.replicate_succ, List.zipWith_cons_cons, UInt8.xor_zero,
        List.cons.injEq, true_and] at tail ⊢
      exact tail

/-- The exclusive or of two words is the exclusive or of their bytes. -/
theorem u32ToBeBytes_xor (word key : UInt32) :
    u32ToBeBytes (word ^^^ key) = applyMask (u32ToBeBytes key) (u32ToBeBytes word) := by
  -- Exclusive or commutes with taking a quotient and a remainder by a power of two.
  simp only [u32ToBeBytes, applyMask, List.zipWith_cons_cons, List.zipWith_nil_left,
    UInt32.toNat_xor, List.cons.injEq, and_true]
  refine ⟨?_, ?_, ?_, ?_⟩ <;> apply UInt8.toNat_inj.mp <;>
    simp [Nat.xor_div_two_pow, Nat.xor_mod_two_pow, -Nat.reducePow]

end IpDiscovery
