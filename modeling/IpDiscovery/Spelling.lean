import IpDiscovery.Base.NameTable
import IpDiscovery.Ipd

/-! The names that protocols, versions and built-in providers are read from. -/

namespace IpDiscovery

/-! ## Names -/

/-- `"dns"`, `"stun"`, and two names of one protocol. -/
def Protocol.names : List (String × Protocol) :=
  [("dns", .dns), ("stun", .stun), ("http", .http), ("https", .http)]

/-- The names of the versions. -/
def IpVersion.names : List (String × IpVersion) :=
  [("v4", .v4), ("4", .v4), ("ipv4", .v4), ("v6", .v6), ("6", .v6), ("ipv6", .v6), ("any", .any)]

/-- The names of the built-in providers, some of which have two. -/
def BuiltinProvider.names : List (String × BuiltinProvider) :=
  [("google-stun", .googleStun), ("google-stun1", .googleStun1), ("google-stun2", .googleStun2),
    ("cloudflare-stun", .cloudflareStun), ("google-dns", .googleDns),
    ("cloudflare-dns", .cloudflareDns), ("opendns", .openDns), ("open-dns", .openDns),
    ("cloudflare-http", .cloudflareHttp), ("aws", .aws)]

/-- `to_ascii_lowercase` and `replace('_', "-")`, on one character. -/
def lowerDashed (char : Char) : Char := if char.toLower = '_' then '-' else char.toLower

/-- `Protocol::from_str`, whose error holds the text. -/
def Protocol.fromStr (text : String) : Except String Protocol :=
  readName Char.toLower Protocol.names text

/-- `IpVersion::from_str`. -/
def IpVersion.fromStr (text : String) : Except String IpVersion :=
  readName Char.toLower IpVersion.names text

/-- `BuiltinProvider::from_str`, for which an underscore is as good as a dash. -/
def BuiltinProvider.fromStr (text : String) : Except String BuiltinProvider :=
  readName lowerDashed BuiltinProvider.names text

/-! ## Tables -/

/-- Between the capital and the small letters there is no whitespace. -/
theorem isWhitespace_letter {char : Char} (above : 65 ≤ char.toNat) (below : char.toNat ≤ 122) :
    isWhitespace char = false := by
  simp [isWhitespace]
  omega

/-- The case of a character does not make it whitespace. -/
theorem toLower_isWhitespace (char : Char) : isWhitespace char.toLower = isWhitespace char := by
  by_cases upper : char.val ≥ 'A'.val ∧ char.val ≤ 'Z'.val
  · -- Adding 32 takes a capital letter to its small one, without an overflow.
    have above : 65 ≤ char.toNat := UInt32.le_iff_toNat_le.mp upper.1
    have below : char.toNat ≤ 90 := UInt32.le_iff_toNat_le.mp upper.2
    have small : char.toLower.toNat = char.toNat + 32 := by
      rw [Char.toLower, dif_pos upper]
      change (char.val.toNat + 32) % 2 ^ 32 = char.toNat + 32
      rw [Char.toNat_val]
      omega
    rw [isWhitespace_letter above (by omega), isWhitespace_letter (by omega) (by omega)]
  · -- Other characters stay as they are.
    rw [Char.toLower, dif_neg upper]

/-- Neither does replacing an underscore. -/
theorem lowerDashed_isWhitespace (char : Char) :
    isWhitespace (lowerDashed char) = isWhitespace char := by
  rw [← toLower_isWhitespace char]
  unfold lowerDashed
  split
  · rename_i dash
    rw [dash]
    decide
  · rfl

/-- The names of protocols can be told apart. -/
theorem Protocol.legible : Legible Char.toLower Protocol.names where
  distinct := by decide
  solid := by simp [Protocol.names, isWhitespace]
  kept := toLower_isWhitespace

/-- The names of versions can be told apart. -/
theorem IpVersion.legible : Legible Char.toLower IpVersion.names where
  distinct := by decide
  solid := by simp [IpVersion.names, isWhitespace]
  kept := toLower_isWhitespace

/-- The names of built-in providers can be told apart, with underscores for dashes. -/
theorem BuiltinProvider.legible : Legible lowerDashed BuiltinProvider.names where
  distinct := by decide
  solid := by simp [BuiltinProvider.names, isWhitespace]
  kept := lowerDashed_isWhitespace

/-- A value is read from a text exactly where the text is one of its names in some spelling. -/
def ReadsAs {α : Type} (read : String → Except String α) (normal : Char → Char)
    (names : List (String × α)) : Prop :=
  (∀ text value, read text = .ok value ↔
    ∃ front written back, (∀ char ∈ front, isWhitespace char = true) ∧
      (∀ char ∈ back, isWhitespace char = true) ∧
      text = String.ofList (front ++ written ++ back) ∧
      (String.ofList (written.map normal), value) ∈ names) ∧
  ∀ text error, read text = .error error → error = text

/--
Protocols, versions and built-in providers are read from their names and from nothing else.

Neither the case nor whitespace around a name matters, and other texts are given back. Protocols
are read from what they display, and of the built-in providers exactly two are.
-/
theorem names_read :
    ReadsAs Protocol.fromStr Char.toLower Protocol.names ∧
    ReadsAs IpVersion.fromStr Char.toLower IpVersion.names ∧
    ReadsAs BuiltinProvider.fromStr lowerDashed BuiltinProvider.names ∧
    (∀ protocol : Protocol, Protocol.fromStr protocol.display = .ok protocol) ∧
    ∀ p : BuiltinProvider, BuiltinProvider.fromStr p.display = .ok p ↔ p = .openDns ∨ p = .aws := by
  refine ⟨⟨fun _ _ => readName_eq_ok_iff Protocol.legible, fun _ _ => readName_eq_error⟩,
    ⟨fun _ _ => readName_eq_ok_iff IpVersion.legible, fun _ _ => readName_eq_error⟩,
    ⟨fun _ _ => readName_eq_ok_iff BuiltinProvider.legible, fun _ _ => readName_eq_error⟩, ?_, ?_⟩
  · intro protocol
    -- Each is looked up among its documented names.
    cases protocol <;> decide +kernel
  · intro p
    -- Most are displayed with a space where their names have a dash.
    cases p <;> decide +kernel

end IpDiscovery
