import IpDiscovery.Dns.QueryLaws

/-! How long a name a query may ask for, in the text of the domain and on the wire. -/

namespace IpDiscovery.Dns

/-- The longest name on the wire, its length bytes and the root included. -/
def maxName : Nat := 255

/-- A domain whose trimmed text spells a name within the limits of labels and names. -/
def LegalDomain (domain : String) : Prop :=
  (∀ label ∈ queryLabels domain, IsLabel (utf8 label)) ∧ (queryName domain).length ≤ maxName

/-- Joining the labels at the dots gives the trimmed text back. -/
theorem queryLabels_join (domain : String) :
    String.intercalate "." (queryLabels domain) = trimEndMatches '.' domain := by
  rw [← String.toList_inj, String.toList_intercalate]
  unfold queryLabels splitChar
  rw [List.map_map]
  simp only [Function.comp_def, String.toList_ofList, List.map_id']
  exact List.intercalate_splitOn _

/-- Every label costs one byte more than its text, as much as a dot in front of it. -/
theorem labels_length (label : String) (labels : List String) :
    (((label :: labels).map utf8).flatMap encodeLabel).length =
      (utf8 (String.intercalate "." (label :: labels))).length + 1 := by
  -- The induction adds one label in front of the dot that follows it.
  induction labels generalizing label with
  | nil => simp [encodeLabel]
  | cons next labels ih =>
    rw [String.intercalate_cons_cons, utf8_append, utf8_append, List.map_cons, List.flatMap_cons,
      List.length_append, ih next]
    simp only [encodeLabel, List.length_cons, List.length_append,
      show (utf8 ".").length = 1 by decide]
    omega

/-- On the wire a name is two bytes longer than its text. -/
theorem queryName_length (domain : String) :
    (queryName domain).length = (utf8 (trimEndMatches '.' domain)).length + 2 := by
  -- Splitting leaves at least one piece, if only an empty one.
  have joined := queryLabels_join domain
  cases labels : queryLabels domain with
  | nil =>
    exact absurd (List.map_eq_nil_iff.mp labels) (List.splitOnP_ne_nil _ _)
  | cons label rest =>
    rw [labels] at joined
    have counted := labels_length label rest
    rw [joined] at counted
    rw [queryName, labels, encodeName, List.length_append, counted]
    rfl

/-- With an identifier at hand, a query is built for legal labels whose name has up to 253 bytes. -/
theorem buildQuery_built_iff {idBytes : Octets 2} {domain : String} {recordType : RecordType}
    {dnsClass : DnsClass} :
    (∃ packet, buildQuery (.ok idBytes) domain recordType dnsClass = .ok packet) ↔
      (∀ label ∈ queryLabels domain, IsLabel (utf8 label)) ∧ (queryName domain).length ≤ 253 := by
  constructor
  · rintro ⟨packet, built⟩
    obtain ⟨_, _, legal, short, _⟩ := buildQuery_eq_ok_iff.mp built
    exact ⟨legal, short⟩
  · rintro ⟨legal, short⟩
    exact ⟨_, buildQuery_eq_ok_iff.mpr ⟨idBytes, rfl, legal, short, rfl⟩⟩

/--
The encoder accepts exactly the legal domains, but for those whose text has 252 or 253 bytes.

It counts the bytes of the wire form and holds them against the limit of the text.
-/
theorem buildQuery_limits (idBytes : Octets 2) (domain : String) (recordType : RecordType)
    (dnsClass : DnsClass) :
    (queryName domain).length = (utf8 (trimEndMatches '.' domain)).length + 2 ∧
    (((∃ packet, buildQuery (.ok idBytes) domain recordType dnsClass = .ok packet) ↔
        LegalDomain domain) ↔
      ¬ ((∀ label ∈ queryLabels domain, IsLabel (utf8 label)) ∧
        ((utf8 (trimEndMatches '.' domain)).length = 252 ∨
          (utf8 (trimEndMatches '.' domain)).length = 253))) := by
  have size := queryName_length domain
  refine ⟨size, ?_⟩
  rw [buildQuery_built_iff, LegalDomain, maxName]
  constructor
  · rintro agrees ⟨legal, edge⟩
    -- The two bytes of difference are those the limit does not allow for.
    have short := (agrees.mpr ⟨legal, by omega⟩).2
    omega
  · intro inner
    constructor
    · rintro ⟨legal, short⟩
      exact ⟨legal, by omega⟩
    · rintro ⟨legal, short⟩
      refine ⟨legal, ?_⟩
      have notEdge : ¬ ((utf8 (trimEndMatches '.' domain)).length = 252 ∨
          (utf8 (trimEndMatches '.' domain)).length = 253) := fun edge => inner ⟨legal, edge⟩
      omega

/-- Three labels of 63 characters and one of 60. -/
def longLabels : List (List Char) :=
  [List.replicate 63 'a', List.replicate 63 'b', List.replicate 63 'c', List.replicate 60 'd']

/-- A domain of 252 bytes. -/
def longDomain : String := String.ofList (List.intercalate ['.'] longLabels)

/-- The long domain splits into its four labels. -/
theorem queryLabels_longDomain : queryLabels longDomain = longLabels.map String.ofList := by
  -- Only the characters are compared, never the bytes that encode them.
  unfold queryLabels splitChar trimEndMatches longDomain
  rw [String.toList_ofList, String.toList_ofList]
  have pieces : (List.rdropWhile (· == '.') (List.intercalate ['.'] longLabels)).splitOn '.' =
      longLabels := by decide +kernel
  rw [pieces]

/-- A legal domain of 252 bytes is refused as one of 254. -/
theorem buildQuery_refuses_legal :
    (utf8 longDomain).length = 252 ∧ LegalDomain longDomain ∧
      buildQuery (.ok ⟨[7, 7], rfl⟩) longDomain .a .in = .error (.err (.domainTooLong 254)) := by
  have labels := queryLabels_longDomain
  -- The limits are checked label by label, with the split already known.
  refine ⟨by decide +kernel, ?_, ?_⟩
  · unfold LegalDomain queryName IsLabel
    rw [labels]
    decide +kernel
  · unfold queryLabels at labels
    simp only [buildQuery, Except.mapError, mapErr_ok, ok_bind, labels]
    decide +kernel

end IpDiscovery.Dns
