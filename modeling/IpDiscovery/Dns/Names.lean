import IpDiscovery.Dns.Protocol

/-! Encoded names, and what the name skipper walks over on arbitrary bytes. -/

namespace IpDiscovery.Dns

/--
An encoded name whose labels are at most `longest` bytes long.

It ends in a zero byte or in a compression pointer, and its labels hold arbitrary bytes.
-/
inductive DomainName (longest : Nat) : Bytes → Prop where
  | root : DomainName longest [0]
  | pointer {high low : UInt8} (top : high &&& 0xC0 = 0xC0) : DomainName longest [high, low]
  | label {text name : Bytes} (nonempty : 0 < text.length) (short : text.length ≤ longest)
      (tail : DomainName longest name) :
      DomainName longest (UInt8.ofNat text.length :: (text ++ name))

/-- The longest label a name may have. -/
def maxLabel : Nat := 63

/-- The longest label the code skips, one below the bytes it takes for pointers. -/
def maxSkipped : Nat := 191

/-- Every legal label is skipped as a label. -/
theorem maxLabel_le : maxLabel ≤ maxSkipped := by
  unfold maxLabel maxSkipped
  omega

/-- A label behind the byte that counts it. -/
def encodeLabel (label : Bytes) : Bytes := UInt8.ofNat label.length :: label

/-- What a label of at most so many bytes may be. -/
def Counted (longest : Nat) (label : Bytes) : Prop := 0 < label.length ∧ label.length ≤ longest

/-- A byte no label starts with: the root, or the first byte of a compression pointer. -/
def EndsLabels (byte : UInt8) : Prop := byte = 0 ∨ byte &&& 0xC0 = 0xC0

/-- The bytes a name ends with, counted from the byte behind its labels. -/
def endSize (byte : UInt8) : Nat := if byte = 0 then 1 else 2

/-- The bytes from a position on, as labels, the byte that ends them, and what is behind it. -/
structure Walk (longest : Nat) (bytes : Bytes) (pos : Nat) (labels : List Bytes) (last : UInt8)
    (behind : Bytes) : Prop where
  counted : ∀ label ∈ labels, Counted longest label
  ends : EndsLabels last
  unread : bytes.drop pos = labels.flatMap encodeLabel ++ last :: behind

/-- The position a walk stops at: behind the one byte of the root, or the two of a pointer. -/
def walkStop (pos : Nat) (labels : List Bytes) (last : UInt8) : Nat :=
  pos + (labels.flatMap encodeLabel).length + endSize last

/-- The bytes between two positions are a complete name. -/
def NameAt (longest : Nat) (bytes : Bytes) (start stop : Nat) : Prop :=
  start ≤ stop ∧ stop ≤ bytes.length ∧ DomainName longest ((bytes.drop start).take (stop - start))

/-- A name is never empty. -/
theorem DomainName.length_pos {longest : Nat} {name : Bytes} (named : DomainName longest name) :
    0 < name.length := by
  cases named <;> simp

/-! ## Length bytes -/

/-- The bytes taken for compression pointers are those from 192 on. -/
theorem pointer_iff (byte : UInt8) : byte &&& 0xC0 = 0xC0 ↔ 192 ≤ byte.toNat := by
  -- The two top bits are set in exactly the last quarter of the byte's values.
  have table : ∀ value < 256, (value &&& 192 = 192 ↔ 192 ≤ value) := by decide +kernel
  rw [← UInt8.toNat_inj, UInt8.toNat_and]
  exact table byte.toNat byte.toNat_lt

/-- A length byte the skipper takes for a label is neither a pointer nor the end. -/
theorem label_byte {length : Nat} (nonempty : 0 < length) (short : length ≤ maxSkipped) :
    (UInt8.ofNat length).toNat = length ∧ ¬ UInt8.ofNat length &&& 0xC0 = 0xC0 ∧
      ¬ UInt8.ofNat length = 0 := by
  unfold maxSkipped at short
  -- A length that may be skipped is below 256, so the byte holds it.
  have value : (UInt8.ofNat length).toNat = length := by
    rw [UInt8.toNat_ofNat']
    omega
  refine ⟨value, ?_, ?_⟩
  · rw [pointer_iff]
    omega
  · intro zero
    rw [zero] at value
    simp at value
    omega

/-! ## Walks -/

/-- A root label is one byte. -/
theorem endSize_root : endSize 0 = 1 := rfl

/-- A pointer is two bytes. -/
theorem endSize_pointer {byte : UInt8} (top : byte &&& 0xC0 = 0xC0) : endSize byte = 2 := by
  have notRoot : byte ≠ 0 := by
    rintro rfl
    exact absurd top (by decide)
  exact if_neg notRoot

/-- The byte that counts a label is not one that ends a name. -/
theorem Counted.goes_on {label : Bytes} (counted : Counted maxSkipped label) :
    ¬ EndsLabels (UInt8.ofNat label.length) := by
  obtain ⟨_, notPointer, notRoot⟩ := label_byte counted.1 counted.2
  rintro (root | top)
  · exact notRoot root
  · exact notPointer top

/-- Labels and an end are read off the front of the bytes in one way only. -/
theorem labels_unique {labels labels' : List Bytes} {last last' : UInt8} {behind behind' : Bytes}
    (counted : ∀ label ∈ labels, Counted maxSkipped label)
    (counted' : ∀ label ∈ labels', Counted maxSkipped label) (ends : EndsLabels last)
    (ends' : EndsLabels last')
    (same : labels.flatMap encodeLabel ++ last :: behind =
      labels'.flatMap encodeLabel ++ last' :: behind') :
    labels = labels' ∧ last = last' ∧ behind = behind' := by
  -- The induction compares one label at a time, and an end never opens a label.
  induction labels generalizing labels' with
  | nil =>
    cases labels' with
    | nil =>
      cases same
      exact ⟨rfl, rfl, rfl⟩
    | cons label' labels' =>
      simp only [List.flatMap_nil, List.nil_append, List.flatMap_cons, encodeLabel,
        List.cons_append, List.cons.injEq] at same
      rw [same.1] at ends
      exact absurd ends (counted' _ List.mem_cons_self).goes_on
  | cons label labels ih =>
    rw [List.forall_mem_cons] at counted
    cases labels' with
    | nil =>
      simp only [List.flatMap_nil, List.nil_append, List.flatMap_cons, encodeLabel,
        List.cons_append, List.cons.injEq] at same
      rw [← same.1] at ends'
      exact absurd ends' counted.1.goes_on
    | cons label' labels' =>
      rw [List.forall_mem_cons] at counted'
      simp only [List.flatMap_cons, encodeLabel, List.cons_append, List.append_assoc,
        List.cons.injEq] at same
      obtain ⟨count, same⟩ := same
      have length : label.length = label'.length := by
        rw [← (label_byte counted.1.1 counted.1.2).1, count,
          (label_byte counted'.1.1 counted'.1.2).1]
      obtain ⟨rfl, later⟩ := List.append_inj same length
      obtain ⟨rfl, rfl, rfl⟩ := ih counted.2 counted'.2 later
      exact ⟨rfl, rfl, rfl⟩

/-- The bytes decide the walk. -/
theorem Walk.unique {pos : Nat} {bytes behind behind' : Bytes} {labels labels' : List Bytes}
    {last last' : UInt8} (walk : Walk maxSkipped bytes pos labels last behind)
    (walk' : Walk maxSkipped bytes pos labels' last' behind') :
    labels = labels' ∧ last = last' ∧ behind = behind' :=
  labels_unique walk.counted walk'.counted walk.ends walk'.ends
    (walk.unread.symm.trans walk'.unread)

/-- A walk over shorter labels is one over longer labels. -/
theorem Walk.mono {longest longest' pos : Nat} {bytes behind : Bytes} {labels : List Bytes}
    {last : UInt8} (wider : longest ≤ longest')
    (walk : Walk longest bytes pos labels last behind) :
    Walk longest' bytes pos labels last behind :=
  ⟨fun label member => ⟨(walk.counted label member).1, (walk.counted label member).2.trans wider⟩,
    walk.ends, walk.unread⟩

/-- A walk with one more label in front. -/
theorem Walk.cons {longest pos : Nat} {bytes label behind : Bytes} {labels : List Bytes}
    {last : UInt8} (counted : Counted longest label) (read : bytes.drop pos =
      UInt8.ofNat label.length :: (label ++ bytes.drop (pos + (1 + label.length))))
    (walk : Walk longest bytes (pos + (1 + label.length)) labels last behind) :
    Walk longest bytes pos (label :: labels) last behind where
  counted := List.forall_mem_cons.mpr ⟨counted, walk.counted⟩
  ends := walk.ends
  unread := by
    rw [read, walk.unread]
    simp [encodeLabel]

/-- A walk over one more label stops where the walk over the others does. -/
theorem walkStop_cons (pos : Nat) (label : Bytes) (labels : List Bytes) (last : UInt8) :
    walkStop pos (label :: labels) last = walkStop (pos + (1 + label.length)) labels last := by
  simp only [walkStop, List.flatMap_cons, encodeLabel, List.length_append, List.length_cons]
  omega

/-! ## Complete names -/

/-- A complete name is a walk whose end is inside the bytes. -/
theorem domainName_iff {longest : Nat} {name : Bytes} :
    DomainName longest name ↔ ∃ (labels : List Bytes) (last : UInt8) (tail : Bytes),
      (∀ label ∈ labels, Counted longest label) ∧ EndsLabels last ∧
        name = labels.flatMap encodeLabel ++ last :: tail ∧ 1 + tail.length = endSize last := by
  constructor
  · -- A name is built from its end, so its labels are collected in order.
    intro named
    induction named with
    | root => exact ⟨[], 0, [], by simp, Or.inl rfl, rfl, rfl⟩
    | @pointer high low top =>
      exact ⟨[], high, [low], by simp, Or.inr top, rfl, (endSize_pointer top).symm⟩
    | @label text name nonempty short _ ih =>
      obtain ⟨labels, last, tail, counted, ends, rfl, size⟩ := ih
      exact ⟨text :: labels, last, tail, List.forall_mem_cons.mpr ⟨⟨nonempty, short⟩, counted⟩,
        ends, by simp [encodeLabel], size⟩
  · rintro ⟨labels, last, tail, counted, ends, rfl, size⟩
    induction labels with
    | nil =>
      rcases ends with rfl | top
      · obtain rfl : tail = [] := List.length_eq_zero_iff.mp (by rw [endSize_root] at size; omega)
        exact .root
      · obtain ⟨low, rfl⟩ := List.length_eq_one_iff.mp
          (show tail.length = 1 by rw [endSize_pointer top] at size; omega)
        exact .pointer top
    | cons label labels ih =>
      rw [List.forall_mem_cons] at counted
      have built := DomainName.label counted.1.1 counted.1.2 (ih counted.2)
      simpa [encodeLabel] using built

/-- A legal name never opens with a reserved length byte. -/
theorem DomainName.opens {byte : UInt8} {rest : Bytes}
    (named : DomainName maxLabel (byte :: rest)) :
    byte.toNat ≤ maxLabel ∨ 192 ≤ byte.toNat := by
  obtain ⟨labels, last, tail, counted, ends, spelled, _⟩ := domainName_iff.mp named
  -- A name opens with its end, if it has no labels, or with the length of its first label.
  cases labels with
  | nil =>
    cases spelled
    rcases ends with rfl | top
    · exact Or.inl (Nat.zero_le _)
    · exact Or.inr ((pointer_iff _).mp top)
  | cons label labels =>
    obtain ⟨nonempty, short⟩ := counted label List.mem_cons_self
    simp only [List.flatMap_cons, encodeLabel, List.cons_append, List.cons.injEq] at spelled
    rw [spelled.1, (label_byte nonempty (short.trans maxLabel_le)).1]
    exact Or.inl short

/-- A complete name at a position is a walk that stops inside the bytes. -/
theorem nameAt_iff {longest start stop : Nat} {bytes : Bytes} :
    NameAt longest bytes start stop ↔ ∃ (labels : List Bytes) (last : UInt8) (behind : Bytes),
      Walk longest bytes start labels last behind ∧ stop = walkStop start labels last ∧
        endSize last ≤ 1 + behind.length := by
  constructor
  · rintro ⟨ordered, inside, named⟩
    obtain ⟨labels, last, tail, counted, ends, spelled, size⟩ := domainName_iff.mp named
    have whole : bytes.drop start =
        labels.flatMap encodeLabel ++ last :: (tail ++ bytes.drop stop) := by
      have split := List.take_append_drop (stop - start) (bytes.drop start)
      rw [spelled, List.drop_drop, Nat.add_sub_cancel' ordered] at split
      rw [← split]
      simp
    have length := congrArg List.length spelled
    simp only [List.length_take, List.length_drop, List.length_append, List.length_cons] at length
    refine ⟨labels, last, _, ⟨counted, ends, whole⟩, ?_, ?_⟩
    · unfold walkStop
      omega
    · rw [List.length_append]
      omega
  · rintro ⟨labels, last, behind, walk, rfl, room⟩
    -- The bytes of the name are those of the labels and of the end that is there.
    have length := congrArg List.length walk.unread
    simp only [List.length_drop, List.length_append, List.length_cons] at length
    have size : 1 ≤ endSize last := by
      unfold endSize
      split <;> omega
    refine ⟨by unfold walkStop; omega, by unfold walkStop; omega, ?_⟩
    refine domainName_iff.mpr ⟨labels, last, behind.take (endSize last - 1), walk.counted,
      walk.ends, ?_, by rw [List.length_take]; omega⟩
    rw [show walkStop start labels last - start =
      (labels.flatMap encodeLabel).length + ((endSize last - 1) + 1) by unfold walkStop; omega,
      walk.unread, List.take_length_add_append, List.take_succ_cons]

/-! ## The skipper -/

section Cursor

variable {target : Target} {data : Slice target} {longest : Nat}

/-- The suffix behind a part that was read. -/
theorem drop_part {bytes part rest : Bytes} {pos : Nat} (unread : bytes.drop pos = part ++ rest) :
    bytes.drop (pos + part.length) = rest := by
  rw [← List.drop_drop, unread, List.drop_left]

/-- A part that is read ends inside the slice. -/
theorem part_inside {part rest : Bytes} {pos : Nat} (nonempty : 0 < part.length)
    (unread : data.bytes.drop pos = part ++ rest) :
    pos + part.length + rest.length = data.length := by
  have lengths := congrArg List.length unread
  simp only [List.length_drop, List.length_append] at lengths
  unfold Slice.length
  omega

/-- A walk lies inside the slice up to the byte that ends it. -/
theorem Walk.inside {pos : Nat} {labels : List Bytes} {last : UInt8} {behind : Bytes}
    (walk : Walk longest data.bytes pos labels last behind) :
    pos + (labels.flatMap encodeLabel).length + 1 + behind.length = data.length := by
  have lengths := congrArg List.length walk.unread
  simp only [List.length_drop, List.length_append, List.length_cons] at lengths
  unfold Slice.length
  omega

/-- A pointer ends the name, and is two bytes long. -/
theorem skipNameLoop_pointer {pos : Nat} {byte : UInt8} (inside : ¬ data.length ≤ pos)
    (read : index data.bytes pos = .ok byte) (top : byte &&& 0xC0 = 0xC0) :
    skipNameLoop data pos = target.add pos 2 := by
  rw [skipNameLoop, dif_neg inside, read]
  exact if_pos top

/-- So does the root, which is one byte long. -/
theorem skipNameLoop_root {pos : Nat} (inside : ¬ data.length ≤ pos)
    (read : index data.bytes pos = .ok 0) : skipNameLoop data pos = target.add pos 1 := by
  rw [skipNameLoop, dif_neg inside, read]
  rfl

/-- A label is jumped over, and the loop goes on behind it. -/
theorem skipNameLoop_label {pos next : Nat} {byte : UInt8} (inside : ¬ data.length ≤ pos)
    (read : index data.bytes pos = .ok byte) (notPointer : ¬ byte &&& 0xC0 = 0xC0)
    (notRoot : ¬ byte = 0) (moved : target.add pos (1 + byte.toNat) = .ok next) :
    skipNameLoop data pos = skipNameLoop data next := by
  rw [skipNameLoop, dif_neg inside, read]
  simp only [if_neg notPointer, if_neg notRoot]
  -- The step is known, so neither of the loop's own cases is left open.
  split
  · rename_i failed
    rw [moved] at failed
    cases failed
  · rename_i step
    rw [moved] at step
    cases step
    rfl

/-- The skipper stops behind the byte that ends a walk. -/
theorem skipNameLoop_complete (labels : List Bytes) {last : UInt8} {behind : Bytes} :
    ∀ {pos : Nat}, Walk maxSkipped data.bytes pos labels last behind →
      skipNameLoop data pos = .ok (walkStop pos labels last) := by
  -- The induction takes one label for one trip round the loop.
  have room := data.room
  induction labels with
  | nil =>
    intro pos walk
    have inside := walk.inside
    rw [List.flatMap_nil, List.length_nil] at inside
    have read := index_of_drop walk.unread
    rcases walk.ends with rfl | top
    · rw [skipNameLoop_root (by omega) read]
      exact Target.add_fits (by omega)
    · rw [skipNameLoop_pointer (by omega) read top, walkStop, endSize_pointer top]
      exact Target.add_fits (by omega)
  | cons label labels ih =>
    intro pos walk
    have counted := walk.counted label List.mem_cons_self
    obtain ⟨value, notPointer, notRoot⟩ := label_byte counted.1 counted.2
    have unread := walk.unread
    have inside := walk.inside
    simp only [List.flatMap_cons, encodeLabel, List.cons_append, List.append_assoc,
      List.length_cons, List.length_append] at unread inside
    have moved : target.add pos (1 + (UInt8.ofNat label.length).toNat) =
        .ok (pos + (1 + label.length)) := by
      rw [value]
      exact Target.add_fits (by omega)
    have onward : Walk maxSkipped data.bytes (pos + (1 + label.length)) labels last behind := by
      refine ⟨(List.forall_mem_cons.mp walk.counted).2, walk.ends, ?_⟩
      have part := @drop_part data.bytes (UInt8.ofNat label.length :: label)
        (labels.flatMap encodeLabel ++ last :: behind) pos unread
      rwa [List.length_cons, Nat.add_comm label.length 1] at part
    rw [skipNameLoop_label (by omega) (index_of_drop unread) notPointer notRoot moved, ih onward,
      walkStop_cons]

/-- Whatever the skipper accepts is a walk, and it stops behind the byte that ends it. -/
theorem skipNameLoop_sound (pos : Nat) :
    ∀ {stop : Nat}, skipNameLoop data pos = .ok stop →
      ∃ labels last behind, Walk maxSkipped data.bytes pos labels last behind ∧
        stop = walkStop pos labels last := by
  -- The induction follows the loop, one label for one trip.
  induction pos using skipNameLoop.induct data with
  | case1 pos outside =>
    intro stop ran
    rw [skipNameLoop, dif_pos outside] at ran
    cases ran
  | case2 pos inside fault failed =>
    intro stop ran
    rw [skipNameLoop, dif_neg inside, failed] at ran
    cases ran
  | case3 pos inside byte read top =>
    intro stop ran
    rw [skipNameLoop_pointer inside read top] at ran
    refine ⟨[], byte, data.bytes.drop (pos + 1), ⟨by simp, Or.inr top, drop_of_index read⟩, ?_⟩
    rw [Target.add_eq_ok ran, walkStop, endSize_pointer top]
    rfl
  | case4 pos inside read notPointer =>
    intro stop ran
    rw [skipNameLoop_root inside read] at ran
    refine ⟨[], 0, data.bytes.drop (pos + 1), ⟨by simp, Or.inl rfl, drop_of_index read⟩, ?_⟩
    rw [Target.add_eq_ok ran]
    rfl
  | case5 pos inside byte read notPointer notRoot fault failed =>
    intro stop ran
    rw [skipNameLoop, dif_neg inside, read] at ran
    simp only [if_neg notPointer, if_neg notRoot] at ran
    split at ran
    · cases ran
    · rename_i step
      rw [failed] at step
      cases step
  | case6 pos inside byte read notPointer notRoot next moved ih =>
    intro stop ran
    rw [skipNameLoop_label inside read notPointer notRoot moved] at ran
    obtain ⟨labels, last, behind, walk, rfl⟩ := ih ran
    have advanced := Target.add_eq_ok moved
    have positive : 0 < byte.toNat := by
      rcases Nat.eq_zero_or_pos byte.toNat with zero | positive
      · exact absurd (UInt8.toNat_inj.mp zero) notRoot
      · exact positive
    have short : byte.toNat ≤ maxSkipped := by
      rw [pointer_iff] at notPointer
      unfold maxSkipped
      omega
    -- The label is the text between its length byte and the rest of the walk.
    have within := walk.inside
    let label := (data.bytes.drop (pos + 1)).take byte.toNat
    have size : label.length = byte.toNat := by
      simp only [label, List.length_take, List.length_drop]
      unfold Slice.length at within
      omega
    have opened : data.bytes.drop pos =
        UInt8.ofNat label.length :: (label ++ data.bytes.drop (pos + (1 + label.length))) := by
      have halves := List.take_append_drop byte.toNat (data.bytes.drop (pos + 1))
      rw [List.drop_drop] at halves
      rw [drop_of_index read, size, UInt8.ofNat_toNat, ← Nat.add_assoc, halves]
    rw [advanced, ← size] at walk
    refine ⟨label :: labels, last, behind, walk.cons ⟨by omega, by omega⟩ opened, ?_⟩
    rw [walkStop_cons, advanced, size]

/-- The skipper accepts exactly the walks, from inside the slice or not. -/
theorem skipName_eq_ok_iff {pos stop : Nat} :
    skipName data pos = .ok stop ↔ ∃ labels last behind,
      Walk maxSkipped data.bytes pos labels last behind ∧ stop = walkStop pos labels last := by
  -- Outside the slice the loop would fail too, and no walk starts there.
  constructor
  · intro skipped
    unfold skipName at skipped
    split at skipped
    · cases skipped
    · exact skipNameLoop_sound pos skipped
  · rintro ⟨labels, last, behind, walk, rfl⟩
    have inside := walk.inside
    rw [skipName, if_neg (by omega)]
    exact skipNameLoop_complete labels walk

/-- Every name is skipped to its end. -/
theorem skipName_complete (legal : longest ≤ maxSkipped) {name rest : Bytes} {pos : Nat}
    (named : DomainName longest name) (unread : data.bytes.drop pos = name ++ rest) :
    skipName data pos = .ok (pos + name.length) := by
  -- A legal label is one the skipper takes for a label.
  obtain ⟨labels, last, tail, counted, ends, rfl, size⟩ := domainName_iff.mp named
  have walk : Walk longest data.bytes pos labels last (tail ++ rest) :=
    ⟨counted, ends, by rw [unread]; simp⟩
  refine skipName_eq_ok_iff.mpr ⟨labels, last, tail ++ rest, walk.mono legal, ?_⟩
  simp only [walkStop, List.length_append, List.length_cons]
  omega

/-- What is skipped is a name, but for a pointer whose second byte is missing. -/
theorem skipName_sound {pos stop : Nat} (skipped : skipName data pos = .ok stop) :
    (∃ name, DomainName maxSkipped name ∧ data.bytes.drop pos = name ++ data.bytes.drop stop ∧
      stop = pos + name.length ∧ stop ≤ data.length) ∨ stop = data.length + 1 := by
  obtain ⟨labels, last, behind, walk, rfl⟩ := skipName_eq_ok_iff.mp skipped
  have within := walk.inside
  rcases Nat.lt_or_ge (1 + behind.length) (endSize last) with cut | whole
  · -- Only a pointer is longer than the byte it starts with.
    right
    unfold endSize at cut
    unfold walkStop endSize
    split at cut
    · omega
    · rw [if_neg (by assumption)]
      omega
  · left
    obtain ⟨ordered, inside, named⟩ := nameAt_iff.mpr ⟨labels, last, behind, walk, rfl, whole⟩
    refine ⟨_, named, ?_, ?_, inside⟩
    · have split := List.take_append_drop (walkStop pos labels last - pos) (data.bytes.drop pos)
      rw [List.drop_drop, Nat.add_sub_cancel' ordered] at split
      exact split.symm
    · rw [List.length_take, List.length_drop]
      omega

/--
The skipper accepts exactly the complete legal names, but for two kinds of bytes.

It also jumps over labels of more than 63 bytes, and it takes the first byte of a pointer for both.
-/
theorem skipName_names (data : Slice target) (pos : Nat) :
    (∀ stop, skipName data pos = .ok stop ↔ NameAt maxLabel data.bytes pos stop) ↔
      ¬ ∃ labels last behind, Walk maxSkipped data.bytes pos labels last behind ∧
        ((∃ label ∈ labels, maxLabel < label.length) ∨ (last ≠ 0 ∧ behind = [])) := by
  constructor
  · rintro agrees ⟨labels, last, behind, walk, slip⟩
    -- The walk is accepted, so it would have to be the walk of a legal name.
    have named := (agrees _).mp (skipName_eq_ok_iff.mpr ⟨labels, last, behind, walk, rfl⟩)
    obtain ⟨labels', last', behind', walk', _, whole⟩ := nameAt_iff.mp named
    obtain ⟨rfl, rfl, rfl⟩ := walk.unique (walk'.mono maxLabel_le)
    rcases slip with ⟨label, member, long⟩ | ⟨notRoot, cut⟩
    · have short := (walk'.counted label member).2
      omega
    · rw [endSize, if_neg notRoot, cut] at whole
      simp at whole
  · intro fine stop
    rw [skipName_eq_ok_iff, nameAt_iff]
    constructor
    · rintro ⟨labels, last, behind, walk, rfl⟩
      have short : ∀ label ∈ labels, label.length ≤ maxLabel := by
        intro label member
        by_contra long
        exact fine ⟨labels, last, behind, walk, .inl ⟨label, member, Nat.not_le.mp long⟩⟩
      refine ⟨labels, last, behind, ⟨?_, walk.ends, walk.unread⟩, rfl, ?_⟩
      · intro label member
        exact ⟨(walk.counted label member).1, short label member⟩
      · unfold endSize
        split
        · omega
        · rename_i notRoot
          have more : behind ≠ [] := fun cut =>
            fine ⟨labels, last, behind, walk, .inr ⟨notRoot, cut⟩⟩
          have positive := List.length_pos_iff.mpr more
          omega
    · rintro ⟨labels, last, behind, walk, rfl, _⟩
      exact ⟨labels, last, behind, walk.mono maxLabel_le, rfl⟩

end Cursor

/-- A pointer cut after its first byte, and a label of 64 bytes, are both accepted. -/
theorem skipName_accepts_reserved :
    (skipName (⟨[0xC0], by decide +kernel⟩ : Slice .x64) 0 = .ok 2 ∧ ¬ NameAt maxLabel [0xC0] 0 2) ∧
    skipName (⟨0x40 :: List.replicate 64 97 ++ [0], by decide +kernel⟩ : Slice .x64) 0 = .ok 66 ∧
      ¬ NameAt maxLabel (0x40 :: List.replicate 64 97 ++ [0]) 0 66 := by
  refine ⟨⟨by decide +kernel, ?_⟩, by decide +kernel, ?_⟩
  · -- The second byte of the pointer is missing.
    rintro ⟨_, inside, _⟩
    exact absurd inside (by decide)
  · rintro ⟨_, _, named⟩
    exact absurd named.opens (by decide)

end IpDiscovery.Dns
