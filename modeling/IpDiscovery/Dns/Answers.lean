import IpDiscovery.Dns.Wire

/-! What a reply answers: the rendering of each record, and the parser as the list of renderings. -/

namespace IpDiscovery.Dns

/-! ## Texts -/

/-- The bytes of a string. -/
def utf8 (text : String) : Bytes := text.toByteArray.data.toList

/-- The bytes of character-strings, each behind a byte that counts its own. -/
inductive CharacterStrings : List String → Bytes → Prop where
  | nil : CharacterStrings [] []
  | cons {text : String} {strings : List String} {rest : Bytes} (fits : (utf8 text).length < 2 ^ 8)
      (tail : CharacterStrings strings rest) :
      CharacterStrings (text :: strings) (UInt8.ofNat (utf8 text).length :: (utf8 text ++ rest))

/-- The text of a TXT record: its complete character-strings, as far as they are UTF-8. -/
def txtText : Bytes → String
  | [] => ""
  | len :: rest =>
    if len.toNat ≤ rest.length then
      (fromUtf8 (rest.take len.toNat)).getD "" ++ txtText (rest.drop len.toNat)
    else ""
termination_by bytes => bytes.length

/-- A string is read back from its bytes. -/
theorem fromUtf8_utf8 (text : String) : fromUtf8 (utf8 text) = some text := by
  simp [fromUtf8, utf8, String.fromUTF8?, text.isValidUTF8, String.fromUTF8]

/-- Only the bytes of a string are read as that string. -/
theorem fromUtf8_eq_some {bytes : Bytes} {text : String} :
    fromUtf8 bytes = some text ↔ bytes = utf8 text := by
  -- The library decodes by checking its bytes, which stay the bytes of the text.
  constructor
  · intro read
    unfold fromUtf8 String.fromUTF8? at read
    split at read
    · cases read
      rfl
    · cases read
  · rintro rfl
    exact fromUtf8_utf8 text

/-- A concatenation has the bytes of its parts. -/
theorem utf8_append (left right : String) : utf8 (left ++ right) = utf8 left ++ utf8 right := by
  simp [utf8]

/-- The text of packed character-strings is their concatenation. -/
theorem CharacterStrings.txtText {strings : List String} {rdata : Bytes}
    (packed : CharacterStrings strings rdata) : txtText rdata = String.join strings := by
  -- The induction takes one counted string off the front.
  induction packed with
  | nil => simp [Dns.txtText]
  | @cons text strings rest fits _ ih =>
    have count : (UInt8.ofNat (utf8 text).length).toNat = (utf8 text).length := by
      rw [UInt8.toNat_ofNat']
      omega
    have inside : (utf8 text).length ≤ (utf8 text ++ rest).length := by simp
    rw [Dns.txtText, count, if_pos inside, List.take_left, List.drop_left, fromUtf8_utf8, ih]
    simp

/-! ## Renderings -/

section Rendering

variable {longest : Nat}

/-- A text that is left out where it is empty. -/
def nonEmpty (text : String) : Option String := if text.isEmpty then none else some text

/--
What an answer record says about the requested type.

Only the text of a TXT record depends on how its data is packed.
-/
inductive Renders (recordType : RecordType) (record : ResourceRecord longest) :
    Option String → Prop where
  | otherType (other : record.rtype ≠ recordType.toU16) : Renders recordType record none
  | ipv4 (requested : recordType = .a) (typed : record.rtype = RecordType.a.toU16)
      (address : Octets 4) (data : record.rdata = address.bytes) :
      Renders recordType record (some (IpAddr.v4 address).display)
  | ipv6 (requested : recordType = .aaaa) (typed : record.rtype = RecordType.aaaa.toU16)
      (address : Octets 16) (data : record.rdata = address.bytes) :
      Renders recordType record (some (IpAddr.v6 address).display)
  | notIpv4 (requested : recordType = .a) (sized : record.rdata.length ≠ 4) :
      Renders recordType record none
  | notIpv6 (requested : recordType = .aaaa) (sized : record.rdata.length ≠ 16) :
      Renders recordType record none
  | txt (requested : recordType = .txt) (typed : record.rtype = RecordType.txt.toU16)
      (strings : List String) (packed : CharacterStrings strings record.rdata) :
      Renders recordType record (nonEmpty (String.join strings))

/-- The rendering of any record, whatever its data holds. -/
def ResourceRecord.text (recordType : RecordType) (record : ResourceRecord longest) :
    Option String :=
  if record.rtype = recordType.toU16 then
    match recordType with
    | .a => (Octets.ofBytes? 4 record.rdata).map fun address => (IpAddr.v4 address).display
    | .aaaa => (Octets.ofBytes? 16 record.rdata).map fun address => (IpAddr.v6 address).display
    | .txt => nonEmpty (txtText record.rdata)
  else none

/-- Data of the wrong length is no address. -/
theorem Octets.ofBytes?_wrong {count : Nat} {source : Bytes} (wrong : source.length ≠ count) :
    Octets.ofBytes? count source = none := by
  simp [Octets.ofBytes?, wrong]

/-- A record has no other rendering than its text. -/
theorem Renders.eq_text {recordType : RecordType} {record : ResourceRecord longest}
    {text : Option String} (renders : Renders recordType record text) :
    text = record.text recordType := by
  -- Each kind of record fixes its type and its data, and with them the text.
  cases renders with
  | otherType other => simp [ResourceRecord.text, other]
  | ipv4 requested typed address data =>
    subst requested
    simp [ResourceRecord.text, typed, data, Octets.ofBytes?_sized address.sized]
  | ipv6 requested typed address data =>
    subst requested
    simp [ResourceRecord.text, typed, data, Octets.ofBytes?_sized address.sized]
  | notIpv4 requested sized =>
    subst requested
    simp [ResourceRecord.text, Octets.ofBytes?_wrong sized]
  | notIpv6 requested sized =>
    subst requested
    simp [ResourceRecord.text, Octets.ofBytes?_wrong sized]
  | txt requested typed strings packed =>
    subst requested
    simp [ResourceRecord.text, typed, packed.txtText]

/-- A record renders as its text, where a TXT record is made of character-strings. -/
theorem ResourceRecord.renders {recordType : RecordType} {record : ResourceRecord longest}
    (packed : recordType = .txt → record.rtype = RecordType.txt.toU16 →
      ∃ strings, CharacterStrings strings record.rdata) :
    Renders recordType record (record.text recordType) := by
  -- Each case has its own constructor, so only one of them has to be found.
  have found : ∃ text, Renders recordType record text := by
    by_cases typed : record.rtype = recordType.toU16
    · cases recordType with
      | a =>
        by_cases sized : record.rdata.length = 4
        · exact ⟨_, .ipv4 rfl typed ⟨record.rdata, sized⟩ rfl⟩
        · exact ⟨_, .notIpv4 rfl sized⟩
      | aaaa =>
        by_cases sized : record.rdata.length = 16
        · exact ⟨_, .ipv6 rfl typed ⟨record.rdata, sized⟩ rfl⟩
        · exact ⟨_, .notIpv6 rfl sized⟩
      | txt =>
        obtain ⟨strings, cut⟩ := packed rfl typed
        exact ⟨_, .txt rfl typed strings cut⟩
    · exact ⟨_, .otherType typed⟩
  obtain ⟨text, renders⟩ := found
  exact renders.eq_text ▸ renders

/-- Records render as their texts, and as nothing else. -/
theorem forall₂_renders_iff {recordType : RecordType} {answers : List (ResourceRecord longest)}
    {texts : List (Option String)}
    (packed : recordType = .txt → ∀ record ∈ answers, record.rtype = RecordType.txt.toU16 →
      ∃ strings, CharacterStrings strings record.rdata) :
    List.Forall₂ (Renders recordType) answers texts ↔
      texts = answers.map (ResourceRecord.text recordType) := by
  -- The texts are determined record by record, by induction on the records.
  constructor
  · intro renders
    induction renders with
    | nil => rfl
    | cons renders _ ih =>
      have later := ih fun requested record member =>
        packed requested record (List.mem_cons_of_mem _ member)
      rw [List.map_cons, renders.eq_text, later]
  · rintro rfl
    rw [List.forall₂_map_right_iff, List.forall₂_same]
    intro record member
    exact record.renders fun requested => packed requested record member

end Rendering

/-! ## Reading a record -/

section Cursor

variable {target : Target} {data : Slice target} {longest : Nat}

/-- A trip of the string loop inside the slice, where none of its sums can overflow. -/
theorem txtLoop_trip {stop txtPos : Nat} {len : UInt8} (bounded : stop ≤ data.length)
    (running : txtPos < stop) (read : index data.bytes txtPos = .ok len) (txt : String) :
    txtLoop data stop txtPos txt =
      if txtPos + 1 + len.toNat ≤ stop then
        slice data.bytes (txtPos + 1) (txtPos + 1 + len.toNat) >>= fun segment =>
          txtLoop data stop (txtPos + 1 + len.toNat) (txt ++ (fromUtf8 segment).getD "")
      else .ok txt := by
  have room := data.room
  have small := len.toNat_lt
  have opened : target.add txtPos 1 = .ok (txtPos + 1) := Target.add_fits (by omega)
  have closed : target.add (txtPos + 1) len.toNat = .ok (txtPos + 1 + len.toNat) :=
    Target.add_fits (by omega)
  -- Neither addition overflows, since the slice leaves room for one more length byte.
  rw [txtLoop, if_pos running, read]
  simp only
  split
  · rename_i failed
    rw [opened] at failed
    cases failed
  · rename_i textPos step
    rw [opened] at step
    cases step
    split
    · rename_i failed
      rw [closed] at failed
      cases failed
    · rename_i next step
      rw [closed] at step
      cases step
      cases slice data.bytes (txtPos + 1) (txtPos + 1 + len.toNat) <;> rfl

/-- The string loop reads the text of the bytes it is pointed at. -/
theorem txtLoop_eq {stop : Nat} (bounded : stop ≤ data.length) (unread : Bytes) :
    ∀ {txtPos : Nat} {after : Bytes} (txt : String),
      data.bytes.drop txtPos = unread ++ after → stop = txtPos + unread.length →
        txtLoop data stop txtPos txt = .ok (txt ++ txtText unread) := by
  -- The induction follows the counted strings of the unread bytes.
  induction unread using txtText.induct with
  -- Nothing is left, and the loop stops at its end.
  | case1 =>
    intro txtPos after txt _ ends
    rw [txtLoop, if_neg (by simp at ends; omega)]
    simp [txtText]
  -- A whole string is read, and the loop goes on behind it.
  | case2 len rest fits ih =>
    intro txtPos after txt suffix ends
    rw [List.length_cons] at ends
    have behind : data.bytes.drop (txtPos + 1) = rest ++ after :=
      @drop_part data.bytes [len] (rest ++ after) txtPos suffix
    have taken : slice data.bytes (txtPos + 1) (txtPos + 1 + len.toNat) =
        .ok (rest.take len.toNat) := by
      rw [slice_inside (by omega) (show _ ≤ data.length by omega), behind,
        Nat.add_sub_cancel_left, List.take_append_of_le_length fits]
    have left : data.bytes.drop (txtPos + 1 + len.toNat) = rest.drop len.toNat ++ after := by
      rw [← List.drop_drop, behind, List.drop_append_of_le_length fits]
    rw [txtLoop_trip bounded (by omega) (index_of_drop suffix), if_pos (by omega), taken, ok_bind,
      ih _ left (by rw [List.length_drop]; omega), txtText, if_pos fits, String.append_assoc]
  -- A string that overruns the record ends the loop.
  | case3 len rest overruns =>
    intro txtPos after txt suffix ends
    rw [List.length_cons] at ends
    rw [txtLoop_trip bounded (by omega) (index_of_drop suffix), if_neg (by omega)]
    simp [txtText, overruns]

/-- A record whose data lies where its span says adds its text to the results. -/
theorem recordText_eq {recordType : RecordType} {record : ResourceRecord longest}
    {span : RecordSpan} {rest : Bytes} (typed : record.rtype = span.rtype)
    (sized : record.rdata.length = span.rdlength)
    (unread : data.bytes.drop span.pos = record.rdata ++ rest)
    (inside : span.pos + span.rdlength ≤ data.length) :
    recordText data recordType span = .ok (record.text recordType) := by
  have room := data.room
  -- The data is read at its own offsets.
  have field (offset : Nat) : index data.bytes (span.pos + offset) =
      index (record.rdata ++ rest) offset := by
    rw [← index_drop, unread]
  unfold recordText ResourceRecord.text
  rw [typed]
  split
  · cases recordType with
    | a =>
      dsimp only
      by_cases four : span.rdlength = 4
      · rw [if_pos four]
        obtain ⟨a, b, c, d, more, shape⟩ := split_four (show 4 ≤ record.rdata.length by omega)
        have exact_four : more = [] := by
          have lengths := congrArg List.length shape
          simp only [List.length_cons] at lengths
          exact List.length_eq_zero_iff.mp (by omega)
        subst exact_four
        have read₀ := field 0
        rw [Nat.add_zero] at read₀
        rw [read₀, Target.add_fits (show span.pos + 1 ≤ target.usizeMax by omega),
          Target.add_fits (show span.pos + 2 ≤ target.usizeMax by omega),
          Target.add_fits (show span.pos + 3 ≤ target.usizeMax by omega)]
        simp only [ok_bind]
        rw [field 1, field 2, field 3, shape]
        rfl
      · rw [if_neg four, Octets.ofBytes?_wrong (by omega)]
        rfl
    | aaaa =>
      dsimp only
      by_cases sixteen : span.rdlength = 16
      · rw [if_pos sixteen, Target.add_fits (show span.pos + 16 ≤ target.usizeMax by omega)]
        simp only [ok_bind]
        rw [slice_inside (by omega) (show _ ≤ data.length by omega), unread,
          Nat.add_sub_cancel_left, List.take_left' (by omega)]
        simp only [ok_bind, copyFromSlice_sized (show record.rdata.length = 16 by omega),
          Octets.ofBytes?_sized (show record.rdata.length = 16 by omega)]
        rfl
      · rw [if_neg sixteen, Octets.ofBytes?_wrong (by omega)]
        rfl
    | txt =>
      dsimp only
      have stop : target.add span.pos span.rdlength = .ok (span.pos + span.rdlength) :=
        Target.add_fits (by omega)
      rw [stop, ok_bind, txtLoop_eq inside record.rdata "" unread (by omega), ok_bind]
      simp only [String.empty_append, nonEmpty]
      split <;> rfl
  · rfl

/-! ## Reading all answers -/

/-- The answer loop passes over the records that are laid out before it, and goes on behind them. -/
theorem answerLoop_through (legal : longest ≤ maxSkipped) (recordType : RecordType) (more : Nat)
    (answers : List (ResourceRecord longest)) :
    ∀ {pos : Nat} {rest : Bytes} (results : List String),
      data.bytes.drop pos = answers.flatMap ResourceRecord.encode ++ rest →
        answerLoop data recordType (answers.length + more) pos results =
          answerLoop data recordType more (pos + (answers.flatMap ResourceRecord.encode).length)
            (results ++ answers.filterMap (ResourceRecord.text recordType)) := by
  -- The induction reads one record at a time.
  have room := data.room
  induction answers with
  | nil =>
    intro pos rest results _
    simp
  | cons record answers ih =>
    intro pos rest results unread
    rw [List.flatMap_cons, List.append_assoc] at unread
    have found := recordSpan_complete legal unread
    obtain ⟨_, _, _, _, _, within⟩ := recordSpan_sound found
    have parts := unread
    simp only [ResourceRecord.encode, List.append_assoc] at parts
    have fixed := drop_part (drop_part parts)
    rw [ResourceRecord.fixed_length] at fixed
    have text := @recordText_eq target data longest recordType record
      ⟨record.rtype, pos + record.name.length + 10, record.rdata.length⟩ _ rfl rfl fixed within
    have next : target.add (pos + record.name.length + 10) record.rdata.length =
        .ok (pos + record.name.length + 10 + record.rdata.length) :=
      Target.add_fits (by dsimp only at within; omega)
    have length : (record :: answers).length + more = answers.length + more + 1 := by
      rw [List.length_cons]
      omega
    rw [length, answerLoop, found]
    simp only [text, ok_bind, next, ih _ (drop_part fixed)]
    rw [List.filterMap_cons, List.flatMap_cons, List.length_append, ResourceRecord.encode,
      List.length_append, List.length_append, ResourceRecord.fixed_length, List.append_assoc]
    congr 1
    · omega
    · cases record.text recordType <;> rfl

/-- The answer loop collects the texts of the records that are laid out before it. -/
theorem answerLoop_complete (legal : longest ≤ maxSkipped) (recordType : RecordType)
    (answers : List (ResourceRecord longest)) {pos : Nat} {rest : Bytes} (results : List String)
    (unread : data.bytes.drop pos = answers.flatMap ResourceRecord.encode ++ rest) :
    answerLoop data recordType answers.length pos results =
      .ok (results ++ answers.filterMap (ResourceRecord.text recordType)) :=
  answerLoop_through legal recordType 0 answers results unread

/-- What the answer loop collects are the texts of the records that open the unread bytes. -/
theorem answerLoop_sound (recordType : RecordType) (ancount : Nat) :
    ∀ {pos : Nat} {results out : List String},
      answerLoop data recordType ancount pos results = .ok out →
        ∃ (answers : List (ResourceRecord maxSkipped)) (rest : Bytes),
          answers.length ≤ ancount ∧
          data.bytes.drop pos = answers.flatMap ResourceRecord.encode ++ rest ∧
          out = results ++ answers.filterMap (ResourceRecord.text recordType) ∧
          (answers.length = ancount ∨
            ∀ (record : ResourceRecord maxSkipped) (more : Bytes),
              rest ≠ record.encode ++ more) := by
  induction ancount with
  | zero =>
    intro pos results out ran
    cases ran
    exact ⟨[], data.bytes.drop pos, Nat.le_refl 0, by simp, by simp, Or.inl rfl⟩
  | succ ancount ih =>
    intro pos results out ran
    obtain ⟨found, spanned, ran⟩ := bind_eq_ok ran
    cases found with
    | none =>
      cases ran
      refine ⟨[], data.bytes.drop pos, Nat.zero_le _, by simp, by simp, Or.inr ?_⟩
      -- A whole record here would have been found.
      intro record more opened
      rw [recordSpan_complete (Nat.le_refl _) opened] at spanned
      cases spanned
    | some span =>
      obtain ⟨text, rendered, ran⟩ := bind_eq_ok ran
      obtain ⟨next, moved, ran⟩ := bind_eq_ok ran
      cases Target.add_eq_ok moved
      obtain ⟨record, typed, sized, unread, held, inside⟩ := recordSpan_sound spanned
      rw [recordText_eq typed sized held inside] at rendered
      cases rendered
      -- The rest of the loop has read what follows the record.
      obtain ⟨answers, rest, count, suffix, collected, stopped⟩ := ih ran
      refine ⟨record :: answers, rest, by simpa using count, ?_, ?_, by simpa using stopped⟩
      · rw [unread, suffix, List.flatMap_cons, List.append_assoc]
      · rw [collected, List.append_assoc, List.append_cancel_left_eq, List.filterMap_cons]
        cases record.text recordType <;> rfl

end Cursor

end IpDiscovery.Dns
