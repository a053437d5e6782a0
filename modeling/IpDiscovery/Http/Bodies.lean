import IpDiscovery.Base.TextLaws
import IpDiscovery.Dns.Reply
import IpDiscovery.Http.Request

/-! The bodies that HTTP services answer with, and what a lookup reads from them. -/

namespace IpDiscovery.Http

/-- A body that holds an address, with whitespace around it. -/
def PlainBody (ip : IpAddr) (text : String) : Prop :=
  ∃ front back, (∀ char ∈ front, isWhitespace char = true) ∧
    (∀ char ∈ back, isWhitespace char = true) ∧ text = String.ofList (front ++ ip.write ++ back)

/-- What opens the line of a trace with the address. -/
def ipKey : List Char := "ip=".toList

/--
A trace whose first line under the key holds an address, with whitespace around it.

Other lines may stand in front of it, and anything may follow on further lines. A carriage return
in front of a line feed counts as whitespace.
-/
def TraceBody (ip : IpAddr) (text : String) : Prop :=
  ∃ (before : List (List Char)) (front back rest : List Char),
    (∀ line ∈ before, '\n' ∉ line ∧ ¬ ipKey <+: line) ∧
    (∀ char ∈ front, isWhitespace char = true ∧ char ≠ '\n') ∧
    (∀ char ∈ back, isWhitespace char = true ∧ char ≠ '\n') ∧
    (rest = [] ∨ ∃ others, rest = '\n' :: others) ∧
    text = String.ofList (before.flatMap (· ++ ['\n']) ++
      (ipKey ++ (front ++ ip.write ++ back) ++ rest))

/-! ## Lines -/

/-- On a line under the key, the value remains. -/
theorem stripPrefix_key (value : List Char) :
    stripPrefix "ip=" (String.ofList (ipKey ++ value)) = some (String.ofList value) := by
  have opens : ipKey.isPrefixOf (ipKey ++ value) = true := by simp
  rw [stripPrefix, @String.toList_ofList (ipKey ++ value)]
  refine (if_pos opens).trans ?_
  rw [show "ip=".toList.length = ipKey.length from rfl, List.drop_left]

/-- On any other line, nothing remains. -/
theorem stripPrefix_other {line : List Char} (other : ¬ ipKey <+: line) :
    stripPrefix "ip=" (String.ofList line) = none := by
  have closed : ¬ ipKey.isPrefixOf line = true := by rwa [List.isPrefixOf_iff_prefix]
  rw [stripPrefix, @String.toList_ofList line]
  exact if_neg closed

/-- A line without its carriage return is the front of the line. -/
theorem stripCarriageReturn_front (line : List Char) : stripCarriageReturn line <+: line := by
  unfold stripCarriageReturn
  split
  · exact List.dropLast_prefix line
  · exact List.prefix_rfl

/-- The search passes over the lines in front of the one with the key. -/
theorem findSome?_lines {before : List (List Char)}
    (others : ∀ line ∈ before, '\n' ∉ line ∧ ¬ ipKey <+: line) (rest : List Char) :
    (lines (String.ofList (before.flatMap (· ++ ['\n']) ++ rest))).findSome? (stripPrefix "ip=") =
      (lines (String.ofList rest)).findSome? (stripPrefix "ip=") := by
  induction before with
  | nil => rfl
  -- The line in front is complete and bears no key, so the search passes it.
  | cons line before ih =>
    obtain ⟨unbroken, other⟩ := others line List.mem_cons_self
    rw [List.flatMap_cons, List.append_assoc, List.append_assoc, List.singleton_append,
      lines_cons unbroken, List.findSome?_cons,
      stripPrefix_other fun opens => other (opens.trans (stripCarriageReturn_front line))]
    exact ih fun line' member => others line' (List.mem_cons_of_mem _ member)

/-- Whatever follows a padded address, its line is the address with some padding. -/
theorem first_line {ip : IpAddr} {front back rest : List Char}
    (before : ∀ char ∈ front, isWhitespace char = true ∧ char ≠ '\n')
    (after : ∀ char ∈ back, isWhitespace char = true ∧ char ≠ '\n')
    (ended : rest = [] ∨ ∃ others, rest = '\n' :: others) :
    ∃ padding others, (∀ char ∈ padding, isWhitespace char = true) ∧
      lines (String.ofList (ipKey ++ (front ++ ip.write ++ back) ++ rest)) =
        String.ofList (ipKey ++ (front ++ ip.write ++ padding)) :: others := by
  have unbroken : '\n' ∉ ipKey ++ (front ++ ip.write ++ back) := by
    simp only [List.mem_append, not_or]
    refine ⟨by decide, ⟨fun member => (before _ member).2 rfl, ?_⟩,
      fun member => (after _ member).2 rfl⟩
    intro member
    cases (Dns.addrChar_inert (ip.write_addrChar _ member)).1
  rcases ended with rfl | ⟨others, rfl⟩
  · -- The body ends with this line.
    rw [List.append_nil, lines_last unbroken (by simp [ipKey])]
    exact ⟨back, [], fun char member => (after char member).1, rfl⟩
  · rw [lines_cons unbroken]
    -- A carriage return at the end of the line is part of the padding.
    by_cases returned : (ipKey ++ (front ++ ip.write ++ back)).getLast? = some '\r'
    · obtain rfl | ⟨padding, last, rfl⟩ := List.eq_nil_or_concat back
      · -- The address itself does not end with one.
        have member : '\r' ∈ ip.write := by
          rw [List.append_nil, ← List.append_assoc,
            List.getLast?_append_of_ne_nil _ ip.write_ne_nil] at returned
          exact List.mem_of_getLast? returned
        cases (Dns.addrChar_inert (ip.write_addrChar _ member)).1
      · rw [List.concat_eq_append] at returned after ⊢
        have same : last = '\r' := by simpa [← List.append_assoc] using returned
        subst same
        rw [← List.append_assoc, ← List.append_assoc, stripCarriageReturn_append]
        refine ⟨padding, _, ?_, by rw [List.append_assoc]⟩
        intro char member
        exact (after char (List.mem_append_left _ member)).1
    · rw [stripCarriageReturn_eq returned]
      exact ⟨back, _, fun char member => (after char member).1, rfl⟩

/-! ## Parsers -/

/-- An address with whitespace around it is read as itself. -/
theorem fromStr_trim_padded {ip : IpAddr} {front back : List Char}
    (before : ∀ char ∈ front, isWhitespace char = true)
    (after : ∀ char ∈ back, isWhitespace char = true) :
    IpAddr.fromStr (trim (String.ofList (front ++ ip.write ++ back))) = some ip := by
  rw [trim_padded before (fun char member => (Dns.addrChar_inert (ip.write_addrChar char member)).1)
    after]
  exact ip.fromStr_display

/-- A plain body is read as its address. -/
theorem parsePlainText_body {ip : IpAddr} {text : String} (served : PlainBody ip text) :
    parsePlainText text = some ip := by
  obtain ⟨front, back, before, after, rfl⟩ := served
  exact fromStr_trim_padded before after

/-- The first line under the key decides, whatever stands around it. -/
theorem parseCloudflareTrace_body {ip : IpAddr} {text : String} (served : TraceBody ip text) :
    parseCloudflareTrace text = some ip := by
  obtain ⟨before, front, back, rest, others, padded, closed, ended, rfl⟩ := served
  obtain ⟨padding, more, blank, first⟩ := first_line padded closed ended
  -- The lines in front are passed, and the one under the key is found.
  rw [parseCloudflareTrace, findSome?_lines others, first, List.findSome?_cons, stripPrefix_key]
  dsimp only [Option.bind_some]
  exact fromStr_trim_padded (fun char member => (padded char member).1) blank

/-- A trace is read exactly from its first line under the key. -/
theorem parseCloudflareTrace_eq_some {text : String} {ip : IpAddr} :
    parseCloudflareTrace text = some ip ↔
      ∃ before line after value, lines text = before ++ line :: after ∧
        (∀ other ∈ before, stripPrefix "ip=" other = none) ∧
        stripPrefix "ip=" line = some value ∧ IpAddr.fromStr (trim value) = some ip := by
  rw [parseCloudflareTrace, Option.bind_eq_some_iff]
  constructor
  · intro ⟨value, found, read⟩
    obtain ⟨before, line, after, shape, here, passed⟩ := List.findSome?_eq_some_iff.mp found
    exact ⟨before, line, after, value, shape, passed, here, read⟩
  · intro ⟨before, line, after, value, shape, passed, here, read⟩
    exact ⟨value, List.findSome?_eq_some_iff.mpr ⟨before, line, after, shape, here, passed⟩, read⟩

/-! ## Lookups -/

/-- A lookup has received a body: its URL was fetched, with success, and its text was read. -/
def HttpProvider.Receives (provider : HttpProvider) (client : HttpClient) (version : IpVersion)
    (text : String) : Prop :=
  ∃ url response, provider.getUrl version = some url ∧ client url = .ok response ∧
    response.isSuccess = true ∧ response.text = .ok text

/-- A lookup succeeds exactly with an address of the family that it parses from such a body. -/
theorem HttpProvider.fetchWith_eq_ok_iff {provider : HttpProvider} {client : HttpClient}
    {version : IpVersion} {ip : IpAddr} :
    provider.fetchWith client version = .ok ip ↔
      ∃ text, provider.Receives client version text ∧ provider.parser text = some ip ∧
        version.matches ip = true := by
  simp only [HttpProvider.fetchWith, HttpProvider.Receives, bind_eq_ok_iff, orFail_eq_ok_iff,
    okOr_eq_ok_iff, failIf_eq_ok_iff, Bool.not_eq_false]
  constructor
  · rintro ⟨url, located, response, got, _, success, text, read, found, parsed, _, family, same⟩
    cases same
    -- All checks of the lookup are passed exactly by such a body.
    exact ⟨text, ⟨url, response, located, got, success, read⟩, parsed, family⟩
  · rintro ⟨text, ⟨url, response, located, got, success, read⟩, parsed, family⟩
    exact ⟨url, located, response, got, (), success, text, read, ip, parsed, (), family, rfl⟩

/--
A lookup reads from the body of its service the address it holds, and no other.

Bodies in plain text may have whitespace around the address. In a trace the first line under the
key decides: other lines may stand in front of it, and any text on further lines. The family of
the address has to be the requested one.
-/
theorem fetch_reads_body (provider : HttpProvider) (client : HttpClient) (version : IpVersion) :
    (∀ ip text, provider.parser = parsePlainText → provider.Receives client version text →
      PlainBody ip text → ∀ answer, provider.fetchWith client version = .ok answer ↔
        answer = ip ∧ version.matches ip = true) ∧
    (∀ ip text, provider.parser = parseCloudflareTrace → provider.Receives client version text →
      TraceBody ip text → ∀ answer, provider.fetchWith client version = .ok answer ↔
        answer = ip ∧ version.matches ip = true) ∧
    (provider.parser = parseCloudflareTrace → ∀ ip,
      provider.fetchWith client version = .ok ip → ∃ text before line after value,
        provider.Receives client version text ∧ lines text = before ++ line :: after ∧
        (∀ other ∈ before, stripPrefix "ip=" other = none) ∧
        stripPrefix "ip=" line = some value ∧ IpAddr.fromStr (trim value) = some ip) := by
  -- There is one body, and so there is one address to be read from it.
  have unique {ip : IpAddr} {text : String} (received : provider.Receives client version text)
      (read : provider.parser text = some ip) (answer : IpAddr) :
      provider.fetchWith client version = .ok answer ↔
        answer = ip ∧ version.matches ip = true := by
    rw [HttpProvider.fetchWith_eq_ok_iff]
    constructor
    · intro ⟨text', ⟨url', response', located', got', _, text_read'⟩, parsed, family⟩
      obtain ⟨url, response, located, got, _, text_read⟩ := received
      cases located.symm.trans located'
      cases got.symm.trans got'
      cases text_read.symm.trans text_read'
      cases read.symm.trans parsed
      exact ⟨rfl, family⟩
    · intro ⟨same, family⟩
      exact ⟨text, received, same ▸ read, same ▸ family⟩
  refine ⟨?_, ?_, ?_⟩
  · intro ip text parser received served
    exact unique received (parser ▸ parsePlainText_body served)
  · intro ip text parser received served
    exact unique received (parser ▸ parseCloudflareTrace_body served)
  · intro parser ip answered
    obtain ⟨text, received, parsed, _⟩ := HttpProvider.fetchWith_eq_ok_iff.mp answered
    rw [parser] at parsed
    obtain ⟨before, line, after, value, shape, passed, here, read⟩ :=
      -- What is parsed stands on the first line under the key.
      parseCloudflareTrace_eq_some.mp parsed
    exact ⟨text, before, line, after, value, received, shape, passed, here, read⟩

/-- A trace with lines on both sides of the address, and a second line under the key. -/
def sampleTrace : String := "h=1.1.1.1\nip=203.0.113.7\r\nip=198.51.100.42\n"

/-- The body of the sample says its first address. -/
theorem sampleTrace_body : TraceBody (ipv4 203 0 113 7) sampleTrace :=
  ⟨["h=1.1.1.1".toList], [], ['\r'], '\n' :: "ip=198.51.100.42\n".toList, by simp [ipKey],
    by simp, by simp [isWhitespace], .inr ⟨_, rfl⟩, by decide +kernel⟩

/-- The trace endpoint is asked for either family, and answers with the first address. -/
theorem fetch_reads_body_trace :
    cloudflare.fetchWith (fun _ => .ok ⟨200, "200 OK", .ok sampleTrace⟩) .any =
      .ok (ipv4 203 0 113 7) :=
  ((fetch_reads_body cloudflare _ .any).2.1 (ipv4 203 0 113 7) sampleTrace rfl
    ⟨_, _, rfl, rfl, rfl, rfl⟩ sampleTrace_body _).mpr ⟨rfl, rfl⟩

end IpDiscovery.Http
