import IpDiscovery.AddrText

/-! DNS reply parsing: the name skipper, the question and answer loops, and rendered records. -/

namespace IpDiscovery.Dns

/-- DNS record types supported by the protocol code. -/
inductive RecordType where
  | a
  | aaaa
  | txt
deriving DecidableEq, Repr

/-- The code of a record type. -/
def RecordType.toU16 : RecordType → UInt16
  | .a => 1
  | .aaaa => 28
  | .txt => 16

section Cursor

variable {target : Target}

/-- The loop of `skip_name`. -/
def skipNameLoop (data : Slice target) (pos : Nat) : Run Nat :=
  if _inside : data.length ≤ pos then .error (.err "unexpected end of name")
  else
    match index data.bytes pos with
    | .error fault => .error fault
    | .ok len =>
      if len &&& 0xC0 = 0xC0 then target.add pos 2
      else if len = 0 then target.add pos 1
      else
        match _moved : target.add pos (1 + len.toNat) with
        | .error fault => .error fault
        | .ok next => skipNameLoop data next
termination_by data.length - pos
decreasing_by
  -- Every label is at least its length byte long.
  have advanced := Target.add_eq_ok _moved
  omega

/-- `skip_name`. -/
def skipName (data : Slice target) (pos : Nat) : Run Nat :=
  if data.length ≤ pos then .error (.err "invalid name position") else skipNameLoop data pos

/-- `for _ in 0..qdcount`, skipping the question section. -/
def questionLoop (data : Slice target) : (qdcount pos : Nat) → Run Nat
  | 0, pos => .ok pos
  | qdcount + 1, pos => do
    let pos ← skipName data pos
    failIf ((← target.add pos 4) > data.length) "truncated question section"
    let pos ← target.add pos 4
    questionLoop data qdcount pos

/-- Where an answer record keeps its data. -/
structure RecordSpan where
  rtype : UInt16
  pos : Nat
  rdlength : Nat
deriving DecidableEq, Repr

/-- The front of a trip round the answer loop, which finds no record where the loop breaks off. -/
def recordSpan (data : Slice target) (pos : Nat) : Run (Option RecordSpan) :=
  if pos ≥ data.length then .ok none
  else do
    let pos ← skipName data pos
    if (← target.add pos 10) > data.length then return none
    else
      let rtype := u16FromBeBytes (← index data.bytes pos)
        (← index data.bytes (← target.add pos 1))
      let rdlength := (u16FromBeBytes (← index data.bytes (← target.add pos 8))
        (← index data.bytes (← target.add pos 9))).toNat
      let pos ← target.add pos 10
      if (← target.add pos rdlength) > data.length then return none
      else return some { rtype, pos, rdlength }

/-- `std::str::from_utf8`. -/
def fromUtf8 (bytes : Bytes) : Option String := String.fromUTF8? ⟨bytes.toArray⟩

/-- `while txt_pos < end`, over the length-prefixed strings of a TXT record. -/
def txtLoop (data : Slice target) (stop txtPos : Nat) (txt : String) : Run String :=
  if txtPos < stop then
    match index data.bytes txtPos with
    | .error fault => .error fault
    | .ok len =>
      match _opened : target.add txtPos 1 with
      | .error fault => .error fault
      | .ok textPos =>
        match _closed : target.add textPos len.toNat with
        | .error fault => .error fault
        | .ok next =>
          if next ≤ stop then
            match slice data.bytes textPos next with
            | .error fault => .error fault
            -- A string that is not UTF-8 is passed over.
            | .ok segment => txtLoop data stop next (txt ++ (fromUtf8 segment).getD "")
          else .ok txt
  else .ok txt
termination_by stop - txtPos
decreasing_by
  have opened := Target.add_eq_ok _opened
  have closed := Target.add_eq_ok _closed
  omega

/-- What a record of the requested type adds to the results. -/
def recordText (data : Slice target) (recordType : RecordType) (span : RecordSpan) :
    Run (Option String) :=
  if span.rtype = recordType.toU16 then
    match recordType with
    | .a =>
      if span.rdlength = 4 then do
        let a ← index data.bytes span.pos
        let b ← index data.bytes (← target.add span.pos 1)
        let c ← index data.bytes (← target.add span.pos 2)
        let d ← index data.bytes (← target.add span.pos 3)
        return some (ipv4 a b c d).display
      else return none
    | .aaaa =>
      if span.rdlength = 16 then do
        let octets ← copyFromSlice 16 (← slice data.bytes span.pos (← target.add span.pos 16))
        return some (IpAddr.v6 octets).display
      else return none
    | .txt => do
      let stop ← target.add span.pos span.rdlength
      let txt ← txtLoop data stop span.pos ""
      if txt.isEmpty then return none else return some txt
  else return none

/-- `for _ in 0..ancount`, collecting the renderings of the matching records. -/
def answerLoop (data : Slice target) (recordType : RecordType) :
    (ancount pos : Nat) → (results : List String) → Run (List String)
  | 0, _, results => .ok results
  | ancount + 1, pos, results => do
    match ← recordSpan data pos with
    | none => return results
    | some span =>
      let text ← recordText data recordType span
      let pos ← target.add span.pos span.rdlength
      answerLoop data recordType ancount pos (results ++ text.toList)

/-- `parse_response`. -/
def parseResponse (data : Slice target) (recordType : RecordType) : Run (List String) := do
  failIf (data.length < 12) "response too short"
  let rcode := (← index data.bytes 3) &&& 0x0F
  failIf (rcode ≠ 0) "DNS error response"
  let qdcount := u16FromBeBytes (← index data.bytes 4) (← index data.bytes 5)
  let ancount := u16FromBeBytes (← index data.bytes 6) (← index data.bytes 7)
  failIf (ancount = 0) "no answers in response"
  let pos ← questionLoop data qdcount.toNat 12
  let results ← answerLoop data recordType ancount.toNat pos []
  if results = [] then .error (.err "no matching records found") else return results

end Cursor

end IpDiscovery.Dns
