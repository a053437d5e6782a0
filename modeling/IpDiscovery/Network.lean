import IpDiscovery.Types

/-! What a provider call meets outside the program: library errors and the UDP socket. -/

namespace IpDiscovery

/-- The outcome of a library operation, whose error is known by the text it displays. -/
abbrev Library (α : Type) := Except String α

/-- What the operations on the socket of one call come to. -/
structure UdpSocket where
  bind : SocketAddr → Library Unit
  setReadTimeout : Duration → Library Unit
  setWriteTimeout : Duration → Library Unit
  connect : SocketAddr → Library Unit
  send : Bytes → Library Unit
  recv : Library Bytes

/-- `map_err(|e| ProviderError::new(name, e))?`. -/
def orFail {α : Type} (name : String) : Library α → ProviderRun α
  | .ok value => .ok value
  | .error error => .error (.err (ProviderError.new name error))

/-- The buffer's front after `recv`, which keeps as much of the datagram as the buffer holds. -/
def received (target : Target) (capacity : Nat) (small : capacity < 2 ^ 31) (datagram : Bytes) :
    Slice target where
  bytes := datagram.take capacity
  sized := by
    have room := target.isizeMax_ge
    rw [List.length_take]
    omega

/-- The local address that any interface and port of a family stand for. -/
def unspecifiedV4 : SocketAddr := ⟨ipv4 0 0 0 0, 0⟩

/-- The unspecified address of IPv6, with any port. -/
def unspecifiedV6 : SocketAddr := ⟨.v6 ⟨[0, 0, 0, 0, 0, 0, 0, 0, 0, 0, 0, 0, 0, 0, 0, 0], rfl⟩, 0⟩

/-- A library operation that did not fail the call was successful. -/
theorem orFail_eq_ok_iff {α : Type} {name : String} {outcome : Library α} {value : α} :
    orFail name outcome = .ok value ↔ outcome = .ok value := by
  cases outcome <;> simp [orFail]

/-- What is kept of a run without its errors is what it returned. -/
theorem toOption_eq_some {α : Type} {run : ProviderRun α} {value : α} :
    run.toOption = some value ↔ run = .ok value := by
  cases run <;> simp [Except.toOption]

end IpDiscovery
