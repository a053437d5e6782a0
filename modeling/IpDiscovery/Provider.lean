import IpDiscovery.Types

/-! What the blocking and the asynchronous provider traits have in common. -/

namespace IpDiscovery

/--
A boxed provider of either trait, without its `get_ip` call.

What a call does is decided by the environment of a run, call by call.
-/
structure Provider where
  name : String
  protocol : Protocol
  supportsVersion : IpVersion → Bool

/-- A provider of the asynchronous trait. -/
abbrev BoxedProvider := Provider

/-- A provider of the blocking trait. -/
abbrev BoxedBlockingProvider := Provider

/-- The `supports_version` both traits provide, which a custom provider may override. -/
def defaultSupportsVersion (supportsV4 supportsV6 : Bool) : IpVersion → Bool
  | .v4 => supportsV4
  | .v6 => supportsV6
  | .any => supportsV4 || supportsV6

/--
A result that a configured provider accounts for.

It has the version asked for, the name and protocol of a provider that supports it, and the
address which that provider's own call returned. Calls are told apart by their position among the
matching providers.
-/
structure Attributed (version : IpVersion) (configured matching : List Provider)
    (returned : Nat → IpAddr → Prop) (result : ProviderResult) : Prop where
  family : version.matches result.ip = true
  source : ∃ provider ∈ configured, provider.supportsVersion version = true ∧
    result.provider = provider.name ∧ result.protocol = provider.protocol ∧
    ∃ position, matching[position]? = some provider ∧ returned position result.ip

/-- What a strategy may answer once some provider matches. -/
inductive Answered (accounted : ProviderResult → Prop) : Except Error ProviderResult → Prop where
  | result {result : ProviderResult} (here : accounted result) : Answered accounted (.ok result)
  | allFailed (errors : List ProviderError) :
      Answered accounted (.error (.allProvidersFailed errors))
  | notReached (required got : Nat) (errors : List ProviderError) :
      Answered accounted (.error (.consensusNotReached required got errors))

end IpDiscovery
