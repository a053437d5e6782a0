import IpDiscovery.Config

/-! Worker threads, the channel they answer on, and the clock they share with the resolver. -/

namespace IpDiscovery.Blocking

/-- How a provider's `get_ip` ends: by returning, or by a panic. -/
inductive CallResult where
  | returned (result : Except ProviderError IpAddr)
  | panicked
deriving DecidableEq

/-- What each provider's call comes to, by position among the matching providers. -/
abbrev Calls := Nat → CallResult

/-- What a worker sends: the tuple `(id, name, protocol, result, latency)`. -/
structure WorkerMessage where
  id : Nat
  name : String
  protocol : Protocol
  result : Except ProviderError IpAddr
  latency : Duration
deriving DecidableEq

/-- The monotonic clock of a platform, by its largest instant. -/
structure Clock where
  maxInstant : Instant

/-- `Instant::checked_add`. -/
def Clock.checkedAdd (clock : Clock) (instant : Instant) (duration : Duration) : Option Instant :=
  if instant + duration ≤ clock.maxInstant then some (instant + duration) else none

/-- `Instant::checked_duration_since`. -/
def checkedDurationSince (later earlier : Instant) : Option Duration :=
  if earlier ≤ later then some (later - earlier) else none

/-- A thread of `spawn_provider_worker`, with the message once it has sent it. -/
structure Worker where
  id : Nat
  provider : BoxedBlockingProvider
  tx : Nat
  startedAt : Instant
  sent : Option WorkerMessage

/-- The error the closure of a worker turns a panic into. -/
def CallResult.caught (name : String) : CallResult → Except ProviderError IpAddr
  | .returned result => result
  | .panicked => .error (.message name "provider panicked")

/-- The message a worker sends, given how long its call took. -/
def Worker.message (calls : Calls) (worker : Worker) (latency : Duration) : WorkerMessage where
  -- The name and protocol were read before the thread was started.
  id := worker.id
  name := worker.provider.name
  protocol := worker.provider.protocol
  result := (calls worker.id).caught worker.provider.name
  latency := latency

/--
The threads of a run, and what the resolver sees of them.

Channels are numbered. The resolver holds the receiver of one of them, and a message to any other
channel is lost.
-/
structure Threads where
  now : Instant
  rx : Nat
  queue : List WorkerMessage
  workers : List Worker

/-- The threads before the resolver has started any. -/
def Threads.idle (now : Instant) : Threads := ⟨now, 0, [], []⟩

/-- `channel()`, which drops the receiver of the channel before. -/
def Threads.openChannel (threads : Threads) : Threads :=
  { threads with rx := threads.rx + 1, queue := [] }

/-- A worker that `spawn_provider_worker` has started. -/
def Threads.spawn (threads : Threads) (id : Nat) (provider : BoxedBlockingProvider) : Threads :=
  { threads with workers := threads.workers ++ [⟨id, provider, threads.rx, threads.now, none⟩] }

/-- `tx.send`, which reaches the receiver only while it is there. -/
def Threads.send (threads : Threads) (tx : Nat) (message : WorkerMessage) : Threads :=
  -- Sending to a receiver that was dropped is an error nobody looks at.
  if tx = threads.rx then { threads with queue := threads.queue ++ [message] } else threads

/-- A worker that stands between others has come to its end, with a message. -/
def Threads.reply (threads : Threads) (before : List Worker) (worker : Worker)
    (after : List Worker) (message : WorkerMessage) : Threads :=
  ({ threads with
    workers := before ++ { worker with sent := some message } :: after } : Threads).send worker.tx
    message

/-- The channel has no sender left: every worker that held one has sent its message. -/
def Threads.Disconnected (threads : Threads) : Prop :=
  ∀ worker ∈ threads.workers, worker.tx = threads.rx → worker.sent.isSome = true

/-- What happens beside the resolver: time passes, and workers come to their ends. -/
inductive Threads.Step (clock : Clock) (calls : Calls) : Threads → Threads → Prop where
  -- The clock is monotonic.
  | tick {threads : Threads} {instant : Instant} (forward : threads.now ≤ instant)
      (inside : instant ≤ clock.maxInstant) :
      Step clock calls threads { threads with now := instant }
  -- A call may take any time, and may never end.
  | finish {threads : Threads} {before after : List Worker} {worker : Worker}
      (running : threads.workers = before ++ worker :: after) (silent : worker.sent = none)
      (latency : Duration) :
      Step clock calls threads (threads.reply before worker after (worker.message calls latency))

/-- `timeout_error`. -/
def timeoutError (name : String) : ProviderError := .message name "timeout"

/-- `validate_ip`. -/
def validateIp (name : String) (version : IpVersion) (ip : IpAddr) : Except ProviderError IpAddr :=
  if version.matches ip then .ok ip
  else .error (.message name "provider returned unexpected IP version")

/-- `Resolver::matching_providers`. -/
def matchingProviders (config : Config) : List BoxedBlockingProvider :=
  config.blockingProviders.filter fun p => p.supportsVersion config.version

/-- What both engines make of a received message: a validated result, or an error. -/
def WorkerMessage.outcome (version : IpVersion) (message : WorkerMessage) :
    Except ProviderError ProviderResult :=
  -- The address is checked here, and not in the worker.
  match message.result with
  | .ok ip =>
    match validateIp message.name version ip with
    | .ok ip => .ok ⟨ip, message.name, message.protocol, message.latency⟩
    | .error error => .error error
  | .error error => .error error

end IpDiscovery.Blocking
