import IpDiscovery.Blocking.Threads
import IpDiscovery.Consensus

/-! Race and consensus: one worker for each provider, and a loop that collects their messages. -/

namespace IpDiscovery.Blocking

/-- Which of the two strategies the loop collects for. -/
inductive Mode where
  | race
  | consensus (minAgree : Nat)
deriving DecidableEq

/-- Where the resolver stands in `resolve_race` or `resolve_consensus`. -/
inductive Collect.Phase where
  | spawning (todo : List (BoxedBlockingProvider × Nat))
  | looping (deadline : Option Instant)
  | waiting (deadline : Option Instant) (remaining : Duration)
  | receiving (deadline : Option Instant) (expires : Option Instant)
  | done (answer : Except Error ProviderResult)

/--
The threads of a run and the local variables of the resolver.

The last two fields are its history: the providers no thread could be started for, and the
messages it has taken off the channel.
-/
structure Collect where
  threads : Threads
  phase : Collect.Phase
  pending : HashMap Nat String
  errors : List ProviderError
  ipResults : IpResults
  unstarted : List (Nat × ProviderError)
  received : List WorkerMessage

/-- The iteration orders of the two maps. -/
structure Orders where
  pending : HashOrder Nat String
  ipResults : HashOrder IpAddr (List ProviderResult)

namespace Collect

/-- The resolver before its first worker. -/
def init (config : Config) (now : Instant) : Collect where
  -- All positions are to be started, in configured order.
  threads := .idle now
  phase := .spawning (matchingProviders config).zipIdx
  pending := .empty
  errors := []
  ipResults := .empty
  unstarted := []
  received := []

/-- The errors a run that has stopped ends with: those recorded, and a timeout for each pending. -/
def finalErrors (orders : Orders) (state : Collect) : List ProviderError :=
  -- `errors.extend(pending.into_values().map(timeout_error))`.
  state.errors ++ (orders.pending.values state.pending).map timeoutError

/-- What follows the loop. -/
def finish (mode : Mode) (orders : Orders) (state : Collect) : Except Error ProviderResult :=
  match mode with
  | .race => .error (.allProvidersFailed (state.finalErrors orders))
  | .consensus minAgree =>
    selectConsensus orders.ipResults minAgree state.ipResults (state.finalErrors orders)

/-- The resolver after it has left the loop. -/
def stop (mode : Mode) (orders : Orders) (state : Collect) : Collect :=
  { state with phase := .done (state.finish mode orders) }

/-- `deadline.and_then(..).unwrap_or(Duration::ZERO)`. -/
def remaining (deadline : Option Instant) (now : Instant) : Duration :=
  (deadline.bind fun deadline => checkedDurationSince deadline now).getD 0

/-- The resolver after the head of the channel was received. -/
def receive (mode : Mode) (config : Config) (deadline : Option Instant) (message : WorkerMessage)
    (rest : List WorkerMessage) (state : Collect) : Collect :=
  -- The id leaves the pending map whatever the message says.
  let state := { state with
    threads := { state.threads with queue := rest }
    phase := .looping deadline
    pending := state.pending.erase message.id
    received := state.received ++ [message] }
  -- `validate_ip` has already been applied to a returned address.
  match message.outcome config.version with
  | .ok result =>
    match mode with
    | .race => { state with phase := .done (.ok result) }
    | .consensus _ => { state with ipResults := state.ipResults.push result.ip result }
  | .error error => { state with errors := state.errors ++ [error] }

section Steps

variable (clock : Clock) (config : Config) (orders : Orders) (mode : Mode)

/-- A step of the resolver itself. -/
inductive MainStep : Collect → Collect → Prop where
  -- `pending.insert` comes before the thread is started.
  | spawn {state : Collect} {provider : BoxedBlockingProvider} {id : Nat}
      {todo : List (BoxedBlockingProvider × Nat)}
      (here : state.phase = .spawning ((provider, id) :: todo)) :
      MainStep state { state with
        threads := state.threads.spawn id provider
        phase := .spawning todo
        pending := state.pending.insert id provider.name }
  -- A thread that cannot be started is taken out again.
  | spawnFailed {state : Collect} {provider : BoxedBlockingProvider} {id : Nat}
      {todo : List (BoxedBlockingProvider × Nat)}
      (here : state.phase = .spawning ((provider, id) :: todo)) (text : String) :
      MainStep state { state with
        phase := .spawning todo
        pending := (state.pending.insert id provider.name).erase id
        errors := state.errors ++ [⟨provider.name, text⟩]
        unstarted := state.unstarted ++ [(id, ⟨provider.name, text⟩)] }
  -- All senders but those of the workers are dropped, and the deadline is set.
  | enter {state : Collect} (here : state.phase = .spawning []) :
      MainStep state { state with
        phase := .looping (clock.checkedAdd state.threads.now config.timeout) }
  -- The loop ends where nobody is pending.
  | drained {state : Collect} {deadline : Option Instant} (here : state.phase = .looping deadline)
      (none_pending : state.pending.isEmpty = true) : MainStep state (state.stop mode orders)
  -- It also ends where no time remains, which a missing deadline counts as.
  | expired {state : Collect} {deadline : Option Instant} (here : state.phase = .looping deadline)
      (some_pending : state.pending.isEmpty = false)
      (late : remaining deadline state.threads.now = 0) : MainStep state (state.stop mode orders)
  | check {state : Collect} {deadline : Option Instant} (here : state.phase = .looping deadline)
      (some_pending : state.pending.isEmpty = false)
      (early : remaining deadline state.threads.now ≠ 0) :
      MainStep state { state with
        phase := .waiting deadline (remaining deadline state.threads.now) }
  -- `recv_timeout` computes a deadline of its own, or waits without one.
  | block {state : Collect} {deadline : Option Instant} {remaining : Duration}
      (here : state.phase = .waiting deadline remaining) :
      MainStep state { state with
        phase := .receiving deadline (clock.checkedAdd state.threads.now remaining) }
  -- A message is taken before the time is looked at.
  | receive {state : Collect} {deadline expires : Option Instant} {message : WorkerMessage}
      {rest : List WorkerMessage} (here : state.phase = .receiving deadline expires)
      (head : state.threads.queue = message :: rest) :
      MainStep state (state.receive mode config deadline message rest)
  | timedOut {state : Collect} {deadline : Option Instant} {expires : Instant}
      (here : state.phase = .receiving deadline (some expires))
      (empty : state.threads.queue = []) (late : expires ≤ state.threads.now) :
      MainStep state (state.stop mode orders)
  -- Both errors of the receiver end the loop.
  | disconnected {state : Collect} {deadline expires : Option Instant}
      (here : state.phase = .receiving deadline expires)
      (empty : state.threads.queue = []) (hungUp : state.threads.Disconnected) :
      MainStep state (state.stop mode orders)

/-- A step of the resolver, or of what runs beside it. -/
inductive Step (calls : Calls) : Collect → Collect → Prop where
  | main {state state' : Collect} (moved : MainStep clock config orders mode state state') :
      Step calls state state'
  | beside {state : Collect} {threads : Threads}
      (moved : Threads.Step clock calls state.threads threads) :
      Step calls state { state with threads }

end Steps

end Collect

end IpDiscovery.Blocking
