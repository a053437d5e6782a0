import IpDiscovery.Blocking.Threads

/-! First: one provider after the other, each with a worker and a channel of its own. -/

namespace IpDiscovery.Blocking

/-- Where the resolver stands in `resolve_first`. -/
inductive First.Phase where
  | trying (todo : List (BoxedBlockingProvider × Nat))
  | waiting (provider : BoxedBlockingProvider) (todo : List (BoxedBlockingProvider × Nat))
  | receiving (provider : BoxedBlockingProvider) (todo : List (BoxedBlockingProvider × Nat))
      (expires : Option Instant)
  | done (answer : Except Error ProviderResult)

/-- The threads of a run and the local variables of the resolver. -/
structure First where
  threads : Threads
  phase : First.Phase
  errors : List ProviderError

namespace First

/-- The resolver before its first provider. -/
def init (config : Config) (now : Instant) : First where
  -- The providers are tried in configured order.
  threads := .idle now
  phase := .trying (matchingProviders config).zipIdx
  errors := []

/-- The resolver after one provider has failed. -/
def fail (state : First) (todo : List (BoxedBlockingProvider × Nat)) (error : ProviderError) :
    First :=
  { state with phase := .trying todo, errors := state.errors ++ [error] }

/-- The resolver after the head of the channel was received. -/
def receive (config : Config) (todo : List (BoxedBlockingProvider × Nat)) (message : WorkerMessage)
    (rest : List WorkerMessage) (state : First) : First :=
  -- The channel has served for one message.
  let state := { state with threads := { state.threads with queue := rest } }
  match message.outcome config.version with
  | .ok result => { state with phase := .done (.ok result) }
  | .error error => state.fail todo error

/-- A step of the resolver itself. -/
inductive MainStep (clock : Clock) (config : Config) : First → First → Prop where
  -- After the last provider, the errors of all of them are returned.
  | exhausted {state : First} (here : state.phase = .trying []) :
      MainStep clock config state
        { state with phase := .done (.error (.allProvidersFailed state.errors)) }
  -- With no time at all, the provider is not even called.
  | skip {state : First} {provider : BoxedBlockingProvider} {id : Nat}
      {todo : List (BoxedBlockingProvider × Nat)}
      (here : state.phase = .trying ((provider, id) :: todo)) (zero : config.timeout = 0) :
      MainStep clock config state (state.fail todo (timeoutError provider.name))
  -- Each provider has a channel of its own, so late messages of others are lost.
  | spawn {state : First} {provider : BoxedBlockingProvider} {id : Nat}
      {todo : List (BoxedBlockingProvider × Nat)}
      (here : state.phase = .trying ((provider, id) :: todo)) (nonzero : config.timeout ≠ 0) :
      MainStep clock config state { state with
        threads := state.threads.openChannel.spawn id provider
        phase := .waiting provider todo }
  | spawnFailed {state : First} {provider : BoxedBlockingProvider} {id : Nat}
      {todo : List (BoxedBlockingProvider × Nat)}
      (here : state.phase = .trying ((provider, id) :: todo)) (nonzero : config.timeout ≠ 0)
      (text : String) :
      MainStep clock config state
        ({ state with threads := state.threads.openChannel }.fail todo ⟨provider.name, text⟩)
  -- The timeout starts again for every provider.
  | block {state : First} {provider : BoxedBlockingProvider}
      {todo : List (BoxedBlockingProvider × Nat)} (here : state.phase = .waiting provider todo) :
      MainStep clock config state { state with
        phase := .receiving provider todo (clock.checkedAdd state.threads.now config.timeout) }
  -- A failure moves on to the next provider.
  | receive {state : First} {provider : BoxedBlockingProvider}
      {todo : List (BoxedBlockingProvider × Nat)} {expires : Option Instant}
      {message : WorkerMessage} {rest : List WorkerMessage}
      (here : state.phase = .receiving provider todo expires)
      (head : state.threads.queue = message :: rest) :
      MainStep clock config state (state.receive config todo message rest)
  -- A provider that takes too long is left behind.
  | timedOut {state : First} {provider : BoxedBlockingProvider}
      {todo : List (BoxedBlockingProvider × Nat)} {expires : Instant}
      (here : state.phase = .receiving provider todo (some expires))
      (empty : state.threads.queue = []) (late : expires ≤ state.threads.now) :
      MainStep clock config state (state.fail todo (timeoutError provider.name))
  -- This error has its own text here.
  | disconnected {state : First} {provider : BoxedBlockingProvider}
      {todo : List (BoxedBlockingProvider × Nat)} {expires : Option Instant}
      (here : state.phase = .receiving provider todo expires)
      (empty : state.threads.queue = []) (hungUp : state.threads.Disconnected) :
      MainStep clock config state
        (state.fail todo (.message provider.name "provider worker disconnected"))

/-- A step of the resolver, or of what runs beside it. -/
inductive Step (clock : Clock) (config : Config) (calls : Calls) : First → First → Prop where
  | main {state state' : First} (moved : MainStep clock config state state') :
      Step clock config calls state state'
  | beside {state : First} {threads : Threads}
      (moved : Threads.Step clock calls state.threads threads) :
      Step clock config calls state { state with threads }

end First

end IpDiscovery.Blocking
