import IpDiscovery.Blocking.FirstLaws
import IpDiscovery.Blocking.Resolver

/-! Trying one provider after the other, in order, and each by its own worker's message. -/

namespace IpDiscovery.Blocking.First

open Relation

/-- The providers from a position on, with their positions. -/
def triedFrom (config : Config) (position : Nat) : List (BoxedBlockingProvider × Nat) :=
  (matchingProviders config).zipIdx.drop position

/-- The worker of the provider that is waited for stands last, and alone holds the channel. -/
structure Awaiting (config : Config) (threads : Threads) (position : Nat)
    (provider : BoxedBlockingProvider) (todo : List (BoxedBlockingProvider × Nat))
    (earlier : List Worker) (current : Worker) : Prop where
  place : triedFrom config position = (provider, position) :: todo
  workers : threads.workers = earlier ++ [current]
  id : current.id = position
  opened : current.tx = threads.rx
  closed : ∀ worker ∈ earlier, worker.tx ≠ threads.rx
  queue : threads.queue = current.sent.toList
  before : ∀ worker ∈ earlier, worker.id < position
  clock : current.startedAt ≤ threads.now

/-- Where the resolver stands: at the position after the errors, behind the workers before it. -/
def Placed (config : Config) (state : First) : Prop :=
  match state.phase with
  | .trying todo => todo = triedFrom config state.errors.length ∧
      state.errors.length ≤ (matchingProviders config).length ∧
        ∀ worker ∈ state.threads.workers, worker.id < state.errors.length
  | .waiting provider todo => ∃ earlier current,
      Awaiting config state.threads state.errors.length provider todo earlier current
  -- The receiver does not give up before the worker has had its time.
  | .receiving provider todo expires => ∃ earlier current,
      Awaiting config state.threads state.errors.length provider todo earlier current ∧
        ∀ deadline, expires = some deadline → current.startedAt + config.timeout ≤ deadline
  | .done (.ok _) => state.errors.length < (matchingProviders config).length ∧
      ∀ worker ∈ state.threads.workers, worker.id ≤ state.errors.length
  | .done (.error e) => e = .allProvidersFailed state.errors ∧
      state.errors.length = (matchingProviders config).length ∧
        ∀ worker ∈ state.threads.workers, worker.id < state.errors.length

/-- The providers are tried in order, each with one worker at most. -/
structure Ordered (config : Config) (state : First) : Prop where
  ids : (state.threads.workers.map Worker.id).Pairwise (· < ·)
  -- Each trial opens a channel of its own, so older senders never reach the current receiver.
  txs : ∀ worker ∈ state.threads.workers, worker.tx ≤ state.threads.rx
  zero : config.timeout = 0 → state.threads.workers = []
  placed : state.Placed config

section Laws

variable {clock : Clock} {config : Config} {calls : Calls} {state state' : First}

/-- A nonempty list of providers opens with the one at its position. -/
theorem triedFrom_eq_cons {position : Nat} {entry : BoxedBlockingProvider × Nat}
    {todo : List (BoxedBlockingProvider × Nat)}
    (place : triedFrom config position = entry :: todo) :
    entry.2 = position ∧ (matchingProviders config)[position]? = some entry.1 ∧
      todo = triedFrom config (position + 1) := by
  -- The element at a position opens the suffix that starts there.
  unfold triedFrom at place ⊢
  have opened := congrArg List.head? place
  rw [List.head?_drop, List.head?_cons, List.getElem?_zipIdx, Option.map_eq_some_iff] at opened
  obtain ⟨provider, here, same⟩ := opened
  rw [← same]
  refine ⟨by simp, here, ?_⟩
  rw [← List.drop_drop, place, List.drop_one, List.tail_cons]

/-- While somebody is left to try, the position is that of a matching provider. -/
theorem triedFrom_lt {position : Nat} {entry : BoxedBlockingProvider × Nat}
    {todo : List (BoxedBlockingProvider × Nat)}
    (place : triedFrom config position = entry :: todo) :
    position < (matchingProviders config).length :=
  (List.getElem?_eq_some_iff.mp (triedFrom_eq_cons place).2.1).1

/-- When nobody is left to try, the position is behind all matching providers. -/
theorem triedFrom_eq_nil {position : Nat} (place : triedFrom config position = []) :
    (matchingProviders config).length ≤ position := by
  simpa [triedFrom] using place

/-! ## Beside the resolver -/

/-- A worker among others with a last one is that one, or stands before it. -/
theorem last_or_before {before after earlier : List Worker} {worker current : Worker}
    (same : before ++ worker :: after = earlier ++ [current]) :
    (before = earlier ∧ worker = current ∧ after = []) ∨
      ∃ rest, earlier = before ++ worker :: rest ∧ after = rest ++ [current] := by
  -- Either nothing follows the worker, or the last one does.
  rcases List.eq_nil_or_concat after with none | ⟨rest, last, shape⟩
  · subst none
    obtain ⟨front, back⟩ := List.append_inj' same rfl
    cases back
    exact Or.inl ⟨front, rfl, rfl⟩
  · subst shape
    rw [List.concat_eq_append, ← List.cons_append, ← List.append_assoc] at same
    obtain ⟨front, back⟩ := List.append_inj' same rfl
    cases back
    exact Or.inr ⟨rest, front.symm, List.concat_eq_append⟩

/-- Whatever happens beside the resolver, it waits for the same worker. -/
theorem Awaiting.beside {threads threads' : Threads} {position : Nat}
    {provider : BoxedBlockingProvider} {todo : List (BoxedBlockingProvider × Nat)}
    {earlier : List Worker} {current : Worker}
    (awaiting : Awaiting config threads position provider todo earlier current)
    (moved : Threads.Step clock calls threads threads') :
    ∃ earlier' current', Awaiting config threads' position provider todo earlier' current' ∧
      current'.startedAt = current.startedAt := by
  cases moved with
  | tick forward inside =>
    exact ⟨earlier, current, { awaiting with clock := Nat.le_trans awaiting.clock forward }, rfl⟩
  | @finish before after worker running silent latency =>
    have opened := awaiting.opened
    rcases last_or_before (running.symm.trans awaiting.workers) with
      ⟨same, last, none⟩ | ⟨rest, shape, last⟩
    · -- The worker itself sends its message into the open channel.
      subst same last none
      have empty : threads.queue = [] := by rw [awaiting.queue, silent]; rfl
      refine ⟨before, { worker with sent := some (worker.message calls latency) }, ?_, rfl⟩
      simp only [Threads.reply, Threads.send, if_pos opened, empty, List.nil_append]
      exact { awaiting with
        workers := rfl
        queue := rfl }
    · -- A worker that was left behind sends its message to nobody.
      have elsewhere := awaiting.closed worker (shape ▸ by simp)
      refine ⟨before ++ { worker with sent := some (worker.message calls latency) } :: rest,
        current, ?_, rfl⟩
      simp only [Threads.reply, Threads.send, if_neg elsewhere, last]
      have closed := awaiting.closed
      have ids := awaiting.before
      rw [shape] at closed ids
      refine { awaiting with workers := by simp, closed := ?_, before := ?_ }
      · intro other member
        rcases List.perm_middle.mem_iff.mp member with _ | ⟨_, among⟩
        · exact elsewhere
        · exact closed other (List.perm_middle.mem_iff.mpr (List.mem_cons_of_mem _ among))
      · intro other member
        rcases List.perm_middle.mem_iff.mp member with _ | ⟨_, among⟩
        · exact ids worker (by simp)
        · exact ids other (List.perm_middle.mem_iff.mpr (List.mem_cons_of_mem _ among))

/-- The workers keep their ids, which is all that the order is about. -/
theorem beside_ids {threads threads' : Threads}
    (moved : Threads.Step clock calls threads threads') :
    threads'.workers.map Worker.id = threads.workers.map Worker.id :=
  moved.map_workers Worker.id fun _ _ => rfl

/-- A bound of the ids holds beside the resolver. -/
theorem beside_bound {threads threads' : Threads}
    (moved : Threads.Step clock calls threads threads') (allowed : Nat → Prop)
    (bounded : ∀ worker ∈ threads.workers, allowed worker.id) :
    ∀ worker ∈ threads'.workers, allowed worker.id :=
  moved.forall_workers Worker.id (fun _ _ => rfl) allowed bounded

/-- The order is kept beside the resolver. -/
theorem Ordered.beside (ordered : state.Ordered config) {threads : Threads}
    (moved : Threads.Step clock calls state.threads threads) :
    ({ state with threads } : First).Ordered config where
  ids := by
    rw [beside_ids moved]
    exact ordered.ids
  txs := by
    dsimp only
    rw [moved.rx_eq]
    exact moved.forall_workers Worker.tx (fun _ _ => rfl) (· ≤ _) ordered.txs
  zero := by
    intro zero
    have none := congrArg (List.map Worker.id) (ordered.zero zero)
    rw [← beside_ids moved, List.map_nil, List.map_eq_nil_iff] at none
    exact none
  placed := by
    -- Every phase speaks of the workers, and beside the resolver these only send.
    have placed := ordered.placed
    unfold Placed at placed ⊢
    cases here : state.phase with
    | trying todo =>
      rw [here] at placed
      exact ⟨placed.1, placed.2.1, beside_bound moved (· < _) placed.2.2⟩
    | waiting provider todo =>
      rw [here] at placed
      obtain ⟨earlier, current, awaiting⟩ := placed
      obtain ⟨earlier', current', still, _⟩ := awaiting.beside moved
      exact ⟨earlier', current', still⟩
    | receiving provider todo expires =>
      rw [here] at placed
      obtain ⟨earlier, current, awaiting, expiry⟩ := placed
      obtain ⟨earlier', current', still, started⟩ := awaiting.beside moved
      exact ⟨earlier', current', still, started ▸ expiry⟩
    | done answer =>
      rw [here] at placed
      cases answer with
      | ok result => exact ⟨placed.1, beside_bound moved (· ≤ _) placed.2⟩
      | error e => exact ⟨placed.1, placed.2.1, beside_bound moved (· < _) placed.2.2⟩

/-! ## Steps of the resolver -/

/-- At the start, the first provider is about to be tried. -/
theorem init_ordered (config : Config) (now : Instant) : (init config now).Ordered config where
  -- The first provider is tried first, and nobody has been started.
  ids := List.Pairwise.nil
  txs := fun _ member => absurd member List.not_mem_nil
  zero := fun _ => rfl
  placed := ⟨rfl, Nat.zero_le _, fun _ member => absurd member List.not_mem_nil⟩

/-- The workers go no further than the provider that is waited for. -/
theorem Awaiting.bounded {threads : Threads} {position : Nat} {provider : BoxedBlockingProvider}
    {todo : List (BoxedBlockingProvider × Nat)} {earlier : List Worker} {current : Worker}
    (awaiting : Awaiting config threads position provider todo earlier current) :
    ∀ worker ∈ threads.workers, worker.id ≤ position := by
  intro worker member
  -- All but the last worker were started for earlier positions.
  rw [awaiting.workers] at member
  rcases List.mem_append.mp member with before | last
  · exact Nat.le_of_lt (awaiting.before worker before)
  · rw [List.mem_singleton.mp last, awaiting.id]

/-- After a failure the resolver stands at the next position. -/
theorem Ordered.retry {threads : Threads} {errors : List ProviderError} {error : ProviderError}
    {entry : BoxedBlockingProvider × Nat} {todo : List (BoxedBlockingProvider × Nat)}
    (ids : (threads.workers.map Worker.id).Pairwise (· < ·))
    (txs : ∀ worker ∈ threads.workers, worker.tx ≤ threads.rx)
    (zero : config.timeout = 0 → threads.workers = [])
    (place : triedFrom config errors.length = entry :: todo)
    (bounded : ∀ worker ∈ threads.workers, worker.id ≤ errors.length) :
    (First.mk threads (.trying todo) (errors ++ [error])).Ordered config where
  ids := ids
  txs := txs
  zero := zero
  placed := by
    -- One more error is one more position.
    refine ⟨?_, ?_, ?_⟩
    · rw [List.length_append, List.length_singleton]
      exact (triedFrom_eq_cons place).2.2
    · rw [List.length_append, List.length_singleton]
      exact triedFrom_lt place
    · intro worker member
      rw [List.length_append, List.length_singleton]
      exact Nat.lt_succ_of_le (bounded worker member)

/-- The worker that is started next has an id behind all others, and a channel of its own. -/
theorem Ordered.spawn (ordered : state.Ordered config) {provider : BoxedBlockingProvider} {id : Nat}
    {todo : List (BoxedBlockingProvider × Nat)}
    (here : state.phase = .trying ((provider, id) :: todo)) (nonzero : config.timeout ≠ 0) :
    ({ state with
      threads := state.threads.openChannel.spawn id provider
      phase := .waiting provider todo } : First).Ordered config := by
  have placed := ordered.placed
  unfold Placed at placed
  rw [here] at placed
  obtain ⟨place, _, before⟩ := placed
  obtain ⟨position, _, _⟩ := triedFrom_eq_cons place.symm
  dsimp only at position
  subst position
  refine ⟨?_, ?_, fun zero => absurd zero nonzero,
    state.threads.workers,
    ⟨state.errors.length, provider, state.threads.rx + 1, state.threads.now, none⟩, ?_⟩
  · -- The new id is behind all others.
    simp only [Threads.spawn, Threads.openChannel, List.map_append, List.map_cons, List.map_nil]
    refine List.pairwise_append.mpr ⟨ordered.ids, List.pairwise_singleton _ _, ?_⟩
    intro id member other single
    obtain ⟨worker, started, same⟩ := List.mem_map.mp member
    rw [List.mem_singleton.mp single, ← same]
    exact before worker started
  · -- The older senders are below the new channel.
    intro worker member
    rcases List.mem_append.mp member with earlier | new
    · exact Nat.le_succ_of_le (ordered.txs worker earlier)
    · rw [List.mem_singleton.mp new]
      exact Nat.le_refl _
  · -- The new worker is the one that is waited for.
    exact {
      place := place.symm
      workers := rfl
      id := rfl
      opened := rfl
      closed := fun worker member => Nat.ne_of_lt (Nat.lt_succ_of_le (ordered.txs worker member))
      queue := rfl
      before := before
      clock := Nat.le_refl _ }

/-- Every step of the resolver keeps the order. -/
theorem Ordered.main (ordered : state.Ordered config) (moved : MainStep clock config state state') :
    state'.Ordered config := by
  have placed := ordered.placed
  unfold Placed at placed
  cases moved with
  -- Nobody is left, so every provider has an error.
  | exhausted here =>
    rw [here] at placed
    obtain ⟨place, inside, before⟩ := placed
    have all := triedFrom_eq_nil place.symm
    exact ⟨ordered.ids, ordered.txs, ordered.zero, rfl, Nat.le_antisymm inside all, before⟩
  -- Without any time the provider fails at once.
  | skip here zero =>
    rw [here] at placed
    exact .retry ordered.ids ordered.txs ordered.zero placed.1.symm
      fun worker member => Nat.le_of_lt (placed.2.2 worker member)
  | spawn here nonzero => exact ordered.spawn here nonzero
  | spawnFailed here nonzero text =>
    rw [here] at placed
    exact .retry ordered.ids (fun worker member => Nat.le_succ_of_le (ordered.txs worker member))
      ordered.zero placed.1.symm fun worker member => Nat.le_of_lt (placed.2.2 worker member)
  -- The receiver waits for the whole timeout from now on, and the worker was started before.
  | block here =>
    rw [here] at placed
    obtain ⟨earlier, current, awaiting⟩ := placed
    refine ⟨ordered.ids, ordered.txs, ordered.zero, earlier, current, awaiting, ?_⟩
    intro deadline same
    unfold Clock.checkedAdd at same
    split at same
    · cases same
      exact Nat.add_le_add_right awaiting.clock _
    · cases same
  -- A message is a failure, or the answer.
  | @receive provider todo expires message rest here head =>
    rw [here] at placed
    obtain ⟨earlier, current, awaiting, _⟩ := placed
    unfold receive
    cases outcome : message.outcome config.version with
    | error error =>
      exact .retry ordered.ids ordered.txs ordered.zero awaiting.place awaiting.bounded
    | ok result =>
      exact ⟨ordered.ids, ordered.txs, ordered.zero, triedFrom_lt awaiting.place,
        awaiting.bounded⟩
  -- Silence until the deadline is a failure too.
  | timedOut here empty late =>
    rw [here] at placed
    obtain ⟨earlier, current, awaiting, _⟩ := placed
    exact .retry ordered.ids ordered.txs ordered.zero awaiting.place awaiting.bounded
  | disconnected here empty hungUp =>
    rw [here] at placed
    obtain ⟨earlier, current, awaiting, _⟩ := placed
    exact .retry ordered.ids ordered.txs ordered.zero awaiting.place awaiting.bounded

/-- All along a run, the providers are tried in order. -/
theorem ordered_of_run {now : Instant}
    (run : ReflTransGen (Step clock config calls) (init config now) state) :
    state.Ordered config := by
  have kept {before after : First} (ordered : before.Ordered config)
      (moved : Step clock config calls before after) : after.Ordered config := by
    cases moved with
    | main moved => exact ordered.main moved
    | beside moved => exact ordered.beside moved
  exact @invariant_of_run _ _ (Ordered config) kept _ _ (init_ordered config now) run

end Laws

/-! ## How a trial ends -/

/-- How the trial of a provider may end without a result. -/
inductive Ending where
  | skipped
  | unstarted
  | heard
  | timedOut
deriving DecidableEq

/-- The endings of a provider that was handed to a worker. -/
def Ending.started : Ending → Bool
  | .skipped | .unstarted => false
  | .heard | .timedOut => true

section Trials

variable (config : Config) (calls : Calls) (state : First) (provider : BoxedBlockingProvider)

/-- The resolver waits for a provider, and the message it receives is that provider's own. -/
structure Hears (message : WorkerMessage) : Prop where
  waits : ∃ todo expires, state.phase = .receiving provider todo expires
  queue : state.threads.queue = [message]
  worker : ∃ worker ∈ state.threads.workers, worker.id = state.errors.length ∧
    worker.provider = provider ∧ worker.sent = some message
  own : ∃ latency, message = ⟨state.errors.length, provider.name, provider.protocol,
    (calls state.errors.length).caught provider.name, latency⟩

/-- The resolver waits for a provider, whose worker has let its time pass without a message. -/
structure GivesUp : Prop where
  waits : ∃ todo expires, state.phase = .receiving provider todo expires
  queue : state.threads.queue = []
  worker : ∃ worker ∈ state.threads.workers, worker.id = state.errors.length ∧
    worker.provider = provider ∧ worker.sent = none ∧
      worker.startedAt + config.timeout ≤ state.threads.now

/-- The trial of a provider ends in a state with an error. -/
inductive Fails : Ending → ProviderError → Prop where
  | skipped {todo : List (BoxedBlockingProvider × Nat)}
      (here : state.phase = .trying ((provider, state.errors.length) :: todo))
      (zero : config.timeout = 0) : Fails .skipped (timeoutError provider.name)
  | unstarted {todo : List (BoxedBlockingProvider × Nat)}
      (here : state.phase = .trying ((provider, state.errors.length) :: todo))
      (nonzero : config.timeout ≠ 0) (text : String) : Fails .unstarted ⟨provider.name, text⟩
  | heard {message : WorkerMessage} {error : ProviderError}
      (hears : state.Hears calls provider message)
      (failed : message.outcome config.version = .error error) : Fails .heard error
  | timedOut (givesUp : state.GivesUp config provider) :
      Fails .timedOut (timeoutError provider.name)

end Trials

/-- A message that is received in its turn validates where its call returned a fitting address. -/
theorem Hears.outcome_eq_ok {config : Config} {calls : Calls} {state : First}
    {provider : BoxedBlockingProvider} {message : WorkerMessage}
    (hears : state.Hears calls provider message) {result : ProviderResult} :
    message.outcome config.version = .ok result ↔ ∃ ip,
      calls state.errors.length = .returned (.ok ip) ∧ config.version.matches ip = true ∧
        result = ⟨ip, provider.name, provider.protocol, message.latency⟩ := by
  obtain ⟨latency, shape⟩ := hears.own
  rw [WorkerMessage.outcome_eq_ok_iff, shape]
  dsimp only
  -- A panic is an error, and so never carries an address.
  cases calls state.errors.length with
  | panicked => simp [CallResult.caught]
  | returned result => simp [CallResult.caught]

/-- Where a timeout of zero starts nobody, whoever is heard had some time. -/
theorem Hears.nonzero {config : Config} {calls : Calls} {state : First}
    {provider : BoxedBlockingProvider} {message : WorkerMessage}
    (hears : state.Hears calls provider message)
    (idle : config.timeout = 0 → state.threads.workers = []) : config.timeout ≠ 0 := by
  intro zero
  obtain ⟨worker, member, _⟩ := hears.worker
  rw [idle zero] at member
  exact absurd member List.not_mem_nil

section Histories

variable {clock : Clock} {config : Config} {calls : Calls} {state state' : First}

/-- The worker that is waited for calls the provider at its position. -/
theorem Awaiting.located {position : Nat} {provider : BoxedBlockingProvider}
    {todo : List (BoxedBlockingProvider × Nat)} {earlier : List Worker} {current : Worker}
    (awaiting : Awaiting config state.threads position provider todo earlier current)
    (sound : state.Sound config calls) :
    (matchingProviders config)[position]? = some provider ∧
      current ∈ state.threads.workers ∧ current.provider = provider := by
  have place := (triedFrom_eq_cons awaiting.place).2.1
  have member : current ∈ state.threads.workers := by simp [awaiting.workers]
  have here := sound.threads.located current member
  rw [awaiting.id, place, Option.some.injEq] at here
  exact ⟨place, member, here.symm⟩

/-- A message that is received is that of the provider waited for. -/
theorem hears_of_receiving (ordered : state.Ordered config) (sound : state.Sound config calls)
    {provider : BoxedBlockingProvider} {todo : List (BoxedBlockingProvider × Nat)}
    {expires : Option Instant} {message : WorkerMessage} {rest : List WorkerMessage}
    (here : state.phase = .receiving provider todo expires)
    (head : state.threads.queue = message :: rest) :
    (matchingProviders config)[state.errors.length]? = some provider ∧
      state.Hears calls provider message := by
  -- The phase names the worker that is waited for.
  have placed := ordered.placed
  unfold Placed at placed
  rw [here] at placed
  obtain ⟨earlier, current, awaiting, _⟩ := placed
  obtain ⟨place, member, same⟩ := awaiting.located sound
  -- The channel holds what the worker has sent, and nothing else.
  have queue := awaiting.queue
  rw [head] at queue
  cases sent : current.sent with
  | none => simp [sent] at queue
  | some own =>
    simp only [sent, Option.toList_some, List.cons.injEq] at queue
    obtain ⟨message_eq, rest_eq⟩ := queue
    subst message_eq rest_eq
    obtain ⟨latency, shape⟩ := sound.threads.sent current member message sent
    refine ⟨place, ⟨todo, expires, here⟩, head, ⟨current, member, awaiting.id, same, sent⟩,
      latency, ?_⟩
    rw [shape, Worker.message, awaiting.id, same]

/-- An empty channel means that the worker has not sent its message. -/
theorem silent_of_receiving (ordered : state.Ordered config) (sound : state.Sound config calls)
    {provider : BoxedBlockingProvider} {todo : List (BoxedBlockingProvider × Nat)}
    {expires : Option Instant} (here : state.phase = .receiving provider todo expires)
    (empty : state.threads.queue = []) :
    (matchingProviders config)[state.errors.length]? = some provider ∧
      ∃ worker ∈ state.threads.workers, worker.id = state.errors.length ∧
        worker.provider = provider ∧ worker.sent = none ∧ worker.tx = state.threads.rx ∧
        ∀ deadline, expires = some deadline → worker.startedAt + config.timeout ≤ deadline := by
  have placed := ordered.placed
  unfold Placed at placed
  rw [here] at placed
  obtain ⟨earlier, current, awaiting, expiry⟩ := placed
  obtain ⟨place, member, same⟩ := awaiting.located sound
  have queue := awaiting.queue
  rw [empty] at queue
  refine ⟨place, current, member, awaiting.id, same, ?_, awaiting.opened, expiry⟩
  -- A message would stand in the channel.
  cases sent : current.sent with
  | none => rfl
  | some own => simp [sent] at queue

/-- A step of the resolver records the failure of one provider, or none. -/
theorem main_errors (ordered : state.Ordered config) (sound : state.Sound config calls)
    (moved : MainStep clock config state state') :
    state'.errors = state.errors ∨ ∃ provider ending error,
      (matchingProviders config)[state.errors.length]? = some provider ∧
      state'.errors = state.errors ++ [error] ∧
      state'.threads.workers = state.threads.workers ∧
      state.Fails config calls provider ending error := by
  have placed := ordered.placed
  unfold Placed at placed
  cases moved with
  | exhausted here => exact Or.inl rfl
  | spawn here nonzero => exact Or.inl rfl
  | block here => exact Or.inl rfl
  | skip here zero =>
    rw [here] at placed
    obtain ⟨position, place, _⟩ := triedFrom_eq_cons placed.1.symm
    dsimp only at position
    subst position
    exact Or.inr ⟨_, _, _, place, rfl, rfl, .skipped here zero⟩
  -- The failed start is recorded under the provider at its position.
  | spawnFailed here nonzero text =>
    rw [here] at placed
    obtain ⟨position, place, _⟩ := triedFrom_eq_cons placed.1.symm
    dsimp only at position
    subst position
    exact Or.inr ⟨_, _, _, place, rfl, rfl, .unstarted here nonzero text⟩
  -- Only a message without a fitting address is an error.
  | receive here head =>
    obtain ⟨place, hears⟩ := hears_of_receiving ordered sound here head
    unfold receive
    cases outcome : WorkerMessage.outcome config.version _ with
    | ok result => exact Or.inl rfl
    | error error => exact Or.inr ⟨_, _, _, place, rfl, rfl, .heard hears outcome⟩
  -- The receiver has given up, and the worker is still silent.
  | timedOut here empty late =>
    obtain ⟨place, worker, member, id, same, silent, _, expiry⟩ :=
      silent_of_receiving ordered sound here empty
    exact Or.inr ⟨_, _, _, place, rfl, rfl, .timedOut ⟨⟨_, _, here⟩, empty, worker, member, id,
      same, silent, Nat.le_trans (expiry _ rfl) late⟩⟩
  -- The worker holds its sender until it has sent its message.
  | disconnected here empty hungUp =>
    obtain ⟨_, worker, member, _, _, silent, opened, _⟩ :=
      silent_of_receiving ordered sound here empty
    have sent := hungUp worker member opened
    rw [silent] at sent
    cases sent

/-- A step of the resolver wins only with a message of the provider it waits for. -/
theorem main_wins (ordered : state.Ordered config) (sound : state.Sound config calls)
    (moved : MainStep clock config state state') {result : ProviderResult}
    (won : state'.phase = .done (.ok result)) :
    state'.errors = state.errors ∧ ∃ provider message ip,
      (matchingProviders config)[state.errors.length]? = some provider ∧
      state.Hears calls provider message ∧ calls state.errors.length = .returned (.ok ip) ∧
      config.version.matches ip = true ∧
      result = ⟨ip, provider.name, provider.protocol, message.latency⟩ := by
  -- Nothing but a message can win.
  cases moved with
  | receive here head =>
    obtain ⟨place, hears⟩ := hears_of_receiving ordered sound here head
    unfold receive at won ⊢
    cases outcome : WorkerMessage.outcome config.version _ with
    | error error => simp [outcome, fail] at won
    | ok other =>
      simp only [outcome, Phase.done.injEq, Except.ok.injEq] at won
      subst won
      obtain ⟨ip, own⟩ := hears.outcome_eq_ok.mp outcome
      exact ⟨rfl, _, _, ip, place, hears, own⟩
  | exhausted here | skip here zero | spawn here nonzero | spawnFailed here nonzero text
  | block here | timedOut here empty late | disconnected here empty hungUp => cases won

/-- Workers stay, with their ids. -/
theorem ids_kept (moved : Step clock config calls state state') {id : Nat}
    (started : id ∈ state.threads.workers.map Worker.id) :
    id ∈ state'.threads.workers.map Worker.id := by
  cases moved with
  | beside moved => rwa [beside_ids moved]
  | main moved =>
    cases moved with
    -- A new worker is added behind the others.
    | spawn here nonzero =>
      simp only [Threads.spawn, Threads.openChannel, List.map_append]
      exact List.mem_append_left _ started
    | receive here head =>
      unfold receive
      cases WorkerMessage.outcome config.version _ with
      | ok result => exact started
      | error error => exact started
    | _ => exact started

/-- A provider whose message was heard, or awaited for too long, has a worker. -/
theorem Fails.started {provider : BoxedBlockingProvider} {ending : Ending} {error : ProviderError}
    (fails : state.Fails config calls provider ending error) (started : ending.started = true) :
    state.errors.length ∈ state.threads.workers.map Worker.id := by
  -- Only a trial that was heard or timed out had a worker, and that worker is still there.
  cases fails with
  | skipped => cases started
  | unstarted => cases started
  | heard hears failed =>
    obtain ⟨worker, member, id, _⟩ := hears.worker
    exact List.mem_map.mpr ⟨worker, member, id⟩
  | timedOut givesUp =>
    obtain ⟨worker, member, id, _⟩ := givesUp.worker
    exact List.mem_map.mpr ⟨worker, member, id⟩

/-- The error at a position tells how the trial of that provider ended, earlier in the same run. -/
def PassedOver (clock : Clock) (config : Config) (calls : Calls) (state : First) (position : Nat)
    (error : ProviderError) : Prop :=
  ∃ earlier provider ending, FirstReaches clock config calls earlier ∧
    ReflTransGen (Step clock config calls) earlier state ∧ earlier.errors.length = position ∧
    (matchingProviders config)[position]? = some provider ∧
    earlier.Fails config calls provider ending error ∧
    (ending.started = true → position ∈ state.threads.workers.map Worker.id)

/-- The result is that of the provider behind the errors, whose message was received in its turn. -/
def Chosen (clock : Clock) (config : Config) (calls : Calls) (state : First)
    (result : ProviderResult) : Prop :=
  ∃ earlier provider message ip, FirstReaches clock config calls earlier ∧
    ReflTransGen (Step clock config calls) earlier state ∧ earlier.errors = state.errors ∧
    (matchingProviders config)[state.errors.length]? = some provider ∧
    earlier.Hears calls provider message ∧
    calls state.errors.length = .returned (.ok ip) ∧ config.version.matches ip = true ∧
    result = ⟨ip, provider.name, provider.protocol, message.latency⟩

/-- A provider that was passed over stays so. -/
theorem PassedOver.step {position : Nat} {error : ProviderError}
    (passedOver : state.PassedOver clock config calls position error)
    (moved : Step clock config calls state state') :
    state'.PassedOver clock config calls position error := by
  obtain ⟨earlier, provider, ending, reached, run, before, place, fails, started⟩ := passedOver
  exact ⟨earlier, provider, ending, reached, run.tail moved, before, place, fails,
    fun begun => ids_kept moved (started begun)⟩

/-- Wherever a run is, every error is explained, and so is a result. -/
theorem history_of_run {now : Instant}
    (run : ReflTransGen (Step clock config calls) (init config now) state) :
    (∀ position error, state.errors[position]? = some error →
      state.PassedOver clock config calls position error) ∧
    ∀ result, state.phase = .done (.ok result) → state.Chosen clock config calls result := by
  -- An error or a result is explained by the state that the step before started from.
  induction run with
  | refl =>
    refine ⟨fun position error found => ?_, fun result won => ?_⟩
    · simp [init] at found
    · cases won
  | @tail before after path moved ih =>
    obtain ⟨passed, chosen⟩ := ih
    have reached : FirstReaches clock config calls before := ⟨now, path⟩
    have ordered := ordered_of_run path
    have sound := sound_of_run path
    cases moved with
    -- What happens beside the resolver explains nothing new.
    | beside besideMoved =>
      have moved : Step clock config calls before _ := .beside besideMoved
      refine ⟨fun position error found => (passed position error found).step moved, ?_⟩
      intro result won
      obtain ⟨earlier, provider, message, ip, from_start, later, rest⟩ := chosen result won
      exact ⟨earlier, provider, message, ip, from_start, later.tail moved, rest⟩
    | main mainMoved =>
      have moved : Step clock config calls before after := .main mainMoved
      refine ⟨?_, ?_⟩
      · intro position error found
        rcases main_errors ordered sound mainMoved with
          same | ⟨provider, ending, failure, place, grown, _, fails⟩
        · rw [same] at found
          exact (passed position error found).step moved
        · rw [grown] at found
          by_cases earlier : position < before.errors.length
          · -- The error was there before.
            rw [List.getElem?_append_left earlier] at found
            exact (passed position error found).step moved
          · -- The failure is that of the state before.
            obtain ⟨inside, value⟩ := List.getElem?_eq_some_iff.mp found
            rw [List.length_append, List.length_singleton] at inside
            have here : position = before.errors.length := by omega
            subst here
            rw [List.getElem_concat_length rfl] at value
            subst value
            exact ⟨before, provider, ending, reached, .single moved, rfl, place, fails,
              fun begun => ids_kept moved (fails.started begun)⟩
      · -- The result is that of the state before.
        intro result won
        obtain ⟨same, provider, message, ip, place, hears, own⟩ :=
          main_wins ordered sound mainMoved won
        refine ⟨before, provider, message, ip, reached, .single moved, same.symm, ?_⟩
        rw [same]
        exact ⟨place, hears, own⟩

/-! ## Coming to an end -/

/-- How many steps a run may still need. -/
def stepsLeft (state : First) : Nat :=
  match state.phase with
  | .trying todo => 4 * todo.length + 1
  | .waiting _ todo => 4 * todo.length + 4
  -- A message may have to be sent before it can be received.
  | .receiving _ todo _ => 4 * todo.length + if state.threads.queue.isEmpty then 3 else 2
  | .done _ => 0

/-- A resolver that has not answered has something to do. -/
theorem progress (ordered : state.Ordered config) (sound : state.Sound config calls)
    (running : ¬ ∃ answer, state.phase = .done answer) :
    ∃ state', Step clock config calls state state' ∧ state'.stepsLeft < state.stepsLeft := by
  cases here : state.phase with
  | done answer => exact absurd ⟨answer, here⟩ running
  | trying todo =>
    cases todo with
    | nil => exact ⟨_, .main (.exhausted here), by simp [stepsLeft, here]⟩
    | cons entry todo =>
      by_cases zero : config.timeout = 0
      · -- The measure falls by the whole trial.
        exact ⟨_, .main (.skip here zero), by simp [stepsLeft, here, fail]⟩
      · refine ⟨_, .main (.spawn here zero), ?_⟩
        simp only [stepsLeft, here, List.length_cons]
        omega
  | waiting provider todo =>
    refine ⟨_, .main (.block here), ?_⟩
    simp only [stepsLeft, here]
    split <;> omega
  | receiving provider todo expires =>
    cases head : state.threads.queue with
    | cons message rest =>
      refine ⟨_, .main (.receive here head), ?_⟩
      unfold receive
      cases WorkerMessage.outcome config.version message with
      | ok result => simp [stepsLeft, here, head]
      | error error => simp [stepsLeft, here, head, fail]
    | nil =>
      -- The worker may come to its end now.
      obtain ⟨_, worker, member, _, _, silent, opened, _⟩ :=
        silent_of_receiving ordered sound here head
      obtain ⟨before, after, running⟩ := List.append_of_mem member
      refine ⟨_, .beside (.finish running silent 0), ?_⟩
      simp [stepsLeft, here, head, Threads.reply, Threads.send, opened]

/-- From wherever a run is, it may come to an end. -/
theorem exists_end (reached : FirstReaches clock config calls state) :
    ∃ state' answer, ReflTransGen (Step clock config calls) state state' ∧
      state'.phase = .done answer := by
  obtain ⟨now, run⟩ := reached
  have kept {before after : First}
      (laws : before.Ordered config ∧ before.Sound config calls)
      (moved : Step clock config calls before after) :
      after.Ordered config ∧ after.Sound config calls := by
    cases moved with
    | main moved => exact ⟨laws.1.main moved, laws.2.main moved⟩
    | beside moved =>
      exact ⟨laws.1.beside moved, laws.2.threads.step moved, laws.2.todo, laws.2.answer⟩
  -- Each step of the run lowers the number of steps that are left.
  obtain ⟨last, path, answer, ended⟩ := @run_ends _ _
    (fun state => state.Ordered config ∧ state.Sound config calls)
    (fun state => ∃ answer, state.phase = .done answer) stepsLeft kept
    (fun laws running => progress laws.1 laws.2 running) _
    ⟨ordered_of_run run, sound_of_run run⟩
  exact ⟨last, answer, path, ended⟩

end Histories

end IpDiscovery.Blocking.First
