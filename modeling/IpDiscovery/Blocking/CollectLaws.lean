import IpDiscovery.Base.Runs
import IpDiscovery.Blocking.Collect
import IpDiscovery.Blocking.ThreadLaws

/-! What the loop of race and consensus knows of its providers, wherever a run is. -/

namespace IpDiscovery.Blocking.Collect

open Relation

/-- The providers no worker has been started for yet. -/
def Phase.todo : Phase → List (BoxedBlockingProvider × Nat)
  | .spawning todo => todo
  | _ => []

/-- The outcomes of the messages taken off the channel. -/
def outcomesReceived (config : Config) (state : Collect) : List Outcome :=
  state.received.map fun message => message.outcome config.version

/-- The workers whose message is still awaited. -/
def awaited (state : Collect) : List Worker :=
  state.threads.workers.filter fun worker => worker.id ∉ state.received.map WorkerMessage.id

/-- Who takes part in a run, and where each of them is. -/
structure Tracked (config : Config) (calls : Calls) (state : Collect) : Prop where
  -- Every field says where the providers of the configuration are, seen from one part of the state.
  sound : state.threads.Sound config calls
  open_tx : ∀ worker ∈ state.threads.workers, worker.tx = state.threads.rx
  todo : ∀ entry ∈ state.phase.todo, (matchingProviders config)[entry.2]? = some entry.1
  ids : (state.threads.workers.map Worker.id ++ state.unstarted.map Prod.fst ++
    state.phase.todo.map Prod.snd).Perm (List.range (matchingProviders config).length)
  channel : (state.received ++ state.threads.queue).Perm
    (state.threads.workers.filterMap Worker.sent)
  pending : state.pending.entries =
    state.awaited.map fun worker => (worker.id, worker.provider.name)

/-- What the resolver has recorded of the messages it has taken off the channel. -/
structure Recorded (config : Config) (orders : Orders) (mode : Mode) (state : Collect) : Prop where
  -- The two strategies record successes differently, and errors alike.
  spawning : ∀ todo, state.phase = .spawning todo → state.received = []
  errors : state.errors =
    state.unstarted.map Prod.snd ++ failures (state.outcomesReceived config)
  race : mode = .race → successes (state.outcomesReceived config) = [] ∨
    ∃ result, state.phase = .done (.ok result) ∧ .ok result ∈ state.outcomesReceived config
  consensus : ∀ minAgree, mode = .consensus minAgree →
    state.ipResults = groupVotes ProviderResult.ip (successes (state.outcomesReceived config))
  answer : ∀ answer, state.phase = .done answer → answer = state.finish mode orders ∨
    mode = .race ∧ ∃ result, answer = .ok result ∧ .ok result ∈ state.outcomesReceived config

section Tracking

variable {clock : Clock} {config : Config} {calls : Calls} {orders : Orders} {mode : Mode}

/-- At the start, everybody is still to be started. -/
theorem init_tracked (config : Config) (calls : Calls) (now : Instant) :
    (init config now).Tracked config calls where
  -- Nobody is started yet, so all positions are still to be started.
  sound := Threads.idle_sound now
  open_tx := nofun
  todo := fun entry member => List.mem_zipIdx_iff_getElem?.mp member
  ids := by simp [init, Phase.todo, Threads.idle, List.zipIdx_map_snd, List.range_eq_range']
  channel := .nil
  pending := rfl

/-- No two participants share an id. -/
theorem Tracked.nodup {state : Collect} (tracked : state.Tracked config calls) :
    (state.threads.workers.map Worker.id ++ state.unstarted.map Prod.fst ++
      state.phase.todo.map Prod.snd).Nodup :=
  -- A permutation of a range repeats nothing.
  tracked.ids.nodup_iff.mpr List.nodup_range

/-- No two workers share an id. -/
theorem Tracked.workers_nodup {state : Collect} (tracked : state.Tracked config calls) :
    (state.threads.workers.map Worker.id).Nodup := by
  -- The ids of the workers are a part of all ids.
  have distinct := tracked.nodup
  rw [List.append_assoc] at distinct
  exact (List.nodup_append.mp distinct).1

/-- A message on its way, or received, is what some worker has sent. -/
theorem Tracked.sender {state : Collect} (tracked : state.Tracked config calls)
    {message : WorkerMessage} (member : message ∈ state.received ++ state.threads.queue) :
    ∃ worker ∈ state.threads.workers, worker.sent = some message ∧ message.id = worker.id := by
  -- The channel holds exactly what the workers have sent.
  obtain ⟨worker, inside, reported⟩ := List.mem_filterMap.mp (tracked.channel.mem_iff.mp member)
  obtain ⟨latency, shape⟩ := tracked.sound.sent worker inside message reported
  exact ⟨worker, inside, reported, by rw [shape]; rfl⟩

/-- What a worker has sent is received or on its way, under the worker's id. -/
theorem Tracked.message {state : Collect} (tracked : state.Tracked config calls) {worker : Worker}
    (member : worker ∈ state.threads.workers) {message : WorkerMessage}
    (reported : worker.sent = some message) :
    message.id = worker.id ∧ message ∈ state.received ++ state.threads.queue := by
  -- This is the channel read from the side of the workers.
  obtain ⟨latency, shape⟩ := tracked.sound.sent worker member message reported
  refine ⟨by rw [shape]; rfl, ?_⟩
  exact tracked.channel.mem_iff.mpr (List.mem_filterMap.mpr ⟨worker, member, reported⟩)

/-- A received message is some matching provider's own. -/
theorem Tracked.genuine {state : Collect} (tracked : state.Tracked config calls)
    {message : WorkerMessage} (member : message ∈ state.received) :
    Genuine config calls message := by
  -- Its sender stands at the position the message names.
  obtain ⟨worker, inside, reported, _⟩ := tracked.sender (List.mem_append_left _ member)
  obtain ⟨latency, shape⟩ := tracked.sound.sent worker inside message reported
  rw [shape]
  exact tracked.sound.genuine inside latency

/-- An id that no worker has is not the id of a received message. -/
theorem Tracked.unheard {state : Collect} (tracked : state.Tracked config calls) {id : Nat}
    (absent : id ∉ state.threads.workers.map Worker.id) :
    id ∉ state.received.map WorkerMessage.id := by
  -- A received message would have a sender with that id.
  intro heard
  obtain ⟨message, member, same⟩ := List.mem_map.mp heard
  obtain ⟨worker, inside, _, named⟩ := tracked.sender (List.mem_append_left _ member)
  exact absent (List.mem_map.mpr ⟨worker, inside, named.symm.trans same⟩)

/-- The provider that is started next has a position of its own. -/
theorem Tracked.fresh {state : Collect} (tracked : state.Tracked config calls)
    {provider : BoxedBlockingProvider} {id : Nat} {todo : List (BoxedBlockingProvider × Nat)}
    (here : state.phase = .spawning ((provider, id) :: todo)) :
    id ∉ state.threads.workers.map Worker.id ∧ id ∉ state.pending.entries.map Prod.fst := by
  -- The ids of all participants are distinct, and only workers are pending.
  have distinct := tracked.nodup
  rw [here, List.append_assoc] at distinct
  have absent : id ∉ state.threads.workers.map Worker.id := by
    intro member
    exact (List.nodup_append.mp distinct).2.2 id member id (by simp [Phase.todo]) rfl
  refine ⟨absent, ?_⟩
  intro member
  rw [tracked.pending, List.map_map] at member
  obtain ⟨worker, awaits, same⟩ := List.mem_map.mp member
  exact absent (List.mem_map.mpr ⟨worker, List.mem_of_mem_filter awaits, same⟩)

/-- A step beside the resolver sends a message at most, and moves nobody. -/
theorem Tracked.beside {state : Collect} (tracked : state.Tracked config calls)
    {threads : Threads} (moved : Threads.Step clock calls state.threads threads) :
    ({ state with threads } : Collect).Tracked config calls := by
  -- A tick changes nothing that is tracked, and a reply changes one worker and the queue.
  have sound := tracked.sound.step moved
  cases moved with
  | tick forward inside => exact { tracked with sound }
  | @finish before after worker running silent latency =>
    have opened := tracked.open_tx worker (by simp [running])
    have shape := tracked.channel
    have awaits := tracked.pending
    have ids := tracked.ids
    have channels := tracked.open_tx
    simp only [awaited, running] at shape awaits ids channels
    simp only [Threads.reply, Threads.send, if_pos opened] at sound ⊢
    refine { tracked with sound, open_tx := ?_, ids := ?_, channel := ?_, pending := ?_ }
    · -- The worker keeps its channel.
      intro other member
      rcases List.perm_middle.mem_iff.mp member with _ | ⟨_, rest⟩
      · exact opened
      · exact channels other (List.perm_middle.mem_iff.mpr (List.mem_cons_of_mem _ rest))
    · -- The worker keeps its id.
      simpa using ids
    · -- The new message is behind the queue here, and at its worker's place there.
      simp only [List.filterMap_append, List.filterMap_cons, silent] at shape ⊢
      rw [← List.append_assoc]
      exact ((shape.append_right _).trans (List.perm_append_singleton _ _)).trans
        List.perm_middle.symm
    · -- Who is awaited depends on ids, and those have not changed.
      simpa [awaited, List.filter_append, List.filter_cons, apply_ite] using awaits

/-- A change of phase that starts no worker keeps everybody where they are. -/
theorem Tracked.rephase {state : Collect} (tracked : state.Tracked config calls) {phase : Phase}
    (same : phase.todo = state.phase.todo) :
    ({ state with phase } : Collect).Tracked config calls :=
  -- Only the phase has changed, and its part of the positions is the same.
  { tracked with
    todo := fun entry member => tracked.todo entry (same ▸ member)
    ids := by simpa [same] using tracked.ids }

/-- A started worker is one more to wait for. -/
theorem Tracked.spawn {state : Collect} (tracked : state.Tracked config calls)
    {provider : BoxedBlockingProvider} {id : Nat} {todo : List (BoxedBlockingProvider × Nat)}
    (here : state.phase = .spawning ((provider, id) :: todo)) :
    ({ state with
      threads := state.threads.spawn id provider
      phase := .spawning todo
      pending := state.pending.insert id provider.name } : Collect).Tracked config calls := by
  -- The provider leaves the list of those to be started, and stands behind the workers.
  obtain ⟨absent, fresh⟩ := tracked.fresh here
  have positions := tracked.todo
  have ids := tracked.ids
  rw [here] at positions ids
  refine ⟨tracked.sound.spawn (positions _ List.mem_cons_self), ?_, ?_, ?_, ?_, ?_⟩
  · -- The new worker holds the channel that is open now.
    intro worker member
    rcases List.mem_append.mp member with earlier | new
    · exact tracked.open_tx worker earlier
    · rw [List.mem_singleton.mp new]
      rfl
  · intro entry member
    exact positions entry (List.mem_cons_of_mem _ member)
  · -- The id moves from those to be started to those of the workers.
    refine List.Perm.trans ?_ ids
    simp only [Threads.spawn, Phase.todo, List.map_append, List.map_cons, List.map_nil,
      List.append_assoc, List.singleton_append]
    exact List.perm_middle.symm.append_left _
  · simpa [Threads.spawn] using tracked.channel
  · -- The new worker has not been heard, so it is awaited.
    have unheard := tracked.unheard absent
    simp only [HashMap.insert_fresh _ fresh, tracked.pending, awaited, Threads.spawn,
      List.filter_append, List.map_append]
    simp only [List.filter_cons, unheard, not_false_eq_true, decide_true, if_true,
      List.filter_nil, List.map_cons, List.map_nil]

/-- A provider that could not be started is accounted for at once. -/
theorem Tracked.spawnFailed {state : Collect} (tracked : state.Tracked config calls)
    {provider : BoxedBlockingProvider} {id : Nat} {todo : List (BoxedBlockingProvider × Nat)}
    (here : state.phase = .spawning ((provider, id) :: todo)) (errors : List ProviderError)
    (error : ProviderError) :
    ({ state with
      phase := .spawning todo
      pending := (state.pending.insert id provider.name).erase id
      errors
      unstarted := state.unstarted ++ [(id, error)] } : Collect).Tracked config calls := by
  -- The provider is pending only between two statements, so the map is as before.
  obtain ⟨absent, fresh⟩ := tracked.fresh here
  have positions := tracked.todo
  have ids := tracked.ids
  rw [here] at positions ids
  refine { tracked with todo := ?_, ids := ?_, pending := ?_ }
  · intro entry member
    exact positions entry (List.mem_cons_of_mem _ member)
  · -- The id moves from those to be started to those that could not be.
    simpa [Phase.todo] using ids
  · rw [HashMap.erase_insert_fresh _ fresh]
    exact tracked.pending

section Received

variable (deadline : Option Instant) (message : WorkerMessage) (rest : List WorkerMessage)
  (state : Collect)

/-- Receiving takes the message off the queue, and the workers go on. -/
@[simp] theorem receive_threads : (state.receive mode config deadline message rest).threads =
    { state.threads with queue := rest } := by
  -- In every branch the queue is popped, and nothing else happens to the threads.
  unfold receive
  cases message.outcome config.version <;> cases mode <;> rfl

/-- Receiving makes the sender no longer pending. -/
@[simp] theorem receive_pending : (state.receive mode config deadline message rest).pending =
    state.pending.erase message.id := by
  -- The id is removed before the result is looked at.
  unfold receive
  cases message.outcome config.version <;> cases mode <;> rfl

/-- Receiving records the message behind those received before. -/
@[simp] theorem receive_received : (state.receive mode config deadline message rest).received =
    state.received ++ [message] := by
  -- The message is recorded before the result is looked at.
  unfold receive
  cases message.outcome config.version <;> cases mode <;> rfl

/-- Receiving does not change who could not be started. -/
@[simp] theorem receive_unstarted : (state.receive mode config deadline message rest).unstarted =
    state.unstarted := by
  unfold receive
  cases message.outcome config.version <;> cases mode <;> rfl

/-- After a message the loop goes on, unless a race has found its answer. -/
theorem receive_phase :
    (state.receive mode config deadline message rest).phase = .looping deadline ∨ mode = .race ∧
      ∃ result, (state.receive mode config deadline message rest).phase = .done (.ok result) := by
  -- Only one of the branches leaves the loop.
  unfold receive
  cases message.outcome config.version with
  | error error => exact Or.inl rfl
  | ok result =>
    cases mode with
    | race => exact Or.inr ⟨rfl, result, rfl⟩
    | consensus minAgree => exact Or.inl rfl

/-- After a message nobody is left to be started. -/
@[simp] theorem receive_todo :
    (state.receive mode config deadline message rest).phase.todo = [] := by
  -- Neither phase has anybody to start.
  rcases @receive_phase config mode deadline message rest state with looping | ⟨_, result, ended⟩
  · rw [looping]
    rfl
  · rw [ended]
    rfl

/-- A failure is recorded, and the loop goes on. -/
theorem receive_failure {error : ProviderError}
    (failed : message.outcome config.version = .error error) :
    state.receive mode config deadline message rest = { state with
      threads := { state.threads with queue := rest }
      phase := .looping deadline
      pending := state.pending.erase message.id
      received := state.received ++ [message]
      errors := state.errors ++ [error] } := by
  simp only [Collect.receive, failed]

/-- The first success of a race ends it. -/
theorem receive_race {result : ProviderResult}
    (succeeded : message.outcome config.version = .ok result) :
    state.receive .race config deadline message rest = { state with
      threads := { state.threads with queue := rest }
      phase := .done (.ok result)
      pending := state.pending.erase message.id
      received := state.received ++ [message] } := by
  simp only [Collect.receive, succeeded]

/-- A success of a consensus joins the group of its address, and the loop goes on. -/
theorem receive_consensus {minAgree : Nat} {result : ProviderResult}
    (succeeded : message.outcome config.version = .ok result) :
    state.receive (.consensus minAgree) config deadline message rest = { state with
      threads := { state.threads with queue := rest }
      phase := .looping deadline
      pending := state.pending.erase message.id
      received := state.received ++ [message]
      ipResults := state.ipResults.push result.ip result } := by
  simp only [Collect.receive, succeeded]

end Received

/-- A received message is one less to wait for. -/
theorem Tracked.receive {state : Collect} (tracked : state.Tracked config calls)
    {deadline expires : Option Instant} {message : WorkerMessage} {rest : List WorkerMessage}
    (here : state.phase = .receiving deadline expires)
    (head : state.threads.queue = message :: rest) :
    (state.receive mode config deadline message rest).Tracked config calls := by
  -- The message moves from the head of the queue to the end of what was received.
  have ids := tracked.ids
  have shape := tracked.channel
  rw [here] at ids
  refine ⟨?_, ?_, ?_, ?_, ?_, ?_⟩
  · rw [receive_threads]
    exact tracked.sound.receive head
  · simpa using tracked.open_tx
  · simp
  · simp only [receive_threads, receive_unstarted, receive_todo]
    exact ids
  · -- The message has changed lists, and the order stays.
    simpa [head] using shape
  · -- Waiting for one less is the same filter twice.
    simp only [HashMap.erase, receive_pending, tracked.pending, awaited, receive_threads,
      receive_received, List.filter_map, List.filter_filter]
    congr 1
    apply List.filter_congr
    intro worker _
    simp only [List.map_append, List.map_cons, List.map_nil, List.mem_append, List.mem_singleton,
      not_or, Bool.decide_and, decide_not, ne_eq, Function.comp_apply]
    exact Bool.and_comm _ _

/-- Every step of the resolver keeps track of everybody. -/
theorem Tracked.main {state state' : Collect} (tracked : state.Tracked config calls)
    (moved : MainStep clock config orders mode state state') : state'.Tracked config calls := by
  -- Apart from starting and receiving, the steps only change the phase.
  cases moved with
  | spawn here => exact tracked.spawn here
  | spawnFailed here text => exact tracked.spawnFailed here _ _
  | receive here head => exact tracked.receive here head
  | enter here => exact tracked.rephase (by rw [here]; rfl)
  | drained here none_pending => exact tracked.rephase (by rw [here]; rfl)
  | expired here some_pending late => exact tracked.rephase (by rw [here]; rfl)
  | check here some_pending early => exact tracked.rephase (by rw [here]; rfl)
  | block here => exact tracked.rephase (by rw [here]; rfl)
  | timedOut here empty late => exact tracked.rephase (by rw [here]; rfl)
  | disconnected here empty hungUp => exact tracked.rephase (by rw [here]; rfl)

/-! ## What is recorded -/

/-- At the start, nothing has been received and nothing is recorded. -/
theorem init_recorded (config : Config) (orders : Orders) (mode : Mode) (now : Instant) :
    (init config now).Recorded config orders mode where
  -- Nothing is recorded at the start.
  spawning := fun _ _ => rfl
  errors := rfl
  race := fun _ => Or.inl rfl
  consensus := fun _ _ => rfl
  answer := nofun

/-- A race that goes on has received no success. -/
theorem Recorded.unsuccessful {state : Collect} (recorded : state.Recorded config orders mode)
    (running : ∀ answer, state.phase ≠ .done answer) (racing : mode = .race) :
    successes (state.outcomesReceived config) = [] := by
  -- Its first success would have been its answer.
  rcases recorded.race racing with none_succeeded | ⟨result, ended, _⟩
  · exact none_succeeded
  · exact absurd ended (running _)

/-- A change of phase within the loop records nothing. -/
theorem Recorded.rephase {state : Collect} (recorded : state.Recorded config orders mode)
    {phase : Phase} (running : ∀ answer, state.phase ≠ .done answer)
    (spawned : ∀ todo, phase ≠ .spawning todo) (still : ∀ answer, phase ≠ .done answer) :
    ({ state with phase } : Collect).Recorded config orders mode where
  -- Only an answer could have been affected by the phase.
  spawning := fun todo here => absurd here (spawned todo)
  errors := recorded.errors
  race := fun racing => Or.inl (recorded.unsuccessful running racing)
  consensus := recorded.consensus
  answer := fun answer ended => absurd ended (still answer)

/-- A resolver that leaves the loop answers from what it has recorded. -/
theorem Recorded.stop {state : Collect} (recorded : state.Recorded config orders mode)
    (running : ∀ answer, state.phase ≠ .done answer) :
    (state.stop mode orders).Recorded config orders mode where
  -- The answer is computed from the locals as they are.
  spawning := nofun
  errors := recorded.errors
  race := fun racing => Or.inl (recorded.unsuccessful running racing)
  consensus := recorded.consensus
  answer := by
    intro answer ended
    cases ended
    exact Or.inl rfl

/-- A received message is recorded by its outcome. -/
theorem Recorded.receive {state : Collect} (recorded : state.Recorded config orders mode)
    {deadline : Option Instant} {message : WorkerMessage} {rest : List WorkerMessage}
    (running : ∀ answer, state.phase ≠ .done answer) :
    (state.receive mode config deadline message rest).Recorded config orders mode := by
  -- An error is recorded alike in both strategies, and a success is not.
  have errors := recorded.errors
  -- In all cases the outcome is appended to those received.
  have more : (state.receive mode config deadline message rest).outcomesReceived config =
      state.outcomesReceived config ++ [message.outcome config.version] := by
    simp [outcomesReceived]
  cases outcome : message.outcome config.version with
  -- A failure joins the errors.
  | error error =>
    have same : successes [message.outcome config.version] = [] := by rw [outcome]; rfl
    rw [receive_failure deadline message rest state outcome] at more ⊢
    refine ⟨by simp, ?_, ?_, ?_, by simp⟩
    · rw [more, failures_append, outcome]
      simp [errors, failures]
    · intro racing
      rw [more, successes_append, same, recorded.unsuccessful running racing]
      exact Or.inl rfl
    · intro minAgree counting
      rw [more, successes_append, same, List.append_nil]
      exact recorded.consensus minAgree counting
  | ok result =>
    have same : failures [message.outcome config.version] = [] := by rw [outcome]; rfl
    cases mode with
    -- A success of the race is its answer.
    | race =>
      have among : .ok result ∈ (state.receive .race config deadline message rest).outcomesReceived
          config := by
        rw [more, outcome]
        simp
      rw [receive_race deadline message rest state outcome] at more among ⊢
      refine ⟨by simp, ?_, ?_, by simp, ?_⟩
      · rw [more, failures_append, same, List.append_nil]
        exact errors
      · intro _
        exact Or.inr ⟨result, rfl, among⟩
      · intro answer ended
        cases ended
        exact Or.inr ⟨rfl, result, rfl, among⟩
    -- A success of a consensus joins the group of its address.
    | consensus minAgree =>
      rw [receive_consensus deadline message rest state outcome] at more ⊢
      refine ⟨by simp, ?_, by simp, ?_, by simp⟩
      · rw [more, failures_append, same, List.append_nil]
        exact errors
      · intro minAgree' counting
        rw [more, successes_append, outcome]
        have before := recorded.consensus minAgree' counting
        simp only [before, successes, List.filterMap_cons, List.filterMap_nil, Except.toOption,
          groupVotes_concat]

/-- Every step of the resolver records what it learns. -/
theorem Recorded.main {state state' : Collect} (recorded : state.Recorded config orders mode)
    (moved : MainStep clock config orders mode state state') :
    state'.Recorded config orders mode := by
  -- No step starts from an answer.
  cases moved with
  | @spawn provider id todo here =>
    -- Nothing can be received before the loop.
    have silent := recorded.spawning _ here
    refine ⟨fun _ _ => silent, recorded.errors, ?_, recorded.consensus, by simp⟩
    intro _
    simp [outcomesReceived, silent, successes]
  | @spawnFailed provider id todo here text =>
    have silent := recorded.spawning _ here
    have errors := recorded.errors
    refine ⟨fun _ _ => silent, ?_, ?_, recorded.consensus, by simp⟩
    · simp only [outcomesReceived, silent, List.map_nil, failures, List.filterMap_nil,
        List.append_nil] at errors
      simp [outcomesReceived, silent, failures, errors]
    · intro _
      simp [outcomesReceived, silent, successes]
  | receive here head => exact recorded.receive (by simp [here])
  | enter here => exact recorded.rephase (by simp [here]) (by simp) (by simp)
  | check here some_pending early => exact recorded.rephase (by simp [here]) (by simp) (by simp)
  | block here => exact recorded.rephase (by simp [here]) (by simp) (by simp)
  | drained here none_pending => exact recorded.stop (by simp [here])
  | expired here some_pending late => exact recorded.stop (by simp [here])
  | timedOut here empty late => exact recorded.stop (by simp [here])
  | disconnected here empty hungUp => exact recorded.stop (by simp [here])

/-- What happens beside the resolver is not recorded. -/
theorem Recorded.beside {state : Collect} (recorded : state.Recorded config orders mode)
    (threads : Threads) : ({ state with threads } : Collect).Recorded config orders mode :=
  ⟨recorded.spawning, recorded.errors, recorded.race, recorded.consensus, recorded.answer⟩

/-! ## Whole runs -/

/-- Wherever a run is, everybody is tracked and what was received is recorded. -/
theorem laws_of_run {now : Instant} {state : Collect}
    (run : ReflTransGen (Step clock config orders mode calls) (init config now) state) :
    state.Tracked config calls ∧ state.Recorded config orders mode := by
  -- Both invariants hold at the start and survive every step.
  have kept {before after : Collect}
      (laws : before.Tracked config calls ∧ before.Recorded config orders mode)
      (moved : Step clock config orders mode calls before after) :
      after.Tracked config calls ∧ after.Recorded config orders mode := by
    cases moved with
    | main moved => exact ⟨laws.1.main moved, laws.2.main moved⟩
    | beside moved => exact ⟨laws.1.beside moved, laws.2.beside _⟩
  -- The rule for runs carries both invariants along.
  exact @invariant_of_run _ _
    (fun state => state.Tracked config calls ∧ state.Recorded config orders mode) kept _ _
    ⟨init_tracked config calls now, init_recorded config orders mode now⟩ run

/-- What each provider has contributed to a run, by its position. -/
def settled (config : Config) (orders : Orders) (state : Collect) : List (Nat × Outcome) :=
  state.unstarted.map (fun (id, error) => (id, .error error)) ++
    state.received.map (fun message => (message.id, message.outcome config.version)) ++
    (orders.pending.visit state.pending).map fun (id, name) => (id, .error (timeoutError name))

/-- Only a received message settles a success. -/
theorem mem_settled_ok {state : Collect} {id : Nat} {result : ProviderResult} :
    (id, .ok result) ∈ state.settled config orders ↔ ∃ message ∈ state.received,
      message.id = id ∧ message.outcome config.version = .ok result := by
  -- The other two kinds of entry are errors.
  simp only [settled, List.mem_append, List.mem_map, Prod.mk.injEq]
  constructor
  · intro found
    rcases found with (⟨_, _, _, impossible⟩ | received) | ⟨_, _, _, impossible⟩
    · cases impossible
    · exact received
    · cases impossible
  · intro received
    exact Or.inl (Or.inr received)

/-- No id is twice in the channel. -/
theorem Tracked.channel_nodup {state : Collect} (tracked : state.Tracked config calls) :
    ((state.received ++ state.threads.queue).map WorkerMessage.id).Nodup := by
  -- Ids of messages are ids of the workers that have sent them.
  have senders := tracked.channel.map WorkerMessage.id
  have named : (state.threads.workers.filterMap Worker.sent).map WorkerMessage.id =
      (state.threads.workers.filter fun worker => worker.sent.isSome).map Worker.id := by
    rw [List.map_filterMap, ← List.filterMap_eq_filter, List.map_filterMap]
    apply List.filterMap_congr
    intro worker member
    cases reported : worker.sent with
    | none => simp [reported]
    | some message =>
      obtain ⟨latency, shape⟩ := tracked.sound.sent worker member message reported
      simp [reported, shape, Worker.message]
  rw [named] at senders
  exact senders.nodup_iff.mpr (tracked.workers_nodup.sublist (List.filter_sublist.map Worker.id))

/-- A worker's message is awaited or received, and never both. -/
theorem Tracked.heard {state : Collect} (tracked : state.Tracked config calls) :
    (state.awaited.map Worker.id ++ state.received.map WorkerMessage.id).Perm
      (state.threads.workers.map Worker.id) := by
  -- Messages on their way belong to workers that are still awaited, so both sides are without
  -- duplicates and have the same members.
  have workers := tracked.workers_nodup
  have received : (state.received.map WorkerMessage.id).Nodup := by
    have distinct := tracked.channel_nodup
    rw [List.map_append] at distinct
    exact (List.nodup_append.mp distinct).1
  -- Both lists are without duplicates, so their members decide.
  rw [List.perm_ext_iff_of_nodup _ workers]
  · -- A worker is awaited exactly while it has not been heard.
    intro id
    rw [List.mem_append]
    constructor
    · intro known
      rcases known with waiting | heard
      · exact (List.filter_sublist.map Worker.id).subset waiting
      · by_contra absent
        exact tracked.unheard absent heard
    · intro member
      by_cases heard : id ∈ state.received.map WorkerMessage.id
      · exact Or.inr heard
      · left
        obtain ⟨worker, inside, same⟩ := List.mem_map.mp member
        subst same
        exact List.mem_map.mpr ⟨worker, List.mem_filter.mpr ⟨inside, by simpa using heard⟩, rfl⟩
  · -- Nobody is awaited and heard.
    refine List.nodup_append.mpr
      ⟨workers.sublist (List.filter_sublist.map Worker.id), received, ?_⟩
    intro id waiting id' heard same
    subst same
    obtain ⟨worker, inside, named⟩ := List.mem_map.mp waiting
    have silent := (List.mem_filter.mp inside).2
    rw [named] at silent
    exact absurd heard (of_decide_eq_true silent)

/-- Where nobody is pending, every worker has been heard. -/
theorem Tracked.heard_of_drained {state : Collect} (tracked : state.Tracked config calls)
    (none_pending : state.pending.isEmpty = true) :
    ∀ worker ∈ state.threads.workers, worker.id ∈ state.received.map WorkerMessage.id := by
  -- The pending map holds exactly the awaited workers.
  intro worker member
  by_contra unheard
  have awaits : worker ∈ state.awaited := List.mem_filter.mpr ⟨member, decide_eq_true unheard⟩
  have entries := tracked.pending
  rw [List.isEmpty_iff.mp none_pending] at entries
  rw [List.map_eq_nil_iff.mp entries.symm] at awaits
  cases awaits

/-- Where all have sent their messages and nothing is on its way, every worker has been heard. -/
theorem Tracked.heard_of_sent {state : Collect} (tracked : state.Tracked config calls)
    (empty : state.threads.queue = [])
    (sent : ∀ worker ∈ state.threads.workers, worker.sent.isSome = true) :
    ∀ worker ∈ state.threads.workers, worker.id ∈ state.received.map WorkerMessage.id := by
  -- All messages have been sent, and none is on its way.
  intro worker member
  obtain ⟨message, reported⟩ := Option.isSome_iff_exists.mp (sent worker member)
  obtain ⟨named, received⟩ := tracked.message member reported
  rw [empty, List.append_nil] at received
  exact List.mem_map.mpr ⟨message, received, named⟩

/-- Once all have been started, every provider has a worker or could not be started. -/
theorem Tracked.started_ids {state : Collect} (tracked : state.Tracked config calls)
    (started : state.phase.todo = []) :
    (state.threads.workers.map Worker.id ++ state.unstarted.map Prod.fst).Perm
      (List.range (matchingProviders config).length) := by
  -- Nobody is left to be started.
  have ids := tracked.ids
  rw [started, List.map_nil, List.append_nil] at ids
  exact ids

/-- Then every provider is settled exactly once. -/
theorem Tracked.settled_ids {state : Collect} (tracked : state.Tracked config calls)
    (started : state.phase.todo = []) (orders : Orders) :
    ((state.settled config orders).map Prod.fst).Perm
      (List.range (matchingProviders config).length) := by
  -- The pending map holds the awaited workers, in some order.
  have heard := tracked.heard
  have waiting : ((orders.pending.visit state.pending).map Prod.fst).Perm
      (state.awaited.map Worker.id) := by
    refine ((orders.pending.perm state.pending).map Prod.fst).trans ?_
    rw [tracked.pending, List.map_map]
    rfl
  refine List.Perm.trans ?_ (tracked.started_ids started)
  simp only [settled, List.map_append, List.map_map, Function.comp_def]
  rw [List.append_assoc]
  refine List.Perm.trans (List.perm_append_comm) (List.Perm.append_right _ ?_)
  exact (List.perm_append_comm.trans (waiting.append_right _)).trans heard

/-- The outcomes of a run, in the order the resolver learns them. -/
def outcomes (config : Config) (orders : Orders) (state : Collect) : List Outcome :=
  (state.settled config orders).map Prod.snd

/-- The outcomes are those not started, those received, and those still pending, in this order. -/
theorem outcomes_eq (config : Config) (orders : Orders) (state : Collect) :
    state.outcomes config orders = state.unstarted.map (fun entry => .error entry.2) ++
      state.outcomesReceived config ++
      (orders.pending.values state.pending).map fun name => .error (timeoutError name) := by
  -- Dropping the ids leaves the three kinds of outcome.
  simp only [outcomes, settled, outcomesReceived, HashOrder.values, List.map_append, List.map_map]
  rfl

/-- The successes of a run are those among the received messages. -/
theorem successes_outcomes (config : Config) (orders : Orders) (state : Collect) :
    successes (state.outcomes config orders) = successes (state.outcomesReceived config) := by
  -- Neither an unstarted nor a pending provider succeeds.
  rw [outcomes_eq]
  simp [successes, Except.toOption, List.filterMap_map]

/-- The failures of a run are the errors it ends with. -/
theorem Recorded.failures_outcomes {state : Collect}
    (recorded : state.Recorded config orders mode) :
    failures (state.outcomes config orders) = state.finalErrors orders := by
  -- All three kinds are appended to the errors in this order.
  rw [outcomes_eq, finalErrors, recorded.errors]
  simp [failures, List.filterMap_map, List.filterMap_eq_map']

/-- The groups of a consensus run are those of its outcomes. -/
theorem Recorded.ipResults_eq {minAgree : Nat} {state : Collect}
    (recorded : state.Recorded config orders (.consensus minAgree)) :
    state.ipResults = (tally (state.outcomes config orders)).1 := by
  -- The groups depend only on the successes.
  rw [tally_eq, successes_outcomes, recorded.consensus minAgree rfl]

/-- The answer of a consensus run is the selection over its outcomes. -/
theorem Recorded.consensus_answer {minAgree : Nat} {state : Collect}
    (recorded : state.Recorded config orders (.consensus minAgree))
    {answer : Except Error ProviderResult} (ended : state.phase = .done answer) :
    answer = consensusOf orders.ipResults minAgree (state.outcomes config orders) := by
  -- The alternative, an answer of the race, is excluded.
  rcases recorded.answer answer ended with selected | ⟨impossible, _⟩
  · rw [selected, finish, consensusOf, recorded.ipResults_eq, tally_eq, recorded.failures_outcomes]
  · cases impossible

end Tracking

end IpDiscovery.Blocking.Collect
