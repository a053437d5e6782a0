import IpDiscovery.Blocking.Threads

/-! Whatever the threads do, each message tells what one provider's own call came to. -/

namespace IpDiscovery.Blocking

/-- A message of the worker of one matching provider. -/
def Genuine (config : Config) (calls : Calls) (message : WorkerMessage) : Prop :=
  ∃ provider latency, (matchingProviders config)[message.id]? = some provider ∧
    message = ⟨message.id, provider.name, provider.protocol,
      (calls message.id).caught provider.name, latency⟩

/-- Every worker calls the provider at its position, and every message is a worker's. -/
structure Threads.Sound (config : Config) (calls : Calls) (threads : Threads) : Prop where
  located : ∀ worker ∈ threads.workers,
    (matchingProviders config)[worker.id]? = some worker.provider
  sent : ∀ worker ∈ threads.workers, ∀ message, worker.sent = some message →
    ∃ latency, message = worker.message calls latency
  queued : ∀ message ∈ threads.queue, Genuine config calls message

section Steps

variable {config : Config} {calls : Calls} {threads : Threads}

/-- A worker's message is genuine, because the worker is at its position. -/
theorem Threads.Sound.genuine (sound : threads.Sound config calls) {worker : Worker}
    (member : worker ∈ threads.workers) (latency : Duration) :
    Genuine config calls (worker.message calls latency) :=
  -- The message repeats what the worker was started with.
  ⟨worker.provider, latency, sound.located worker member, rfl⟩

/-- Threads that have not begun are sound. -/
theorem Threads.idle_sound (now : Instant) : (Threads.idle now).Sound config calls where
  located := nofun
  sent := nofun
  queued := nofun

/-- A new channel keeps the threads sound. -/
theorem Threads.Sound.openChannel (sound : threads.Sound config calls) :
    threads.openChannel.Sound config calls where
  -- The workers stay, and the new channel is empty.
  located := sound.located
  sent := sound.sent
  queued := nofun

/-- A new worker has sent nothing yet. -/
theorem Threads.Sound.spawn (sound : threads.Sound config calls) {provider : BoxedBlockingProvider}
    {id : Nat} (here : (matchingProviders config)[id]? = some provider) :
    (threads.spawn id provider).Sound config calls where
  located := by
    intro worker member
    rcases List.mem_append.mp member with earlier | new
    · exact sound.located worker earlier
    · rw [List.mem_singleton.mp new]
      exact here
  sent := by
    intro worker member message reported
    -- A new worker has not sent anything.
    rcases List.mem_append.mp member with earlier | new
    · exact sound.sent worker earlier message reported
    · rw [List.mem_singleton.mp new] at reported
      cases reported
  queued := sound.queued

/-- Receiving leaves a part of the queue. -/
theorem Threads.Sound.receive (sound : threads.Sound config calls) {message : WorkerMessage}
    {rest : List WorkerMessage} (head : threads.queue = message :: rest) :
    ({ threads with queue := rest } : Threads).Sound config calls where
  -- What is left in the queue was there before.
  located := sound.located
  sent := sound.sent
  queued := by
    intro other member
    exact sound.queued other (head ▸ List.mem_cons_of_mem _ member)

/-- A worker that has come to its end stands where it stood, with its message. -/
theorem Threads.Sound.step (sound : threads.Sound config calls) {clock : Clock}
    {threads' : Threads} (moved : Threads.Step clock calls threads threads') :
    threads'.Sound config calls := by
  cases moved with
  | tick forward inside => exact ⟨sound.located, sound.sent, sound.queued⟩
  | @finish before after worker running silent latency =>
    have member : worker ∈ threads.workers := by simp [running]
    -- Only one worker has changed, and only what it has sent.
    have others (other : Worker) (inside : other ∈ before ++ after) : other ∈ threads.workers := by
      rw [running]
      rcases List.mem_append.mp inside with left | right
      · exact List.mem_append_left _ left
      · exact List.mem_append_right _ (List.mem_cons_of_mem _ right)
    -- The message reaches the resolver only through the channel it holds now.
    unfold Threads.reply Threads.send
    split
    all_goals
      refine ⟨?_, ?_, ?_⟩
      · intro other inside
        rcases List.perm_middle.mem_iff.mp inside with _ | ⟨_, rest⟩
        · exact sound.located worker member
        · exact sound.located other (others other rest)
      · intro other inside message reported
        rcases List.perm_middle.mem_iff.mp inside with _ | ⟨_, rest⟩
        · cases reported
          exact ⟨latency, rfl⟩
        · exact sound.sent other (others other rest) message reported
    · intro message inside
      rcases List.mem_append.mp inside with earlier | new
      · exact sound.queued message earlier
      · rw [List.mem_singleton.mp new]
        exact sound.genuine member latency
    · exact sound.queued

/-- What happens beside the resolver changes nothing of a worker but its message. -/
theorem Threads.Step.map_workers {clock : Clock} {threads' : Threads}
    (moved : Threads.Step clock calls threads threads') {β : Type} (view : Worker → β)
    (blind : ∀ worker message, view { worker with sent := some message } = view worker) :
    threads'.workers.map view = threads.workers.map view := by
  cases moved with
  | tick forward inside => rfl
  | finish running silent latency =>
    unfold Threads.reply Threads.send
    split <;> simp [running, blind]

/-- So whatever holds of the rest of all workers goes on to hold. -/
theorem Threads.Step.forall_workers {clock : Clock} {threads' : Threads}
    (moved : Threads.Step clock calls threads threads') {β : Type} (view : Worker → β)
    (blind : ∀ worker message, view { worker with sent := some message } = view worker)
    (allowed : β → Prop) (before : ∀ worker ∈ threads.workers, allowed (view worker)) :
    ∀ worker ∈ threads'.workers, allowed (view worker) := by
  intro worker member
  have seen : view worker ∈ threads'.workers.map view := List.mem_map.mpr ⟨worker, member, rfl⟩
  rw [moved.map_workers view blind] at seen
  obtain ⟨other, among, same⟩ := List.mem_map.mp seen
  exact same ▸ before other among

/-- What happens beside the resolver leaves its channel in place. -/
theorem Threads.Step.rx_eq {clock : Clock} {threads' : Threads}
    (moved : Threads.Step clock calls threads threads') : threads'.rx = threads.rx := by
  cases moved with
  | tick forward inside => rfl
  | finish running silent latency =>
    unfold Threads.reply Threads.send
    split <;> rfl

/-- The clock is monotonic. -/
theorem Threads.Step.now_le {clock : Clock} {threads' : Threads}
    (moved : Threads.Step clock calls threads threads') : threads.now ≤ threads'.now := by
  cases moved with
  | tick forward inside => exact forward
  | finish running silent latency =>
    unfold Threads.reply Threads.send
    split <;> exact Nat.le_refl _

end Steps

/-- A provider at some position is configured, and supports the version asked for. -/
theorem mem_of_matching {config : Config} {position : Nat} {provider : BoxedBlockingProvider}
    (located : (matchingProviders config)[position]? = some provider) :
    provider ∈ config.blockingProviders ∧ provider.supportsVersion config.version = true :=
  -- The matching providers are a filter of the configured ones.
  List.mem_filter.mp (List.mem_of_getElem? located)

/-- Some blocking provider of a configuration accounts for a result. -/
def Accounts (config : Config) (calls : Calls) (result : ProviderResult) : Prop :=
  Attributed config.version config.blockingProviders (matchingProviders config)
    (fun position ip => calls position = .returned (.ok ip)) result

/-- A validated message has returned an address of the version asked for. -/
theorem WorkerMessage.outcome_eq_ok {message : WorkerMessage} {version : IpVersion}
    {result : ProviderResult} (validated : message.outcome version = .ok result) :
    message.result = .ok result.ip ∧ version.matches result.ip = true ∧
      result.provider = message.name ∧ result.protocol = message.protocol := by
  -- Every other branch is an error.
  unfold WorkerMessage.outcome at validated
  split at validated
  · rename_i ip returned
    unfold validateIp at validated
    split at validated
    · rename_i checked
      split at checked
      · rename_i family
        cases checked
        cases validated
        exact ⟨returned, family, rfl, rfl⟩
      · cases checked
    · cases validated
  · cases validated

/-- The result of a message that validates is the message itself, with its address. -/
theorem WorkerMessage.outcome_eq_ok_iff {message : WorkerMessage} {version : IpVersion}
    {result : ProviderResult} :
    message.outcome version = .ok result ↔ ∃ ip, message.result = .ok ip ∧
      version.matches ip = true ∧
      result = ⟨ip, message.name, message.protocol, message.latency⟩ := by
  -- The address is checked, and nothing else is.
  unfold WorkerMessage.outcome
  cases returned : message.result with
  | error error => simp
  | ok ip =>
    cases family : version.matches ip with
    | true =>
      simp only [validateIp, family, if_true, Except.ok.injEq, exists_eq_left']
      exact ⟨fun same => ⟨trivial, same.symm⟩, fun same => same.2.symm⟩
    | false => simp [validateIp, family]

/-- A message that lost: it carries an error, or an address of another version. -/
def WorkerMessage.Loses (version : IpVersion) (message : WorkerMessage) : Prop :=
  (∃ error, message.result = .error error) ∨
    ∃ ip, message.result = .ok ip ∧ version.matches ip = false

/-- A message without a validated result lost. -/
theorem WorkerMessage.loses_iff {message : WorkerMessage} {version : IpVersion} :
    message.Loses version ↔ ∃ error, message.outcome version = .error error := by
  -- The outcome looks at the result first, and at the version of its address after that.
  unfold WorkerMessage.Loses WorkerMessage.outcome
  cases returned : message.result with
  | error error => simp
  | ok ip =>
    cases family : version.matches ip with
    | true => simp [validateIp, family]
    | false => simp [validateIp, family]

/-- What a genuine message has returned is what the provider's own call returned. -/
theorem Genuine.returned {config : Config} {calls : Calls} {message : WorkerMessage}
    (genuine : Genuine config calls message) {ip : IpAddr} (reported : message.result = .ok ip) :
    ∃ provider, (matchingProviders config)[message.id]? = some provider ∧
      message.name = provider.name ∧ message.protocol = provider.protocol ∧
      calls message.id = .returned (.ok ip) := by
  -- The message is the worker's, so its result is the call's, unless the call has panicked.
  obtain ⟨provider, latency, located, shape⟩ := genuine
  rw [shape] at reported
  refine ⟨provider, located, by rw [shape], by rw [shape], ?_⟩
  -- A panic would have been an error.
  cases ended : calls message.id with
  | panicked =>
    rw [ended] at reported
    cases reported
  | returned result =>
    rw [ended] at reported
    exact congrArg CallResult.returned reported

/-- A message whose provider returned an address of the version asked for validates. -/
theorem Genuine.validates {config : Config} {calls : Calls} {message : WorkerMessage}
    (genuine : Genuine config calls message) {ip : IpAddr}
    (returned : calls message.id = .returned (.ok ip)) (family : config.version.matches ip = true) :
    ∃ result, message.outcome config.version = .ok result ∧ result.ip = ip := by
  -- The worker passes on what its call returned.
  obtain ⟨provider, latency, _, shape⟩ := genuine
  have reported : message.result = .ok ip := by
    rw [shape, returned]
    rfl
  exact ⟨⟨ip, message.name, message.protocol, message.latency⟩,
    by simp [WorkerMessage.outcome, reported, validateIp, family], rfl⟩

/-- A genuine message that validates has a result that its provider accounts for. -/
theorem Genuine.accounts {config : Config} {calls : Calls} {message : WorkerMessage}
    (genuine : Genuine config calls message) {result : ProviderResult}
    (validated : message.outcome config.version = .ok result) :
    Accounts config calls result := by
  -- The outcome repeats the message, and the message repeats the provider.
  obtain ⟨reported, family, named, spoken⟩ := WorkerMessage.outcome_eq_ok validated
  obtain ⟨provider, located, name, protocol, returned⟩ := genuine.returned reported
  obtain ⟨configured, supports⟩ := mem_of_matching located
  exact ⟨family, provider, configured, supports, named.trans name, spoken.trans protocol,
    message.id, located, returned⟩

end IpDiscovery.Blocking
