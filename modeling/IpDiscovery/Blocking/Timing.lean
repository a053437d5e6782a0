import IpDiscovery.Blocking.Attribution
import IpDiscovery.Blocking.Deadline

/-! When an undelayed race or consensus ends, and which replies have counted by then. -/

namespace IpDiscovery.Blocking

/-! ## What a script foretells -/

section Scripts

variable (config : Config) (script : Script)

/-- A provider that would succeed if it were waited for, with the result it would be given. -/
structure Contends (position : Nat) (result : ProviderResult) : Prop where
  starts : script.spawnError position = none
  named : ∃ provider, (matchingProviders config)[position]? = some provider ∧
    result.provider = provider.name ∧ result.protocol = provider.protocol
  returned : script.calls position = .returned (.ok result.ip)
  family : config.version.matches result.ip = true
  timed : script.delay position = some result.latency

/-- How long a resolver waits for a provider that it cannot do without. -/
def Script.wait (position : Nat) : Duration :=
  if script.spawnError position = none then
    min config.timeout ((script.delay position).getD config.timeout)
  else 0

/-- How long a resolver waits for all of its providers. -/
def Script.longestWait : Duration :=
  (Finset.range (matchingProviders config).length).sup (script.wait config)

/-- What the provider at a position comes to, by its script and the timeout. -/
inductive Settles : Nat × Outcome → Prop where
  | unstarted {position : Nat} {provider : BoxedBlockingProvider} {text : String}
      (located : (matchingProviders config)[position]? = some provider)
      (failed : script.spawnError position = some text) :
      Settles (position, .error ⟨provider.name, text⟩)
  | heard {position : Nat} {provider : BoxedBlockingProvider} {delay : Duration}
      (located : (matchingProviders config)[position]? = some provider)
      (starts : script.spawnError position = none)
      (timed : script.delay position = some delay) (early : delay ≤ config.timeout) :
      Settles (position, (⟨position, provider.name, provider.protocol,
        (script.calls position).caught provider.name, delay⟩ : WorkerMessage).outcome
          config.version)
  -- A reply at the very end of the timeout may be heard, or come too late.
  | late {position : Nat} {provider : BoxedBlockingProvider}
      (located : (matchingProviders config)[position]? = some provider)
      (starts : script.spawnError position = none)
      (late : ∀ delay, script.delay position = some delay → config.timeout ≤ delay) :
      Settles (position, .error (timeoutError provider.name))

variable {config script}

/-- Nobody is waited for beyond the longest wait. -/
theorem le_longestWait {position : Nat} (inside : position < (matchingProviders config).length) :
    script.wait config position ≤ script.longestWait config :=
  Finset.le_sup (Finset.mem_range.mpr inside)

/-- Nobody is waited for beyond the timeout. -/
theorem longestWait_le : script.longestWait config ≤ config.timeout := by
  apply Finset.sup_le
  intro position _
  unfold Script.wait
  split
  · exact Nat.min_le_left _ _
  · -- Who cannot be started is not waited for.
    exact Nat.zero_le _

/-- A contender is one of the matching providers. -/
theorem Contends.inside {position : Nat} {result : ProviderResult}
    (contends : Contends config script position result) :
    position < (matchingProviders config).length := by
  obtain ⟨provider, located, _⟩ := contends.named
  exact (List.getElem?_eq_some_iff.mp located).1

/-- One contender that is early enough can win. -/
theorem Contends.winning {position : Nat} {result : ProviderResult}
    (contends : Contends config script position result) {prompt : Duration → Prop}
    (early : prompt result.latency) : Undelayed.Winning config .race script prompt := by
  refine ⟨result.ip, {position}, Finset.singleton_nonempty position, nofun, contends.family, ?_⟩
  intro other chosen
  rw [Finset.mem_singleton.mp chosen]
  exact ⟨contends.inside, contends.starts, contends.returned, result.latency, contends.timed, early⟩

end Scripts

/-- Three providers with ten nanoseconds, for a race or a consensus. -/
def paceConfig : Config where
  blockingProviders := [⟨"A", .dns, fun _ => true⟩, ⟨"B", .http, fun _ => true⟩,
    ⟨"C", .stun, fun _ => true⟩]
  providers := []
  timeout := 10
  version := .v4
  strategy := .race

/-- The first provider fails after two nanoseconds, and the others succeed after three and five. -/
def paceScript : Script where
  spawnError _ := none
  calls position :=
    if position = 0 then .panicked else .returned (.ok (ipv4 203 0 113 7))
  delay position := [2, 3, 5][position]?

namespace Undelayed

section Runs

variable {clock : Clock} {config : Config} {orders : Orders} {mode : Mode} {script : Script}
  {start : Instant} {state state' : Collect}

/-! ## Latencies -/

/-- Every message that was sent carries the delay of its provider, which has passed. -/
def Metered (script : Script) (start : Instant) (state : Collect) : Prop :=
  ∀ message ∈ state.received ++ state.threads.queue,
    script.delay message.id = some message.latency ∧ start + message.latency ≤ state.threads.now

/-- The steps of the resolver move messages without changing them, and take no time. -/
theorem main_messages (moved : Collect.MainStep clock config orders mode state state') :
    state'.received ++ state'.threads.queue = state.received ++ state.threads.queue ∧
      state'.threads.now = state.threads.now := by
  cases moved with
  | receive here head => simp [head]
  | spawn | spawnFailed | enter | drained | expired | check | block | timedOut | disconnected =>
    exact ⟨rfl, rfl⟩

/-- A worker measures the time from its start to its reply. -/
theorem Metered.step (metered : Metered script start state)
    (tracked : state.Tracked config script.calls)
    (onTime : OnTime clock config mode script start state)
    (moved : Step clock config orders mode script state state') : Metered script start state' := by
  cases moved with
  | main moved scripted =>
    obtain ⟨same, now⟩ := main_messages moved
    rw [Metered, same, now]
    exact metered
  | @reply before after worker running silent due =>
    -- The channel is open to every worker, so the reply is sent.
    have member : worker ∈ state.threads.workers := by simp [running]
    obtain ⟨delay, known, now⟩ := Option.map_eq_some_iff.mp due
    simp only [Metered, Threads.reply, Threads.send, if_pos (tracked.open_tx worker member),
      ← List.append_assoc]
    intro message sent
    rcases List.mem_append.mp sent with earlier | new
    · exact metered message earlier
    · -- The reply is due after the delay, which is then what the worker has measured.
      rw [List.mem_singleton.mp new, Worker.message, known, ← now, Nat.add_sub_cancel_left,
        onTime.started worker member]
      exact ⟨rfl, le_rfl⟩
  | tick settled undue inside =>
    intro message sent
    obtain ⟨known, past⟩ := metered message sent
    exact ⟨known, past.trans (Nat.le_succ _)⟩

/-- All along an undelayed run, messages tell the delays of their senders. -/
theorem Reaches.metered (reached : Reaches clock config orders mode script start state) :
    Metered script start state := by
  -- The invariant needs the laws of the run beside it.
  have kept {before after : Collect}
      (laws : (before.Tracked config script.calls ∧ OnTime clock config mode script start before) ∧
        Metered script start before)
      (moved : Step clock config orders mode script before after) :
      (after.Tracked config script.calls ∧ OnTime clock config mode script start after) ∧
        Metered script start after :=
    ⟨⟨tracked_of_step laws.1.1 moved, laws.1.2.step laws.1.1 moved⟩,
      laws.2.step laws.1.1 laws.1.2 moved⟩
  exact (@invariant_of_run _ _ (fun state => (state.Tracked config script.calls ∧
    OnTime clock config mode script start state) ∧ Metered script start state) kept _ _
    ⟨⟨Collect.init_tracked config script.calls start, init_onTime start⟩, by
      simp [Metered, Collect.init, Threads.idle]⟩ reached).2

/-- A message that validates is that of a contender. -/
theorem contends_of_message (reached : Reaches clock config orders mode script start state)
    {message : WorkerMessage} (member : message ∈ state.received ++ state.threads.queue)
    {result : ProviderResult} (validated : message.outcome config.version = .ok result) :
    Contends config script message.id result := by
  obtain ⟨tracked, _⟩ := reached.laws
  -- Behind the message stands a worker, whose call has returned the result.
  obtain ⟨worker, inside, reported, same⟩ := tracked.sender member
  obtain ⟨latency, shape⟩ := tracked.sound.sent worker inside message reported
  have genuine : Genuine config script.calls message :=
    shape ▸ tracked.sound.genuine inside latency
  obtain ⟨ip, told, family, rfl⟩ := WorkerMessage.outcome_eq_ok_iff.mp validated
  obtain ⟨provider, located, name, protocol, returned⟩ := genuine.returned told
  exact ⟨same ▸ reached.onTime.starts.workers worker inside, ⟨provider, located, name, protocol⟩,
    returned, family, (reached.metered message member).1⟩

/-! ## The time a run takes -/

/-- No step of the resolver starts from an answer. -/
theorem running_of_main (moved : Collect.MainStep clock config orders mode state state')
    (answer : Except Error ProviderResult) : state.phase ≠ .done answer := by
  intro ended
  cases moved <;> simp_all

/-- A worker was started, for a provider that can be. -/
theorem worker_wait (reached : Reaches clock config orders mode script start state)
    {worker : Worker} (member : worker ∈ state.threads.workers) :
    worker.id < (matchingProviders config).length ∧ script.wait config worker.id =
      min config.timeout ((script.delay worker.id).getD config.timeout) := by
  obtain ⟨tracked, _⟩ := reached.laws
  have located := tracked.sound.located worker member
  refine ⟨(List.getElem?_eq_some_iff.mp located).1, ?_⟩
  rw [Script.wait, if_pos (reached.onTime.starts.workers worker member)]

/-- Time passes only while somebody is waited for. -/
theorem Reaches.step_waits (reached : Reaches clock config orders mode script start state)
    (running : ∀ answer, state.phase ≠ .done answer)
    (settled : ∀ state', ¬ Collect.MainStep clock config orders mode state state')
    (undue : ∀ worker ∈ state.threads.workers, worker.sent = none →
      script.repliesAt worker ≠ some state.threads.now) :
    state.threads.now + 1 ≤ start + script.longestWait config := by
  obtain ⟨tracked, _⟩ := reached.laws
  have onTime := reached.onTime
  obtain ⟨⟨deadline, expires, here⟩, empty, early⟩ := onTime.waits running settled
  -- The channel is connected, so a worker is silent.
  have connected : ¬ state.threads.Disconnected := fun hungUp =>
    settled _ (.disconnected here empty hungUp)
  unfold Threads.Disconnected at connected
  push Not at connected
  obtain ⟨worker, member, _, silent⟩ := connected
  have quiet : worker.sent = none := by simpa using silent
  obtain ⟨inside, wait⟩ := worker_wait reached member
  have long := @le_longestWait config script worker.id inside
  rw [wait] at long
  -- Its reply is not due yet, and neither is the deadline.
  have ahead : state.threads.now + 1 ≤ start +
      min config.timeout ((script.delay worker.id).getD config.timeout) := by
    rw [← Nat.add_min_add_left]
    apply Nat.le_min_of_le_of_le early
    cases known : script.delay worker.id with
    | none => exact early
    | some delay =>
      have waits := onTime.silent worker member quiet delay known
      have apart : state.threads.now ≠ start + delay := by
        intro now
        exact undue worker member quiet
          (by simp [Script.repliesAt, known, onTime.started worker member, now])
      exact Nat.lt_of_le_of_ne waits apart
  exact ahead.trans (Nat.add_le_add_left long start)

/-- In an undelayed run the clock never stands before the start. -/
theorem Reaches.start_le (reached : Reaches clock config orders mode script start state) :
    start ≤ state.threads.now := by
  -- No step turns the clock back.
  refine @invariant_of_run _ _ (fun state => start ≤ state.threads.now) ?_ _ _ le_rfl
    (run_of_run step_of_step reached)
  intro before after later moved
  cases moved with
  | main moved => rw [(main_messages moved).2]; exact later
  | beside moved => exact later.trans moved.now_le

/-- Before it ends, a run has taken no longer than the slowest provider. -/
theorem Reaches.now_le (reached : Reaches clock config orders mode script start state)
    (running : ∀ answer, state.phase ≠ .done answer) :
    state.threads.now ≤ start + script.longestWait config := by
  induction reached with
  | refl => exact Nat.le_add_right _ _
  | tail earlier moved ih =>
    cases moved with
    | main moved scripted =>
      -- The resolver takes no time.
      rw [(main_messages moved).2]
      exact ih (running_of_main moved)
    | reply working silent due =>
      -- A reply takes no time.
      rw [show (Threads.reply _ _ _ _ _).now = _ by
        unfold Threads.reply Threads.send; split <;> rfl]
      exact ih running
    | tick settled undue inside => exact Reaches.step_waits earlier running settled undue

/-- The resolver never waits for less than the slowest provider, unless it wins a race. -/
theorem longestWait_le_now (reached : Reaches clock config orders mode script start state)
    (started : state.phase.todo = [])
    (waited : (∀ worker ∈ state.threads.workers, worker.id ∈ state.received.map WorkerMessage.id) ∨
      state.threads.now = start + config.timeout) :
    start + script.longestWait config ≤ state.threads.now := by
  obtain ⟨tracked, _⟩ := reached.laws
  have later := reached.start_le
  -- It is enough to look at one provider at a time.
  suffices single : script.longestWait config ≤ state.threads.now - start from
    (Nat.add_le_add_left single start).trans (Nat.add_sub_cancel' later).le
  apply Finset.sup_le
  intro position inside
  apply Nat.le_sub_of_add_le'
  rcases List.mem_append.mp ((tracked.started_ids started).mem_iff.mpr
    (List.mem_range.mpr (Finset.mem_range.mp inside))) with working | failed
  · obtain ⟨worker, member, rfl⟩ := List.mem_map.mp working
    rw [(worker_wait reached member).2]
    rcases waited with heard | late
    · -- It has been heard, after its delay.
      obtain ⟨message, received, same⟩ := List.mem_map.mp (heard worker member)
      obtain ⟨known, past⟩ := reached.metered message (List.mem_append_left _ received)
      rw [same] at known
      rw [known, Option.getD_some]
      exact (Nat.add_le_add_left (Nat.min_le_right _ _) start).trans past
    · -- Time is up, and nobody is waited for any longer than that.
      rw [late]
      exact Nat.add_le_add_left (Nat.min_le_left _ _) start
  · -- A provider that cannot be started is not waited for.
    obtain ⟨entry, member, rfl⟩ := List.mem_map.mp failed
    rw [Script.wait, reached.onTime.starts.unstarted entry member]
    exact later

/-! ## What is settled -/

/-- When the resolver stops waiting, all providers are settled as their scripts foretell. -/
theorem settles_of_waited (reached : Reaches clock config orders mode script start state)
    (running : ∀ answer, state.phase ≠ .done answer)
    (waited : (∀ worker ∈ state.threads.workers, worker.id ∈ state.received.map WorkerMessage.id) ∨
      state.threads.now = start + config.timeout) :
    ∀ entry ∈ state.settled config orders, Settles config script entry := by
  obtain ⟨tracked, _⟩ := reached.laws
  have onTime := reached.onTime
  intro entry member
  rcases List.mem_append.mp member with early | pending
  · rcases List.mem_append.mp early with unstarted | received
    · -- The provider could not be started.
      obtain ⟨⟨id, error⟩, among, rfl⟩ := List.mem_map.mp unstarted
      have named := unstarted_named (run_of_run step_of_step reached) _ among
      simp only [matchingNames, List.getElem?_map, Option.map_eq_some_iff] at named
      obtain ⟨provider, located, same⟩ := named
      have failed := onTime.starts.unstarted _ among
      obtain ⟨name, text⟩ := error
      cases same
      exact .unstarted located failed
    · -- The provider has been heard, with the latency that its script foretells.
      obtain ⟨message, among, rfl⟩ := List.mem_map.mp received
      have sent : message ∈ state.received ++ state.threads.queue := List.mem_append_left _ among
      obtain ⟨worker, inside, _, same⟩ := tracked.sender sent
      obtain ⟨provider, latency, located, shape⟩ := tracked.genuine among
      obtain ⟨known, _⟩ := reached.metered message sent
      obtain ⟨_, delay, timed, early⟩ := onTime.received message among
      have starts := same ▸ onTime.starts.workers worker inside
      have measured : latency = delay := by
        rw [shape] at known timed
        exact Option.some.inj (known.symm.trans timed)
      have settled := Settles.heard located starts timed early
      rw [← measured, ← shape] at settled
      exact settled
  · -- Who is still pending at the end has not been heard by the deadline.
    obtain ⟨⟨id, name⟩, among, rfl⟩ := List.mem_map.mp pending
    rw [orders.pending.mem_visit, tracked.pending] at among
    obtain ⟨worker, awaits, same⟩ := List.mem_map.mp among
    cases same
    obtain ⟨inside, unheard⟩ := List.mem_filter.mp awaits
    have unheard : worker.id ∉ state.received.map WorkerMessage.id := by simpa using unheard
    refine .late (tracked.sound.located worker inside) (onTime.starts.workers worker inside) ?_
    -- It is still silent, so it is the deadline that has ended the wait.
    rcases waited with heard | late
    · exact absurd (heard worker inside) unheard
    · exact (onTime.allHeard tracked running late worker inside).resolve_left unheard

/-! ## How runs end -/

/-- A run comes to its end at some instant, with an answer. -/
def EndsAt (clock : Clock) (config : Config) (orders : Orders) (mode : Mode) (script : Script)
    (start now : Instant) (answer : Except Error ProviderResult) : Prop :=
  ∃ state state', Reaches clock config orders mode script start state ∧
    Collect.MainStep clock config orders mode state state' ∧ state'.phase = .done answer ∧
    state.threads.now = now

/-- Every script has an undelayed run that comes to its end. -/
theorem exists_endsAt (clock : Clock) (config : Config) (orders : Orders) (mode : Mode)
    (script : Script) (start : Instant) :
    ∃ now answer, EndsAt clock config orders mode script start now answer := by
  obtain ⟨state, answer, run, ended⟩ := exists_end clock config orders mode script start
  -- The run crosses from a state without an answer to one with an answer.
  obtain ⟨last, next, reached, running, moved, answer, arrived⟩ :=
    @run_crosses _ _ (fun state => ∃ answer, state.phase = .done answer) _ _
      (by intro ⟨_, never⟩; cases never) ⟨answer, ended⟩ run
  cases moved with
  | main moved scripted => exact ⟨_, answer, last, next, reached, moved, arrived, rfl⟩
  | reply working silent due => exact absurd ⟨answer, arrived⟩ running
  | tick settled undue inside => exact absurd ⟨answer, arrived⟩ running

/-- A step to an answer is a race that is won now, or comes when nobody is waited for. -/
theorem end_cases (fits : start + config.timeout ≤ clock.maxInstant)
    (reached : Reaches clock config orders mode script start state)
    (moved : Collect.MainStep clock config orders mode state state')
    {answer : Except Error ProviderResult} (ended : state'.phase = .done answer) :
    state.phase.todo = [] ∧
      ((∃ message ∈ state.threads.queue, ∃ result, mode = .race ∧ answer = .ok result ∧
          message.outcome config.version = .ok result) ∨
        (state' = state.stop mode orders ∧
          ((∀ worker ∈ state.threads.workers,
              worker.id ∈ state.received.map WorkerMessage.id) ∨
            state.threads.now = start + config.timeout))) := by
  obtain ⟨tracked, _⟩ := reached.laws
  have placed := reached.onTime.phase
  cases moved with
  | drained here none_pending =>
    -- Nobody is pending any more.
    exact ⟨by rw [here]; rfl, .inr ⟨rfl, .inl (tracked.heard_of_drained none_pending)⟩⟩
  | expired here some_pending late =>
    -- No time is left at the head of the loop.
    rw [here] at placed
    have left := remaining_of_onTime placed
    rw [if_pos fits, late] at left
    exact ⟨by rw [here]; rfl, .inr ⟨rfl, .inr left.2⟩⟩
  | timedOut here empty late =>
    -- The wait for a message has expired.
    rw [here] at placed
    obtain ⟨_, _, expires, early⟩ := placed
    cases expires
    exact ⟨by rw [here]; rfl, .inr ⟨rfl, .inr (Nat.le_antisymm early late)⟩⟩
  | disconnected here empty hungUp =>
    -- All workers are gone, and each has sent its message before.
    exact ⟨by rw [here]; rfl, .inr ⟨rfl, .inl (tracked.heard_of_sent empty
      fun worker member => hungUp worker member (tracked.open_tx worker member))⟩⟩
  | @receive deadline expires message rest here head =>
    -- A message ends a race where it validates, and nothing else.
    refine ⟨by rw [here]; rfl, .inl ⟨message, by simp [head], ?_⟩⟩
    cases outcome : message.outcome config.version with
    | error error =>
      rw [Collect.receive_failure _ _ _ _ outcome] at ended
      cases ended
    | ok result =>
      cases mode with
      | race =>
        rw [Collect.receive_race _ _ _ _ outcome] at ended
        cases ended
        exact ⟨result, rfl, rfl, rfl⟩
      | consensus minAgree =>
        rw [Collect.receive_consensus _ _ _ _ outcome] at ended
        cases ended
  | spawn | spawnFailed | enter | check | block => cases ended

/-- All providers of a run are settled, each by its script. -/
def SettledBy (config : Config) (script : Script) (settled : List (Nat × Outcome)) : Prop :=
  (settled.map Prod.fst).Perm (List.range (matchingProviders config).length) ∧
    ∀ entry ∈ settled, Settles config script entry

/-- A run that stops waiting has taken as long as its slowest provider, and settled everybody. -/
theorem finish_settled (reached : Reaches clock config orders mode script start state)
    (running : ∀ answer, state.phase ≠ .done answer) (started : state.phase.todo = [])
    (waited : (∀ worker ∈ state.threads.workers,
        worker.id ∈ state.received.map WorkerMessage.id) ∨
      state.threads.now = start + config.timeout) :
    state.threads.now = start + script.longestWait config ∧
      SettledBy config script (state.settled config orders) :=
  ⟨Nat.le_antisymm (reached.now_le running) (longestWait_le_now reached started waited),
    reached.laws.1.settled_ids started orders, settles_of_waited reached running waited⟩

/-! ## Races -/

/-- While a race goes on, no contender is overdue. -/
theorem due_of_contends (reached : Reaches clock config orders .race script start state)
    (running : ∀ answer, state.phase ≠ .done answer) (started : state.phase.todo = [])
    {position : Nat} {result : ProviderResult}
    (contends : Contends config script position result) :
    state.threads.now ≤ start + result.latency := by
  obtain ⟨tracked, recorded⟩ := reached.laws
  have onTime := reached.onTime
  rcases List.mem_append.mp ((tracked.started_ids started).mem_iff.mpr
    (List.mem_range.mpr contends.inside)) with working | failed
  · obtain ⟨worker, member, rfl⟩ := List.mem_map.mp working
    -- What its worker has sent has not been heard.
    cases reported : worker.sent with
    | none => exact onTime.silent worker member reported _ contends.timed
    | some message =>
      obtain ⟨same, sent⟩ := tracked.message member reported
      rcases List.mem_append.mp sent with received | queued
      · -- A received success would have ended the race.
        obtain ⟨winner, validated, _⟩ :=
          (tracked.genuine received).validates (same ▸ contends.returned) contends.family
        have success : winner ∈ successes (state.outcomesReceived config) :=
          mem_successes.mpr (List.mem_map.mpr ⟨message, received, validated⟩)
        simp [recorded.unsuccessful running rfl] at success
      · -- A message in the channel has been sent just now.
        obtain ⟨delay, known, now⟩ := onTime.queued running message queued
        rw [same, contends.timed] at known
        cases known
        exact now.ge
  · -- A contender can be started.
    obtain ⟨entry, member, rfl⟩ := List.mem_map.mp failed
    have unstarted := onTime.starts.unstarted entry member
    simp [contends.starts] at unstarted

/-- How a race may end, and when. -/
def Verdict (config : Config) (script : Script) (start now : Instant) :
    Except Error ProviderResult → Prop
  -- The answer is given at the moment at which the fastest contender replies.
  | .ok result => now = start + result.latency ∧ result.latency ≤ config.timeout ∧
      (∃ position, Contends config script position result) ∧
      ∀ position other, Contends config script position other → result.latency ≤ other.latency
  -- A failure is reported when all have been waited for, and no contender was in time.
  | .error error => now = start + script.longestWait config ∧
      (∃ settled errors, SettledBy config script settled ∧
        settled.map Prod.snd = errors.map .error ∧ error = .allProvidersFailed errors) ∧
      ∀ position other, Contends config script position other → config.timeout ≤ other.latency

/-- A race that stops waiting has lost. -/
theorem verdict_of_finish (fits : start + config.timeout ≤ clock.maxInstant)
    (reached : Reaches clock config orders .race script start state)
    (running : ∀ answer, state.phase ≠ .done answer) (started : state.phase.todo = [])
    (waited : (∀ worker ∈ state.threads.workers,
        worker.id ∈ state.received.map WorkerMessage.id) ∨
      state.threads.now = start + config.timeout)
    (after : Reaches clock config orders .race script start (state.stop .race orders)) :
    Verdict config script start state.threads.now (state.finish .race orders) := by
  obtain ⟨now, settled⟩ := @finish_settled _ _ orders _ _ _ _ reached running started waited
  obtain ⟨_, recorded⟩ := reached.laws
  refine ⟨now, ⟨_, state.finalErrors orders, settled, ?_, rfl⟩, ?_⟩
  · -- Without a success, all that was settled are errors.
    rw [← recorded.failures_outcomes, ← Collect.outcomes]
    apply eq_map_failures
    rw [Collect.successes_outcomes, recorded.unsuccessful running rfl]
  · intro position other contends
    by_contra early
    -- A contender that is early enough makes every run succeed.
    obtain ⟨result, won⟩ :=
      answers_of_winning fits (contends.winning (Nat.lt_of_not_le early)) after rfl
    cases won

/-- The winner of a race replies now, and is not slower than any other contender. -/
theorem verdict_of_message (reached : Reaches clock config orders .race script start state)
    (running : ∀ answer, state.phase ≠ .done answer) (started : state.phase.todo = [])
    {message : WorkerMessage} (queued : message ∈ state.threads.queue) {result : ProviderResult}
    (validated : message.outcome config.version = .ok result) :
    Verdict config script start state.threads.now (.ok result) := by
  have sent : message ∈ state.received ++ state.threads.queue := List.mem_append_right _ queued
  have contends := contends_of_message reached sent validated
  -- It has been sent after its delay, which is over just now.
  obtain ⟨delay, known, now⟩ := reached.onTime.queued running message queued
  rw [contends.timed] at known
  cases known
  have early := (now.trans_le (reached.now_le running)).trans
    (Nat.add_le_add_left longestWait_le start)
  refine ⟨now.symm, Nat.le_of_add_le_add_left early, ⟨message.id, contends⟩, ?_⟩
  intro position other rival
  exact Nat.le_of_add_le_add_left
    (now.trans_le (due_of_contends reached running started rival))

end Runs

/-- Every end of a race is one of the two that are foretold. -/
theorem race_verdict {clock : Clock} {config : Config} {orders : Orders} {script : Script}
    {start : Instant} (fits : start + config.timeout ≤ clock.maxInstant) {now : Instant}
    {answer : Except Error ProviderResult}
    (ends : EndsAt clock config orders .race script start now answer) :
    Verdict config script start now answer := by
  obtain ⟨state, state', reached, moved, ended, same⟩ := ends
  subst same
  have running := running_of_main moved
  obtain ⟨started, won | ⟨stopped, waited⟩⟩ := end_cases fits reached moved ended
  · -- A message has won it.
    obtain ⟨message, queued, result, _, answered, validated⟩ := won
    exact answered ▸ verdict_of_message reached running started queued validated
  · -- Nobody is waited for any longer.
    subst stopped
    cases ended
    have starts := reached.onTime.starts
    exact verdict_of_finish fits reached running started waited
      (reached.tail (.main moved ⟨starts.workers, starts.unstarted⟩))

/-! ## The two strategies -/

section Strategies

variable (clock : Clock) (config : Config) (orders : Orders) (script : Script) (start : Instant)

/--
The fastest provider wins an undelayed race.

The answer is that of a provider as fast as any other that would have succeeded, and comes at the
moment of its reply. A race that fails has waited for everybody, and nobody was in time.
-/
theorem race_won_by_fastest (fits : start + config.timeout ≤ clock.maxInstant) :
    (∃ now answer, EndsAt clock config orders .race script start now answer) ∧
      ∀ now answer, EndsAt clock config orders .race script start now answer →
        Verdict config script start now answer :=
  ⟨exists_endsAt clock config orders .race script start, fun _ _ => race_verdict fits⟩

/-- The provider that replies after three nanoseconds wins. -/
theorem race_won_by_fastest_paced : ∃ now answer,
    EndsAt ⟨100⟩ paceConfig ⟨.inserted, .inserted⟩ .race paceScript 0 now answer ∧
      now = 3 ∧ answer = .ok ⟨ipv4 203 0 113 7, "B", .http, 3⟩ := by
  obtain ⟨⟨now, answer, ends⟩, verdicts⟩ :=
    race_won_by_fastest ⟨100⟩ paceConfig ⟨.inserted, .inserted⟩ paceScript 0 (by decide)
  have second : Contends paceConfig paceScript 1 ⟨ipv4 203 0 113 7, "B", .http, 3⟩ :=
    ⟨rfl, ⟨_, rfl, rfl, rfl⟩, rfl, rfl, rfl⟩
  have verdict := verdicts now answer ends
  -- The second provider contends, so the race is won, and by nobody slower.
  cases answer with
  | error error => exact absurd (verdict.2.2 1 _ second) (by decide)
  | ok result =>
    obtain ⟨same, _, ⟨position, contends⟩, fastest⟩ := verdict
    obtain ⟨ip, name, protocol, latency⟩ := result
    have early := fastest 1 _ second
    obtain ⟨_, ⟨provider, located, named, spoken⟩, returned, _, timed⟩ := contends
    match position with
    | 0 => cases returned
    | 1 =>
      cases located
      cases returned
      cases timed
      cases named
      cases spoken
      exact ⟨now, _, ends, same, rfl⟩
    | 2 =>
      cases timed
      exact absurd early (show ¬ (5 : Nat) ≤ 3 by omega)
    | position + 3 => cases located

/-- A consensus selects over what the scripts foretell, when all have been waited for. -/
theorem consensus_settled {clock : Clock} {config : Config} {orders : Orders} {script : Script}
    {start : Instant} (fits : start + config.timeout ≤ clock.maxInstant) {minAgree : Nat}
    {now : Instant} {answer : Except Error ProviderResult}
    (ends : EndsAt clock config orders (.consensus minAgree) script start now answer) :
    now = start + script.longestWait config ∧ ∃ settled, SettledBy config script settled ∧
      answer = consensusOf orders.ipResults minAgree (settled.map Prod.snd) := by
  obtain ⟨state, state', reached, moved, ended, same⟩ := ends
  subst same
  obtain ⟨_, recorded⟩ := reached.laws
  have running := running_of_main moved
  obtain ⟨started, won | ⟨stopped, waited⟩⟩ := end_cases fits reached moved ended
  · -- No single message ends a consensus.
    obtain ⟨_, _, _, racing, _⟩ := won
    cases racing
  · obtain ⟨now, settled⟩ := @finish_settled _ _ orders _ _ _ _ reached running started waited
    subst stopped
    exact ⟨now, state.settled config orders, settled,
      (recorded.stop running).consensus_answer ended⟩

/--
An undelayed consensus waits for its slowest provider, and counts all who were in time.

It takes exactly as long as the slowest provider that could be started, or the timeout. The answer
is the plurality of what the scripts foretell.
-/
theorem consensus_waits_for_slowest (fits : start + config.timeout ≤ clock.maxInstant)
    {minAgree : Nat} (positive : 1 ≤ minAgree) :
    (∃ now answer, EndsAt clock config orders (.consensus minAgree) script start now answer) ∧
      ∀ now answer, EndsAt clock config orders (.consensus minAgree) script start now answer →
        now = start + script.longestWait config ∧
          ∃ settled, SettledBy config script settled ∧
            Plurality minAgree (settled.map Prod.snd) answer := by
  refine ⟨exists_endsAt clock config orders (.consensus minAgree) script start, ?_⟩
  intro now answer ends
  obtain ⟨waited, settled, foretold, rfl⟩ := consensus_settled fits ends
  exact ⟨waited, settled, foretold, consensusOf_plurality orders.ipResults minAgree _ positive⟩

/-- A consensus of two waits for the provider that replies after five nanoseconds. -/
theorem consensus_waits_for_slowest_paced : ∃ now answer,
    EndsAt ⟨100⟩ paceConfig ⟨.inserted, .inserted⟩ (.consensus 2) paceScript 0 now answer ∧
      now = 5 := by
  obtain ⟨⟨now, answer, ends⟩, settled⟩ := consensus_waits_for_slowest ⟨100⟩ paceConfig
    ⟨.inserted, .inserted⟩ paceScript 0 (by decide) (show 1 ≤ 2 by decide)
  exact ⟨now, answer, ends, (settled now answer ends).1⟩

end Strategies

end Undelayed

end IpDiscovery.Blocking
