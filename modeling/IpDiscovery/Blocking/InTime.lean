import IpDiscovery.Blocking.Accounting

/-! Replies that arrive before the deadline, and the one way in which they are lost. -/

namespace IpDiscovery.Blocking

open Relation

/-- A run with its times: when the loop was entered, and when each message arrived. -/
structure Timed where
  state : Collect
  entered : Option Instant
  arrivals : List (Nat × Instant)

namespace Timed

/-- The resolver before its first worker. -/
def init (config : Config) (now : Instant) : Timed := ⟨.init config now, none, []⟩

/-- The run after a step of the resolver, which enters the loop when all workers are started. -/
def main (timed : Timed) (state : Collect) : Timed where
  state
  entered :=
    match timed.state.phase with
    | .spawning [] => some timed.state.threads.now
    | _ => timed.entered
  arrivals := timed.arrivals

/-- The run after a worker has put its message into the channel. -/
def arrive (timed : Timed) (threads : Threads) (id : Nat) : Timed where
  state := { timed.state with threads }
  entered := timed.entered
  arrivals := timed.arrivals ++ [(id, timed.state.threads.now)]

/-- The run after something beside the resolver that it will not see. -/
def beside (timed : Timed) (threads : Threads) : Timed :=
  { timed with state := { timed.state with threads } }

section Steps

variable (clock : Clock) (config : Config) (orders : Orders) (mode : Mode) (calls : Calls)

/-- The steps of a run, with their times. -/
inductive Step : Timed → Timed → Prop where
  | main {timed : Timed} {state : Collect}
      (moved : Collect.MainStep clock config orders mode timed.state state) :
      Step timed (timed.main state)
  | tick {timed : Timed} {instant : Instant} (forward : timed.state.threads.now ≤ instant)
      (inside : instant ≤ clock.maxInstant) :
      Step timed (timed.beside { timed.state.threads with now := instant })
  | arrive {timed : Timed} {before after : List Worker} {worker : Worker}
      (listening : ∀ answer, timed.state.phase ≠ .done answer)
      (running : timed.state.threads.workers = before ++ worker :: after)
      (silent : worker.sent = none) (latency : Duration) :
      Step timed (timed.arrive
        (timed.state.threads.reply before worker after (worker.message calls latency)) worker.id)
  -- After the answer the receiver is gone, and nothing arrives.
  | late {timed : Timed} {threads : Threads} {answer : Except Error ProviderResult}
      (ended : timed.state.phase = .done answer)
      (moved : Threads.Step clock calls timed.state.threads threads) :
      Step timed (timed.beside threads)

/-- The message with this id was put into the channel strictly before the deadline. -/
def InTime (timed : Timed) (id : Nat) : Prop :=
  ∃ entered arrived, timed.entered = some entered ∧ (id, arrived) ∈ timed.arrivals ∧
    arrived < entered + config.timeout

/--
Where the resolver looks at the clock and finds no time left, the channel is empty but for
messages that have come too late.
-/
def Attentive (timed : Timed) : Prop :=
  ∀ deadline, timed.state.phase = .looping deadline → timed.state.pending.isEmpty = false →
    Collect.remaining deadline timed.state.threads.now = 0 →
      ∀ message ∈ timed.state.threads.queue, ¬ timed.InTime config message.id

/-- A state that a run may be in. -/
def Reaches (timed : Timed) : Prop :=
  ∃ now, ReflTransGen (Step clock config orders mode calls) (init config now) timed

/-- A state that a run may be in when the resolver was attentive at all of its steps. -/
def ReachesAttentive (timed : Timed) : Prop :=
  ∃ now, ReflTransGen
    (fun before after => Step clock config orders mode calls before after ∧
      before.Attentive config) (init config now) timed

/-- The reply of one provider was received, and took part in the answer. -/
structure TookPart (state : Collect) (answer : Except Error ProviderResult) (id : Nat) :
    Prop where
  punctual : id ∉ state.pending.entries.map Prod.fst
  decided : answer = state.finish mode orders
  counted : ∃ message ∈ state.received, message.id = id ∧
    (∀ error, message.outcome config.version = .error error → error ∈ state.errors) ∧
    ∀ result, message.outcome config.version = .ok result →
      match mode with
      | .race => ∃ winner, answer = .ok winner
      | .consensus _ => result ∈ (state.ipResults.get? result.ip).getD []

/-- No reply that arrived in time is lost, unless a race was won before. -/
def NothingLost (timed : Timed) : Prop :=
  ∀ answer, timed.state.phase = .done answer →
    (mode = .race → ∀ winner, answer ≠ .ok winner) →
      ∀ id, timed.InTime config id → TookPart config orders mode timed.state answer id

end Steps

section Laws

variable {clock : Clock} {config : Config} {orders : Orders} {mode : Mode} {calls : Calls}
  {timed timed' : Timed}

/-! ## Runs with and without times -/

/-- A step without its times is a step of the resolver. -/
theorem step_erases (moved : Step clock config orders mode calls timed timed') :
    Collect.Step clock config orders mode calls timed.state timed'.state := by
  cases moved with
  | main moved => exact .main moved
  | tick forward inside => exact .beside (.tick forward inside)
  | arrive listening running silent latency => exact .beside (.finish running silent latency)
  | late ended moved => exact .beside moved

/-- A run without its times is a run of the resolver. -/
theorem run_erases {start : Timed}
    (run : ReflTransGen (Step clock config orders mode calls) start timed) :
    ReflTransGen (Collect.Step clock config orders mode calls) start.state timed.state :=
  run.lift state fun _ _ => step_erases

/-- Every run of the resolver has its times. -/
theorem run_lifts {now : Instant} {state : Collect}
    (run : ReflTransGen (Collect.Step clock config orders mode calls) (.init config now) state) :
    ∃ timed : Timed, timed.state = state ∧
      ReflTransGen (Step clock config orders mode calls) (init config now) timed := by
  induction run with
  | refl => exact ⟨init config now, rfl, .refl⟩
  | tail _ moved ih =>
    obtain ⟨timed, same, run⟩ := ih
    subst same
    cases moved with
    | main moved => exact ⟨_, rfl, run.tail (.main moved)⟩
    | beside moved =>
      -- What arrives depends on whether the resolver still listens.
      by_cases ended : ∃ answer, timed.state.phase = .done answer
      · obtain ⟨answer, ended⟩ := ended
        exact ⟨_, rfl, run.tail (.late ended moved)⟩
      · have listening := not_exists.mp ended
        cases moved with
        | tick forward inside => exact ⟨_, rfl, run.tail (.tick forward inside)⟩
        | finish running silent latency =>
          exact ⟨_, rfl, run.tail (.arrive listening running silent latency)⟩

/-! ## What becomes of a message -/

/-- Whoever arrived is in the channel, and when the resolver stops, whoever was in time is heard. -/
structure Kept (config : Config) (mode : Mode) (timed : Timed) : Prop where
  channel : ∀ entry ∈ timed.arrivals, entry.1 ∈ timed.state.channel.map WorkerMessage.id
  heard : ∀ answer, timed.state.phase = .done answer →
    (mode = .race → ∀ winner, answer ≠ .ok winner) →
      ∀ id, timed.InTime config id → id ∈ timed.state.received.map WorkerMessage.id

/-- At the start, nothing has arrived and nothing is answered. -/
theorem init_kept (now : Instant) : (init config now).Kept config mode where
  channel := fun _ member => absurd member List.not_mem_nil
  heard := by
    intro answer ended
    cases ended

/-- What was in the channel before a step is there after it. -/
theorem channel_kept {before after : Collect}
    (moved : Collect.Step clock config orders mode calls before after) {id : Nat}
    (member : id ∈ before.channel.map WorkerMessage.id) :
    id ∈ after.channel.map WorkerMessage.id :=
  ((Collect.channel_step moved).map WorkerMessage.id).subset member

/-- A step that does not stop the resolver keeps what has arrived in the channel. -/
theorem Kept.goOn (kept : timed.Kept config mode) {state : Collect}
    (moved : Collect.Step clock config orders mode calls timed.state state)
    (running : ∀ answer, state.phase = .done answer →
      mode = .race ∧ ∃ winner, answer = .ok winner) :
    (timed.main state).Kept config mode where
  channel := fun entry member => channel_kept moved (kept.channel entry member)
  heard := by
    intro answer ended unwon
    obtain ⟨racing, winner, won⟩ := running answer ended
    exact absurd won (unwon racing winner)

/-- A resolver that stops has heard whoever was in time, if nobody in the channel was. -/
theorem Kept.stop (kept : timed.Kept config mode)
    (inLoop : ∀ todo, timed.state.phase ≠ .spawning todo)
    (passed : ∀ message ∈ timed.state.threads.queue, timed.InTime config message.id →
      message.id ∈ timed.state.received.map WorkerMessage.id) :
    (timed.main (timed.state.stop mode orders)).Kept config mode where
  channel := kept.channel
  heard := by
    intro answer _ _ id inTime
    -- The loop was entered before, and nobody has arrived since.
    have entered : (timed.main (timed.state.stop mode orders)).entered = timed.entered := by
      unfold Timed.main
      split
      · rename_i here
        exact absurd here (inLoop [])
      · rfl
    unfold InTime at inTime
    rw [entered] at inTime
    have before : timed.InTime config id := inTime
    obtain ⟨_, arrived, _, member, _⟩ := inTime
    have sent := kept.channel _ member
    rw [Collect.channel, List.map_append, List.mem_append] at sent
    rcases sent with received | queued
    · exact received
    · obtain ⟨message, inside, same⟩ := List.mem_map.mp queued
      dsimp only at same
      subst same
      exact passed message inside before

/-- Every step of an attentive resolver keeps those who were in time. -/
theorem Kept.main (kept : timed.Kept config mode) (tracked : timed.state.Tracked config calls)
    (attentive : timed.Attentive config) {state : Collect}
    (moved : Collect.MainStep clock config orders mode timed.state state) :
    (timed.main state).Kept config mode := by
  have step : Collect.Step clock config orders mode calls timed.state state := .main moved
  cases moved with
  | spawn here => exact kept.goOn step (by simp)
  | spawnFailed here text => exact kept.goOn step (by simp)
  | enter here => exact kept.goOn step (by simp)
  | check here some_pending early => exact kept.goOn step (by simp)
  | block here => exact kept.goOn step (by simp)
  | receive here head =>
    apply kept.goOn step
    intro answer ended
    rcases Collect.receive_phase _ _ _ _ with looping | ⟨racing, winner, won⟩
    · rw [looping] at ended
      cases ended
    · rw [won] at ended
      cases ended
      exact ⟨racing, winner, rfl⟩
  -- Nobody is pending, so nobody is unheard.
  | drained here none_pending =>
    apply kept.stop (by simp [here])
    intro message queued _
    obtain ⟨worker, started, _, same⟩ := tracked.sender (List.mem_append_right _ queued)
    exact same ▸ tracked.heard_of_drained none_pending worker started
  -- No time is left, and this is where the resolver has to be attentive.
  | expired here some_pending late =>
    apply kept.stop (by simp [here])
    intro message queued inTime
    exact absurd inTime (attentive _ here some_pending late message queued)
  -- The receiver gives up on an empty channel only.
  | timedOut here empty late =>
    apply kept.stop (by simp [here])
    intro message queued
    rw [empty] at queued
    exact absurd queued List.not_mem_nil
  | disconnected here empty hungUp =>
    apply kept.stop (by simp [here])
    intro message queued
    rw [empty] at queued
    exact absurd queued List.not_mem_nil

/-- A message that arrives stands at the end of the channel. -/
theorem Kept.arrive (kept : timed.Kept config mode) (tracked : timed.state.Tracked config calls)
    (listening : ∀ answer, timed.state.phase ≠ .done answer) {before after : List Worker}
    {worker : Worker} (running : timed.state.threads.workers = before ++ worker :: after)
    (silent : worker.sent = none) (latency : Duration) :
    (timed.arrive (timed.state.threads.reply before worker after
      (worker.message calls latency)) worker.id).Kept config mode where
  channel := by
    intro entry member
    rcases List.mem_append.mp member with earlier | new
    · have moved : Threads.Step ⟨0⟩ calls timed.state.threads _ := .finish running silent latency
      have step : Collect.Step ⟨0⟩ config ⟨.inserted, .inserted⟩ mode calls timed.state _ :=
        .beside moved
      exact channel_kept step (kept.channel entry earlier)
    · -- The worker holds the sender of the channel that is read.
      rw [List.mem_singleton.mp new]
      have opened := tracked.open_tx worker (by simp [running])
      simp only [Timed.arrive, Threads.reply, Threads.send, if_pos opened, Collect.channel,
        List.map_append, List.mem_append]
      exact Or.inr (Or.inr List.mem_cons_self)
  heard := fun answer ended => absurd ended (listening answer)

/-- Every step of a run with an attentive resolver keeps those who were in time. -/
theorem Kept.step (kept : timed.Kept config mode) (tracked : timed.state.Tracked config calls)
    (attentive : timed.Attentive config)
    (moved : Step clock config orders mode calls timed timed') : timed'.Kept config mode := by
  have step := step_erases moved
  -- Only the steps of the resolver need it to be attentive.
  cases moved with
  | main moved => exact kept.main tracked attentive moved
  | tick forward inside => exact ⟨kept.channel, kept.heard⟩
  | arrive listening running silent latency =>
    exact kept.arrive tracked listening running silent latency
  | late ended moved =>
    exact ⟨fun entry member => channel_kept step (kept.channel entry member), kept.heard⟩

/-- All along an attentive run, whoever arrives in time is heard. -/
theorem kept_of_run {now : Instant}
    (run : ReflTransGen (fun before after => Step clock config orders mode calls before after ∧
      before.Attentive config) (init config now) timed) :
    timed.Kept config mode ∧
      ReflTransGen (Step clock config orders mode calls) (init config now) timed := by
  induction run with
  | refl => exact ⟨init_kept now, .refl⟩
  | tail _ moved ih =>
    obtain ⟨kept, before⟩ := ih
    have tracked := (Collect.laws_of_run (run_erases before)).1
    exact ⟨kept.step tracked moved.2 moved.1, before.tail moved.1⟩

/-- A message that was heard took part in the answer. -/
theorem tookPart_of_heard {now : Instant} {state : Collect}
    (run : ReflTransGen (Collect.Step clock config orders mode calls) (.init config now) state)
    {answer : Except Error ProviderResult} (ended : state.phase = .done answer)
    (unwon : mode = .race → ∀ winner, answer ≠ .ok winner) {id : Nat}
    (heard : id ∈ state.received.map WorkerMessage.id) :
    TookPart config orders mode state answer id := by
  obtain ⟨tracked, recorded⟩ := Collect.laws_of_run run
  obtain ⟨message, member, same⟩ := List.mem_map.mp heard
  have outcome : message.outcome config.version ∈ state.outcomesReceived config :=
    List.mem_map.mpr ⟨message, member, rfl⟩
  refine ⟨fun waiting => (tracked.mem_pending.mp waiting).2 heard, ?_,
    message, member, same, ?_, ?_⟩
  · -- Only a race that is won answers otherwise.
    rcases recorded.answer answer ended with decided | ⟨racing, winner, won, _⟩
    · exact decided
    · exact absurd won (unwon racing winner)
  · intro error failed
    rw [failed] at outcome
    rw [recorded.errors]
    exact List.mem_append_right _ (List.mem_filterMap.mpr ⟨_, outcome, rfl⟩)
  · intro result succeeded
    rw [succeeded] at outcome
    cases mode with
    | race =>
      -- A success would have been the answer.
      rcases recorded.race rfl with none_succeeded | ⟨winner, won, _⟩
      · rw [← mem_successes, none_succeeded] at outcome
        exact absurd outcome List.not_mem_nil
      · rw [ended] at won
        exact ⟨winner, Collect.Phase.done.inj won⟩
    | consensus minAgree =>
      -- The success is in the group of its address.
      have voted : result ∈ votesFor ProviderResult.ip
          (successes (state.outcomesReceived config)) result.ip :=
        List.mem_filter.mpr ⟨mem_successes.mpr outcome, by simp⟩
      dsimp only
      rw [recorded.consensus minAgree rfl, get?_groupVotes, if_neg (List.ne_nil_of_mem voted)]
      exact voted

/-- A message in the channel is awaited. -/
theorem pending_of_queued {state : Collect} (tracked : state.Tracked config calls)
    {message : WorkerMessage} (queued : message ∈ state.threads.queue) :
    message.id ∈ state.pending.entries.map Prod.fst := by
  obtain ⟨worker, started, _, same⟩ := tracked.sender (List.mem_append_right _ queued)
  refine tracked.mem_pending.mpr ⟨List.mem_map.mpr ⟨worker, started, same.symm⟩, ?_⟩
  -- No id is twice in the channel.
  have distinct := tracked.channel_nodup
  rw [List.map_append] at distinct
  intro heard
  exact (List.nodup_append.mp distinct).2.2 _ heard _
    (List.mem_map.mpr ⟨message, queued, rfl⟩) rfl

/-- Where the resolver is not attentive, a message that was in time is reported as timed out. -/
theorem lost_of_inattentive {now : Instant}
    (run : ReflTransGen (Step clock config orders mode calls) (init config now) timed)
    (inattentive : ¬ timed.Attentive config) {state : Collect}
    (moved : Collect.MainStep clock config orders mode timed.state state) :
    ¬ (timed.main state).NothingLost config orders mode := by
  unfold Attentive at inattentive
  push Not at inattentive
  obtain ⟨deadline, here, some_pending, late, message, queued, inTime⟩ := inattentive
  have tracked := (Collect.laws_of_run (run_erases run)).1
  have waiting := pending_of_queued tracked queued
  -- Nothing but the end of the loop follows.
  have stopped : state = timed.state.stop mode orders := by
    cases moved with
    | expired => rfl
    | drained _ none_pending => simp [some_pending] at none_pending
    | check here' _ early =>
      rw [here] at here'
      cases here'
      exact absurd late early
    | spawn here' | spawnFailed here' | enter here' | block here' | receive here'
    | timedOut here' | disconnected here' => simp [here] at here'
  subst stopped
  intro nothingLost
  have entered : (timed.main (timed.state.stop mode orders)).InTime config message.id := by
    unfold InTime Timed.main
    rw [here]
    exact inTime
  refine absurd waiting (nothingLost _ rfl ?_ message.id entered).punctual
  intro racing winner
  rw [racing]
  simp [Collect.finish]

end Laws

end Timed

/--
No reply that arrived in time is lost while the resolver is attentive.

Where it finds no time left although a message in the channel has arrived in time, it stops, and
that message is lost.
-/
theorem nothing_lost_while_attentive (clock : Clock) (config : Config) (orders : Orders)
    (mode : Mode) (calls : Calls) :
    (∀ timed, Timed.ReachesAttentive clock config orders mode calls timed →
      timed.NothingLost config orders mode) ∧
    ∀ timed state, Timed.Reaches clock config orders mode calls timed →
      ¬ timed.Attentive config →
      Collect.MainStep clock config orders mode timed.state state →
      ¬ (timed.main state).NothingLost config orders mode := by
  -- In one direction the invariant holds, and in the other the step itself loses somebody.
  constructor
  · intro timed reached answer ended unwon id inTime
    obtain ⟨now, run⟩ := reached
    obtain ⟨kept, plain⟩ := Timed.kept_of_run run
    exact Timed.tookPart_of_heard (Timed.run_erases plain) ended unwon
      (kept.heard answer ended unwon id inTime)
  · intro timed state reached inattentive moved
    obtain ⟨now, run⟩ := reached
    exact Timed.lost_of_inattentive run inattentive moved

/-- Before its first nanosecond is over, the resolver finds time left. -/
theorem attentive_early {timed : Timed} (early : timed.state.threads.now = 0)
    (entered : ∀ deadline, timed.state.phase = .looping deadline → deadline = some 1) :
    timed.Attentive pairConfig := by
  intro deadline here _ late
  rw [entered deadline here, early] at late
  cases late

/-- Both providers are heard in time by an attentive resolver, and the second one has a vote. -/
theorem nothing_lost_while_attentive_pair : ∃ (timed : Timed) (answer : _),
    Timed.ReachesAttentive ⟨1⟩ pairConfig ⟨.inserted, .inserted⟩ (.consensus 2) pairCalls timed ∧
    timed.state.phase = .done answer ∧ timed.InTime pairConfig 1 ∧
      Timed.TookPart pairConfig ⟨.inserted, .inserted⟩ (.consensus 2) timed.state answer 1 := by
  obtain ⟨timed, reached, answer, ended, inTime⟩ : ∃ timed,
      Timed.ReachesAttentive ⟨1⟩ pairConfig ⟨.inserted, .inserted⟩ (.consensus 2) pairCalls timed ∧
        ∃ answer, timed.state.phase = .done answer ∧ timed.InTime pairConfig 1 := ⟨_, ⟨0,
    .head ⟨.main (.spawn rfl), attentive_early rfl (by intro _ here; cases here)⟩ <|
    .head ⟨.main (.spawn rfl), attentive_early rfl (by intro _ here; cases here)⟩ <|
    .head ⟨.main (.enter rfl), attentive_early rfl (by intro _ here; cases here)⟩ <|
    -- Both workers answer while the loop stands at its head.
    .head ⟨.arrive (by simp [Timed.main]) (show _ = [] ++ _ :: [_] from rfl) rfl 0,
      attentive_early rfl (by intro _ here; cases here; rfl)⟩ <|
    .head ⟨.arrive (by simp [Timed.main, Timed.arrive]) (show _ = [_] ++ _ :: [] from rfl) rfl 0,
      attentive_early rfl (by intro _ here; cases here; rfl)⟩ <|
    .head ⟨.main (.check rfl rfl (by decide)),
      attentive_early rfl (by intro _ here; cases here; rfl)⟩ <|
    .head ⟨.main (.block rfl), attentive_early rfl (by intro _ here; cases here)⟩ <|
    .head ⟨.main (.receive rfl rfl), attentive_early rfl (by intro _ here; cases here)⟩ <|
    .head ⟨.main (.check rfl rfl (by decide)),
      attentive_early rfl (by intro _ here; cases here; rfl)⟩ <|
    .head ⟨.main (.block rfl), attentive_early rfl (by intro _ here; cases here)⟩ <|
    .head ⟨.main (.receive rfl rfl), attentive_early rfl (by intro _ here; cases here)⟩ <|
    .head ⟨.main (.drained rfl rfl), attentive_early rfl (by intro _ here; cases here; rfl)⟩ .refl⟩,
    _, rfl, 0, 0, rfl, List.mem_cons_of_mem _ (List.mem_singleton.mpr rfl), Nat.zero_lt_one⟩
  have took := (nothing_lost_while_attentive ⟨1⟩ pairConfig ⟨.inserted, .inserted⟩ (.consensus 2)
    pairCalls).1 timed reached answer ended (by intro racing; cases racing) 1 inTime
  exact ⟨timed, answer, reached, ended, inTime, took⟩

/-- The second of two providers replies at once, and is looked for when the time is up. -/
theorem in_time_but_lost : ∃ timed,
    Timed.Reaches ⟨1⟩ pairConfig ⟨.inserted, .inserted⟩ .race pairCalls timed ∧
      timed.InTime pairConfig 1 ∧ pairCalls 1 = .returned (.ok (ipv4 203 0 113 7)) ∧
      timed.state.phase =
        .done (.error (.allProvidersFailed [timeoutError "A", timeoutError "B"])) ∧
      ¬ timed.NothingLost pairConfig ⟨.inserted, .inserted⟩ .race := by
  refine ⟨_, ⟨0,
    -- Both workers are started, and the loop is entered.
    .head (.main (.spawn rfl)) <| .head (.main (.spawn rfl)) <| .head (.main (.enter rfl)) <|
    -- The second worker answers, and the time passes.
    .head (.arrive (by simp [Timed.main]) (show _ = [_] ++ _ :: [] from rfl) rfl 0) <|
    .head (.tick (Nat.zero_le 1) (Nat.le_refl 1)) <|
    .head (.main (.expired rfl rfl rfl)) .refl⟩,
    ⟨0, 0, rfl, List.mem_singleton.mpr rfl, Nat.zero_lt_one⟩, rfl, rfl, ?_⟩
  intro nothingLost
  have lost := nothingLost _ rfl (by simp [Collect.finish]) 1
    ⟨0, 0, rfl, List.mem_singleton.mpr rfl, Nat.zero_lt_one⟩
  exact lost.punctual (by decide)

end IpDiscovery.Blocking
