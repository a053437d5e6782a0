import IpDiscovery.Base.Turns
import IpDiscovery.Blocking.FirstOrder
import IpDiscovery.Blocking.InTime

/-! How many steps the blocking resolver takes, and that it returns whatever its workers do. -/

namespace IpDiscovery.Blocking

open Relation Turns

variable {clock : Clock} {config : Config} {calls : Calls} {orders : Orders} {mode : Mode}

/-! ## Race and consensus -/

namespace Collect

/-- What happens beside the resolver. -/
def Beside (clock : Clock) (calls : Calls) (state state' : Collect) : Prop :=
  ∃ threads, Threads.Step clock calls state.threads threads ∧ state' = { state with threads }

/-- How many steps of its own the resolver has left at most. -/
def turnsLeft (state : Collect) : Nat :=
  let awaited := 3 * state.pending.entries.length
  match state.phase with
  | .spawning todo => 4 * todo.length + awaited + 4
  | .looping _ => awaited + 3
  | .waiting _ _ => awaited + 2
  | .receiving _ _ => awaited + 1
  | .done _ => 0

/-- A key that is taken out of the map leaves fewer entries behind. -/
theorem erase_length {κ ν : Type} [DecidableEq κ] {map : HashMap κ ν} {key : κ}
    (inside : key ∈ map.entries.map Prod.fst) :
    (map.erase key).entries.length < map.entries.length := by
  obtain ⟨entry, member, same⟩ := List.mem_map.mp inside
  exact List.length_filter_lt_length_iff_exists.mpr ⟨entry, member, by simp [same]⟩

/-- A received message is one less to wait for. -/
theorem turnsLeft_receive {state : Collect} (tracked : state.Tracked config calls)
    {deadline expires : Option Instant} {message : WorkerMessage} {rest : List WorkerMessage}
    (here : state.phase = .receiving deadline expires)
    (head : state.threads.queue = message :: rest) :
    (state.receive mode config deadline message rest).turnsLeft < state.turnsLeft := by
  have queued : message ∈ state.threads.queue := by simp [head]
  have fewer := erase_length (Timed.pending_of_queued tracked queued)
  -- The loop goes on without the entry, or a race is won.
  obtain looping | ⟨_, result, won⟩ := @receive_phase config mode deadline message rest state
  · simp only [turnsLeft, looping, here, receive_pending]
    omega
  · simp only [turnsLeft, won, here]
    omega

/-- Every step of the resolver leaves it fewer steps, and nothing beside it adds any. -/
theorem descends (clock : Clock) (config : Config) (calls : Calls) (orders : Orders) (mode : Mode) :
    Descends (MainStep clock config orders mode) (Beside clock calls)
      (fun state => state.Tracked config calls) turnsLeft where
  kept := by
    intro state state' tracked moved
    obtain moved | ⟨threads, moved, same⟩ := moved
    · exact tracked.main moved
    · exact same ▸ tracked.beside moved
  less := by
    intro state state' tracked moved
    cases moved with
    | @spawn provider id todo here =>
      -- The entry of a started worker is new.
      have added := HashMap.insert_fresh provider.name (tracked.fresh here).2
      simp only [turnsLeft, here, added, List.length_append, List.length_cons, List.length_nil]
      omega
    | @spawnFailed provider id todo here text =>
      -- A worker that could not be started leaves no entry.
      have restored := HashMap.erase_insert_fresh provider.name (tracked.fresh here).2
      simp only [turnsLeft, here, restored, List.length_cons]
      omega
    | enter here => simp [turnsLeft, here]
    | drained here => simp [turnsLeft, stop, here]
    | expired here => simp [turnsLeft, stop, here]
    | check here => simp [turnsLeft, here]
    | block here => simp [turnsLeft, here]
    | receive here head => exact turnsLeft_receive tracked here head
    | timedOut here => simp [turnsLeft, stop, here]
    | disconnected here => simp [turnsLeft, stop, here]
  steady := by
    intro state state' _ moved
    obtain ⟨threads, _, same⟩ := moved
    exact (congrArg turnsLeft same).le

/-- At the start, a collecting resolver has four steps for each provider, and four of its own. -/
theorem init_turnsLeft (config : Config) (now : Instant) :
    (init config now).turnsLeft = 4 * (matchingProviders config).length + 4 := by
  simp [turnsLeft, init, HashMap.empty]

/-- A resolver that neither waits for a message nor has answered has something to do. -/
theorem enabled (state : Collect)
    (busy : ∀ deadline expires, state.phase ≠ .receiving deadline expires)
    (running : ∀ answer, state.phase ≠ .done answer) :
    ∃ state', MainStep clock config orders mode state state' := by
  cases here : state.phase with
  | spawning todo =>
    cases todo with
    | nil => exact ⟨_, .enter here⟩
    | cons entry todo => exact ⟨_, .spawn here⟩
  | looping deadline =>
    -- At its head the loop looks at who is pending, and then at the time.
    cases none_pending : state.pending.isEmpty with
    | true => exact ⟨_, .drained here none_pending⟩
    | false =>
      by_cases late : remaining deadline state.threads.now = 0
      · exact ⟨_, .expired here none_pending late⟩
      · exact ⟨_, .check here none_pending late⟩
  | waiting deadline remaining => exact ⟨_, .block here⟩
  | receiving deadline expires => exact absurd here (busy _ _)
  | done answer => exact absurd here (running _)

/-- After its wait has expired the resolver has something to do, with or without a message. -/
theorem enabled_expired {state : Collect} {deadline : Option Instant} {expires : Instant}
    (here : state.phase = .receiving deadline (some expires))
    (late : expires ≤ state.threads.now) :
    ∃ state', MainStep clock config orders mode state state' := by
  cases queue : state.threads.queue with
  | nil => exact ⟨_, .timedOut here queue late⟩
  | cons message rest => exact ⟨_, .receive here queue⟩

/-- Beside the resolver nothing happens but that time passes and messages arrive. -/
theorem beside_run {state state' : Collect} (run : ReflTransGen (Beside clock calls) state state') :
    state'.phase = state.phase ∧ state.threads.now ≤ state'.threads.now := by
  induction run with
  | refl => exact ⟨rfl, le_rfl⟩
  | tail _ moved ih =>
    obtain ⟨threads, moved, rfl⟩ := moved
    exact ⟨ih.1, ih.2.trans moved.now_le⟩

/-- Each wait begins early enough for the clock to represent its end. -/
def Representable (clock : Clock) (run : Nat → Collect) : Prop :=
  ∀ time deadline remaining, (run time).phase = .waiting deadline remaining →
    (run time).threads.now + remaining ≤ clock.maxInstant

/-- The clock goes on to the end of each wait that has one. -/
def GoesOn (run : Nat → Collect) : Prop :=
  ∀ time deadline instant, (run time).phase = .receiving deadline (some instant) →
    ∃ later ≥ time, instant ≤ (run later).threads.now

/-- Where the clock can represent the ends of all waits, no wait is without one. -/
theorem wait_ends {run : Nat → Collect} {now : Instant} (initial : run 0 = .init config now)
    (endless : Endless (MainStep clock config orders mode) (Beside clock calls) run)
    (representable : Representable clock run) (time : Nat) :
    ∀ deadline expires, (run time).phase = .receiving deadline expires → expires ≠ none := by
  -- A wait is in the state before, or begins with this step.
  induction time with
  | zero =>
    intro deadline expires here
    rw [initial] at here
    cases here
  | succ time ih =>
    intro deadline expires here
    rcases endless time with moved | ⟨threads, _, same⟩
    · generalize after : run (time + 1) = state at moved here
      cases moved with
      | block waits =>
        cases here
        simp [Clock.checkedAdd, representable time _ _ waits]
      | @receive deadline' _ message rest _ head =>
        rcases @receive_phase config mode deadline' message rest (run time) with
          looping | ⟨_, _, won⟩
        · rw [looping] at here
          cases here
        · rw [won] at here
          cases here
      | spawn | spawnFailed | enter | drained | expired | check | timedOut | disconnected =>
        cases here
    · rw [same] at here
      exact ih deadline expires here

/-- A resolver that takes no step although it has not answered will have something to do. -/
theorem ready {run : Nat → Collect} {now : Instant} (initial : run 0 = .init config now)
    (endless : Endless (MainStep clock config orders mode) (Beside clock calls) run)
    (representable : Representable clock run) (goesOn : GoesOn run) (time : Nat)
    (running : ¬ ∃ answer, (run time).phase = .done answer)
    (idle : ∀ later ≥ time, ¬ MainStep clock config orders mode (run later) (run (later + 1))) :
    ∃ later ≥ time, ∀ further ≥ later,
      ∃ state', MainStep clock config orders mode (run further) state' := by
  have running (answer) : (run time).phase ≠ .done answer := fun ended => running ⟨answer, ended⟩
  by_cases waits : ∃ deadline expires, (run time).phase = .receiving deadline expires
  · -- It waits, and its wait expires.
    obtain ⟨deadline, expires, here⟩ := waits
    have bounded := wait_ends initial endless representable time deadline expires here
    obtain ⟨instant, rfl⟩ := Option.ne_none_iff_exists'.mp bounded
    obtain ⟨later, order, reached⟩ := goesOn time deadline instant here
    refine ⟨later, order, fun further beyond => ?_⟩
    have same := (beside_run (endless.idle idle (order.trans beyond))).1
    have forward := (beside_run (endless.idle (fun after less => idle after (order.trans less))
      beyond)).2
    exact enabled_expired (same.trans here) (reached.trans forward)
  · -- Nothing beside it takes from it what it has to do.
    refine ⟨time, le_rfl, fun further beyond => ?_⟩
    have same := (beside_run (endless.idle idle beyond)).1
    refine enabled _ (fun deadline expires here => waits ⟨deadline, expires, ?_⟩)
      fun answer ended => running answer (same.symm.trans ended)
    exact same.symm.trans here

end Collect

/-! ## One provider after the other -/

namespace First

/-- What happens beside the resolver. -/
def Beside (clock : Clock) (calls : Calls) (state state' : First) : Prop :=
  ∃ threads, Threads.Step clock calls state.threads threads ∧ state' = { state with threads }

/-- How many steps of its own the resolver has left at most. -/
def turnsLeft (state : First) : Nat :=
  match state.phase with
  | .trying todo => 3 * todo.length + 1
  | .waiting _ todo => 3 * todo.length + 3
  | .receiving _ todo _ => 3 * todo.length + 2
  | .done _ => 0

/-- Receiving a message takes one of the steps that are left. -/
theorem turnsLeft_receive {state : First} {provider : BoxedBlockingProvider}
    {todo : List (BoxedBlockingProvider × Nat)} {expires : Option Instant}
    {message : WorkerMessage} {rest : List WorkerMessage}
    (here : state.phase = .receiving provider todo expires) :
    (state.receive config todo message rest).turnsLeft < state.turnsLeft := by
  unfold receive
  cases message.outcome config.version with
  | ok result => simp [turnsLeft, here]
  | error error => simp [turnsLeft, fail, here]

/-- Every step of the resolver leaves it fewer steps, and nothing beside it adds any. -/
theorem descends (clock : Clock) (config : Config) (calls : Calls) :
    Descends (MainStep clock config) (Beside clock calls) (fun _ => True) turnsLeft where
  kept := fun _ _ => trivial
  less := by
    intro state state' _ moved
    -- Every trial costs at most three steps, and giving up or receiving goes on to the next.
    cases moved with
    | exhausted here => simp [turnsLeft, here]
    | skip here zero =>
      simp only [turnsLeft, fail, here, List.length_cons]
      omega
    | spawn here nonzero =>
      simp only [turnsLeft, here, List.length_cons]
      omega
    | spawnFailed here nonzero text =>
      simp only [turnsLeft, fail, here, List.length_cons]
      omega
    | block here => simp [turnsLeft, here]
    | receive here head => exact turnsLeft_receive here
    | timedOut here => simp [turnsLeft, fail, here]
    | disconnected here => simp [turnsLeft, fail, here]
  steady := by
    intro state state' _ moved
    obtain ⟨threads, _, same⟩ := moved
    exact (congrArg turnsLeft same).le

/-- At the start, First has three steps for each provider, and one to end. -/
theorem init_turnsLeft (config : Config) (now : Instant) :
    (init config now).turnsLeft = 3 * (matchingProviders config).length + 1 := by
  simp [turnsLeft, init]

/-- A resolver that neither waits for a message nor has answered has something to do. -/
theorem enabled (state : First)
    (busy : ∀ provider todo expires, state.phase ≠ .receiving provider todo expires)
    (running : ∀ answer, state.phase ≠ .done answer) :
    ∃ state', MainStep clock config state state' := by
  -- The first provider in the list is skipped or spawned, as the timeout has it.
  cases here : state.phase with
  | trying todo =>
    cases todo with
    | nil => exact ⟨_, .exhausted here⟩
    | cons entry todo =>
      by_cases zero : config.timeout = 0
      · exact ⟨_, .skip here zero⟩
      · exact ⟨_, .spawn here zero⟩
  | waiting provider todo => exact ⟨_, .block here⟩
  | receiving provider todo expires => exact absurd here (busy _ _ _)
  | done answer => exact absurd here (running _)

/-- After its wait has expired the resolver has something to do, with or without a message. -/
theorem enabled_expired {state : First} {provider : BoxedBlockingProvider}
    {todo : List (BoxedBlockingProvider × Nat)} {expires : Instant}
    (here : state.phase = .receiving provider todo (some expires))
    (late : expires ≤ state.threads.now) : ∃ state', MainStep clock config state state' := by
  cases queue : state.threads.queue with
  | nil => exact ⟨_, .timedOut here queue late⟩
  | cons message rest => exact ⟨_, .receive here queue⟩

/-- Beside the resolver nothing happens but that time passes and messages arrive. -/
theorem beside_run {state state' : First} (run : ReflTransGen (Beside clock calls) state state') :
    state'.phase = state.phase ∧ state.threads.now ≤ state'.threads.now := by
  induction run with
  | refl => exact ⟨rfl, le_rfl⟩
  | tail _ moved ih =>
    obtain ⟨threads, moved, rfl⟩ := moved
    exact ⟨ih.1, ih.2.trans moved.now_le⟩

/-- Each wait begins early enough for the clock to represent the end of its timeout. -/
def Representable (clock : Clock) (config : Config) (run : Nat → First) : Prop :=
  ∀ time provider todo, (run time).phase = .waiting provider todo →
    (run time).threads.now + config.timeout ≤ clock.maxInstant

/-- The clock goes on to the end of each wait that has one. -/
def GoesOn (run : Nat → First) : Prop :=
  ∀ time provider todo instant, (run time).phase = .receiving provider todo (some instant) →
    ∃ later ≥ time, instant ≤ (run later).threads.now

/-- Where the clock can represent the ends of all waits, no wait is without one. -/
theorem wait_ends {run : Nat → First} {now : Instant} (initial : run 0 = .init config now)
    (endless : Endless (MainStep clock config) (Beside clock calls) run)
    (representable : Representable clock config run) (time : Nat) :
    ∀ provider todo expires, (run time).phase = .receiving provider todo expires →
      expires ≠ none := by
  -- A wait is in the state before, or begins with this step.
  induction time with
  | zero =>
    intro provider todo expires here
    rw [initial] at here
    cases here
  | succ time ih =>
    intro provider todo expires here
    rcases endless time with moved | ⟨threads, _, same⟩
    · generalize after : run (time + 1) = state at moved here
      cases moved with
      | block waits =>
        cases here
        simp [Clock.checkedAdd, representable time _ _ waits]
      | @receive _ _ _ message _ _ head =>
        unfold receive at here
        cases outcome : message.outcome config.version <;> simp [outcome, fail] at here
      | exhausted | skip | spawn | spawnFailed | timedOut | disconnected => cases here
    · rw [same] at here
      exact ih provider todo expires here

/-- A resolver that takes no step although it has not answered will have something to do. -/
theorem ready {run : Nat → First} {now : Instant} (initial : run 0 = .init config now)
    (endless : Endless (MainStep clock config) (Beside clock calls) run)
    (representable : Representable clock config run) (goesOn : GoesOn run) (time : Nat)
    (running : ¬ ∃ answer, (run time).phase = .done answer)
    (idle : ∀ later ≥ time, ¬ MainStep clock config (run later) (run (later + 1))) :
    ∃ later ≥ time, ∀ further ≥ later, ∃ state', MainStep clock config (run further) state' := by
  have running (answer) : (run time).phase ≠ .done answer := fun ended => running ⟨answer, ended⟩
  by_cases waits : ∃ provider todo expires, (run time).phase = .receiving provider todo expires
  · -- It waits, and its wait expires.
    obtain ⟨provider, todo, expires, here⟩ := waits
    have bounded := wait_ends initial endless representable time provider todo expires here
    obtain ⟨instant, rfl⟩ := Option.ne_none_iff_exists'.mp bounded
    obtain ⟨later, order, reached⟩ := goesOn time provider todo instant here
    refine ⟨later, order, fun further beyond => ?_⟩
    have same := (beside_run (endless.idle idle (order.trans beyond))).1
    have forward := (beside_run (endless.idle (fun after less => idle after (order.trans less))
      beyond)).2
    exact enabled_expired (same.trans here) (reached.trans forward)
  · -- Nothing beside it takes from it what it has to do.
    refine ⟨time, le_rfl, fun further beyond => ?_⟩
    have same := (beside_run (endless.idle idle beyond)).1
    refine enabled _ (fun provider todo expires here => waits ⟨provider, todo, expires, ?_⟩)
      fun answer ended => running answer (same.symm.trans ended)
    exact same.symm.trans here

/-- A wait without an end may go on forever, for a provider that never replies. -/
theorem exists_endless_wait {state : First} (reached : FirstReaches clock config calls state)
    (inside : state.threads.now ≤ clock.maxInstant) {provider : BoxedBlockingProvider}
    {todo : List (BoxedBlockingProvider × Nat)} (here : state.phase = .receiving provider todo none)
    (empty : state.threads.queue = []) :
    ∃ run : Nat → First, run 0 = state ∧
      Endless (MainStep clock config) (Beside clock calls) run ∧ Fair (MainStep clock config) run ∧
      GoesOn run ∧ ∀ time answer, (run time).phase ≠ .done answer := by
  obtain ⟨now, run⟩ := reached
  obtain ⟨_, worker, member, _, _, silent, opened, _⟩ :=
    silent_of_receiving (ordered_of_run run) (sound_of_run run) here empty
  -- The resolver has nothing to do, and the clock may stand still.
  have stuck (state' : First) : ¬ MainStep clock config state state' := by
    intro moved
    cases moved with
    | disconnected _ _ hungUp =>
      have sent := hungUp worker member opened
      rw [silent] at sent
      cases sent
    | receive _ head =>
      rw [empty] at head
      cases head
    | exhausted other | skip other | spawn other | spawnFailed other | block other
    | timedOut other =>
      rw [here] at other
      cases other
  refine ⟨fun _ => state, rfl, fun _ => .inr ⟨_, .tick le_rfl inside, rfl⟩, ?_, ?_, ?_⟩
  · intro time enabled
    obtain ⟨state', moved⟩ := enabled time le_rfl
    exact absurd moved (stuck state')
  · intro time other rest instant waits
    rw [here] at waits
    cases waits
  · intro time answer ended
    rw [here] at ended
    cases ended

end First

/-! ## Both engines -/

/--
In no run does the resolver take more steps than its providers are worth.

For each provider a race or a consensus starts a worker and takes three steps for its message, and
the strategy that tries one after the other takes three steps at most.
-/
theorem own_steps_bounded (clock : Clock) (config : Config) (calls : Calls) (orders : Orders) :
    (∀ mode now count state, Counted (Collect.MainStep clock config orders mode)
        (Collect.Beside clock calls) (.init config now) count state →
      count ≤ 4 * (matchingProviders config).length + 4) ∧
    ∀ now count state, Counted (First.MainStep clock config) (First.Beside clock calls)
        (.init config now) count state →
      count ≤ 3 * (matchingProviders config).length + 1 := by
  -- At the start, the bound is what the measure says.
  constructor
  · intro mode now count state run
    have bounded := run.bounded (Collect.descends clock config calls orders mode)
      (Collect.init_tracked config calls now)
    rw [Collect.init_turnsLeft] at bounded
    omega
  · intro now count state run
    have bounded := run.bounded (First.descends clock config calls) trivial
    rw [First.init_turnsLeft] at bounded
    omega

/--
The resolver returns in every fair run, whatever its workers do.

Workers may panic, hang or reply at any time. All that is asked is that the resolver is not kept
waiting forever while it has something to do, that the clock goes on, and that it can represent the
ends of the resolver's waits. Where it cannot, a provider that hangs keeps First waiting forever.
-/
theorem fair_runs_return (clock : Clock) (config : Config) (calls : Calls) (orders : Orders) :
    (∀ mode (run : Nat → Collect) now, run 0 = .init config now →
      Endless (Collect.MainStep clock config orders mode) (Collect.Beside clock calls) run →
      Fair (Collect.MainStep clock config orders mode) run →
      Collect.Representable clock run → Collect.GoesOn run →
        ∃ time answer, (run time).phase = .done answer) ∧
    (∀ (run : Nat → First) now, run 0 = .init config now →
      Endless (First.MainStep clock config) (First.Beside clock calls) run →
      Fair (First.MainStep clock config) run →
      First.Representable clock config run → First.GoesOn run →
        ∃ time answer, (run time).phase = .done answer) ∧
    ∀ state provider todo, FirstReaches clock config calls state →
      state.threads.now ≤ clock.maxInstant → state.phase = .receiving provider todo none →
      state.threads.queue = [] →
        ∃ run : Nat → First, run 0 = state ∧
          Endless (First.MainStep clock config) (First.Beside clock calls) run ∧
          Fair (First.MainStep clock config) run ∧ First.GoesOn run ∧
          ∀ time answer, (run time).phase ≠ .done answer := by
  -- Both resolvers end because every step of theirs costs one of finitely many.
  refine ⟨?_, ?_, ?_⟩
  · intro mode run now initial endless fair representable goesOn
    exact fair.ends (Collect.descends clock config calls orders mode) endless
      (initial ▸ Collect.init_tracked config calls now)
      (fun state => ∃ answer, state.phase = .done answer)
      (Collect.ready initial endless representable goesOn)
  · intro run now initial endless fair representable goesOn
    exact fair.ends (First.descends clock config calls) endless trivial
      (fun state => ∃ answer, state.phase = .done answer)
      (First.ready initial endless representable goesOn)
  · intro state provider todo reached inside here empty
    exact First.exists_endless_wait reached inside here empty

/-- A configuration with one provider, and a nanosecond for it. -/
def hungConfig : Config where
  blockingProviders := [⟨"A", .dns, fun _ => true⟩]
  providers := []
  timeout := 1
  version := .any
  strategy := .first

/-- The worker of that provider, which never comes to its end. -/
def hungWorker : Worker := ⟨0, ⟨"A", .dns, fun _ => true⟩, 1, 0, none⟩

/-- An endless run in which the provider hangs. -/
def hungRun : Nat → First
  | 0 => .init hungConfig 0
  | 1 => ⟨⟨0, 1, [], [hungWorker]⟩, .waiting hungWorker.provider [], []⟩
  | 2 => ⟨⟨0, 1, [], [hungWorker]⟩, .receiving hungWorker.provider [] (some 1), []⟩
  | 3 => ⟨⟨1, 1, [], [hungWorker]⟩, .receiving hungWorker.provider [] (some 1), []⟩
  | 4 => ⟨⟨1, 1, [], [hungWorker]⟩, .trying [], [timeoutError "A"]⟩
  | _ + 5 => ⟨⟨1, 1, [], [hungWorker]⟩, .done (.error (.allProvidersFailed [timeoutError "A"])),
      [timeoutError "A"]⟩

/-- The resolver returns although its only provider hangs. -/
theorem fair_runs_return_hung : ∃ time answer, (hungRun time).phase = .done answer := by
  refine (fair_runs_return ⟨1⟩ hungConfig (fun _ => .panicked) ⟨.inserted, .inserted⟩).2.1 hungRun 0
    rfl ?_ ?_ ?_ ?_
  · -- The run takes the steps of the code, and idles when it has returned.
    intro time
    match time with
    | 0 => exact .inl (.spawn rfl one_ne_zero)
    | 1 => exact .inl (.block rfl)
    | 2 => exact .inr ⟨_, .tick (Nat.zero_le 1) le_rfl, rfl⟩
    | 3 =>
      exact .inl (@First.MainStep.timedOut ⟨1⟩ hungConfig (hungRun 3) hungWorker.provider [] 1 rfl
        rfl le_rfl)
    | 4 => exact .inl (.exhausted rfl)
    | time + 5 => exact .inr ⟨_, .tick le_rfl le_rfl, rfl⟩
  · -- Only the first five steps can be taken, and all of them are.
    intro time enabled
    by_cases early : time ≤ 4
    · exact ⟨4, early, .exhausted rfl⟩
    · obtain ⟨state, moved⟩ := enabled (time + 5) (by omega)
      cases moved <;> contradiction
  · -- Its one wait begins at once, and a nanosecond later there is an instant.
    intro time provider todo here
    match time, here with
    | 1, here => exact le_rfl
    | 0, here | 2, here | 3, here | 4, here | _ + 5, here => cases here
  · -- It waits at two times, and the clock is at the end of the wait from the second on.
    intro time provider todo instant here
    match time, here with
    | 0, here | 1, here | 4, here | _ + 5, here => cases here
    | 2, here | 3, here => cases here; exact ⟨3, by omega, le_rfl⟩

end IpDiscovery.Blocking
