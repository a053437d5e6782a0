import IpDiscovery.Base.Runs

/-! Requests and replies over a network that loses, repeats, reorders and misdelivers packets. -/

namespace IpDiscovery.Exchange

open Relation

/--
A protocol in which clients ask a server for the address they are seen at.

A packet may bear the identity of a client, as it does a transaction ID. The laws keep the clients
apart: no request bears the identity of another client, a server adds no identity to a reply, and a
client accepts replies with its own identity alone. A server reports nothing but what it sees.
-/
structure Scheme (Client Packet Address : Type) where
  request : Client → Packet
  Serves : Address → Packet → Packet → Prop
  accept : Client → Packet → Option Address
  Bears : Client → Packet → Prop
  request_bears : ∀ {client other}, Bears other (request client) → other = client
  serves_bears : ∀ {seen query reply client},
    Serves seen query reply → Bears client reply → Bears client query
  accept_bears : ∀ {client reply address}, accept client reply = some address → Bears client reply
  accept_serves : ∀ {seen query reply client address},
    Serves seen query reply → accept client reply = some address → address = seen

/-- How far a client has come. -/
inductive Phase (Address : Type) where
  | idle
  | waiting
  | done (answer : Option Address)
deriving DecidableEq, Repr

/-- The clients, and every packet that was ever sent: a query with the address it is seen from. -/
structure State (Client Packet Address : Type) where
  queries : Set (Address × Packet)
  replies : Set Packet
  phase : Client → Phase Address

variable {Client Packet Address : Type}

/-- Nobody has sent anything. -/
def State.initial : State Client Packet Address := ⟨∅, ∅, fun _ => .idle⟩

section Soundness

variable (scheme : Scheme Client Packet Address) (source : Client → Address)

/-- What every packet and every client keeps to, whatever the order of the steps. -/
structure Sound (state : State Client Packet Address) : Prop where
  query : ∀ {seen query client}, (seen, query) ∈ state.queries → scheme.Bears client query →
    seen = source client
  reply : ∀ {reply client address}, reply ∈ state.replies →
    scheme.accept client reply = some address → address = source client
  answer : ∀ {client address}, state.phase client = .done (some address) → address = source client
  sent : ∀ {client}, state.phase client = .waiting →
    (source client, scheme.request client) ∈ state.queries

variable {scheme source}

/-- Before the first step nobody has sent or accepted anything. -/
theorem Sound.initial : Sound scheme source State.initial where
  query := by simp [State.initial]
  reply := by simp [State.initial]
  answer := by simp [State.initial]
  sent := by simp [State.initial]

/-- A reply of a server is accepted by the client it is for, and tells it its own address. -/
theorem Sound.served {state : State Client Packet Address} (sound : Sound scheme source state)
    {seen : Address} {query reply : Packet} (arrived : (seen, query) ∈ state.queries)
    (served : scheme.Serves seen query reply) {client : Client} {address : Address}
    (accepted : scheme.accept client reply = some address) : address = source client := by
  -- An accepted reply bears the identity of its client, and so did the query it answers.
  have bears := scheme.serves_bears served (scheme.accept_bears accepted)
  exact (scheme.accept_serves served accepted).trans (sound.query arrived bears)

/-- More replies are sound where each of them is. -/
theorem Sound.insertReply {state : State Client Packet Address} (sound : Sound scheme source state)
    {reply : Packet}
    (right : ∀ {client address}, scheme.accept client reply = some address →
      address = source client) :
    Sound scheme source { state with replies := insert reply state.replies } where
  query := sound.query
  reply := by
    intro other client address arrived accepted
    -- Either it is the new reply, or it was on its way before.
    obtain same | before := Set.mem_insert_iff.mp arrived
    · subst same
      exact right accepted
    · exact sound.reply before accepted
  answer := sound.answer
  sent := sound.sent

/-- More queries are sound where each of them comes from the client whose identity it bears. -/
theorem Sound.insertQuery {state : State Client Packet Address} (sound : Sound scheme source state)
    {seen : Address} {query : Packet}
    (right : ∀ {client}, scheme.Bears client query → seen = source client) :
    Sound scheme source { state with queries := insert (seen, query) state.queries } where
  query := by
    intro other packet client arrived bears
    -- Either it is the new query, or it was on its way before.
    obtain same | before := Set.mem_insert_iff.mp arrived
    · cases same
      exact right bears
    · exact sound.query before bears
  reply := sound.reply
  answer := sound.answer
  sent := fun waiting => Set.mem_insert_of_mem _ (sound.sent waiting)

end Soundness

section Steps

variable [DecidableEq Client] (scheme : Scheme Client Packet Address) (source : Client → Address)

/--
One step of a client, of a server, or of the network.

Packets stay in the network, so each may arrive late, at the wrong client, many times, or never.
Outsiders send what they like, but do not know the identity of any client.
-/
inductive Step : State Client Packet Address → State Client Packet Address → Prop where
  | send {state} (client : Client) (idle : state.phase client = .idle) :
      Step state { state with
        queries := insert (source client, scheme.request client) state.queries
        phase := Function.update state.phase client .waiting }
  | serve {state} {seen : Address} {query reply : Packet} (arrived : (seen, query) ∈ state.queries)
      (served : scheme.Serves seen query reply) :
      Step state { state with replies := insert reply state.replies }
  | spoof {state} (seen : Address) {query : Packet}
      (foreign : ∀ client, ¬ scheme.Bears client query) :
      Step state { state with queries := insert (seen, query) state.queries }
  | forge {state} {reply : Packet} (foreign : ∀ client, ¬ scheme.Bears client reply) :
      Step state { state with replies := insert reply state.replies }
  | deliver {state} (client : Client) (waiting : state.phase client = .waiting) {reply : Packet}
      (arrived : reply ∈ state.replies) :
      Step state { state with
        phase := Function.update state.phase client (.done (scheme.accept client reply)) }
  | expire {state} (client : Client) (waiting : state.phase client = .waiting) :
      Step state { state with phase := Function.update state.phase client (.done none) }

variable {scheme source}

/-- A client that moves on in an otherwise sound state has to account for its own phase only. -/
theorem Sound.update {state : State Client Packet Address} (sound : Sound scheme source state)
    (client : Client) {phase : Phase Address} (moved : phase ≠ .waiting)
    (right : ∀ address, phase = .done (some address) → address = source client) :
    Sound scheme source { state with phase := Function.update state.phase client phase } where
  query := sound.query
  reply := sound.reply
  answer := by
    intro other address answered
    -- Only the client that moves on has another phase than before.
    by_cases same : other = client
    · subst same
      exact right address (by simpa using answered)
    · exact sound.answer (by simpa [same] using answered)
  sent := by
    intro other waiting
    by_cases same : other = client
    · subst same
      exact absurd (by simpa using waiting) moved
    · exact sound.sent (by simpa [same] using waiting)

/-- Every step of anyone keeps packets and clients sound. -/
theorem Sound.step {state next : State Client Packet Address} (sound : Sound scheme source state)
    (moved : Step scheme source state next) : Sound scheme source next := by
  cases moved with
  | send client idle =>
    -- The query bears the identity of its sender alone, and it is the one the sender waits on.
    have own : ∀ {other}, scheme.Bears other (scheme.request client) →
        source client = source other := fun bears => by rw [scheme.request_bears bears]
    have queried := sound.insertQuery own
    refine ⟨queried.query, queried.reply, ?_, ?_⟩
    · -- The sender waits, and has no answer.
      intro other address answered
      by_cases same : other = client
      · simp [same] at answered
      · exact sound.answer (by simpa [same] using answered)
    · -- What the sender waits on has just been sent.
      intro other waiting
      by_cases same : other = client
      · simp [same]
      · exact queried.sent (by simpa [same] using waiting)
  | serve arrived served => exact sound.insertReply (sound.served arrived served)
  | spoof seen foreign =>
    exact sound.insertQuery fun {client} bears => absurd bears (foreign client)
  | forge foreign =>
    -- Without an identity, no client accepts it.
    exact sound.insertReply fun {client _} accepted =>
      absurd (scheme.accept_bears accepted) (foreign client)
  | deliver client waiting arrived =>
    exact sound.update client (by simp) fun address answered =>
      sound.reply arrived (by simpa using answered)
  | expire client waiting => exact sound.update client (by simp) (by simp)

/-- Packets and clients are sound in every run from the start. -/
theorem Sound.of_run {state : State Client Packet Address}
    (run : ReflTransGen (Step scheme source) .initial state) : Sound scheme source state :=
  invariant_of_run (fun sound moved => sound.step moved) Sound.initial run

/-- A waiting client can still learn its address, where servers have a reply it accepts. -/
theorem Sound.finish {state : State Client Packet Address} (sound : Sound scheme source state)
    {client : Client} (waiting : state.phase client = .waiting) {reply : Packet}
    (served : scheme.Serves (source client) (scheme.request client) reply)
    (accepted : scheme.accept client reply = some (source client)) :
    ∃ next, ReflTransGen (Step scheme source) state next ∧
      next.phase client = .done (some (source client)) := by
  -- Its query has been sent: a server answers it, and the network delivers the reply.
  have answered : Step scheme source state { state with replies := insert reply state.replies } :=
    .serve (sound.sent waiting) served
  have delivered := @Step.deliver _ _ _ _ scheme source
    { state with replies := insert reply state.replies } client waiting reply (Set.mem_insert _ _)
  refine ⟨_, (ReflTransGen.single answered).tail delivered, ?_⟩
  simp [accepted]

end Steps

end IpDiscovery.Exchange
