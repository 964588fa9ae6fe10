import StreamHost.Client.Dialing
import StreamHost.Proofs.ServerNotices

/-!
The notices about the connections of clients are in order, whatever is done with them: they may be dialed,
used and given up, at any time. Together with those of servers these are all connections.
-/

namespace StreamHost.Client

open Connection (Shared Wire Carrier Channel Event Hub Operation Bounded told)
open StreamHost.Stream (Layered)

namespace Dialing

/-- What may happen to the connection `id` of a client and around it: while it is dialed it is polled; then
it is used; at any time it may be given up, and something else may happen that leaves it alone. -/
inductive Goes (b : Blueprint) (id : Nat) (start : Shared × Dialing) : Shared × Option Dialing → Prop where
  | start : Goes b id start (start.1, some start.2)
  | poll {s : Shared} {d : Dialing} (goes : Goes b id start (s, some d)) :
    Goes b id start ((poll b s d).1, some (poll b s d).2)
  | use {s : Shared} {c : Channel (Carrier Wire)} (u : Operation)
      (goes : Goes b id start (s, some (.connected c))) :
    Goes b id start ((u.apply s c).1, some (.connected (u.apply s c).2))
  | letGo {s : Shared} {d : Dialing} (goes : Goes b id start (s, some d)) :
    Goes b id start (d.letGo s, none)
  | elsewhere {s s' : Shared} {d : Option Dialing} (goes : Goes b id start (s, d))
      (spares : s.hub.Spares id s'.hub) (held : s'.hub.isHeld id = s.hub.isHeld id)
      (running : s'.hub.failing = false) : Goes b id start (s', d)

/-- What a client shows by where it stands, with the notices in order. -/
def IsOrdered (b : Blueprint) (past : List Event) (id : Nat) (s : Shared) : Option Dialing → Prop
  | some (.securing x) => x.id = id ∧ s.hub.isHeld id = true ∧
    ∃ shown, s.hub.Ordered past id b.pipeline.observers .connected shown
  | some (.connected c) => c.id = id ∧ ∃ shown, s.hub.OrderedFrom past id b.pipeline.observers shown
  | some (.failed _) | none => ∃ shown, s.hub.Ordered past id b.pipeline.observers .disposed shown

variable {b : Blueprint} {past : List Event} {id : Nat} {s : Shared} {shown : List Event}

section

variable (bystanders : ∀ o ∈ b.pipeline.observers, o.IsBystander)
include bystanders

theorem configure_ordered {c : Channel (Carrier Wire)} (own : c.id = id)
    (ordered : s.hub.OrderedFrom past id b.pipeline.observers shown) :
    IsOrdered b past id (configure b s c).1 (some (configure b s c).2) := by
  obtain ⟨attached, still⟩ := b.pipeline.attach_ordered bystanders ordered own
  exact ⟨still, shown, attached⟩

theorem giveUp_ordered (held : s.hub.isHeld id = true)
    (ordered : s.hub.Ordered past id b.pipeline.observers .connected shown) (w : Wire)
    (report : Option Error) :
    ∃ more, (giveUp s id w report).hub.Ordered past id b.pipeline.observers .disposed more := by
  obtain ⟨es, gone⟩ := s.dropWire_hub w
  have lost : (s.dropWire w).hub.Ordered past id b.pipeline.observers .connected shown :=
    gone ▸ ordered.aside (Connection.filter_stream es)
  have kept : (s.dropWire w).hub.isHeld id = true := gone ▸ held
  cases report with
  | none =>
    obtain ⟨_, ended⟩ := lost.drop bystanders (.inr kept)
    exact ⟨_, ended⟩
  | some e =>
    have reported := lost.report (by simp) (n := .error e) (by simp)
    have still : ((s.dropWire w).hub.reportError id e).isHeld id = true := by
      rw [Hub.isHeld, Hub.reportError, Hub.lifecycle?_report]
      exact kept
    obtain ⟨_, ended⟩ := reported.drop bystanders (.inr still)
    exact ⟨_, ended⟩

theorem secure_ordered {x : Securing} (own : x.id = id) (held : s.hub.isHeld id = true)
    (ordered : s.hub.Ordered past id b.pipeline.observers .connected shown) :
    IsOrdered b past id (secure b s x).1 (some (secure b s x).2) := by
  subst own
  unfold secure
  dsimp only
  generalize Tls.Secured.handshake (Layered.medium Wire.medium)
    { x.stream with inner := x.stream.inner.map fun w => (s.network, w) } = t
  let polled : Shared :=
    { s with network := t.state.inner.inner.1, hub := s.hub.emitAll (t.events.map .stream) }
  have later : polled.hub.Ordered past x.id b.pipeline.observers .connected shown :=
    ordered.aside (Connection.filter_stream _)
  have kept : polled.hub.isHeld x.id = true := held
  split
  · exact configure_ordered bystanders rfl later.onward
  · exact giveUp_ordered bystanders kept later _ _
  · split
    · exact giveUp_ordered bystanders kept later _ _
    · exact ⟨rfl, kept, shown, later⟩

theorem establish_ordered (running : s.hub.failing = false) (target : Address.Target) (socket : Nat)
    (limit : Duration) (alarm : Alarm) :
    let start := establish b s target socket limit alarm
    IsOrdered b s.hub.events s.hub.lifecycles.length start.1 (some start.2) := by
  let id := s.hub.lifecycles.length
  let made : Hub := (s.hub.create (.unix none) (remoteEnd target) b.pipeline.observers b.group).1
  have connected : (made.connected id).Ordered s.hub.events id b.pipeline.observers .connected _ :=
    ⟨Hub.Shows.of_create running bystanders (.unix none) (remoteEnd target) b.group, by
      rw [Connection.filter_notice_told]; exact Connection.bounded_start⟩
  have held : (made.connected id).isHeld id = true := Hub.isHeld_connected_create
  let opened : Shared × Layered Wire :=
    b.pipeline.wrapTransport { s with hub := made.connected id } id (.socket socket)
  have staged : opened.1.hub.Ordered s.hub.events id b.pipeline.observers .connected _ :=
    b.pipeline.wrapTransport_ordered connected (.socket socket)
  have kept : opened.1.hub.isHeld id = true := by
    obtain ⟨es, wrapped, -⟩ := b.pipeline.wrapTransport_hub { s with hub := made.connected id } id
      (.socket socket)
    exact wrapped ▸ held
  unfold establish
  dsimp only
  split
  · exact configure_ordered bystanders rfl staged.onward
  · split
    · exact giveUp_ordered bystanders kept staged _ _
    · exact secure_ordered bystanders rfl kept staged

theorem poll_ordered {d : Dialing} (ordered : IsOrdered b past id s (some d)) :
    IsOrdered b past id (poll b s d).1 (some (poll b s d).2) := by
  cases d with
  | securing x =>
    obtain ⟨own, held, _, opened⟩ := ordered
    exact secure_ordered bystanders own held opened
  | failed | connected => exact ordered

theorem letGo_ordered {d : Dialing} (ordered : IsOrdered b past id s (some d)) :
    IsOrdered b past id (d.letGo s) none := by
  cases d with
  | securing x =>
    obtain ⟨rfl, held, _, opened⟩ := ordered
    exact giveUp_ordered bystanders held opened _ _
  | connected c =>
    obtain ⟨rfl, _, working⟩ := ordered
    obtain ⟨_, ended⟩ := Shared.dropChannel_ordered bystanders working
    obtain ⟨_, gone⟩ := ended.drop bystanders (.inl rfl)
    exact ⟨_, gone⟩
  | failed => exact ordered

end

theorem IsOrdered.elsewhere {s' : Shared} {d : Option Dialing} (ordered : IsOrdered b past id s d)
    (spares : s.hub.Spares id s'.hub) (held : s'.hub.isHeld id = s.hub.isHeld id)
    (running : s'.hub.failing = false) : IsOrdered b past id s' d := by
  match d, ordered with
  | some (.securing x), ⟨own, alive, _, opened⟩ =>
    exact ⟨own, held.trans alive, _, opened.elsewhere spares running⟩
  | some (.connected c), ⟨own, _, working⟩ => exact ⟨own, _, working.elsewhere spares running⟩
  | some (.failed e), ⟨_, ended⟩ => exact ⟨_, ended.elsewhere spares running⟩
  | none, ⟨_, ended⟩ => exact ⟨_, ended.elsewhere spares running⟩

theorem Goes.ordered {start : Shared × Dialing} {now : Shared × Option Dialing}
    (goes : Goes b id start now) (bystanders : ∀ o ∈ b.pipeline.observers, o.IsBystander)
    (ordered : IsOrdered b past id start.1 (some start.2)) : IsOrdered b past id now.1 now.2 := by
  induction goes with
  | start => exact ordered
  | poll _ before => exact poll_ordered bystanders before
  | use u _ before =>
    obtain ⟨own, _, working⟩ := before
    obtain ⟨used, still⟩ := Operation.apply_keeps (Hub.orderedFrom_bears bystanders) ⟨working, own⟩ u
    exact ⟨still, _, used⟩
  | letGo _ before => exact letGo_ordered bystanders before
  | elsewhere _ spares held running before => exact before.elsewhere spares held running

/-- The notices about a connection of a client come between its start and its end. -/
theorem Goes.notices {s t : Shared} {d : Option Dialing} {target : Address.Target} {socket : Nat}
    {limit : Duration} {alarm : Alarm}
    (goes : Goes b s.hub.lifecycles.length (establish b s target socket limit alarm) (t, d))
    (running : s.hub.failing = false) (bystanders : ∀ o ∈ b.pipeline.observers, o.IsBystander) :
    ∃ last, Bounded b.pipeline.observers s.hub.lifecycles.length last
        (s.hub.noticesSince t.hub s.hub.lifecycles.length) ∧
      t.hub.state? s.hub.lifecycles.length = some last ∧
      (d = none ∨ (∃ e, d = some (.failed e)) → last = .disposed) := by
  have established := establish_ordered bystanders running target socket limit alarm
  have ordered := goes.ordered bystanders established
  have some : ∃ last shown, t.hub.Ordered s.hub.events s.hub.lifecycles.length b.pipeline.observers last
      shown ∧ (d = none ∨ (∃ e, d = some (.failed e)) → last = .disposed) := by
    match d, ordered with
    | some (.securing x), ⟨_, _, shown, opened⟩ => exact ⟨_, shown, opened, by simp⟩
    | some (.connected c), ⟨_, _, last, more, working⟩ => exact ⟨last, _, working, by simp⟩
    | some (.failed e), ⟨shown, ended⟩ => exact ⟨_, shown, ended, by simp⟩
    | none, ⟨shown, ended⟩ => exact ⟨_, shown, ended, by simp⟩
  obtain ⟨last, shown, later, gone⟩ := some
  refine ⟨last, ?_, later.shows.state?, gone⟩
  rw [later.shows.noticesSince]
  exact later.bounded

end Dialing

end StreamHost.Client

/-! ## Both sides -/

namespace StreamHost

open Connection (Shared Wire Bounded told)

/-- All notices about a connection come after the start, which all observers hear of first, and before the
end; only the failure of a handler of a server comes after the end. That is so whatever the handler and
whoever has its connection do, as long as they report nothing themselves. -/
theorem notices_come_between_start_and_end (s : Shared) (running : s.hub.failing = false) :
    (∀ (b : Server.Blueprint) (server : Server) (client : Address.Endpoint) (w : Wire) (t : Shared)
      (x : Server.Session) (out : Server.Session.Outside), (∀ o ∈ b.pipeline.observers, o.IsBystander) →
      server.observers = b.pipeline.observers →
      Server.Session.Goes b ({ s with hub := (Server.enroll s.hub server client).1 },
        ⟨s.hub.lifecycles.length, .starting w⟩, .nobody) [] (t, x, out) →
      ∃ last timely late, s.hub.noticesSince t.hub x.id = timely ++ late ∧
        Bounded b.pipeline.observers x.id last timely ∧ t.hub.state? x.id = some last ∧
        (late = [] ∨ x.phase = .ended ∧
          .handling x.id ∈ Server.Session.effectsSince s.hub t.hub x.id ∧
          ∃ e, late = told b.pipeline.observers x.id (.error (.io e)))) ∧
    (∀ (b : Client.Blueprint) (target : Address.Target) (socket : Nat) (limit : Duration)
      (alarm : Alarm) (t : Shared) (d : Option Client.Dialing),
      (∀ o ∈ b.pipeline.observers, o.IsBystander) →
      Client.Dialing.Goes b s.hub.lifecycles.length
        (Client.Dialing.establish b s target socket limit alarm) (t, d) →
      ∃ last, Bounded b.pipeline.observers s.hub.lifecycles.length last
          (s.hub.noticesSince t.hub s.hub.lifecycles.length) ∧
        t.hub.state? s.hub.lifecycles.length = some last ∧
        (d = none ∨ (∃ e, d = some (.failed e)) → last = .disposed)) := by
  constructor
  · intro b server client w t x out bystanders serves goes
    exact goes.notices running bystanders serves
  · intro b target socket limit alarm t d bystanders goes
    exact goes.notices running bystanders

/-- A client with one observer and a hook that disposes its connection. -/
def fleetingClient : Client.Blueprint where
  pipeline := { observers := [{ name := "log" }], hooks := [{ name := "hook", effect := .dispose }] }

/-- Its connection, given up at once. -/
def fleetingStay : Shared :=
  let start := Client.Dialing.establish fleetingClient {} (.unix "s.sock") 0 (Duration.ofSecs 1) ⟨0⟩
  start.2.letGo start.1

theorem notices_of_fleeting_stay :
    ({} : Connection.Hub).noticesSince fleetingStay.hub 0 = [.notified "log" 0 (.state .connected),
      .notified "log" 0 (.state .disconnecting), .notified "log" 0 (.state .disposed)] ∧
    ∃ last, Bounded fleetingClient.pipeline.observers 0 last
        (({} : Connection.Hub).noticesSince fleetingStay.hub 0) ∧
      fleetingStay.hub.state? 0 = some last ∧ last = .disposed := by
  have bystanders : ∀ o ∈ fleetingClient.pipeline.observers, o.IsBystander := by
    simp [fleetingClient, Connection.Observer.IsBystander]
  obtain ⟨last, bounded, state, ended⟩ := (notices_come_between_start_and_end {} rfl).2 fleetingClient
    (.unix "s.sock") 0 (Duration.ofSecs 1) ⟨0⟩ fleetingStay none bystanders (.letGo .start)
  exact ⟨by decide +kernel, last, bounded, state, ended (.inl rfl)⟩

/-- A server with one observer and a handler that reads once and fails. -/
def brittleService : Server.Blueprint where
  pipeline := { observers := [{ name := "log" }] }
  handler := .fail

/-- A guest of that server who says something. -/
def loudGuest : Shared × Server.Session :=
  let server := Server.start (.unix none) brittleService.pipeline.observers none ⟨1, 1⟩
  let accepted : Shared := { hub := (Server.enroll {} server (.unix none)).1 }
  Server.Session.poll {} brittleService accepted ⟨0, .starting (.script { reads := [.data [104, 105]] })⟩

/-- The failure of a handler is reported after the end of its connection. -/
theorem failure_comes_after_the_end :
    ({} : Connection.Hub).noticesSince loudGuest.1.hub 0 = [.notified "log" 0 (.state .connected),
      .notified "log" 0 (.state .configured), .notified "log" 0 (.state .disconnecting),
      .notified "log" 0 (.state .disposed), .notified "log" 0 (.error (.io (.bare .invalidData)))] ∧
    ¬ ∃ last, Bounded brittleService.pipeline.observers 0 last
      (({} : Connection.Hub).noticesSince loudGuest.1.hub 0) := by
  have notices : ({} : Connection.Hub).noticesSince loudGuest.1.hub 0 = [
      .notified "log" 0 (.state .connected), .notified "log" 0 (.state .configured),
      .notified "log" 0 (.state .disconnecting), .notified "log" 0 (.state .disposed),
      .notified "log" 0 (.error (.io (.bare .invalidData)))] := by
    decide +kernel
  refine ⟨notices, ?_⟩
  rintro ⟨last, between, split, inside⟩
  rw [notices] at split
  have one : ∀ s, told brittleService.pipeline.observers 0 (.state s) = [.notified "log" 0 (.state s)] :=
    fun _ => rfl
  by_cases ended : last = .disposed
  · rw [if_pos ended, one .disposed] at split
    have ends := congrArg List.getLast? split
    rw [List.getLast?_concat] at ends
    exact absurd ends (by decide)
  · simp only [one, ended, ↓reduceIte, List.append_nil, List.singleton_append, List.cons.injEq] at split
    obtain ⟨-, rfl⟩ := split
    have early := (inside (.notified "log" 0 (.state .disposed)) (by simp) "log").2
    exact early rfl

end StreamHost
