import StreamHost.Host
import StreamHost.Proofs.ClientNotices

/-!
Errors that lie in what the caller asked for, and when they come. All that a server is asked for is looked
at before the network is asked: whatever the network would say, such an error stays the same. The same
holds of a client with one exception. The name of the server for a handshake is looked for when the socket
is connected already; if there is none, observers hear that the connection starts, that it failed and that
it ends.
-/

namespace StreamHost

/-! ## Targets and names are refused for what they say -/

theorem Address.Options.configuration_of_target {o : Address.Options} {e : Error}
    (refused : o.target = .error e) : ∃ reason, e = .configuration reason := by
  unfold target at refused
  repeat' split at refused
  all_goals
    cases refused
  all_goals
    exact ⟨_, rfl⟩

theorem Client.Blueprint.configuration_of_target {b : Client.Blueprint} {e : Error}
    (refused : b.target = .error e) : ∃ reason, e = .configuration reason := by
  unfold target at refused
  cases aimed : b.remote.target with
  | error cause =>
    rw [aimed] at refused
    cases refused
    exact Address.Options.configuration_of_target aimed
  | ok t =>
    rw [aimed] at refused
    cases t with
    | inet host port =>
      by_cases missing : port = 0
      · simp only [missing, bind, Except.bind, if_true] at refused
        cases refused
        exact ⟨_, rfl⟩
      · simp only [missing, bind, Except.bind, if_false] at refused
        cases refused
    | unix path => cases refused

theorem Client.Security.configuration_of_serverNameFor {x : Client.Security} {host : Option String}
    {e : Error} (refused : x.serverNameFor host = .error e) : ∃ reason, e = .configuration reason := by
  unfold serverNameFor at refused
  split at refused
  · cases refused
    exact ⟨_, rfl⟩
  · split at refused
    · cases refused
    · cases refused
      exact ⟨_, rfl⟩

end StreamHost

namespace StreamHost.Client.Dialing

open Connection (Shared Wire Carrier Channel Hub Event told farewell)
open StreamHost.Stream (Layered)

variable {b : Blueprint} {s t : Shared} {e : Error} {id : Nat}

/-! ## Errors of a client -/

/-- A handshake fails because of the other side or because of the time. -/
theorem secure_failed {x : Securing} (failed : (secure b s x).2 = .failed e) :
    e.isConfiguration = false := by
  unfold secure at failed
  dsimp only at failed
  split at failed
  · simp [configure] at failed
  · cases failed
    rfl
  · split at failed
    · cases failed
      rfl
    · cases failed

/-- An error in what was asked for is there from the start. -/
theorem Goes.failed_at_start {start : Shared × Dialing} {now : Shared × Option Dialing}
    (goes : Goes b id start now) (failed : now.2 = some (.failed e)) (own : e.isConfiguration = true) :
    start.2 = .failed e := by
  induction goes with
  | start => exact Option.some.inj failed
  | @poll s d _ before =>
    have polled : (Dialing.poll b s d).2 = .failed e := Option.some.inj failed
    cases d with
    | securing x =>
      have foreign := secure_failed polled
      simp [own] at foreign
    | failed | connected => exact before (congrArg some polled)
  | use | letGo => cases failed
  | elsewhere _ _ _ _ before => exact before failed

/-- The client wants a handshake, and has no name for the server there that could be one. -/
def Nameless (b : Blueprint) (target : Address.Target) (e : Error) : Prop :=
  ∃ security, b.security = some security ∧ security.serverNameFor (host? target) = .error e

/-- What follows once a socket is connected fails only because of the server's name, if at all because of
what was asked for. -/
theorem establish_failed {target : Address.Target} {socket : Nat} {limit : Duration} {alarm : Alarm}
    (failed : (establish b s target socket limit alarm).2 = .failed e) (own : e.isConfiguration = true) :
    Nameless b target e := by
  unfold establish at failed
  dsimp only at failed
  cases secured : b.security with
  | none => simp [secured, configure] at failed
  | some security =>
    simp only [secured] at failed
    cases named : security.serverNameFor (host? target) with
    | error cause =>
      simp only [named] at failed
      cases failed
      exact ⟨security, secured, named⟩
    | ok name =>
      simp only [named] at failed
      have foreign := secure_failed failed
      simp [own] at foreign

/-- A client whose settings were found to be wrong did not ask the network, or it asked for a socket before
it looked for the server's name. -/
theorem startWith_failed {limit : Duration} {answer : Address.Target → Option Shared.Answer}
    (failed : (startWith b s limit answer).2 = .failed e) (own : e.isConfiguration = true) :
    (∀ other, startWith b s limit other = (s, .failed e)) ∨
    ∃ target t socket alarm, b.target = .ok target ∧ answer target = some ⟨t, .ok socket⟩ ∧
      Nameless b target e ∧ startWith b s limit answer = establish b t target socket limit alarm := by
  unfold startWith at failed ⊢
  cases fits : Deadline.check s.now limit with
  | error cause =>
    simp only [fits] at failed
    cases failed
    exact .inl fun _ => rfl
  | ok deadline =>
    cases aimed : b.target with
    | error cause =>
      simp only [fits, aimed] at failed
      cases failed
      exact .inl fun _ => rfl
    | ok target =>
      simp only [fits, aimed] at failed
      cases said : answer target with
      | none =>
        simp only [said] at failed
        cases failed
        cases own
      | some a =>
        obtain ⟨t, refusal | socket⟩ := a
        · simp only [said] at failed
          cases failed
          cases own
        · simp only [said] at failed
          by_cases elapsed : (⟨deadline⟩ : Alarm).isOver s.now = true
          · rw [if_pos elapsed] at failed
            cases failed
            cases own
          · rw [if_neg elapsed] at failed
            refine .inr ⟨target, t, socket, ⟨deadline⟩, rfl, said, establish_failed failed own, ?_⟩
            simp only [said]
            exact if_neg elapsed

/-! ## What observers hear of a client without a server's name -/

/-- A connection that is given up with an error. -/
theorem giveUp_shows {os : List Connection.Observer} {past shown : List Event}
    (shows : s.hub.Shows past id os (some .connected) shown) (held : s.hub.isHeld id = true)
    (bystanders : ∀ o ∈ os, o.IsBystander) (w : Wire) (e : Error) :
    (giveUp s id w (some e)).hub.Shows past id os (some .disposed)
      (shown ++ told os id (.error e) ++ farewell os id) := by
  obtain ⟨es, gone⟩ := s.dropWire_hub w
  have lost : (s.dropWire w).hub.Shows past id os (some .connected) shown :=
    gone ▸ shows.aside (Connection.filter_stream es)
  have reported := lost.report (.error e)
  have still : ((s.dropWire w).hub.reportError id e).isHeld id = true := by
    rw [Hub.isHeld, Hub.reportError, Hub.lifecycle?_report, gone]
    exact held
  change (((s.dropWire w).hub.reportError id e).drop id).Shows _ _ _ _ _
  rw [Hub.drop_of_isHeld still]
  have kept := reported.modify (j := id) (fun l => { l with held := false }) fun _ => ⟨rfl, rfl⟩
  exact kept.dispose bystanders (by decide)

/-- A connection whose server's name is missing has started when that is found, and then ends. -/
theorem nameless_notices {target : Address.Target} {socket : Nat} {limit : Duration} {alarm : Alarm}
    (nameless : Nameless b target e) (running : s.hub.failing = false)
    (bystanders : ∀ o ∈ b.pipeline.observers, o.IsBystander) :
    let id := s.hub.lifecycles.length
    s.hub.noticesSince (establish b s target socket limit alarm).1.hub id =
      told b.pipeline.observers id (.state .connected) ++ told b.pipeline.observers id (.error e) ++
        farewell b.pipeline.observers id := by
  intro id
  obtain ⟨security, secured, unnamed⟩ := nameless
  let made : Hub := (s.hub.create (.unix none) (remoteEnd target) b.pipeline.observers b.group).1
  have connected : (made.connected id).Shows s.hub.events id b.pipeline.observers (some .connected)
      (told b.pipeline.observers id (.state .connected)) :=
    Hub.Shows.of_create running bystanders (.unix none) (remoteEnd target) b.group
  have held : (made.connected id).isHeld id = true := Hub.isHeld_connected_create
  obtain ⟨es, wrapped, own⟩ := b.pipeline.wrapTransport_hub { s with hub := made.connected id } id
    (.socket socket)
  have staged := connected.emitAll es
  rw [own, b.pipeline.filter_staging, if_pos rfl, ← wrapped] at staged
  have ended := giveUp_shows staged (wrapped ▸ held) bystanders
    (b.pipeline.wrapTransport { s with hub := made.connected id } id (.socket socket)).2.inner e
  have established : (establish b s target socket limit alarm).1 =
      giveUp (b.pipeline.wrapTransport { s with hub := made.connected id } id (.socket socket)).1 id
        (b.pipeline.wrapTransport { s with hub := made.connected id } id (.socket socket)).2.inner
        (some e) := by
    unfold establish
    simp only [secured, unnamed]
    rfl
  rw [established, ended.noticesSince]
  have silent : (b.pipeline.staging id).filter (Event.isNotice id) = [] :=
    List.filter_eq_nil_iff.mpr fun _ member => by
      simp [Connection.Pipeline.isNotice_of_mem_staging member]
  simp [List.filter_append, silent, Connection.filter_notice_told, farewell]

end StreamHost.Client.Dialing

namespace StreamHost

open Connection (Shared told farewell)

/-! ## Errors of a server -/

/-- A server whose settings were found to be wrong did not ask the network. -/
theorem Host.bindWith_failed {h : Host} {b : Server.Blueprint} {limit : Duration}
    {answer : Address.Target → Option Shared.Answer} {e : Error}
    (failed : h.bindWith b limit answer = some (.error e)) (own : e.isConfiguration = true)
    (other : Address.Target → Option Shared.Answer) : h.bindWith b limit other = some (.error e) := by
  unfold Host.bindWith at failed ⊢
  cases checked : b.check h.shared.now limit with
  | error cause =>
    simpa only [checked] using failed
  | ok target =>
    simp only [checked] at failed
    cases said : answer target with
    | none =>
      simp only [said] at failed
      cases failed
      cases own
    | some a =>
      obtain ⟨t, refusal | number⟩ := a
      · simp only [said, Except.map, Listener.ofBound, Option.map_some] at failed
        cases failed
        cases own
      · simp only [said, Except.map, Listener.ofBound, Option.map_eq_some_iff] at failed
        obtain ⟨_, ⟨_, -, rfl⟩, serves⟩ := failed
        cases serves

/-! ## Both sides -/

/-- An error in what was asked for comes before the network is asked, and nothing has changed then. The one
exception is the name of the server for a handshake: the socket is connected when it turns out to be missing, and
the observers hear of a connection that starts, fails and ends. -/
theorem configuration_errors_come_before_effects (client : Client.Blueprint)
    (server : Server.Blueprint) (s : Shared) (h : Host) (limit : Duration)
    (answer : Address.Target → Option Shared.Answer) (e : Error) (own : e.isConfiguration = true) :
    (∀ (id : Nat) (t : Shared),
      Client.Dialing.Goes client id (Client.Dialing.startWith client s limit answer)
        (t, some (.failed e)) →
      (∀ other, Client.Dialing.startWith client s limit other = (s, .failed e)) ∨
      ∃ target u socket, client.target = .ok target ∧ answer target = some ⟨u, .ok socket⟩ ∧
        Client.Dialing.Nameless client target e ∧
        (u.hub.failing = false → (∀ o ∈ client.pipeline.observers, o.IsBystander) →
          u.hub.noticesSince (Client.Dialing.startWith client s limit answer).1.hub
              u.hub.lifecycles.length =
            told client.pipeline.observers u.hub.lifecycles.length (.state .connected) ++
            told client.pipeline.observers u.hub.lifecycles.length (.error e) ++
            farewell client.pipeline.observers u.hub.lifecycles.length)) ∧
    (h.bindWith server limit answer = some (.error e) →
      ∀ other, h.bindWith server limit other = some (.error e)) := by
  constructor
  · intro id t goes
    have failed := goes.failed_at_start rfl own
    rcases Client.Dialing.startWith_failed failed own with untouched | late
    · exact .inl untouched
    · obtain ⟨target, u, socket, alarm, aimed, said, nameless, established⟩ := late
      refine .inr ⟨target, u, socket, aimed, said, nameless, fun running bystanders => ?_⟩
      rw [established]
      exact Client.Dialing.nameless_notices nameless running bystanders
  · intro failed other
    exact Host.bindWith_failed failed own other

/-- A client without a port, and a server without a place, whatever the network would have said. -/
theorem missing_settings_are_found_first :
    (∀ other, Client.Dialing.startWith { remote := { host := some "127.0.0.1" } } {} (Duration.ofSecs 1)
      other = ({}, .failed (.configuration "remote port is required"))) ∧
    ∀ other, ({} : Host).bindWith { address := { unixPath := some "s.sock" }, maxConnections := 0 }
      (Duration.ofSecs 1) other =
        some (.error (.configuration "max_connections must be greater than zero")) := by
  have settled := configuration_errors_come_before_effects { remote := { host := some "127.0.0.1" } }
    { address := { unixPath := some "s.sock" }, maxConnections := 0 } {} {} (Duration.ofSecs 1)
    fun _ => none
  constructor
  · rcases (settled (.configuration "remote port is required") rfl).1 0 {} .start with untouched | late
    · exact untouched
    · obtain ⟨_, _, _, -, said, -⟩ := late
      cases said
  · exact (settled (.configuration "max_connections must be greater than zero") rfl).2 rfl

/-- A client with one observer that wants a handshake over a domain socket and names no server. -/
def namelessClient : Client.Blueprint where
  remote := { unixPath := some "s.sock" }
  security := some {}
  pipeline := { observers := [{ name := "log" }] }

/-- Somebody listens there. -/
def openDoor : Shared := { network := (({} : Network).listen (.unix (some "s.sock"))).1 }

/-- What comes of that client when it is let in. -/
def namelessGuest : Shared × Client.Dialing :=
  Client.Dialing.startWith namelessClient openDoor (Duration.ofSecs 5) fun _ =>
    some (openDoor.ask fun n => .ok (n.pair 0 none))

/-- Its error comes when the connection waits at the listener and the observer has heard four notices. -/
theorem nameless_client_connects_first :
    let e : Error := .configuration "TLS over a domain socket needs an explicit server name"
    namelessGuest.2 = .failed e ∧ e.isConfiguration = true ∧
    openDoor.network.listeners.map (·.waiting) = [[]] ∧
    namelessGuest.1.network.listeners.map (·.waiting) = [[1]] ∧
    openDoor.hub.noticesSince namelessGuest.1.hub 0 = [.notified "log" 0 (.state .connected),
      .notified "log" 0 (.error e), .notified "log" 0 (.state .disconnecting),
      .notified "log" 0 (.state .disposed)] := by
  refine ⟨rfl, rfl, rfl, rfl, ?_⟩
  decide +kernel

end StreamHost
