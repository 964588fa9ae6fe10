import StreamHost.Proofs.HubUpdates

/-!
Any number of servers and clients over one network and one clock, in any order. Servers are bound, take
clients and are disposed; their sessions go on, end, fail or break down; clients dial, use their connections
as they like and give them up; lifecycles and groups are used by hand. All of it is made of updates.
-/

namespace StreamHost

open Connection (Shared Event Hub Registers)

/-- Servers and clients, and all that they share. -/
structure RuntimeState where
  shared : Shared := {}
  servers : List Host.Running := []
  clients : List (Client.Blueprint × Client.Dialing) := []

/-! ## One server -/

namespace RunningServer

variable {name : String} {P : Hub → Prop} {v : RunningServer} {h h' : Hub} {s s' : Server}

/-- A move around a server that registers an observer once, if at all, and shows no telling that never
was. -/
def Move.IsPlain (name : String) : Move → Prop
  | .around op => op.Registers name
  | .elsewhere _ _ es => ∀ e ∈ es, e.isTelling = false
  | _ => True

/-- A server tells an observer of its connections, if at all, and its group exists. -/
structure Wired (name : String) (h : Hub) (s : Server) : Prop where
  registers : Registers name s.observers
  known : ∀ g ∈ s.group, g < h.groups.length

theorem Wired.onward (wired : Wired name h s) (same : s.SameWiring s')
    (grown : h.groups.length ≤ h'.groups.length) : Wired name h' s' where
  registers := same.observers ▸ wired.registers
  known g joined := Nat.lt_of_lt_of_le (wired.known g (same.group ▸ joined)) grown

theorem running_step_persists (persists : Hub.Persists name P) {s : Shared} {r : Host.Running}
    (wired : Wired name s.hub r.server) (before : P s.hub) (op : Server.Op) :
    P (r.step s op).1.hub ∧ r.server.SameWiring (r.step s op).2.server :=
  ⟨Server.step_persists (h := s.hub) persists wired.registers wired.known before op,
    Server.sameWiring_step (h := s.hub) op⟩

theorem receive_persists (persists : Hub.Persists name P) {s : Shared} {r : Host.Running}
    (wired : Wired name s.hub r.server) (before : P s.hub) (socket : Nat) :
    P (r.receive s socket).1.hub ∧ r.server.SameWiring (r.receive s socket).2.server := by
  obtain ⟨turned, same⟩ :=
    running_step_persists persists wired before (.turn (some (s.network.peerOf socket)))
  unfold Host.Running.receive
  generalize r.step s (.turn (some (s.network.peerOf socket))) = out at turned same
  obtain ⟨t, r'⟩ := out
  dsimp only
  split
  · exact ⟨turned, same⟩
  · exact ⟨Shared.dropWire_persists persists turned _, same⟩

/-- Whatever happens to a server, to its sessions and around them is made of updates. -/
theorem step_persists (persists : Hub.Persists name P) (wired : Wired name v.shared.hub v.running.server)
    {move : Move} (plain : move.IsPlain name) (before : P v.shared.hub) :
    P (v.step move).shared.hub ∧ v.running.server.SameWiring (v.step move).running.server := by
  have afresh : P (v.shared.onHub Hub.recover).hub := persists.fail false before
  have wired : Wired name (v.shared.onHub Hub.recover).hub v.running.server := ⟨wired.registers, wired.known⟩
  have stays : v.running.server.SameWiring v.running.server := ⟨rfl, rfl⟩
  cases move with
  | arrive network socket =>
    let s : Shared := { v.shared.onHub Hub.recover with network }
    exact receive_persists (s := s) persists wired afresh socket
  | server op =>
    simp only [step]
    split
    · exact running_step_persists persists wired afresh op
    · exact ⟨before, stays⟩
  | session id act =>
    simp only [step]
    split
    · exact ⟨Server.Session.after_persists persists (Server.Session.perform_persists persists afresh _ act) _,
        stays⟩
    · exact ⟨before, stays⟩
  | retire id =>
    simp only [step]
    split
    · obtain ⟨finished, same⟩ := running_step_persists persists wired afresh (.finish id)
      exact ⟨persists.fail false finished, same⟩
    · exact ⟨before, stays⟩
  | around op =>
    simp only [step]
    split
    · exact ⟨before, stays⟩
    · exact ⟨Hub.step_persists persists plain afresh, stays⟩
  | elsewhere now network es => exact ⟨persists.emitAll plain afresh, stays⟩

end RunningServer

namespace RuntimeState

open Client (Dialing)

/-- What the network says to whoever asks it for a target, if anything, and how it is by then. -/
abbrev Reply := Address.Target → Option (Network × Except IoError Nat)

/-- The answer of the network while nobody does anything else. -/
def answers (s : Shared) (reply : Reply) (target : Address.Target) : Option Shared.Answer :=
  (reply target).map fun a => ⟨{ s with network := a.1 }, a.2⟩

/-- What can happen. -/
inductive Move where
  /-- A server is bound, and its loop starts. -/
  | bind (b : Server.Blueprint) (limit : Duration) (reply : Reply)
  /-- Something happens to a server, to one of its sessions or around them. -/
  | server (k : Nat) (move : RunningServer.Move)
  /-- A client starts to connect. -/
  | dial (b : Client.Blueprint) (limit : Duration) (reply : Reply)
  /-- A client that is connecting goes on. -/
  | poll (k : Nat)
  /-- The owner of a connection uses it. -/
  | use (k : Nat) (u : Connection.Operation)
  /-- A client is given up, connected or not. -/
  | letGo (k : Nat)
  | around (op : Hub.Op)
  /-- Time passes, the network changes, and something is seen. -/
  | elsewhere (now : Nat) (network : Network) (es : List Event)

/-- One move. Nothing happens if it is impossible: who is not there does nothing, and no client joins a group
that does not exist. -/
def step (v : RuntimeState) (move : Move) : RuntimeState :=
  let s := v.shared.onHub Hub.recover
  match move with
  | .bind b limit reply =>
    match ({ shared := s } : Host).bindWith b limit (answers s reply) with
    | some (.ok h) => { v with shared := h.shared, servers := v.servers ++ h.running.toList }
    | _ => v
  | .server k move =>
    match v.servers[k]? with
    | some r =>
      let p := (RunningServer.mk v.shared r).step move
      { v with shared := p.shared, servers := v.servers.set k p.running }
    | none => v
  | .dial b limit reply =>
    if ∀ g ∈ b.group, g < v.shared.hub.groups.length then
      let (shared, d) := Dialing.startWith b s limit (answers s reply)
      { v with shared, clients := v.clients ++ [(b, d)] }
    else v
  | .poll k =>
    match v.clients[k]? with
    | some (b, d) =>
      let (shared, d) := d.poll b s
      { v with shared, clients := v.clients.set k (b, d) }
    | none => v
  | .use k u =>
    match v.clients[k]? with
    | some (b, .connected c) =>
      let (shared, c) := u.apply s c
      { v with shared, clients := v.clients.set k (b, .connected c) }
    | _ => v
  | .letGo k =>
    match v.clients[k]? with
    | some (_, d) => { v with shared := d.letGo s, clients := v.clients.eraseIdx k }
    | none => v
  | .around op => { v with shared := s.onHub (·.step op) }
  | .elsewhere now network es => { v with shared := { now, network, hub := s.hub.emitAll es } }

def run (v : RuntimeState) (moves : List Move) : RuntimeState := moves.foldl step v

/-- A move that registers an observer once at each new connection, if at all, and shows no telling that never
was. -/
def Move.IsPlain (name : String) : Move → Prop
  | .bind b _ _ => Registers name b.pipeline.observers
  | .server _ move => move.IsPlain name
  | .dial b _ _ => Registers name b.pipeline.observers
  | .around op => op.Registers name
  | .elsewhere _ _ es => ∀ e ∈ es, e.isTelling = false
  | _ => True

variable {name : String} {P : Hub → Prop} {v : RuntimeState} {b : Server.Blueprint}

/-- A server that is bound starts on its own listener, over the lifecycles that there are. -/
theorem serve_of_answers {s : Shared} {limit : Duration} {reply : Reply} {g : Host}
    (bound : ({ shared := s } : Host).bindWith b limit (answers s reply) = some (.ok g)) :
    ∃ network l, g = ({ shared := { s with network } } : Host).serve b l := by
  unfold Host.bindWith answers at bound
  split at bound
  · simp at bound
  · rename_i target _
    cases answered : reply target with
    | none => simp [answered] at bound
    | some a =>
      obtain ⟨network, result⟩ := a
      simp only [answered, Option.map_some] at bound
      obtain ⟨made, -, bound⟩ := Option.map_eq_some_iff.mp bound
      cases made with
      | error e => cases bound
      | ok l => exact ⟨network, l.2, (Except.ok.inj bound).symm⟩

/-- Binding a server changes nothing, or the server is there with its listener. -/
theorem step_bind (v : RuntimeState) (b : Server.Blueprint) (limit : Duration) (reply : Reply) :
    v.step (.bind b limit reply) = v ∨ ∃ network l,
      let h := ({ shared := { v.shared.onHub Hub.recover with network } } : Host).serve b l
      v.step (.bind b limit reply) =
        { v with shared := h.shared, servers := v.servers ++ h.running.toList } := by
  simp only [step]
  split
  · rename_i h bound
    obtain ⟨network, l, rfl⟩ := serve_of_answers bound
    exact .inr ⟨network, l, rfl⟩
  · exact .inl rfl

theorem serve_persists (persists : Hub.Persists name P) {h : Host} (before : P h.shared.hub) (l : Listener) :
    P (h.serve b l).shared.hub := by
  unfold Host.serve
  cases b.tracked with
  | true => exact persists _ .newGroup trivial before
  | false => exact before

theorem wired_of_serve {h : Host} {r : Host.Running} (registers : Registers name b.pipeline.observers)
    {l : Listener} (runs : (h.serve b l).running = some r) :
    RunningServer.Wired name (h.serve b l).shared.hub r.server := by
  unfold Host.serve at runs ⊢
  obtain rfl := Option.some.inj runs
  refine ⟨registers, fun g joined => ?_⟩
  cases tracked : b.tracked with
  | true =>
    have joined : g ∈ some h.shared.hub.groups.length := by
      simpa [tracked, Server.start, Hub.newGroup] using joined
    obtain rfl := Option.some.inj joined
    simp [Hub.newGroup]
  | false => simp [tracked, Server.start] at joined

/-- All servers are such that what they do is made of updates. -/
def Wired (name : String) (v : RuntimeState) : Prop :=
  ∀ r ∈ v.servers, RunningServer.Wired name v.shared.hub r.server

theorem startWith_persists (persists : Hub.Persists name P) {s : Shared} {b : Client.Blueprint}
    {limit : Duration} {reply : Reply} (registers : Registers name b.pipeline.observers)
    (known : ∀ g ∈ b.group, g < s.hub.groups.length) (before : P s.hub) :
    P (Dialing.startWith b s limit (answers s reply)).1.hub := by
  unfold Dialing.startWith answers
  split
  · exact before
  · exact before
  · rename_i deadline target _ _
    cases reply target with
    | none => exact before
    | some a =>
      obtain ⟨network, result⟩ := a
      let t : Shared := { s with network }
      have asked : P t.hub := before
      cases result with
      | error e => exact asked
      | ok socket =>
        dsimp only [Option.map_some]
        split
        · exact Shared.dropWire_persists persists asked _
        · exact Dialing.establish_persists (s := t) persists registers known asked _ _ _ _

/-- Whatever happens is made of updates. -/
theorem step_persists (persists : Hub.Persists name P) (wired : v.Wired name) {move : Move}
    (plain : move.IsPlain name) (before : P v.shared.hub) : P (v.step move).shared.hub := by
  have afresh : P (v.shared.onHub Hub.recover).hub := persists.fail false before
  cases move with
  | bind b limit reply =>
    rcases step_bind v b limit reply with refused | ⟨network, l, opened⟩
    · rw [refused]
      exact before
    · rw [opened]
      exact serve_persists persists afresh l
  | server k move =>
    simp only [step]
    split
    · rename_i r found
      have wired := wired r (List.mem_of_getElem? found)
      exact (RunningServer.step_persists (v := ⟨v.shared, r⟩) persists wired plain before).1
    · exact before
  | dial b limit reply =>
    simp only [step]
    split
    · rename_i known
      exact startWith_persists persists plain known afresh
    · exact before
  | poll k =>
    simp only [step]
    split
    · exact Dialing.poll_persists persists afresh _
    · exact before
  | use k u =>
    simp only [step]
    split
    · exact (Connection.Operation.apply_keeps (persists.bears _) ⟨afresh, rfl⟩ u).1
    · exact before
  | letGo k =>
    simp only [step]
    split
    · exact Dialing.letGo_persists persists afresh _
    · exact before
  | around op => exact Hub.step_persists persists plain afresh
  | elsewhere now network es => exact persists.emitAll plain afresh

/-- No group is ever lost. -/
theorem groups_persist (name : String) (n : Nat) : Hub.Persists name fun h => n ≤ h.groups.length := by
  intro h update _ before
  have endures := Hub.groups_endure n
  cases update with
  | newGroup => exact endures.newGroup before
  | create localEnd remoteEnd os group =>
    simp only [Hub.perform]
    split <;> exact before
  | call id c => exact (endures.withstands id).call c before
  | reportError id e | reportCompletion id c => exact endures.report id _ before
  | closeAll g => exact (endures.withstands 0).closeAll before
  | letGo id => exact endures.letGo id before
  | fail | shown => exact before

theorem Wired.step (wired : v.Wired name) {move : Move} (plain : move.IsPlain name) :
    (v.step move).Wired name := by
  have grown : v.shared.hub.groups.length ≤ (v.step move).shared.hub.groups.length :=
    step_persists (groups_persist name _) wired plain (Nat.le_refl _)
  have others : ∀ r ∈ v.servers, RunningServer.Wired name (v.step move).shared.hub r.server :=
    fun r member => (wired r member).onward ⟨rfl, rfl⟩ grown
  intro r member
  cases move with
  | bind b limit reply =>
    rcases step_bind v b limit reply with refused | ⟨network, l, opened⟩
    · exact others r (refused ▸ member)
    · rw [opened] at member ⊢
      rcases List.mem_append.mp member with early | new
      · exact opened ▸ others r early
      · exact wired_of_serve plain (Option.mem_toList.mp new)
  | server k move =>
    cases found : v.servers[k]? with
    | none =>
      have same : (v.step (.server k move)).servers = v.servers := by simp only [RuntimeState.step, found]
      exact others r (same ▸ member)
    | some x =>
      have moved : (v.step (.server k move)).servers =
          v.servers.set k ((RunningServer.mk v.shared x).step move).running := by
        simp only [RuntimeState.step, found]
      rw [moved] at member
      rcases List.mem_or_eq_of_mem_set member with early | rfl
      · exact others r early
      · have own := wired x (List.mem_of_getElem? found)
        have persists := groups_persist name v.shared.hub.groups.length
        have kept := RunningServer.step_persists (v := ⟨v.shared, x⟩) persists own plain (Nat.le_refl _)
        exact own.onward kept.2 grown
  | dial | poll | use | letGo =>
    refine others r ?_
    simp only [RuntimeState.step] at member
    split at member <;> exact member
  | around | elsewhere => exact others r member

theorem run_persists (persists : Hub.Persists name P) (wired : v.Wired name) {moves : List Move}
    (plain : ∀ move ∈ moves, move.IsPlain name) (before : P v.shared.hub) : P (v.run moves).shared.hub := by
  induction moves generalizing v with
  | nil => exact before
  | cons move rest ih =>
    have first := plain move List.mem_cons_self
    exact ih (wired.step first) (fun m member => plain m (List.mem_cons_of_mem _ member))
      (step_persists persists wired first before)

/-- Whatever happens from the beginning, there are updates that it is made of. -/
theorem exists_updates (moves : List Move) (plain : ∀ move ∈ moves, move.IsPlain name) :
    ∃ updates : List Connection.HubUpdate, (∀ update ∈ updates, update.IsPlain name) ∧
      (run {} moves).shared.hub = Hub.performAll {} updates := by
  have persists : Hub.Persists name fun h => ∃ updates : List Connection.HubUpdate,
      (∀ update ∈ updates, update.IsPlain name) ∧ h = Hub.performAll {} updates := by
    rintro h update last ⟨updates, all, rfl⟩
    refine ⟨updates ++ [update], fun d member => ?_, ?_⟩
    · rcases List.mem_append.mp member with early | late
      · exact all d early
      · exact List.mem_singleton.mp late ▸ last
    · exact (Hub.performAll_concat updates update).symm
  have wired : Wired name {} := fun r member => by cases member
  exact run_persists persists wired plain ⟨[], by simp, rfl⟩

end RuntimeState

end StreamHost
