import StreamHost.Proofs.Occupancy

/-!
A server, its sessions and everything around, in any order. Clients come, the loop fails to accept one and
pauses, handshakes go on, handlers use their connections as they like, end, fail or break down, connections
are asked to close, and the server is disposed: whatever happens, no place of the server is lost and none is
made up, so there are never more accepted connections alive than there are places.
-/

namespace StreamHost

open Connection (Shared Event Hub)

/-- A server with its sessions, and all that they share with everything around. -/
structure RunningServer where
  shared : Shared
  running : Host.Running

namespace RunningServer

open Server (Session Blueprint)

/-- What can happen: something to the server, to one of its sessions, or around them. -/
inductive Move where
  /-- The loop takes a turn while a client waits. -/
  | arrive (network : Network) (socket : Nat)
  | server (op : Server.Op)
  | session (id : Nat) (act : Session.Act)
  /-- The task of a session that is over ends. -/
  | retire (id : Nat)
  | around (op : Hub.Op)
  /-- Time passes, the network changes, and something is seen. -/
  | elsewhere (now : Nat) (network : Network) (es : List Event)

/-- Whether an operation gives up a connection that a task holds. -/
def takes (r : Host.Running) : Hub.Op → Bool
  | .drop id => r.server.serving.contains id
  | _ => false

/-- A server that runs over what everybody shares. -/
def of (out : Shared × Host.Running) : RunningServer := ⟨out.1, out.2⟩

/-- One move. Nothing happens if it is impossible: a client comes and goes only with a session, and nobody
gives up what a task holds. -/
def step (v : RunningServer) (move : Move) : RunningServer :=
  let s := v.shared.onHub Hub.recover
  let r := v.running
  match move with
  | .arrive network socket => of (r.receive { s with network } socket)
  | .server op => if op.isOwn then of (r.step s op) else v
  | .session id act =>
    match r.session? id with
    | some x => let (s, x) := x.after (act.perform r.blueprint s x); ⟨s, r.update x⟩
    | none => v
  | .retire id =>
    match r.session? id with
    | some ⟨_, .ended⟩ => of (r.retire s id)
    | _ => v
  | .around op => if takes r op then v else ⟨s.onHub (·.step op), r⟩
  | .elsewhere now network es => ⟨{ now, network, hub := s.hub.emitAll es }, r⟩

def run (v : RunningServer) (moves : List Move) : RunningServer := moves.foldl step v

/-- How many accepted connections are not disposed yet. -/
def alive (v : RunningServer) : Nat :=
  (v.running.server.accepted.filter fun id => !v.shared.hub.isDisposed id).length

variable {b : Blueprint} {v : RunningServer}

abbrev Orderly (b : Blueprint) (v : RunningServer) : Prop := v.running.Orderly b v.shared.hub

theorem Orderly.step (orderly : v.Orderly b) (move : Move) : (v.step move).Orderly b := by
  have afresh : v.running.Orderly b v.shared.hub.recover :=
    orderly.elsewhere fun _ l found => ⟨l, found, .refl l⟩
  cases move with
  | arrive network socket =>
    exact afresh.receive (s := { v.shared.onHub Hub.recover with network }) rfl socket
  | server op =>
    simp only [RunningServer.step]
    split
    · rename_i own
      exact afresh.quiet (Server.isQuiet_step own)
    · exact orderly
  | session id act =>
    simp only [RunningServer.step]
    split
    · rename_i x found
      rw [orderly.blueprint]
      exact afresh.act (s := v.shared.onHub Hub.recover) rfl (Host.Running.mem_of_session? found).1 act
    · exact orderly
  | retire id =>
    simp only [RunningServer.step]
    split
    · rename_i j found
      obtain ⟨member, rfl⟩ := Host.Running.mem_of_session? found
      exact afresh.retire (s := v.shared.onHub Hub.recover) rfl member rfl
    · exact orderly
  | around op =>
    simp only [RunningServer.step]
    split
    · exact orderly
    · rename_i free
      refine afresh.onward (.refl _) rfl rfl (fun id => Hub.goesOn_step _ op id) fun id serves => ?_
      have other : op ≠ .drop id := by
        rintro rfl
        exact free (List.contains_iff_mem.mpr serves)
      exact (Hub.staysOn_step other).isHeld
  | elsewhere now network es =>
    exact afresh.elsewhere fun id => (Hub.Evolves.events (.refl 0 _)).staysOn id

theorem Orderly.run (orderly : v.Orderly b) (moves : List Move) : (v.run moves).Orderly b := by
  induction moves generalizing v with
  | nil => exact orderly
  | cons move rest ih => exact ih (orderly.step move)

/-- A server is started on the places that its blueprint asks for, and there is one at least. -/
theorem serve_of_bindWith {h g : Host} {limit : Duration}
    {answer : Address.Target → Option Shared.Answer}
    (bound : h.bindWith b limit answer = some (.ok g)) :
    0 < b.maxConnections ∧ ∃ h' number localEnd,
      g = Host.serve h' b ⟨number, localEnd, ⟨b.maxConnections, b.maxConnections⟩⟩ := by
  unfold Host.bindWith at bound
  cases checked : b.check h.shared.now limit with
  | error e =>
    rw [checked] at bound
    simp at bound
  | ok target =>
    simp only [checked] at bound
    cases said : answer target with
    | none => simp [said] at bound
    | some a =>
      obtain ⟨t, refusal | number⟩ := a
      · simp [said, Except.map, Listener.ofBound] at bound
      · have fits : b.maxConnections ≤ Places.most := by
          refine Decidable.byContradiction fun beyond => ?_
          simp [said, Except.map, Listener.ofBound, Places.ofLimit?, beyond] at bound
        simp only [said, Except.map, Listener.ofBound, Places.ofLimit?, if_pos fits, Option.map_some,
          Option.some.injEq, Except.ok.injEq] at bound
        exact ⟨Blueprint.pos_of_check checked, _, _, _, bound.symm⟩

theorem orderly_of_serve (h : Host) (number : Nat) (localEnd : Address.Endpoint) {r : Host.Running}
    (runs : (h.serve b ⟨number, localEnd, ⟨b.maxConnections, b.maxConnections⟩⟩).running = some r) :
    (mk (h.serve b ⟨number, localEnd, ⟨b.maxConnections, b.maxConnections⟩⟩).shared r).Orderly b := by
  obtain rfl := Option.some.inj runs
  exact .start b _ localEnd _ number

/-- The places of a server add up, whatever happens: those that are free, those of the tasks and the one of
the loop are as many as it was given. So there are never more accepted connections alive than that; and when
neither a task nor the loop has a place, all are free. A connection without a task is disposed, unless the
loop died of it. -/
theorem places_add_up (h g : Host) (b : Blueprint) (limit : Duration)
    (answer : Address.Target → Option Shared.Answer) (r : Host.Running)
    (bound : h.bindWith b limit answer = some (.ok g)) (runs : g.running = some r)
    (moves : List Move) :
    let v := (mk g.shared r).run moves
    let server := v.running.server
    0 < b.maxConnections ∧ v.alive ≤ b.maxConnections ∧
      server.places.free + v.running.sessions.length + server.pendingAccepts = b.maxConnections ∧
      (v.running.sessions = [] → server.loop ≠ .accepting → server.places.free = b.maxConnections) ∧
      ∀ id ∈ server.accepted, (∀ x ∈ v.running.sessions, x.id ≠ id) → server.loop ≠ .broken →
        v.shared.hub.isDisposed id = true := by
  intro v server
  obtain ⟨least, h', number, localEnd, rfl⟩ := serve_of_bindWith bound
  have orderly : v.Orderly b := (orderly_of_serve h' number localEnd runs).run moves
  have tasks : v.running.sessions.length = server.serving.length := by
    rw [← orderly.tasks, List.length_map]
  have places : server.places.free + v.running.sessions.length + server.pendingAccepts =
      b.maxConnections := by
    rw [tasks]
    exact orderly.places
  refine ⟨least, orderly.length_alive_le, places, fun idle unready => ?_, fun id accepted idle alive => ?_⟩
  · simpa [idle, Server.pendingAccepts, unready] using places
  · refine orderly.isDisposed_of_not_serving alive accepted fun serves => ?_
    rw [← orderly.tasks] at serves
    obtain ⟨x, member, same⟩ := List.mem_map.mp serves
    exact idle x member same

/-- A service with one place, a handler that leaves at once, and an observer that fails at every closing. -/
def turnstile : Blueprint where
  address := { unixPath := some "s.sock" }
  pipeline := { observers := [{ name := "log", reactions := [(.disconnecting, .fail)] }] }
  maxConnections := 1
  handler := .leave

/-- A network that lets it listen. -/
def welcome : Shared.Answer := ({} : Shared).ask fun n => .ok (n.listen (.unix (some "s.sock")))

/-- The program when the service is bound. -/
def opened : Host :=
  ({ shared := welcome.shared } : Host).serve turnstile ⟨0, .unix (some "s.sock"), ⟨1, 1⟩⟩

/-- The second client is not accepted while the first one is alive, nor when it is only closing, but once
the task of the first one has ended. -/
theorem one_client_at_a_time :
    let r : Host.Running :=
      { blueprint := turnstile
        server := .start (.unix (some "s.sock")) turnstile.pipeline.observers none ⟨1, 1⟩
        listener := 0 }
    let moves : List Move := [.arrive {} 0, .arrive {} 1, .session 0 (.goOn {}), .arrive {} 1, .retire 0,
      .arrive {} 1]
    let at? := fun n => (mk opened.shared r).run (moves.take n)
    ({} : Host).bindWith turnstile (Duration.ofSecs 1) (fun _ => some welcome) = some (.ok opened) ∧
    opened.running = some r ∧
    ((List.range 7).map fun n => (at? n).running.server.accepted) =
      [[], [0], [0], [0], [0], [0], [0, 1]] ∧
    ((List.range 7).map fun n => (at? n).alive) = [0, 1, 1, 1, 1, 0, 1] ∧
    ((List.range 7).map fun n => (at? n).running.server.places.free) = [1, 0, 0, 0, 0, 1, 0] ∧
    ∀ n, (at? n).alive ≤ 1 := by
  intro r moves at?
  have bound : ({} : Host).bindWith turnstile (Duration.ofSecs 1) (fun _ => some welcome) =
      some (.ok opened) := rfl
  have runs : opened.running = some r := rfl
  refine ⟨bound, runs, by decide +kernel, by decide +kernel, by decide +kernel, fun n => ?_⟩
  exact (places_add_up {} opened turnstile (Duration.ofSecs 1) (fun _ => some welcome) r bound runs
    (moves.take n)).2.1

/-! ## The program's own course

Whoever runs a server polls it with everything that belongs to it, in one order: `Host.Running.poll`. That is
one of the runs above. An observer that fails at a client, and again when the client is given up for that,
leaves the loop in the middle of something; then the program has ended. -/

/-- One state comes of another by moves. -/
def Reaches (v w : RunningServer) : Prop := ∃ moves, v.run moves = w

theorem Reaches.refl (v : RunningServer) : Reaches v v := ⟨[], rfl⟩

theorem Reaches.trans {w z : RunningServer} (first : Reaches v w) (second : Reaches w z) : Reaches v z := by
  obtain ⟨early, rfl⟩ := first
  obtain ⟨late, rfl⟩ := second
  exact ⟨early ++ late, List.foldl_append⟩

theorem Reaches.of_step {w : RunningServer} (move : Move) (goes : v.step move = w) : Reaches v w :=
  ⟨[move], goes⟩

theorem Reaches.orderly {w : RunningServer} (reaches : Reaches v w) (orderly : v.Orderly b) : w.Orderly b := by
  obtain ⟨moves, rfl⟩ := reaches
  exact orderly.run moves

/-! ### The loop -/

variable {s : Shared} {r : Host.Running}

theorem onHub_recover (running : s.hub.failing = false) : s.onHub Hub.recover = s := by
  rw [Shared.onHub, Hub.recover_eq running]

theorem reaches_step (running : s.hub.failing = false) (op : Server.Op) (own : op.isOwn = true) :
    Reaches ⟨s, r⟩ (of (r.step s op)) :=
  .of_step (.server op) (by simp only [step, own, if_true, onHub_recover running])

theorem step_running (running : s.hub.failing = false) (op : Server.Op) (own : op.isOwn = true) :
    (r.step s op).1.hub.failing = false :=
  (Server.isQuiet_step own).failing.trans running

theorem receive_eq (s : Shared) (r : Host.Running) (socket : Nat) :
    let turned := Server.turn s.hub r.server (some (s.network.peerOf socket))
    (r.receive s socket).1.hub.failing = turned.1.failing ∧
      (r.receive s socket).2.server = turned.2 := by
  unfold Host.Running.receive Host.Running.step Server.step
  dsimp only
  split <;> exact ⟨rfl, rfl⟩

/-- Only a loop that dies of a client leaves something unfinished. -/
theorem dead_of_failing {socket : Nat} (running : s.hub.failing = false)
    (failed : (r.receive s socket).1.hub.failing = true) :
    (r.receive s socket).2.server.loop = .broken := by
  obtain ⟨flag, server⟩ := receive_eq s r socket
  rw [flag] at failed
  rw [server]
  rcases Server.turn_settles s.hub r.server (some (s.network.peerOf socket)) with
    ⟨next, stays, -⟩ | ⟨c, -, -, enrolls⟩
  · rw [stays] at failed
    exact nomatch running.symm.trans failed
  · rw [enrolls] at failed ⊢
    unfold Server.enroll at failed ⊢
    dsimp only at failed ⊢
    split at failed
    · rename_i broke
      rw [if_pos broke]
    · rename_i calm
      exact absurd failed calm

theorem failing_acceptWithin (failed : s.hub.failing = true) (dead : r.server.loop = .broken)
    (room : Nat) : (r.acceptWithin room s).1.hub.failing = true := by
  cases room with
  | zero => exact failed
  | succ room =>
    have idle : r.server.wantsClient = false := by simp [Server.wantsClient, dead]
    have ended : r.server.loopEnded = true := by simp [Server.loopEnded, dead]
    simp [Host.Running.acceptWithin, idle, Host.Running.step, Server.step, Server.turn, ended, failed]

theorem reaches_acceptWithin (room : Nat) (running : s.hub.failing = false)
    (survives : (r.acceptWithin room s).1.hub.failing = false) :
    Reaches ⟨s, r⟩ (of (r.acceptWithin room s)) := by
  induction room generalizing s r with
  | zero => exact .refl _
  | succ room ih =>
    unfold Host.Running.acceptWithin at survives ⊢
    split at survives
    · exact reaches_step running _ rfl
    · rename_i network socket _
      have received : Reaches ⟨s, r⟩ (of (r.receive { s with network } socket)) :=
        .of_step (.arrive network socket) (by simp only [step, onHub_recover running])
      refine received.trans (ih ?_ survives)
      refine Bool.eq_false_iff.mpr fun failed => ?_
      have dead := dead_of_failing (s := { s with network }) running failed
      exact nomatch survives.symm.trans (failing_acceptWithin failed dead room)

/-! ### The sessions one after the other -/

theorem session?_update (r : Host.Running) (z : Session) (id : Nat) :
    (r.update z).session? id = (r.session? id).map fun y => if y.id = z.id then z else y := by
  have same : ((fun x : Session => x.id == id) ∘ fun y => if y.id = z.id then z else y) =
      fun x => x.id == id := by
    funext y
    dsimp only [Function.comp]
    split
    · rename_i equal
      rw [equal]
    · rfl
  rw [Host.Running.session?, Host.Running.update, List.find?_map, same]
  rfl

theorem session?_retire (s : Shared) (r : Host.Running) {j id : Nat} (other : j ≠ id) :
    (r.retire s j).2.session? id = r.session? id := by
  have same : (fun x : Session => decide (x.id != j ∧ x.id == id)) = fun x => x.id == id := by
    funext x
    by_cases own : x.id = id
    · simp [own, Ne.symm other]
    · simp [own]
  rw [Host.Running.session?, Host.Running.session?]
  show (r.sessions.filter _).find? _ = _
  rw [List.find?_filter]
  exact congrArg (fun p => r.sessions.find? p) same

/-- Each session is the only one of its connection. -/
theorem session?_of_mem (orderly : r.Orderly b s.hub) {x : Session} (member : x ∈ r.sessions) :
    r.session? x.id = some x := by
  have unique : (r.sessions.map Session.id).Nodup := by
    rw [orderly.tasks]
    exact orderly.once.sublist orderly.among
  have present : (r.session? x.id).isSome = true :=
    List.find?_isSome.mpr ⟨x, member, by simp⟩
  obtain ⟨y, found⟩ := Option.isSome_iff_exists.mp present
  obtain ⟨inside, same⟩ := Host.Running.mem_of_session? found
  rw [found, List.inj_on_of_nodup_map unique inside member same]

variable {acc : Shared × Host.Running}

theorem pollSession_running (acc : Shared × Host.Running) (x : Session) :
    (Host.Running.pollSession acc x).1.hub.failing = false := by
  unfold Host.Running.pollSession
  dsimp only
  split
  · rfl
  · exact x.poll_running {} _ _

/-- A poll of one session leaves the others where they are. -/
theorem session?_pollSession (acc : Shared × Host.Running) {x : Session} {id : Nat} (other : x.id ≠ id) :
    (Host.Running.pollSession acc x).2.session? id = acc.2.session? id := by
  obtain ⟨s, r⟩ := acc
  have own := x.poll_id {} r.blueprint s
  have still : ∀ z : Session, z.id = x.id → (r.update z).session? id = r.session? id := by
    intro z same
    rw [session?_update]
    cases found : r.session? id with
    | none => rfl
    | some y =>
      obtain ⟨-, rfl⟩ := Host.Running.mem_of_session? found
      rw [Option.map_some, if_neg fun equal => other (same.symm.trans equal.symm)]
  unfold Host.Running.pollSession
  dsimp only
  split
  · rw [own, session?_retire _ _ other]
    exact still _ own
  · exact still _ own

theorem reaches_pollSession (running : acc.1.hub.failing = false) {x : Session}
    (found : acc.2.session? x.id = some x) :
    Reaches (of acc) (of (Host.Running.pollSession acc x)) := by
  obtain ⟨s, r⟩ := acc
  have own := x.poll_id {} r.blueprint s
  have calm := x.poll_running {} r.blueprint s
  have moved : (r.update (x.poll {} r.blueprint s).2).session? x.id =
      some (x.poll {} r.blueprint s).2 := by
    rw [session?_update, found, Option.map_some, if_pos own.symm]
  have polled : Reaches ⟨s, r⟩ ⟨(x.poll {} r.blueprint s).1, r.update (x.poll {} r.blueprint s).2⟩ := by
    refine .of_step (.session x.id (.goOn {})) ?_
    simp only [step, onHub_recover running, found]
    rfl
  unfold Host.Running.pollSession
  dsimp only
  generalize x.poll {} r.blueprint s = out at own polled calm moved
  obtain ⟨t, id, phase⟩ := out
  obtain rfl : id = x.id := own
  dsimp only at polled calm moved ⊢
  split
  · refine polled.trans (.of_step (.retire x.id) ?_)
    simp only [step, moved, onHub_recover calm]
  · exact polled

theorem reaches_pollSessions (acc : Shared × Host.Running) (xs : List Session)
    (unique : (xs.map Session.id).Nodup)
    (running : acc.1.hub.failing = false) (found : ∀ x ∈ xs, acc.2.session? x.id = some x) :
    Reaches (of acc) (of (xs.foldl Host.Running.pollSession acc)) ∧
      (xs.foldl Host.Running.pollSession acc).1.hub.failing = false := by
  induction xs generalizing acc with
  | nil => exact ⟨.refl _, running⟩
  | cons x rest ih =>
    obtain ⟨fresh, others⟩ := List.nodup_cons.mp unique
    have first := reaches_pollSession running (found x List.mem_cons_self)
    obtain ⟨later, calm⟩ := ih _ others (pollSession_running acc x) fun y member => by
      have other : x.id ≠ y.id := fun same => fresh (same ▸ List.mem_map_of_mem member)
      rw [session?_pollSession acc other]
      exact found y (List.mem_cons_of_mem _ member)
    exact ⟨first.trans later, calm⟩

/-! ### The whole poll -/

theorem unbind_hub (s : Shared) (r : Host.Running) : (r.unbind s).hub = s.hub := by
  unfold Host.Running.unbind
  split <;> rfl

theorem reaches_unbind (running : s.hub.failing = false) : Reaches ⟨s, r⟩ ⟨r.unbind s, r⟩ := by
  unfold Host.Running.unbind
  split
  · exact .refl _
  · refine .of_step (.elsewhere s.now (s.network.unbind r.listener) []) ?_
    simp [step, onHub_recover running]

/-- A poll of a server is a run, unless the program has ended at a client. -/
theorem reaches_poll (orderly : r.Orderly b s.hub) (running : s.hub.failing = false)
    (survives : let woken := r.step s (.resume s.now)
      (woken.2.acceptWithin (woken.2.waiting woken.1 + 1) woken.1).1.hub.failing = false) :
    Reaches ⟨s, r⟩ (of (r.poll s)) := by
  have woken : Reaches ⟨s, r⟩ (of (r.step s (.resume s.now))) := reaches_step running _ rfl
  have awake : (r.step s (.resume s.now)).1.hub.failing = false := step_running running _ rfl
  unfold Host.Running.poll
  generalize r.step s (.resume s.now) = out at survives woken awake ⊢
  obtain ⟨s₁, r₁⟩ := out
  dsimp only at survives awake ⊢
  have accepted := woken.trans (reaches_acceptWithin _ awake survives)
  generalize r₁.acceptWithin (r₁.waiting s₁ + 1) s₁ = out at survives accepted ⊢
  obtain ⟨s₂, r₂⟩ := out
  dsimp only at survives ⊢
  have released := accepted.trans (reaches_unbind survives)
  have calm : (r₂.unbind s₂).hub.failing = false := by
    rw [unbind_hub]
    exact survives
  have tidy := released.orderly orderly
  have unique : (r₂.sessions.map Session.id).Nodup := by
    rw [tidy.tasks]
    exact tidy.once.sublist tidy.among
  obtain ⟨served, quiet⟩ := reaches_pollSessions (r₂.unbind s₂, r₂) r₂.sessions unique calm
    fun x member => session?_of_mem tidy member
  generalize r₂.sessions.foldl Host.Running.pollSession (r₂.unbind s₂, r₂) = out at served quiet ⊢
  obtain ⟨s₃, r₃⟩ := out
  dsimp only at quiet ⊢
  have drained := (released.trans served).trans (reaches_step quiet (.drain s₃.now) rfl)
  have still := step_running (r := r₃) quiet (.drain s₃.now) rfl
  generalize r₃.step s₃ (.drain s₃.now) = out at drained still ⊢
  obtain ⟨s₄, r₄⟩ := out
  have departed := drained.trans (reaches_step still .depart rfl)
  have last := step_running (r := r₄) still .depart rfl
  exact departed.trans (reaches_unbind last)

end RunningServer

end StreamHost
