import Mathlib.Data.List.Perm.Subperm
import StreamHost.Host
import StreamHost.Proofs.ServerSteps
import StreamHost.Proofs.SessionEnd

/-!
The places of a server. Each place is free, or the loop holds it for the client that comes next, or the task
of a connection holds it: `Orderly` says so, together with what that rests on. Each thing that a server and
its sessions do keeps it, even if observers fail. A client that is accepted gets the place that the loop
held, and its task gives that place back only when the connection is disposed.
-/

namespace StreamHost

open Connection (Shared Event Hub)

namespace Server

variable {h h' : Hub} {s s' : Server}

theorem Blueprint.pos_of_check {b : Blueprint} {now : Nat} {limit : Duration} {target : Address.Target}
    (checked : b.check now limit = .ok target) : 0 < b.maxConnections := by
  refine Nat.pos_of_ne_zero fun empty => ?_
  unfold Blueprint.check at checked
  cases fits : Deadline.check now limit <;> cases found : b.address.target <;>
    simp [fits, found, empty, bind, Except.bind, throw, throwThe, MonadExceptOf.throw] at checked

/-! ## Places between the loop and those that are free -/

/-- How many places the loop holds for a client to come. -/
def pendingAccepts (s : Server) : Nat := if s.loop = .accepting then 1 else 0

/-- A server later on that serves the same clients: the loop may have taken a place, or given one back, but
it did not die. -/
structure Settles (s s' : Server) : Prop where
  serving : s'.serving = s.serving
  accepted : s'.accepted = s.accepted
  places : s'.places.free + s'.pendingAccepts = s.places.free + s.pendingAccepts
  dead : s'.loop = .broken ↔ s.loop = .broken

theorem Settles.refl (s : Server) : s.Settles s := ⟨rfl, rfl, rfl, .rfl⟩

/-- Nothing changed but the handle and what belongs to it. -/
theorem Settles.of_handle (serving : s'.serving = s.serving) (accepted : s'.accepted = s.accepted)
    (places : s'.places = s.places) (loop : s'.loop = s.loop) : s.Settles s' :=
  ⟨serving, accepted, by rw [pendingAccepts, pendingAccepts, places, loop], by rw [loop]⟩

theorem settles_acquire (s : Server) : s.Settles s.acquire := by
  unfold acquire
  split
  · rename_i places waits taken
    refine ⟨rfl, rfl, ?_, by simp [waits]⟩
    rw [← Places.give_take? taken]
    simp [pendingAccepts, waits, Places.give]
  · exact .refl s

theorem settles_stopLoop (running : s.loopEnded = false) : s.Settles s.stopLoop := by
  have alive : s.loop ≠ .broken := fun dead => by simp [loopEnded, dead] at running
  refine ⟨rfl, rfl, ?_, by simp [stopLoop, alive]⟩
  by_cases holds : s.loop = .accepting
  · simp [stopLoop, pendingAccepts, holds, Places.give]
  · simp [stopLoop, pendingAccepts, holds]

theorem settles_fault (s : Server) (now : Nat) : s.Settles (s.fault now) := by
  rcases fault_eq s now with same | ⟨holds, pauses⟩
  · rw [same]
    exact .refl s
  · rw [pauses]
    exact ⟨rfl, rfl, by simp [pendingAccepts, holds, Places.give], by simp [holds]⟩

theorem settles_resume (s : Server) (now : Nat) : s.Settles (s.resume now) := by
  rcases resume_eq s now with same | ⟨⟨alarm, pauses⟩, goes⟩
  · rw [same]
    exact .refl s
  · rw [goes]
    exact ⟨rfl, rfl, by simp [pendingAccepts, pauses], by simp [pauses]⟩

/-- A turn of the loop settles the places, or it enrolls a client for whom the loop has a place. -/
theorem turn_settles (h : Hub) (s : Server) (client : Option Address.Endpoint) :
    (∃ s', turn h s client = (h, s') ∧ s.Settles s') ∨
      ∃ c, client = some c ∧ s.acquire.loop = .accepting ∧ turn h s client = enroll h s.acquire c := by
  unfold turn
  split
  · exact .inl ⟨s, rfl, .refl s⟩
  · rename_i running
    split
    · exact .inl ⟨s, rfl, .refl s⟩
    · split
      · exact .inl ⟨_, rfl, settles_stopLoop (Bool.eq_false_iff.mpr running)⟩
      · dsimp only
        split
        · rename_i c accepting
          exact .inr ⟨c, rfl, accepting, rfl⟩
        · exact .inl ⟨_, rfl, settles_acquire s⟩

/-! ## Operations that bring nobody and end nobody -/

/-- An operation that has nothing to do with the clients of a server. -/
def Op.isOwn : Op → Bool
  | .turn (some _) | .finish _ => false
  | _ => true

/-- What such an operation leaves: the connections are all still there. -/
structure IsQuiet (h : Hub) (s : Server) (r : Hub × Server) : Prop where
  evolves : Hub.Evolves 0 h r.1
  failing : r.1.failing = h.failing
  settles : s.Settles r.2

theorem isQuiet_still (settles : s.Settles s') : IsQuiet h s (h, s') := ⟨.refl 0 h, rfl, settles⟩

theorem isQuiet_release (evolves : Hub.Evolves 0 h h') (failing : h'.failing = h.failing)
    (settles : s.Settles s') : IsQuiet h s (release h' s') := by
  obtain ⟨es, shown⟩ := release_fst (h := h') (s := s')
  refine ⟨?_, ?_, ?_⟩
  · rw [shown]
    exact evolves.events
  · rw [shown]
    exact failing
  · rw [release_snd]
    exact ⟨settles.serving, settles.accepted, settles.places, settles.dead⟩

theorem isQuiet_drain (now : Nat) : IsQuiet h s (drain h s now) := by
  rcases drain_cases h s now with ⟨waits, -⟩ | ⟨limit, alarm, -, ⟨-, ends⟩ | ⟨g, -, -, -, ends⟩ |
    ⟨g, -, -, -, goes⟩⟩
  · rw [waits]
    exact isQuiet_still (.refl s)
  · rw [ends]
    exact isQuiet_release (.refl 0 h) rfl (.of_handle rfl rfl rfl rfl)
  · rw [ends]
    have asked : (h.closeAll g).1.failing = h.failing :=
      List.foldlRecOn (motive := fun later : Hub => later.failing = h.failing) (h.reachable g)
        Hub.requestClose rfl fun _ before _ _ => before
    exact isQuiet_release ((Hub.evolves_withstands h 0).closeAll (.refl 0 h)) asked
      (.of_handle rfl rfl rfl rfl)
  · rw [goes]
    exact isQuiet_still (.of_handle rfl rfl rfl rfl)

theorem isQuiet_abandon : IsQuiet h s (abandon h s) := by
  unfold abandon
  split
  · exact isQuiet_release (.refl 0 h) rfl (.of_handle rfl rfl rfl rfl)
  · exact isQuiet_release (.refl 0 h) rfl (.of_handle rfl rfl rfl rfl)
  · exact isQuiet_still (.refl s)

theorem isQuiet_depart : IsQuiet h s (depart h s) := by
  unfold depart
  split
  · split
    · exact isQuiet_release (.refl 0 h) rfl (.of_handle rfl rfl rfl rfl)
    · exact isQuiet_still (.refl s)
  · exact isQuiet_still (.refl s)

theorem isQuiet_step {op : Op} (own : op.isOwn = true) : IsQuiet h s (step h s op) := by
  cases op with
  | turn client =>
    rcases turn_settles h s client with ⟨s', stays, settles⟩ | ⟨c, rfl, -, -⟩
    · rw [step, stays]
      exact isQuiet_still settles
    · simp [Op.isOwn] at own
  | fault now => exact isQuiet_still (settles_fault s now)
  | resume now => exact isQuiet_still (settles_resume s now)
  | finish id => simp [Op.isOwn] at own
  | addCallback name =>
    refine isQuiet_still ?_
    split
    · exact .of_handle rfl rfl rfl rfl
    · exact .refl s
  | dispose now limit =>
    refine isQuiet_still ?_
    split
    · unfold dispose
      split
      · exact .of_handle rfl rfl rfl rfl
      · exact .of_handle rfl rfl rfl rfl
    · exact .refl s
  | drain now => exact isQuiet_drain now
  | abandon => exact isQuiet_abandon
  | leave =>
    refine isQuiet_still ?_
    split
    · exact .of_handle rfl rfl rfl rfl
    · exact .refl s
  | depart => exact isQuiet_depart

/-! ## Clients -/

/-- The loop after an observer failed at the client that it accepted. -/
def forlorn (h : Hub) (s : Server) : Server :=
  { s with
    loop := .broken
    listening := false
    places := s.places.give
    accepted := s.accepted ++ [h.lifecycles.length] }

/-- A client is enrolled: its connection has started and is held, and the others are as before. Or an
observer fails; then the connection has no task, and the loop is dead. -/
theorem enroll_cases (running : h.failing = false) (s : Server) (client : Address.Endpoint) :
    ∃ h', h'.HasStarted h.lifecycles.length ∧ (∀ id, Hub.StaysOn id h h') ∧
      (enroll h s client = (h', s.forlorn h) ∨
        (h'.isHeld h.lifecycles.length = true ∧ enroll h s client = (h', s.admitted h))) := by
  let made := (h.create s.localEnd client s.observers s.group).1
  have fresh : made.lifecycle? h.lifecycles.length = _ := Hub.lifecycle?_create.trans (if_pos rfl)
  have started : (made.connected h.lifecycles.length).HasStarted h.lifecycles.length :=
    Hub.connected_starts (h := made) running fresh
  have evolves := Hub.call_evolves made h.lifecycles.length .connected
  have held : (made.connected h.lifecycles.length).isHeld h.lifecycles.length = true :=
    (evolves.staysOn _).isHeld (Hub.isHeld_iff.mpr ⟨_, fresh, rfl⟩)
  have others : ∀ id, Hub.StaysOn id h (made.connected h.lifecycles.length) := fun id l found => by
    obtain ⟨l', middle, early⟩ := Hub.staysOn_create (h := h) l found
    obtain ⟨l'', later, late⟩ := evolves.staysOn id l' middle
    exact ⟨l'', later, early.trans late⟩
  by_cases failed : (made.connected h.lifecycles.length).failing = true
  · let calm : Hub := { made.connected h.lifecycles.length with failing := false }
    refine ⟨calm.drop h.lifecycles.length, ?_, fun id l found => ?_, .inl ?_⟩
    · exact Hub.HasStarted.goesOn (h := calm) started (Hub.goesOn_drop rfl)
    · have inside : id < h.lifecycles.length := (List.getElem?_eq_some_iff.mp found).1
      obtain ⟨l', middle, early⟩ := others id l found
      obtain ⟨l'', later, late⟩ :=
        Hub.staysOn_drop (h := calm) rfl (Nat.ne_of_gt inside) l' middle
      exact ⟨l'', later, early.trans late⟩
    · exact if_pos failed
  · exact ⟨_, started, others, .inr ⟨held, if_neg failed⟩⟩

end Server

/-! ## A server with its sessions -/

namespace Host.Running

open Server (Session Blueprint)

variable {b : Blueprint} {h h' : Hub} {s : Shared} {r : Running}

/-- What is so of a server with its sessions at any time. -/
structure Orderly (b : Blueprint) (h : Hub) (r : Running) : Prop where
  blueprint : r.blueprint = b
  /-- Every place is free, or held by a task or by the loop. -/
  places : r.server.places.free + r.server.serving.length + r.server.pendingAccepts = b.maxConnections
  tasks : r.sessions.map Session.id = r.server.serving
  once : r.server.accepted.Nodup
  among : r.server.serving.Sublist r.server.accepted
  started : ∀ id ∈ r.server.accepted, h.HasStarted id
  held : ∀ id ∈ r.server.serving, h.isHeld id = true
  stands : ∀ x ∈ r.sessions, x.phase.Stands b x.id h
  dead : r.server.loop = .broken → 1 ≤ r.server.places.free
  /-- Whoever has no task is disposed, except the one client at which the loop may have died. -/
  gone : ∃ lost : Option Nat, (∀ id ∈ lost, r.server.loop = .broken) ∧
    ∀ id ∈ r.server.accepted, id ∈ r.server.serving ∨ h.isDisposed id = true ∨ lost = some id

namespace Orderly

theorem start (b : Blueprint) (h : Hub) (localEnd : Address.Endpoint) (group : Option Nat)
    (listener : Nat) : Orderly b h { 
      blueprint := b
      server := Server.start localEnd b.pipeline.observers group ⟨b.maxConnections, b.maxConnections⟩
      listener } where
  blueprint := rfl
  places := rfl
  tasks := rfl
  once := .nil
  among := .slnil
  started _ member := nomatch member
  held _ member := nomatch member
  stands _ member := nomatch member
  dead broken := nomatch broken
  gone := ⟨none, nofun, nofun⟩

/-- The same sessions, later on. -/
theorem onward (orderly : Orderly b h r) {r' : Running} (settles : r.server.Settles r'.server)
    (blueprint : r'.blueprint = r.blueprint) (sessions : r'.sessions = r.sessions)
    (goes : ∀ id, Hub.GoesOn id h h')
    (held : ∀ id ∈ r.server.serving, h.isHeld id = true → h'.isHeld id = true) :
    Orderly b h' r' where
  blueprint := blueprint.trans orderly.blueprint
  places := by
    have before := orderly.places
    have same := settles.places
    rw [settles.serving]
    omega
  tasks := by rw [sessions, settles.serving, orderly.tasks]
  once := settles.accepted ▸ orderly.once
  among := by
    rw [settles.serving, settles.accepted]
    exact orderly.among
  started id member := (orderly.started id (settles.accepted ▸ member)).goesOn (goes id)
  held id member := by
    rw [settles.serving] at member
    exact held id member (orderly.held id member)
  stands x member := (orderly.stands x (sessions ▸ member)).goesOn (goes x.id)
  dead broken := by
    have died : r.server.loop = .broken := settles.dead.mp broken
    have free := orderly.dead died
    have same := settles.places
    simp only [Server.pendingAccepts, broken, died] at same
    omega
  gone := by
    obtain ⟨lost, died, rest⟩ := orderly.gone
    refine ⟨lost, fun id member => settles.dead.mpr (died id member), fun id member => ?_⟩
    rw [settles.accepted] at member
    rw [settles.serving]
    rcases rest id member with serves | disposed | stray
    · exact .inl serves
    · exact .inr (.inl (Hub.isDisposed_goesOn disposed (goes id)))
    · exact .inr (.inr stray)

/-- The same server among connections that all stay. -/
theorem elsewhere (orderly : Orderly b h r) (stays : ∀ id, Hub.StaysOn id h h') : Orderly b h' r :=
  orderly.onward (.refl _) rfl rfl (fun id => (stays id).goesOn) fun id _ held => (stays id).isHeld held

theorem quiet (orderly : Orderly b h r) {out : Hub × Server} (quiet : Server.IsQuiet h r.server out) :
    Orderly b out.1 { r with server := out.2 } :=
  orderly.onward quiet.settles rfl rfl (fun id => (quiet.evolves.staysOn id).goesOn)
    fun id _ held => (quiet.evolves.staysOn id).isHeld held

/-! ### Admission -/

/-- A connection that is new has not been accepted yet. -/
theorem not_mem_accepted (orderly : Orderly b h r) : h.lifecycles.length ∉ r.server.accepted := by
  intro member
  obtain ⟨l, found, -⟩ := orderly.started _ member
  exact Nat.lt_irrefl _ (List.getElem?_eq_some_iff.mp found).1

/-- What both ways of enrolling a client keep. -/
theorem started_concat (orderly : Orderly b h r) (started : h'.HasStarted h.lifecycles.length)
    (stays : ∀ id, Hub.StaysOn id h h') :
    ∀ id ∈ r.server.accepted ++ [h.lifecycles.length], h'.HasStarted id := by
  intro id member
  rcases List.mem_append.mp member with early | last
  · exact (orderly.started id early).goesOn (stays id).goesOn
  · obtain rfl := List.mem_singleton.mp last
    exact started

theorem once_concat (orderly : Orderly b h r) :
    (r.server.accepted ++ [h.lifecycles.length]).Nodup :=
  List.nodup_append.mpr ⟨orderly.once, List.nodup_singleton _, by
    rintro id early _ last rfl
    obtain rfl := List.mem_singleton.mp last
    exact orderly.not_mem_accepted early⟩

/-- The place that the loop held goes to the task of the new client. -/
theorem admitted (orderly : Orderly b h r) (accepting : r.server.loop = .accepting)
    (started : h'.HasStarted h.lifecycles.length) (stays : ∀ id, Hub.StaysOn id h h')
    (held : h'.isHeld h.lifecycles.length = true) (w : Connection.Wire) :
    Orderly b h' { r with
      server := r.server.admitted h
      sessions := r.sessions ++ [⟨h.lifecycles.length, .starting w⟩] } where
  blueprint := orderly.blueprint
  places := by
    have before := orderly.places
    simp only [Server.pendingAccepts, accepting, if_true] at before
    simp only [Server.pendingAccepts, Server.admitted, List.length_append, List.length_singleton]
    simp only [reduceCtorEq, if_false]
    omega
  tasks := by simp [Server.admitted, orderly.tasks]
  once := orderly.once_concat
  among := orderly.among.append (.refl _)
  started := orderly.started_concat started stays
  held id member := by
    rcases List.mem_append.mp member with early | last
    · exact (stays id).isHeld (orderly.held id early)
    · obtain rfl := List.mem_singleton.mp last
      exact held
  stands x member := by
    rcases List.mem_append.mp member with early | last
    · exact (orderly.stands x early).goesOn (stays x.id).goesOn
    · obtain rfl := List.mem_singleton.mp last
      trivial
  dead broken := by cases broken
  gone := by
    obtain ⟨lost, died, rest⟩ := orderly.gone
    refine ⟨none, by simp, fun id member => ?_⟩
    rcases List.mem_append.mp member with early | last
    · rcases rest id early with serves | disposed | stray
      · exact .inl (List.mem_append_left _ serves)
      · exact .inr (.inl (Hub.isDisposed_goesOn disposed (stays id).goesOn))
      · cases accepting.symm.trans (died id stray)
    · exact .inl (List.mem_append_right _ last)

/-- The place that the loop held is free when the loop dies. Its client may be left over, but nobody takes
that place any more. -/
theorem forlorn (orderly : Orderly b h r) (accepting : r.server.loop = .accepting)
    (started : h'.HasStarted h.lifecycles.length) (stays : ∀ id, Hub.StaysOn id h h') :
    Orderly b h' { r with server := r.server.forlorn h } where
  blueprint := orderly.blueprint
  places := by
    have before := orderly.places
    simp only [Server.pendingAccepts, accepting, if_true] at before
    simp only [Server.pendingAccepts, Server.forlorn, Places.give, reduceCtorEq, if_false]
    omega
  tasks := orderly.tasks
  once := orderly.once_concat
  among := orderly.among.trans (List.sublist_append_left _ _)
  started := orderly.started_concat started stays
  held id member := (stays id).isHeld (orderly.held id member)
  stands x member := (orderly.stands x member).goesOn (stays x.id).goesOn
  dead _ := Nat.le_add_left 1 _
  gone := by
    obtain ⟨lost, died, rest⟩ := orderly.gone
    refine ⟨some h.lifecycles.length, fun _ _ => rfl, fun id member => ?_⟩
    rcases List.mem_append.mp member with early | last
    · rcases rest id early with serves | disposed | stray
      · exact .inl serves
      · exact .inr (.inl (Hub.isDisposed_goesOn disposed (stays id).goesOn))
      · cases accepting.symm.trans (died id stray)
    · exact .inr (.inr (congrArg some (List.mem_singleton.mp last).symm))

/-- A wire that is given up is no matter to a server. -/
theorem dropWire (orderly : Orderly b s.hub r) (w : Connection.Wire) :
    Orderly b (s.dropWire w).hub r :=
  orderly.elsewhere fun id => (Hub.Evolves.events (.refl 0 s.hub)).staysOn id

/-- The loop takes a turn while a client waits. -/
theorem receive (orderly : Orderly b s.hub r) (running : s.hub.failing = false) (socket : Nat) :
    Orderly b (r.receive s socket).1.hub (r.receive s socket).2 := by
  have known : r.server.serving.filter (fun id => !r.server.serving.contains id) = [] :=
    List.filter_eq_nil_iff.mpr fun id member => by simp [member]
  unfold Running.receive Running.step Server.step
  rcases Server.turn_settles s.hub r.server (some (s.network.peerOf socket)) with
    ⟨server, stays, settles⟩ | ⟨c, -, accepting, enrolls⟩
  · simp only [stays, settles.serving, known]
    exact (orderly.quiet (Server.isQuiet_still settles)).dropWire _
  · have acquires := Server.settles_acquire r.server
    have ready : Orderly b s.hub { r with server := r.server.acquire } :=
      orderly.quiet (Server.isQuiet_still acquires)
    obtain ⟨h', started, stays, dies | ⟨held, goes⟩⟩ :=
      Server.enroll_cases running r.server.acquire c
    · have same : (r.server.acquire.forlorn s.hub).serving = r.server.serving := acquires.serving
      simp only [enrolls, dies, same, known]
      exact (ready.forlorn accepting started stays).dropWire (s := { s with hub := h' }) _
    · have fresh : r.server.serving.contains s.hub.lifecycles.length = false :=
        Bool.eq_false_iff.mpr fun member =>
          orderly.not_mem_accepted (orderly.among.subset (List.contains_iff_mem.mp member))
      have grown : (r.server.acquire.admitted s.hub).serving =
          r.server.serving ++ [s.hub.lifecycles.length] :=
        congrArg (· ++ [s.hub.lifecycles.length]) acquires.serving
      have newcomer : (r.server.serving ++ [s.hub.lifecycles.length]).filter
          (fun id => !r.server.serving.contains id) = [s.hub.lifecycles.length] := by
        rw [List.filter_append, known, List.nil_append]
        exact List.filter_eq_self.mpr fun id last => by
          obtain rfl := List.mem_singleton.mp last
          rw [fresh]
          rfl
      simp only [enrolls, goes, grown, newcomer]
      exact ready.admitted accepting started stays held _

/-! ### Sessions -/

/-- Whoever has a session has a task, and a connection that has started. -/
theorem mem_serving (orderly : Orderly b h r) {x : Session} (member : x ∈ r.sessions) :
    x.id ∈ r.server.serving :=
  orderly.tasks ▸ List.mem_map_of_mem member

theorem hasStarted (orderly : Orderly b h r) {x : Session} (member : x ∈ r.sessions) :
    h.HasStarted x.id :=
  orderly.started _ (orderly.among.subset (orderly.mem_serving member))

/-- A session does something, and nobody else is touched. -/
theorem act (orderly : Orderly b s.hub r) (running : s.hub.failing = false) {x : Session}
    (member : x ∈ r.sessions) (a : Session.Act) :
    Orderly b (x.after (a.perform b s x)).1.hub (r.update (x.after (a.perform b s x)).2) := by
  have own := x.after_id (a.perform b s x)
  obtain ⟨tended, later⟩ := Session.after_stands (Session.perform_leaves
    (.refl (orderly.hasStarted member)) running (orderly.stands x member) a)
  generalize x.after (a.perform b s x) = out at own tended later
  obtain ⟨t, z⟩ := out
  dsimp only at own tended later ⊢
  have calm : Orderly b t.hub r := orderly.elsewhere fun id => tended.evolves.staysOn id
  refine ⟨calm.blueprint, calm.places, ?_, calm.once, calm.among, calm.started, calm.held,
    fun y inside => ?_, calm.dead, calm.gone⟩
  · show (r.update z).sessions.map Session.id = r.server.serving
    rw [← calm.tasks, Running.update, List.map_map]
    refine List.map_congr_left fun y _ => ?_
    dsimp only [Function.comp]
    split
    · rename_i same
      exact same.symm
    · rfl
  · obtain ⟨y, before, rfl⟩ := List.mem_map.mp inside
    split
    · rw [own]
      exact later
    · exact calm.stands y before

/-- The task of a session that is over gives its place back; by then the connection is disposed. -/
theorem retire (orderly : Orderly b s.hub r) (running : s.hub.failing = false) {x : Session}
    (member : x ∈ r.sessions) (ended : x.phase = .ended) :
    Orderly b (r.retire s x.id).1.hub (r.retire s x.id).2 := by
  have serves : x.id ∈ r.server.serving := orderly.mem_serving member
  have unique : r.server.serving.Nodup := orderly.once.sublist orderly.among
  have closing : s.hub.IsClosing x.id := by
    have stands := orderly.stands x member
    rwa [ended] at stands
  have disposed : (s.hub.drop x.id).isDisposed x.id = true :=
    Hub.isDisposed_of_drop running (orderly.held _ serves) closing
  have goes : ∀ id, Hub.GoesOn id s.hub (s.hub.drop x.id) := fun _ => Hub.goesOn_drop running
  have task : r.server.serving.contains x.id = true := List.contains_iff_mem.mpr serves
  unfold Running.retire Running.step Server.step Server.finish
  simp only [task, if_true]
  refine ⟨orderly.blueprint, ?_, ?_, orderly.once, ?_, ?_, ?_, ?_, ?_, ?_⟩
  · have before := orderly.places
    have least := List.length_pos_of_mem serves
    simp only [Places.give, List.length_erase_of_mem serves, Server.pendingAccepts] at before ⊢
    omega
  · rw [unique.erase_eq_filter, ← orderly.tasks, List.filter_map]
    rfl
  · exact List.erase_sublist.trans orderly.among
  · exact fun id accepted => (orderly.started id accepted).goesOn (goes id)
  · intro id inside
    obtain ⟨other, before⟩ := unique.mem_erase_iff.mp inside
    exact (Hub.staysOn_drop running (Ne.symm other)).isHeld (orderly.held id before)
  · intro y inside
    exact (orderly.stands y (List.mem_filter.mp inside).1).goesOn (goes y.id)
  · exact fun _ => Nat.le_add_left 1 _
  · obtain ⟨lost, died, rest⟩ := orderly.gone
    refine ⟨lost, died, fun id accepted => ?_⟩
    by_cases own : id = x.id
    · exact .inr (.inl (own ▸ disposed))
    · rcases rest id accepted with early | gone | stray
      · exact .inl (unique.mem_erase_iff.mpr ⟨own, early⟩)
      · exact .inr (.inl (Hub.isDisposed_goesOn gone (goes id)))
      · exact .inr (.inr stray)

/-! ### The count -/

/-- There are no more accepted connections alive than places. -/
theorem length_alive_le (orderly : Orderly b h r) :
    (r.server.accepted.filter fun id => !h.isDisposed id).length ≤ b.maxConnections := by
  have places := orderly.places
  obtain ⟨lost, died, rest⟩ := orderly.gone
  have inside : r.server.accepted.filter (fun id => !h.isDisposed id) ⊆
      r.server.serving ++ lost.toList := by
    intro id member
    obtain ⟨accepted, alive⟩ := List.mem_filter.mp member
    rcases rest id accepted with serves | disposed | stray
    · exact List.mem_append_left _ serves
    · simp [disposed] at alive
    · simp [stray]
  have count := ((orderly.once.filter _).subperm inside).length_le
  rw [List.length_append] at count
  cases lost with
  | none =>
    simp only [Option.toList_none, List.length_nil] at count
    omega
  | some id =>
    have free := orderly.dead (died id rfl)
    simp only [Option.toList_some, List.length_singleton] at count
    omega

/-- As long as the loop has not died, whoever has no task is disposed. -/
theorem isDisposed_of_not_serving (orderly : Orderly b h r) (alive : r.server.loop ≠ .broken) {id : Nat}
    (accepted : id ∈ r.server.accepted) (idle : id ∉ r.server.serving) : h.isDisposed id = true := by
  obtain ⟨lost, died, rest⟩ := orderly.gone
  rcases rest id accepted with serves | disposed | stray
  · exact absurd serves idle
  · exact disposed
  · exact absurd (died id stray) alive

end Orderly

/-- The session of a connection. -/
def session? (r : Running) (id : Nat) : Option Session := r.sessions.find? fun x => x.id == id

theorem mem_of_session? {id : Nat} {x : Session} (found : r.session? id = some x) :
    x ∈ r.sessions ∧ x.id = id :=
  ⟨List.mem_of_find?_eq_some found, by simpa using List.find?_some found⟩

end Host.Running

end StreamHost
