import StreamHost.Proofs.RunningServer
import StreamHost.Proofs.Tellings

/-!
Whatever servers and clients do to connections is made of a few updates, done one after the other. A connection
is created, called, reported on or let go, and in between anything may be seen that tells nobody of anything.
What outlasts each update outlasts every function of a server, of its sessions and of a client.
-/

namespace StreamHost.Connection

open StreamHost.Stream (Layered)

/-- Whether an event tells somebody something. -/
def Event.isTelling : Event → Bool
  | .notified .. | .heard .. => true
  | _ => false

/-- One update. Nobody needs to hold what is called or reported on, and an operation that was abandoned may go
on, so this is more than a program can do. -/
inductive HubUpdate where
  | newGroup
  | create (localEnd remoteEnd : Address.Endpoint) (observers : List Observer) (group : Option Nat)
  | call (id : Nat) (c : Call)
  | reportError (id : Nat) (e : Error)
  | reportCompletion (id : Nat) (c : Completion)
  | closeAll (group : Nat)
  /-- Nobody holds a lifecycle any more. -/
  | letGo (id : Nat)
  /-- An operation is abandoned, or the next one starts afresh. -/
  | fail (failing : Bool)
  | shown (es : List Event)

/-- An observer is registered once, if at all, so that it hears of everything. -/
def Registers (name : String) (os : List Observer) : Prop := (∃ p ∈ os, p.name = name) → Hears name os

/-- An update registers an observer once at each new connection, if at all, and shows no telling that never
was. -/
def HubUpdate.IsPlain (name : String) : HubUpdate → Prop
  | .create _ _ observers _ => Registers name observers
  | .shown es => ∀ e ∈ es, e.isTelling = false
  | _ => True

namespace Hub

variable {h : Hub} {name : String} {id : Nat}

/-- What comes of an update. There is no connection in a group that does not exist. -/
def perform (h : Hub) : HubUpdate → Hub
  | .newGroup => h.newGroup.1
  | .create localEnd remoteEnd observers group =>
    if ∀ g ∈ group, g < h.groups.length then (h.create localEnd remoteEnd observers group).1 else h
  | .call id c => h.call id c
  | .reportError id e => h.reportError id e
  | .reportCompletion id c => h.reportCompletion id c
  | .closeAll g => (h.closeAll g).1
  | .letGo id => h.letGo id
  | .fail failing => { h with failing }
  | .shown es => h.emitAll es

/-- What comes of updates, one after the other. -/
def performAll (h : Hub) (updates : List HubUpdate) : Hub := updates.foldl perform h

theorem performAll_concat (updates : List HubUpdate) (update : HubUpdate) :
    h.performAll (updates ++ [update]) = (h.performAll updates).perform update :=
  List.foldl_append

/-! ## What outlasts every update -/

/-- `P` outlasts every update. -/
def Persists (name : String) (P : Hub → Prop) : Prop :=
  ∀ h (update : HubUpdate), update.IsPlain name → P h → P (h.perform update)

namespace Persists

variable {P : Hub → Prop} (persists : Persists name P)
include persists

theorem call (id : Nat) (c : Call) (before : P h) : P (h.call id c) := persists h (.call id c) trivial before

theorem emitAll {es : List Event} (silent : ∀ e ∈ es, e.isTelling = false) (before : P h) :
    P (h.emitAll es) :=
  persists h (.shown es) silent before

theorem emit {e : Event} (silent : e.isTelling = false) (before : P h) : P (h.emit e) :=
  persists.emitAll (fun _ member => List.mem_singleton.mp member ▸ silent) before

theorem fail (failing : Bool) (before : P h) : P { h with failing } :=
  persists h (.fail failing) trivial before

theorem reportError (id : Nat) (e : Error) (before : P h) : P (h.reportError id e) :=
  persists h (.reportError id e) trivial before

theorem reportCompletion (id : Nat) (c : Completion) (before : P h) : P (h.reportCompletion id c) :=
  persists h (.reportCompletion id c) trivial before

theorem closeAll (g : Nat) (before : P h) : P (h.closeAll g).1 := persists h (.closeAll g) trivial before

theorem create {os : List Observer} {group : Option Nat} (localEnd remoteEnd : Address.Endpoint)
    (registers : Registers name os) (known : ∀ g ∈ group, g < h.groups.length) (before : P h) :
    P (h.create localEnd remoteEnd os group).1 := by
  have performed := persists h (.create localEnd remoteEnd os group) registers before
  rwa [perform, if_pos known] at performed

theorem drop (id : Nat) (before : P h) : P (h.drop id) := by
  cases held : h.isHeld id with
  | false =>
    rw [drop_of_not_isHeld held]
    exact before
  | true =>
    rw [drop_of_isHeld held]
    exact persists.call id .dispose (persists h (.letGo id) trivial before)

theorem emitMap {α : Type} {f : α → Event} (silent : ∀ a, (f a).isTelling = false) (as : List α)
    (before : P h) : P (h.emitAll (as.map f)) := by
  refine persists.emitAll (fun e member => ?_) before
  obtain ⟨a, -, rfl⟩ := List.mem_map.mp member
  exact silent a

theorem shown (es : List Stream.Event) (before : P h) : P (h.emitAll (es.map .stream)) :=
  persists.emitMap (fun _ => rfl) es before

/-- Whatever is done with a connection. -/
theorem bears (id : Nat) : Bears id P where
  traffic es before traffic := by
    refine persists.emitAll (fun e member => ?_) before
    have passes := traffic e member
    cases e <;> first | rfl | cases passes
  call c before := persists.call id c before
  wrapped _ before := persists.emit rfl before

end Persists

/-- An operation that registers an observer once, if at all. -/
abbrev Op.Registers (name : String) : Op → Prop
  | .create _ _ observers _ => StreamHost.Connection.Registers name observers
  | _ => True

/-- An operation on lifecycles and groups is made of updates. -/
theorem step_persists {P : Hub → Prop} (persists : Persists name P) {op : Op} (registers : op.Registers name)
    (before : P h) : P (h.step op) := by
  have afresh : P h.recover := persists.fail false before
  cases op with
  | newGroup => exact persists _ .newGroup trivial afresh
  | create localEnd remoteEnd observers group =>
    simp only [step]
    split
    · rename_i known
      exact persists.create localEnd remoteEnd registers known afresh
    · exact before
  | call id c =>
    simp only [step]
    split
    · exact persists.call id c afresh
    · exact before
  | reportError id e =>
    simp only [step]
    split
    · exact persists.reportError id e afresh
    · exact before
  | reportCompletion id c =>
    simp only [step]
    split
    · exact persists.reportCompletion id c afresh
    · exact before
  | closeAll g => exact persists.closeAll g afresh
  | drop id => exact persists.drop id afresh

end Hub

/-! ## Streams, stages and hooks -/

variable {name : String} {P : Hub → Prop} (persists : Hub.Persists name P) {s : Shared}
include persists

theorem Shared.dropWire_persists (before : P s.hub) (w : Wire) : P (s.dropWire w).hub :=
  persists.shown _ before

theorem Shared.dropChannel_persists (before : P s.hub) (c : Channel (Carrier Wire)) :
    P (s.dropChannel c).hub :=
  (persists.bears c.id).dropChannel before rfl

theorem Pipeline.wrapTransport_persists (p : Pipeline) (before : P s.hub) (id : Nat) (w : Wire) :
    P (p.wrapTransport s id w).1.hub := by
  refine List.foldlRecOn (motive := fun acc : Shared × Layered Wire => P acc.1.hub) p.stages.zipIdx
    (wrapOnce id) before fun acc before stage _ => ?_
  have staged : P (acc.1.onHub (·.emit (.staged stage.2 id))).hub := persists.emit rfl before
  unfold wrapOnce
  cases stage.1 with
  | announce name => exact persists.emit rfl staged
  | layer l => exact staged
  | replace script => exact Shared.dropWire_persists persists staged _

theorem Pipeline.apply_persists {σ : Type} (p : Pipeline) {f : Flow σ} (before : P f.hub) :
    P (p.apply f).hub := by
  have tapped : P (p.tap f).hub := (p.tap_eq f).1.symm ▸ before
  refine List.foldlRecOn (motive := fun g : Flow σ => P g.hub) p.hooks runHook tapped fun g before k _ => ?_
  have ran : P (g.hub.emit
      (.hooked k.name g.channel.id (g.hub.state? g.channel.id) g.channel.session.isSome)) :=
    persists.emit rfl before
  unfold runHook
  cases k.effect with
  | nothing | layer => exact ran
  | dispose => exact persists.call _ .dispose ran

/-- What is attached to a connection before it is handed over. -/
theorem Shared.attach_persists (p : Pipeline) (before : P s.hub) (c : Channel (Carrier Wire)) :
    P (s.act c fun f =>
      let f := p.apply f
      ({ f with hub := f.hub.configured f.channel.id }, ())).1.hub :=
  persists.call _ .configured (p.apply_persists persists before)

end StreamHost.Connection

/-! ## Servers -/

namespace StreamHost.Server

open Connection (Hub Registers Shared Wire Carrier Channel Flow)
open StreamHost.Stream (Layered)

variable {name : String} {P : Hub → Prop} (persists : Hub.Persists name P) {h : Hub} {s : Server}

section
include persists

theorem release_persists (before : P h) : P (release h s).1 := by
  unfold release
  split
  · exact before
  · exact persists.emitMap (fun _ => rfl) _ before

theorem enroll_persists (registers : Registers name s.observers) (known : ∀ g ∈ s.group, g < h.groups.length)
    (before : P h) (client : Address.Endpoint) : P (enroll h s client).1 := by
  have started : P ((h.create s.localEnd client s.observers s.group).1.connected h.lifecycles.length) :=
    persists.call _ .connected (persists.create s.localEnd client registers known before)
  unfold enroll
  dsimp only
  split
  · exact persists.drop _ (persists.fail false started)
  · exact started

theorem drain_persists (before : P h) (now : Nat) : P (drain h s now).1 := by
  have looked : ∀ limit alarm, P (drainGroup h s now limit alarm).1 := by
    intro limit alarm
    unfold drainGroup
    split
    · exact release_persists persists before
    · split
      · exact release_persists persists before
      · split
        · exact release_persists persists (persists.closeAll _ before)
        · exact before
  unfold drain
  split
  · split
    · exact looked _ _
    · exact before
  · exact looked _ _
  · exact before

/-- An operation of a server that knows its observers and its group. -/
theorem step_persists (registers : Registers name s.observers) (known : ∀ g ∈ s.group, g < h.groups.length)
    (before : P h) (op : Op) : P (step h s op).1 := by
  cases op with
  | turn client =>
    rcases turn_settles h s client with ⟨s', same, -⟩ | ⟨c, -, -, enrolls⟩
    · rw [step, same]
      exact before
    · have own : s.acquire.observers = s.observers ∧ s.acquire.group = s.group := by
        unfold acquire
        split <;> exact ⟨rfl, rfl⟩
      rw [step, enrolls]
      exact enroll_persists persists (own.1 ▸ registers) (own.2 ▸ known) before c
  | fault | resume | addCallback | dispose | leave => exact before
  | finish id =>
    simp only [step, finish]
    split
    · exact persists.drop id before
    · exact before
  | drain now => exact drain_persists persists before now
  | abandon =>
    simp only [step, abandon]
    split
    · exact release_persists persists before
    · exact release_persists persists before
    · exact before
  | depart =>
    simp only [step, depart]
    split
    · split
      · exact release_persists persists before
      · exact before
    · exact before

end

/-- Who hears of its connections, and which group they join, stays as it is. -/
structure SameWiring (s s' : Server) : Prop where
  observers : s'.observers = s.observers
  group : s'.group = s.group

theorem sameWiring_release {s' : Server} (same : s.SameWiring s') : s.SameWiring (release h s').2 := by
  rw [release_snd]
  exact ⟨same.observers, same.group⟩

theorem sameWiring_turn (client : Option Address.Endpoint) : s.SameWiring (turn h s client).2 := by
  have own : s.SameWiring s.acquire := by
    unfold acquire
    split <;> exact ⟨rfl, rfl⟩
  unfold turn
  split
  · exact ⟨rfl, rfl⟩
  · split
    · exact ⟨rfl, rfl⟩
    · split
      · exact ⟨rfl, rfl⟩
      · dsimp only
        split
        · unfold enroll
          dsimp only
          split <;> exact ⟨own.observers, own.group⟩
        · exact own

theorem sameWiring_drain (now : Nat) : s.SameWiring (drain h s now).2 := by
  rcases drain_cases h s now with ⟨waits, -⟩ | ⟨limit, alarm, -, ⟨-, ends⟩ | ⟨g, -, -, -, ends⟩ |
    ⟨g, -, -, -, goes⟩⟩
  · rw [waits]
    exact ⟨rfl, rfl⟩
  · rw [ends]
    exact sameWiring_release ⟨rfl, rfl⟩
  · rw [ends]
    exact sameWiring_release ⟨rfl, rfl⟩
  · rw [goes]
    exact ⟨rfl, rfl⟩

theorem sameWiring_step (op : Op) : s.SameWiring (step h s op).2 := by
  cases op with
  | turn client => exact sameWiring_turn client
  | fault now =>
    simp only [step, fault]
    split <;> exact ⟨rfl, rfl⟩
  | resume now =>
    simp only [step, resume]
    split
    · split <;> exact ⟨rfl, rfl⟩
    · exact ⟨rfl, rfl⟩
  | finish id =>
    simp only [step, finish]
    split <;> exact ⟨rfl, rfl⟩
  | addCallback name =>
    simp only [step]
    split <;> exact ⟨rfl, rfl⟩
  | dispose now limit =>
    simp only [step]
    split
    · unfold dispose
      split <;> exact ⟨rfl, rfl⟩
    · exact ⟨rfl, rfl⟩
  | drain now => exact sameWiring_drain now
  | abandon =>
    simp only [step, abandon]
    split
    · exact sameWiring_release ⟨rfl, rfl⟩
    · exact sameWiring_release ⟨rfl, rfl⟩
    · exact ⟨rfl, rfl⟩
  | leave =>
    simp only [step]
    split <;> exact ⟨rfl, rfl⟩
  | depart =>
    simp only [step, depart]
    split
    · split
      · exact sameWiring_release ⟨rfl, rfl⟩
      · exact ⟨rfl, rfl⟩
    · exact ⟨rfl, rfl⟩

end StreamHost.Server

/-! ## Sessions -/

namespace StreamHost.Server.Session

open Connection (Hub Registers Shared Wire Carrier Channel Flow)
open StreamHost.Stream (Layered)

variable {name : String} {P : Hub → Prop} (persists : Hub.Persists name P) {s : Shared} {b : Blueprint}
  {choices : Choices}
include persists

/-- Whatever a handler does. -/
theorem bears_of_persists : Bears fun s _ => P s.hub where
  use {_ c} u before := (Connection.Operation.apply_keeps (persists.bears c.id) ⟨before, rfl⟩ u).1
  work {_ c} course before := ((bears_of_hub (persists.bears c.id)).work course ⟨before, by simp⟩).1
  drop {_ c} _ before := Shared.dropChannel_persists persists before c

theorem dropOwn_persists (before : P s.hub) (own : Own) : P (dropOwn s own).hub := by
  cases own with
  | none => exact before
  | some c => exact Shared.dropChannel_persists persists before c

theorem leave_persists (before : P s.hub) (id : Nat) (own : Own) (failure : Option IoError) :
    P (leave s id own failure).hub := by
  have given := dropOwn_persists persists before own
  unfold leave
  refine persists.call id .dispose ?_
  cases failure with
  | none => exact given
  | some e =>
    dsimp only
    split
    · exact given
    · exact persists.reportError id _ given

theorem conclude_persists (before : P s.hub) (id : Nat) (own : Own) (course : Handler.Course) :
    P (conclude s id own course).1.hub := by
  unfold conclude
  split
  · exact before
  · split
    · exact leave_persists persists before _ _ _
    · exact leave_persists persists before _ _ _
    · split
      · exact leave_persists persists before _ _ _
      · exact before

theorem handle_persists (before : P s.hub) (id : Nat) (own : Own) (course : Handler.Course) :
    P (handle choices s id own course).1.hub := by
  unfold handle
  split
  · exact leave_persists persists before _ _ _
  · exact conclude_persists persists ((bears_of_persists persists).workUntil before course) _ _ _

theorem configure_persists (before : P s.hub) (c : Channel (Carrier Wire)) :
    P (configure choices b s c).1.hub := by
  have ready : P (prepare b s c).1.hub := Shared.attach_persists persists b.pipeline before c
  unfold configure
  generalize prepare b s c = prepared at ready
  obtain ⟨s, c⟩ := prepared
  dsimp only
  split
  · exact ready
  · have handling : P (s.onHub (·.emit (.handling c.id))).hub := persists.emit rfl ready
    exact handle_persists persists handling _ _ _

theorem forsake_persists (before : P s.hub) (id : Nat) (a : Tls.Acceptance (Layered Wire)) :
    P (forsake s id a).1.hub :=
  persists.call id .dispose (Shared.dropWire_persists persists before _)

theorem pollHandshake_persists (before : P s.hub) (r : Tls.Registry) (id : Nat)
    (a : Tls.Acceptance (Layered Wire)) : P (pollHandshake s r id a).1.hub :=
  persists.emitMap (fun _ => rfl) _ (persists.shown _ before)

theorem reportHandshake_persists (before : P s.hub) (id : Nat) (chosen : Tls.Configuration)
    (session : Tls.Session) (completion : Connection.Completion) :
    P (reportHandshake s id chosen session completion).hub := by
  unfold reportHandshake
  cases chosen.hook with
  | none => exact persists.reportCompletion id completion before
  | some hook => exact persists.reportCompletion id completion (persists.emit rfl before)

theorem secure_persists (before : P s.hub) (r : Tls.Registry) (id : Nat) (a : Tls.Acceptance (Layered Wire)) :
    P (secure choices b r s id a).1.hub := by
  have polled := pollHandshake_persists persists before r id a
  unfold secure
  split
  · exact forsake_persists persists before id a
  · dsimp only
    split
    · exact configure_persists persists (reportHandshake_persists persists polled _ _ _ _) _
    · exact persists.call id .dispose (persists.reportError id _ (Shared.dropWire_persists persists polled _))
    · split
      · exact forsake_persists persists polled id _
      · exact polled

theorem advance_persists (before : P s.hub) (x : Session) : P (advance choices b s x).1.hub := by
  unfold advance
  cases x.phase with
  | starting w =>
    have staged := b.pipeline.wrapTransport_persists persists before x.id w
    unfold begin
    dsimp only
    split
    · exact secure_persists persists staged _ _ _
    · exact configure_persists persists staged _
  | securing a =>
    dsimp only
    split
    · exact secure_persists persists before _ _ _
    · exact before
  | handling own course => exact handle_persists persists before x.id own course
  | ended => exact before

theorem after_persists {r : Shared × Phase} (before : P r.1.hub) (x : Session) : P (x.after r).1.hub := by
  have resumed : P (r.1.onHub fun h => { h with failing := false }).hub := persists.fail false before
  unfold after
  split
  · refine persists.fail false ?_
    cases r.2 with
    | starting w => exact Shared.dropWire_persists persists resumed w
    | securing a => exact Shared.dropWire_persists persists resumed _
    | handling own course => exact dropOwn_persists persists resumed own
    | ended => exact resumed
  · exact before

theorem perform_persists (before : P s.hub) (x : Session) (act : Act) : P (act.perform b s x).1.hub := by
  rcases act.perform_cases b s x with ⟨choices, -, goes⟩ | ⟨own, course, -, goes⟩ | stays
  · rw [goes]
    exact advance_persists persists before x
  · rw [goes]
    cases act with
    | goOn | want => exact before
    | use u =>
      cases own with
      | none => exact before
      | some c => exact (bears_of_persists persists).use u before
    | drop => exact dropOwn_persists persists before own
    | breakDown => exact persists.fail true before
  · rw [stays]
    exact before

end StreamHost.Server.Session

/-! ## Clients -/

namespace StreamHost.Client.Dialing

open Connection (Hub Registers Shared Wire Carrier Channel)
open StreamHost.Stream (Layered)

variable {name : String} {P : Hub → Prop} (persists : Hub.Persists name P) {s : Shared} {b : Blueprint}
include persists

theorem giveUp_persists (before : P s.hub) (id : Nat) (w : Wire) (report : Option Error) :
    P (giveUp s id w report).hub := by
  have lost := Shared.dropWire_persists persists before w
  cases report with
  | none => exact persists.drop id lost
  | some e => exact persists.drop id (persists.reportError id e lost)

theorem secure_persists (before : P s.hub) (x : Securing) : P (secure b s x).1.hub := by
  unfold secure
  dsimp only
  generalize Tls.Secured.handshake (Layered.medium Wire.medium)
    { x.stream with inner := x.stream.inner.map fun w => (s.network, w) } = t
  let polled : Shared :=
    { s with network := t.state.inner.inner.1, hub := s.hub.emitAll (t.events.map .stream) }
  have later : P polled.hub := persists.shown _ before
  split
  · exact Shared.attach_persists persists b.pipeline later _
  · exact giveUp_persists persists later _ _ _
  · split
    · exact giveUp_persists persists later _ _ _
    · exact later

theorem establish_persists (registers : Registers name b.pipeline.observers)
    (known : ∀ g ∈ b.group, g < s.hub.groups.length) (before : P s.hub) (target : Address.Target)
    (socket : Nat) (limit : Duration) (alarm : Alarm) :
    P (establish b s target socket limit alarm).1.hub := by
  let made : Hub := (s.hub.create (.unix none) (remoteEnd target) b.pipeline.observers b.group).1
  have started : P (made.connected s.hub.lifecycles.length) :=
    persists.call _ .connected (persists.create _ _ registers known before)
  have staged := b.pipeline.wrapTransport_persists (s := { s with hub := _ }) persists started
    s.hub.lifecycles.length (.socket socket)
  unfold establish
  dsimp only
  split
  · exact Shared.attach_persists persists b.pipeline staged _
  · split
    · exact giveUp_persists persists staged _ _ _
    · exact secure_persists persists staged _

theorem letGo_persists (before : P s.hub) (d : Dialing) : P (d.letGo s).hub := by
  cases d with
  | securing x => exact giveUp_persists persists before _ _ _
  | connected c => exact persists.drop c.id (Shared.dropChannel_persists persists before c)
  | failed => exact before

theorem poll_persists (before : P s.hub) (d : Dialing) : P (poll b s d).1.hub := by
  cases d with
  | securing x => exact secure_persists persists before x
  | failed | connected => exact before

end StreamHost.Client.Dialing
