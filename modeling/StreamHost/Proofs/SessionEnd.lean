import StreamHost.Proofs.ClientNotices

/-!
What becomes of an accepted connection whatever its observers do, failing included. A session works on its
own connection and on no other, and it does not end before it has given that connection up: a session that is
over has begun to close its connection at the least, and when its task ends the connection is disposed.
-/

namespace StreamHost.Connection

open StreamHost.Stream (Layered)

namespace Hub

variable {h h' start : Hub} {id j : Nat}

/-! ## Connections that go on -/

/-- A connection that is there is still there later, and has not gone back. -/
def GoesOn (id : Nat) (h h' : Hub) : Prop :=
  ∀ l, h.lifecycle? id = some l → ∃ l', h'.lifecycle? id = some l' ∧ l.Descends l'

/-- A connection goes on, and whoever held it still does. -/
def StaysOn (id : Nat) (h h' : Hub) : Prop :=
  ∀ l, h.lifecycle? id = some l → ∃ l', h'.lifecycle? id = some l' ∧ l.Continues l'

theorem StaysOn.goesOn (stays : StaysOn id h h') : GoesOn id h h' := fun l found => by
  obtain ⟨l', later, goes⟩ := stays l found
  exact ⟨l', later, goes.toDescends⟩

theorem StaysOn.isHeld (stays : StaysOn id h h') (held : h.isHeld id = true) : h'.isHeld id = true := by
  obtain ⟨l, found, holds⟩ := isHeld_iff.mp held
  obtain ⟨l', later, goes⟩ := stays l found
  exact isHeld_iff.mpr ⟨l', later, goes.held.trans holds⟩

theorem Evolves.staysOn (evolves : Evolves j h h') (id : Nat) : StaysOn id h h' :=
  fun _ found => evolves.some_of_lifecycle found

theorem staysOn_create {localEnd remoteEnd : Address.Endpoint} {observers : List Observer}
    {group : Option Nat} : StaysOn id h (h.create localEnd remoteEnd observers group).1 := fun l found => by
  have inside : id < h.lifecycles.length := (List.getElem?_eq_some_iff.mp found).1
  refine ⟨l, ?_, .refl l⟩
  rw [lifecycle?_create, if_neg (Nat.ne_of_lt inside), found]

theorem goesOn_step (h : Hub) (op : Op) (id : Nat) : GoesOn id h (h.step op) := fun l found => by
  obtain ⟨l', later, descends⟩ := descends_run [op] found
  exact ⟨l', later, descends⟩

/-- Only a connection that is dropped is held no longer. -/
theorem staysOn_step {op : Op} (undropped : op ≠ .drop id) : StaysOn id h (h.step op) := fun l found => by
  rcases lifecycle?_step h op id with leaves | ⟨_, _, _, _, -, last, -⟩
  · rw [found] at leaves
    revert leaves
    cases later : (h.step op).lifecycle? id <;> intro leaves <;> cases leaves
    rename_i leaves
    exact ⟨_, rfl, leaves.1, leaves.2 undropped⟩
  · exact absurd last (Nat.ne_of_lt (List.getElem?_eq_some_iff.mp found).1)

theorem goesOn_drop (running : h.failing = false) : GoesOn id h (h.drop j) := by
  have dropped := goesOn_step h (.drop j) id
  rwa [step, recover_eq running] at dropped

theorem staysOn_drop (running : h.failing = false) (other : j ≠ id) : StaysOn id h (h.drop j) := by
  have dropped : StaysOn id h (h.step (.drop j)) :=
    staysOn_step fun same => other (Op.drop.inj same)
  rwa [step, recover_eq running] at dropped

def HasStarted (id : Nat) (h : Hub) : Prop := ∃ l, h.lifecycle? id = some l ∧ l.state ≠ none

/-- The closing of a connection has begun. -/
def IsClosing (id : Nat) (h : Hub) : Prop :=
  ∃ l, h.lifecycle? id = some l ∧ State.disconnecting.rank ≤ l.place

theorem isDisposed_iff :
    h.isDisposed id = true ↔ ∃ l, h.lifecycle? id = some l ∧ l.state = some .disposed := by
  simp [isDisposed, state?, Option.bind_eq_some_iff]

theorem HasStarted.goesOn (started : h.HasStarted id) (goes : GoesOn id h h') : h'.HasStarted id := by
  obtain ⟨l, found, begun⟩ := started
  obtain ⟨l', later, descends⟩ := goes l found
  exact ⟨l', later, descends.started begun⟩

theorem IsClosing.goesOn (closing : h.IsClosing id) (goes : GoesOn id h h') : h'.IsClosing id := by
  obtain ⟨l, found, reached⟩ := closing
  obtain ⟨l', later, descends⟩ := goes l found
  exact ⟨l', later, Nat.le_trans reached descends.place⟩

theorem isDisposed_goesOn (disposed : h.isDisposed id = true) (goes : GoesOn id h h') :
    h'.isDisposed id = true := by
  obtain ⟨l, found, ended⟩ := isDisposed_iff.mp disposed
  obtain ⟨l', later, descends⟩ := goes l found
  have place : l.place = State.disposed.rank := by simp [Lifecycle.place, ended]
  exact isDisposed_iff.mpr ⟨l', later, State.eq_disposed_of_place (place ▸ descends.place)⟩

/-! ## Disposal, with failing observers

The first observer that fails ends a disposal, but not before the state that it is told of is reached. So one
disposal may get no further than the beginning of the closing, but a second one goes on from there. -/

/-- A move to the beginning of the closing gets there. -/
theorem isClosing_of_dispose (running : h.failing = false) (started : h.HasStarted id) :
    (h.dispose id).IsClosing id := by
  obtain ⟨l, found, begun⟩ := started
  have closing : (h.advance id .disconnecting).IsClosing id :=
    place_le_of_advance running found (.inl begun)
  exact closing.goesOn ((advance_evolves _ id .disposed).staysOn id).goesOn

/-- The disposal of a connection that is closing gets to its end. -/
theorem isDisposed_of_dispose (running : h.failing = false) (closing : h.IsClosing id) :
    (h.dispose id).isDisposed id = true := by
  obtain ⟨l, found, reached⟩ := closing
  have blocked : State.mayFollow l.state .disconnecting = false :=
    Bool.eq_false_iff.mpr fun follows => Nat.not_lt.mpr reached (State.place_lt_of_mayFollow follows)
  have begun : l.state ≠ none := by
    intro unstarted
    simp [Lifecycle.place, unstarted, State.rank] at reached
  have same : h.advance id .disconnecting = h := advance_of_not_mayFollow found blocked
  obtain ⟨l', later, ended⟩ := place_le_of_advance (s := .disposed) running found (.inl begun)
  have disposed := isDisposed_iff.mpr ⟨l', later, State.eq_disposed_of_place ended⟩
  simpa only [dispose, call, callVia, same] using disposed

theorem isDisposed_of_drop (running : h.failing = false) (held : h.isHeld id = true)
    (closing : h.IsClosing id) : (h.drop id).isDisposed id = true := by
  obtain ⟨l, found, reached⟩ := closing
  have left : (h.letGo id).lifecycle? id = some { l with held := false } := by
    rw [lifecycle?_letGo, if_pos rfl, found]
    rfl
  rw [drop_of_isHeld held]
  exact isDisposed_of_dispose (h := h.letGo id) running ⟨_, left, reached⟩

/-! ## Work on one connection -/

/-- Since `start`, when the connection `id` had started already, something was done with it and with no
other. -/
structure Tended (start : Hub) (id : Nat) (h : Hub) : Prop where
  started : start.HasStarted id
  evolves : Evolves id start h

namespace Tended

theorem refl (started : h.HasStarted id) : Tended h id h := ⟨started, .refl id h⟩

theorem hasStarted (tended : Tended start id h) : h.HasStarted id :=
  tended.started.goesOn (tended.evolves.staysOn id).goesOn

theorem emitAll (tended : Tended start id h) (es : List Event) : Tended start id (h.emitAll es) :=
  ⟨tended.started, tended.evolves.events⟩

theorem emit (tended : Tended start id h) (e : Event) : Tended start id (h.emit e) :=
  tended.emitAll [e]

theorem fail (tended : Tended start id h) (failing : Bool) : Tended start id { h with failing } :=
  ⟨tended.started, tended.evolves.events⟩

theorem call (tended : Tended start id h) (c : Call) : Tended start id (h.call id c) :=
  ⟨tended.started, tended.evolves.trans (call_evolves h id c)⟩

theorem report (tended : Tended start id h) (n : Notice) : Tended start id (h.report id n) := by
  unfold Hub.report
  split
  · exact tended
  · exact tended.emitAll _

theorem bears (start : Hub) (id : Nat) : Bears id (Tended start id) where
  traffic es tended _ := tended.emitAll es
  call c tended := tended.call c
  wrapped _ tended := tended.emit _

end Tended

theorem IsClosing.report (closing : h.IsClosing id) (n : Notice) : (h.report id n).IsClosing id := by
  obtain ⟨l, found, reached⟩ := closing
  exact ⟨l, lifecycle?_report.trans found, reached⟩

end Hub

variable {start : Hub} {id : Nat} {s : Shared}

theorem Shared.dropWire_tended (tended : start.Tended id s.hub) (w : Wire) :
    start.Tended id (s.dropWire w).hub ∧ (s.dropWire w).hub.failing = s.hub.failing :=
  ⟨tended.emitAll _, rfl⟩

theorem Shared.dropStream_tended (tended : start.Tended id s.hub) (c : Channel (Carrier Wire)) :
    start.Tended id (s.dropStream c).hub ∧ (s.dropStream c).hub.failing = s.hub.failing := by
  unfold dropStream
  split
  · exact ⟨tended, rfl⟩
  · exact dropWire_tended tended _

/-- Whoever gives a connection up begins to close it, even if an observer fails at that. -/
theorem Shared.dropChannel_tended {c : Channel (Carrier Wire)} (tended : start.Tended c.id s.hub)
    (running : s.hub.failing = false) :
    start.Tended c.id (s.dropChannel c).hub ∧ (s.dropChannel c).hub.IsClosing c.id := by
  obtain ⟨lost, same⟩ := dropStream_tended tended c
  exact ⟨lost.call .dispose, Hub.isClosing_of_dispose (same.trans running) lost.hasStarted⟩

theorem Pipeline.wrapTransport_tended (p : Pipeline) (tended : start.Tended id s.hub) (w : Wire) :
    start.Tended id (p.wrapTransport s id w).1.hub ∧
      (p.wrapTransport s id w).1.hub.failing = s.hub.failing := by
  obtain ⟨es, staged, -⟩ := p.wrapTransport_hub s id w
  rw [staged]
  exact ⟨tended.emitAll es, rfl⟩

/-- The hooks of a connection, whatever they do with it. -/
theorem Pipeline.apply_tended {σ : Type} (p : Pipeline) {f : Flow σ} (tended : start.Tended id f.hub)
    (own : f.channel.id = id) : start.Tended id (p.apply f).hub ∧ (p.apply f).channel.id = id := by
  obtain ⟨hub, same, -⟩ := p.tap_eq f
  have tapped : start.Tended id (p.tap f).hub ∧ (p.tap f).channel.id = id :=
    ⟨hub.symm ▸ tended, same.trans own⟩
  unfold apply
  refine List.foldlRecOn (motive := fun g : Flow σ => start.Tended id g.hub ∧ g.channel.id = id)
    p.hooks runHook tapped ?_
  rintro g ⟨before, rfl⟩ k -
  have ran := before.emitAll
    [.hooked k.name g.channel.id (g.hub.state? g.channel.id) g.channel.session.isSome]
  unfold runHook
  cases k.effect with
  | nothing | layer => exact ⟨ran, rfl⟩
  | dispose => exact ⟨ran.call .dispose, rfl⟩

end StreamHost.Connection

namespace StreamHost.Server.Session

open Connection (Shared Wire Carrier Channel Flow Hub)
open StreamHost.Stream (Layered)

variable {b : Blueprint} {choices : Choices} {s : Shared} {start : Hub} {id : Nat}

/-! ## Where a session may stand -/

/-- Where the session of a connection may stand, whatever its observers did. A handler that has no connection
any more gave it up. -/
def Phase.Stands (b : Blueprint) (id : Nat) (h : Hub) : Phase → Prop
  | .starting _ => True
  | .securing _ => b.registry ≠ none
  | .handling own _ => (∀ c ∈ own, c.id = id) ∧ (own = none → h.IsClosing id)
  | .ended => h.IsClosing id

/-- A session has what its connection needs to be given up, or has given it up. -/
def Phase.IsLate : Phase → Prop
  | .handling .. | .ended => True
  | _ => False

/-- What a session leaves that had its connection at `start`. An observer that fails does not leave it before
it has a connection to give up. -/
structure Leaves (b : Blueprint) (start : Hub) (id : Nat) (r : Shared × Phase) : Prop where
  tended : start.Tended id r.1.hub
  stands : r.2.Stands b id r.1.hub
  late : r.1.hub.failing = true → r.2.IsLate

/-- A session that is over has left its connection. -/
theorem Leaves.ended (tended : start.Tended id s.hub) (closing : s.hub.IsClosing id) :
    Leaves b start id (s, .ended) :=
  ⟨tended, closing, fun _ => trivial⟩

/-- A session that handles its connection can give it up, or did. -/
theorem Leaves.handling {own : Own} (tended : start.Tended id s.hub) (mine : ∀ c ∈ own, c.id = id)
    (lost : own = none → s.hub.IsClosing id) (course : Handler.Course) :
    Leaves b start id (s, .handling own course) :=
  ⟨tended, ⟨mine, lost⟩, fun _ => trivial⟩

theorem Phase.Stands.goesOn {h h' : Hub} {p : Phase} (stands : p.Stands b id h)
    (goes : Hub.GoesOn id h h') : p.Stands b id h' := by
  cases p with
  | starting | securing => exact stands
  | handling => exact ⟨stands.1, fun none => (stands.2 none).goesOn goes⟩
  | ended => exact Hub.IsClosing.goesOn stands goes

/-! ### The handler -/

/-- A handler tends its connection, and does not lose it before it begins to close. -/
theorem tended_bears (start : Hub) (id : Nat) :
    Bears fun s own => start.Tended id s.hub ∧ (∀ c ∈ own, c.id = id) ∧
      (own = none → s.hub.IsClosing id) where
  use u before := by
    obtain ⟨used, still⟩ := (bears_of_hub (Hub.Tended.bears start id)).use u ⟨before.1, before.2.1⟩
    exact ⟨used, still, by simp⟩
  work course before := by
    obtain ⟨worked, still⟩ := (bears_of_hub (Hub.Tended.bears start id)).work course ⟨before.1, before.2.1⟩
    exact ⟨worked, still, by simp⟩
  drop {s c} running before := by
    obtain rfl : c.id = id := before.2.1 c rfl
    obtain ⟨given, closing⟩ := Shared.dropChannel_tended before.1 running
    exact ⟨given, by simp, fun _ => closing⟩

/-- When `serve_connection` leaves a connection, its closing has begun. -/
theorem leave_leaves {own : Own} (tended : start.Tended id s.hub) (running : s.hub.failing = false)
    (mine : ∀ c ∈ own, c.id = id) (lost : own = none → s.hub.IsClosing id) (failure : Option IoError) :
    Leaves b start id (leave s id own failure, .ended) := by
  obtain ⟨given, -, closing⟩ := (tended_bears start id).dropOwn running ⟨tended, mine, lost⟩
  have ends : ∀ {s : Shared}, start.Tended id s.hub → s.hub.IsClosing id →
      Leaves b start id (s.onHub (·.dispose id), .ended) := fun tended closing =>
    .ended (tended.call .dispose) (closing.goesOn ((Hub.call_evolves _ id .dispose).staysOn id).goesOn)
  unfold leave
  cases failure with
  | none => exact ends given (closing rfl)
  | some e =>
    dsimp only
    split
    · exact ends given (closing rfl)
    · exact ends (given.report _) ((closing rfl).report _)

theorem conclude_leaves {own : Own} (tended : start.Tended id s.hub) (mine : ∀ c ∈ own, c.id = id)
    (lost : own = none → s.hub.IsClosing id) (course : Handler.Course) :
    Leaves b start id (conclude s id own course) := by
  unfold conclude
  split
  · exact .handling tended mine lost course
  · rename_i calm
    have running : s.hub.failing = false := Bool.eq_false_iff.mpr calm
    split
    · exact leave_leaves tended running mine lost _
    · exact leave_leaves tended running mine lost _
    · split
      · exact leave_leaves tended running mine lost _
      · exact .handling tended mine lost course

theorem handle_leaves {own : Own} (tended : start.Tended id s.hub) (running : s.hub.failing = false)
    (mine : ∀ c ∈ own, c.id = id) (lost : own = none → s.hub.IsClosing id) (course : Handler.Course) :
    Leaves b start id (handle choices s id own course) := by
  unfold handle
  split
  · exact leave_leaves tended running mine lost _
  · obtain ⟨worked, still, gone⟩ := (tended_bears start id).workUntil ⟨tended, mine, lost⟩ course
    exact conclude_leaves worked still gone _

theorem configure_leaves {c : Channel (Carrier Wire)} (tended : start.Tended id s.hub)
    (own : c.id = id) : Leaves b start id (configure choices b s c) := by
  let f : Flow (Carrier (Network × Wire)) :=
    { hub := s.hub, channel := c.map (·.map fun w => (s.network, w)) }
  obtain ⟨attached, same⟩ : start.Tended id (b.pipeline.apply f).hub ∧
      (b.pipeline.apply f).channel.id = id := b.pipeline.apply_tended (f := f) tended own
  have still : (prepare b s c).2.id = id := same
  have ready : start.Tended id (prepare b s c).1.hub := by
    show start.Tended id ((b.pipeline.apply f).hub.configured (b.pipeline.apply f).channel.id)
    rw [same]
    exact attached.call .configured
  unfold configure
  generalize prepare b s c = prepared at ready still
  obtain ⟨s, c⟩ := prepared
  dsimp only at ready still ⊢
  have mine : ∀ d ∈ some c, d.id = id := fun _ same => Option.some.inj same ▸ still
  split
  · exact .handling ready mine (by simp) _
  · rename_i calm
    rw [still]
    exact handle_leaves (s := s.onHub (·.emit (.handling id))) (ready.emit _)
      (Bool.eq_false_iff.mpr calm) mine (by simp) _

/-! ### The handshake -/

theorem reportHandshake_tended (tended : start.Tended id s.hub) (chosen : Tls.Configuration)
    (session : Tls.Session) (completion : Connection.Completion) :
    start.Tended id (reportHandshake s id chosen session completion).hub := by
  unfold reportHandshake
  cases chosen.hook with
  | none => exact tended.report _
  | some hook => exact (tended.emitAll [.negotiated hook id session]).report _

theorem forsake_leaves (tended : start.Tended id s.hub) (running : s.hub.failing = false)
    (a : Tls.Acceptance (Layered Wire)) : Leaves b start id (forsake s id a) := by
  obtain ⟨lost, same⟩ := Shared.dropWire_tended tended a.stream.inner.inner
  exact .ended (lost.call .dispose) (Hub.isClosing_of_dispose (same.trans running) lost.hasStarted)

theorem secure_leaves {r : Tls.Registry} (registry : b.registry = some r)
    (tended : start.Tended id s.hub) (running : s.hub.failing = false)
    (a : Tls.Acceptance (Layered Wire)) : Leaves b start id (secure choices b r s id a) := by
  have polled : start.Tended id (pollHandshake s r id a).1.hub := (tended.emitAll _).emitAll _
  have calm : (pollHandshake s r id a).1.hub.failing = false := running
  unfold secure
  split
  · exact forsake_leaves tended running a
  · dsimp only
    split
    · exact configure_leaves (reportHandshake_tended polled _ _ _) rfl
    · obtain ⟨lost, same⟩ := Shared.dropWire_tended polled (pollHandshake s r id a).2.stream.inner.inner
      refine .ended ((lost.report _).call .dispose) ?_
      exact Hub.isClosing_of_dispose (Hub.failing_report.trans (same.trans calm)) (lost.report _).hasStarted
    · split
      · exact forsake_leaves polled calm _
      · refine ⟨polled, ?_, fun failed => nomatch calm.symm.trans failed⟩
        simp [Phase.Stands, registry]

/-! ### A whole poll -/

theorem begin_leaves (tended : start.Tended id s.hub) (running : s.hub.failing = false) (w : Wire) :
    Leaves b start id (begin choices b s id w) := by
  obtain ⟨staged, same⟩ := b.pipeline.wrapTransport_tended tended w
  unfold begin
  dsimp only
  split
  · rename_i r registry
    exact secure_leaves registry staged (same.trans running) _
  · exact configure_leaves staged rfl

theorem advance_leaves {x : Session} (tended : start.Tended x.id s.hub)
    (running : s.hub.failing = false) (stands : x.phase.Stands b x.id s.hub) :
    Leaves b start x.id (advance choices b s x) := by
  unfold advance
  cases phase : x.phase with
  | starting w => exact begin_leaves tended running w
  | securing a =>
    have secured : b.registry ≠ none := by
      rw [phase] at stands
      exact stands
    obtain ⟨r, registry⟩ := Option.ne_none_iff_exists'.mp secured
    simp only [registry]
    exact secure_leaves registry tended running a
  | handling own course =>
    rw [phase] at stands
    exact handle_leaves tended running stands.1 stands.2 course
  | ended =>
    rw [phase] at stands
    exact .ended tended stands

theorem poll_id (choices : Choices) (b : Blueprint) (s : Shared) (x : Session) :
    (x.poll choices b s).2.id = x.id :=
  x.after_id (advance choices b s x)

theorem poll_running (choices : Choices) (b : Blueprint) (s : Shared) (x : Session) :
    (x.poll choices b s).1.hub.failing = false :=
  x.after_running (advance choices b s x)

theorem breakOff_tended {p : Phase} (leaves : Leaves b start id (s, p)) (late : p.IsLate) :
    start.Tended id (breakOff s p).hub ∧ (breakOff s p).hub.IsClosing id := by
  have resumed : start.Tended id { s.hub with failing := false } := leaves.tended.fail false
  cases p with
  | starting | securing => exact late.elim
  | handling own course =>
    obtain ⟨mine, lost⟩ := leaves.stands
    obtain ⟨given, -, closing⟩ := (tended_bears start id).dropOwn
      (s := s.onHub fun h => { h with failing := false }) rfl ⟨resumed, mine, lost⟩
    exact ⟨given.fail false, closing rfl⟩
  | ended =>
    have closing : s.hub.IsClosing id := leaves.stands
    exact ⟨resumed, closing⟩

/-- Whatever a session did, it stands where it may afterwards. -/
theorem after_stands {x : Session} {r : Shared × Phase} (leaves : Leaves b start x.id r) :
    start.Tended x.id (x.after r).1.hub ∧ (x.after r).2.phase.Stands b x.id (x.after r).1.hub := by
  unfold after
  split
  · rename_i failed
    exact breakOff_tended leaves (leaves.late failed)
  · exact ⟨leaves.tended, leaves.stands⟩

/-- Whatever can be done with a session, it leaves what may be left. -/
theorem perform_leaves {x : Session} (tended : start.Tended x.id s.hub)
    (running : s.hub.failing = false) (stands : x.phase.Stands b x.id s.hub) (act : Act) :
    Leaves b start x.id (act.perform b s x) := by
  rcases act.perform_cases b s x with ⟨choices, -, goes⟩ | ⟨own, course, phase, goes⟩ | stays
  · rw [goes]
    exact advance_leaves tended running stands
  · rw [phase] at stands
    rw [goes]
    by_cases breaks : act = .breakDown
    · rw [breaks]
      exact .handling (s := s.onHub fun h => { h with failing := true }) (tended.fail true) stands.1 stands.2
        course
    · obtain ⟨own', course', same, done, mine, lost⟩ :=
        (tended_bears start x.id).onHandler own course running ⟨tended, stands⟩ breaks
      rw [same]
      exact .handling done mine lost course'
  · rw [stays]
    exact ⟨tended, stands, fun failed => nomatch running.symm.trans failed⟩

end StreamHost.Server.Session
