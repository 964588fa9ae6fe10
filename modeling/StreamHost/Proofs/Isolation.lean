import StreamHost.Proofs.SessionCourse

/-!
What is done with one connection leaves every other one alone. Observers may do what they like on the way,
move the connection they hear of, ask groups to close, or fail: the lifecycle of another connection stays
as it is, except that somebody may have asked for its end, and nothing is shown that concerns it. The same
holds of all that a server does. So its sessions go on side by side, and what fails in one fails only there.
-/

namespace StreamHost.Connection

open StreamHost.Stream (Layered)

namespace Hub

variable {h h' h'' : Hub} {id j : Nat} {s : State}

/-! ## Lifecycles and groups -/

namespace Spares

theorem refl (id : Nat) (h : Hub) : Spares id h h :=
  ⟨fun l found => ⟨l, found, rfl, rfl, fun marked => marked⟩, [], by simp, rfl⟩

theorem trans (first : Spares id h h') (second : Spares id h' h'') : Spares id h h'' := by
  refine ⟨fun l found => ?_, ?_⟩
  · obtain ⟨l', middle, observers, state, keeps⟩ := first.lifecycle l found
    obtain ⟨l'', last, watched, still, stays⟩ := second.lifecycle l' middle
    exact ⟨l'', last, watched.trans observers, still.trans state, fun marked => stays (keeps marked)⟩
  · obtain ⟨es, early, silent⟩ := first.events
    obtain ⟨fs, late, quiet⟩ := second.events
    refine ⟨es ++ fs, by rw [late, early, List.append_assoc], ?_⟩
    rw [List.filter_append, silent, quiet]
    rfl

/-- A connection that is left alone is still there. -/
theorem inside (spares : Spares id h h') (there : id < h.lifecycles.length) :
    id < h'.lifecycles.length := by
  obtain ⟨_, later, -⟩ := spares.lifecycle _ (List.getElem?_eq_getElem there)
  exact (List.getElem?_eq_some_iff.mp later).1

theorem emitAll (spares : Spares id h h') (es : List Event)
    (other : es.filter (Event.concerns id) = []) : Spares id h (h'.emitAll es) :=
  spares.trans ⟨fun l found => ⟨l, found, rfl, rfl, fun marked => marked⟩, es, rfl, other⟩

theorem emit (spares : Spares id h h') {e : Event} (other : e.concerns id = false) :
    Spares id h (h'.emit e) :=
  spares.emitAll [e] (by simp [other])

/-- Marks on lifecycles that keep requests. -/
theorem modify (spares : Spares id h h') (f : Lifecycle → Lifecycle)
    (same : ∀ l : Lifecycle, (f l).observers = l.observers ∧ (f l).state = l.state ∧
      (l.closeRequested = true → (f l).closeRequested = true)) : Spares id h (h'.modify j f) := by
  refine spares.trans ⟨fun l found => ?_, [], by simp [Hub.modify], rfl⟩
  rw [lifecycle?_modify, found]
  split
  · obtain ⟨observers, state, keeps⟩ := same l
    exact ⟨f l, rfl, observers, state, keeps⟩
  · exact ⟨l, rfl, rfl, rfl, fun marked => marked⟩

theorem requestClose (spares : Spares id h h') : Spares id h (h'.requestClose j) :=
  spares.modify _ fun _ => ⟨rfl, rfl, fun _ => rfl⟩

theorem closeAll (spares : Spares id h h') (g : Nat) : Spares id h (h'.closeAll g).1 :=
  List.foldlRecOn (h'.reachable g) Hub.requestClose spares fun _ before _ _ => before.requestClose

theorem fail (spares : Spares id h h') (failing : Bool) : Spares id h { h' with failing } :=
  ⟨spares.lifecycle, spares.events⟩

theorem enter (spares : Spares id h h') (other : j ≠ id) (group : Option Nat) :
    Spares id h (h'.enter j group s) := by
  refine spares.trans ⟨fun l found => ⟨l, ?_, rfl, rfl, fun marked => marked⟩, [], by simp, rfl⟩
  rw [lifecycle?_enter, if_neg other, found]

end Spares

/-! ### Moves

The induction goes over how deep reactions may nest, as for `Withstands`; that framework does not say whom
the news of a move is about. -/

section

variable {move : Hub → Nat → State → Hub}
  (moved : ∀ {h h' : Hub} {s : State}, Spares id h h' → Spares id h (move h' j s))
include moved

theorem Spares.callVia (spares : Spares id h h') (c : Call) :
    Spares id h (Hub.callVia move h' j c) := by
  cases c with
  | connected | configured | disconnecting => exact moved spares
  | dispose => exact moved (moved spares)
  | requestClose => exact spares.requestClose

theorem Spares.react (spares : Spares id h h') (name : String) (r : Reaction) :
    Spares id h (Hub.react move name j h' r) := by
  unfold Hub.react
  split
  · exact spares
  · cases r with
    | call c =>
      dsimp only
      split
      · exact spares.callVia moved c
      · exact spares
    | closeAll g => exact (spares.closeAll g).emit rfl
    | count g => exact spares.emit rfl
    | fail => exact spares.fail true

theorem Spares.tell (spares : Spares id h h') (other : j ≠ id) (o : Observer) :
    Spares id h (Hub.tell move j s h' o) := by
  unfold Hub.tell
  split
  · exact spares
  · have heard : Spares id h (h'.emit (o.stateEvent j s)) := by
      refine spares.emit ?_
      unfold Observer.stateEvent
      split <;> simp [Event.concerns, other]
    exact List.foldlRecOn (o.reactionsTo s) (Hub.react move o.name j) heard fun _ before r _ =>
      before.react moved o.name r

theorem Spares.tellAll (spares : Spares id h h') (other : j ≠ id) (os : List Observer) :
    Spares id h (os.foldl (Hub.tell move j s) h') :=
  List.foldlRecOn os (Hub.tell move j s) spares fun _ before o _ => before.tell moved other o

end

theorem Spares.advanceWithin (spares : Spares id h h') (other : j ≠ id) (depth : Nat) :
    Spares id h (Hub.advanceWithin depth h' j s) := by
  induction depth generalizing h h' s with
  | zero => exact spares
  | succ depth ih =>
    unfold Hub.advanceWithin
    split
    · exact spares
    · rename_i l _
      split
      · exact spares
      · have told := (spares.enter other l.group (s := s)).tellAll ih other l.observers (s := s)
        dsimp only
        split
        · exact told.modify _ fun _ => ⟨rfl, rfl, fun marked => marked⟩
        · exact told

/-- An operation on another connection. -/
theorem Spares.call (spares : Spares id h h') (other : j ≠ id) (c : Call) :
    Spares id h (h'.call j c) :=
  spares.callVia (fun spares => spares.advanceWithin other 4) c

theorem Spares.report (spares : Spares id h h') (other : j ≠ id) (n : Notice) :
    Spares id h (h'.report j n) := by
  unfold Hub.report
  split
  · exact spares
  · rename_i l _
    have silent : (told l.observers j n).filter (Event.concerns id) = [] :=
      List.filter_eq_nil_iff.mpr fun e member => by simp [concerns_of_mem_told member, other]
    exact spares.emitAll _ silent

theorem Spares.drop (spares : Spares id h h') (other : j ≠ id) : Spares id h (h'.drop j) := by
  cases held : h'.isHeld j with
  | false =>
    rw [drop_of_not_isHeld held]
    exact spares
  | true =>
    rw [drop_of_isHeld held]
    have left : Spares id h (h'.letGo j) := spares.modify _ fun _ => ⟨rfl, rfl, fun marked => marked⟩
    exact left.call other .dispose

/-- A new connection is another one. -/
theorem Spares.create (spares : Spares id h h') (localEnd remoteEnd : Address.Endpoint)
    (observers : List Observer) (group : Option Nat) :
    Spares id h (h'.create localEnd remoteEnd observers group).1 := by
  refine spares.trans ⟨fun l found => ⟨l, ?_, rfl, rfl, fun marked => marked⟩, [], by simp [Hub.create], rfl⟩
  have inside : id < h'.lifecycles.length := (List.getElem?_eq_some_iff.mp found).1
  rw [lifecycle?_create, if_neg (Nat.ne_of_lt inside), found]

/-- Whatever is done with another connection. -/
theorem spares_bears (other : j ≠ id) (start : Hub) : Bears j (Spares id start) where
  traffic es spares traffic := spares.emitAll es (filter_traffic traffic)
  call c spares := spares.call other c
  wrapped _ spares := spares.emit (by simp [Event.concerns, other])

end Hub

variable {h : Hub} {id : Nat} {s : Shared}

theorem Shared.dropWire_spares (spares : h.Spares id s.hub) (w : Wire) :
    h.Spares id (s.dropWire w).hub := by
  obtain ⟨es, gone⟩ := s.dropWire_hub w
  rw [gone]
  exact spares.emitAll _ (filter_stream es)

theorem Pipeline.wrapTransport_spares (p : Pipeline) (spares : h.Spares id s.hub) {j : Nat}
    (other : j ≠ id) (w : Wire) : h.Spares id (p.wrapTransport s j w).1.hub := by
  obtain ⟨es, staged, own⟩ := p.wrapTransport_hub s j w
  rw [staged]
  refine spares.emitAll es ?_
  rw [own, filter_staging, if_neg other]

/-- The hooks of another connection, whatever they do with it. -/
theorem Pipeline.apply_spares {σ : Type} (p : Pipeline) {f : Flow σ} (spares : h.Spares id f.hub)
    (other : f.channel.id ≠ id) :
    h.Spares id (p.apply f).hub ∧ (p.apply f).channel.id = f.channel.id := by
  obtain ⟨hub, same, -⟩ := p.tap_eq f
  have tapped : h.Spares id (p.tap f).hub ∧ (p.tap f).channel.id = f.channel.id :=
    ⟨hub.symm ▸ spares, same⟩
  unfold apply
  refine List.foldlRecOn (motive := fun g : Flow σ =>
    h.Spares id g.hub ∧ g.channel.id = f.channel.id) p.hooks runHook tapped ?_
  rintro g ⟨before, own⟩ k -
  rw [← own] at other ⊢
  have ran : h.Spares id (g.hub.emit (.hooked k.name g.channel.id (g.hub.state? g.channel.id)
      g.channel.session.isSome)) :=
    before.emit (by simp [Event.concerns, other])
  unfold runHook
  cases k.effect with
  | nothing | layer => exact ⟨ran, rfl⟩
  | dispose => exact ⟨ran.call other .dispose, rfl⟩

end StreamHost.Connection

/-! ## Servers -/

namespace StreamHost.Server

open Connection (Event Hub Observer)

variable {h h' : Hub} {id : Nat} {server : Server}

/-- A client that is enrolled has a connection of its own. -/
theorem enroll_spares (spares : h.Spares id h') (there : id < h.lifecycles.length)
    (client : Address.Endpoint) : h.Spares id (enroll h' server client).1 := by
  have other : h'.lifecycles.length ≠ id := Nat.ne_of_gt (spares.inside there)
  have created := spares.create server.localEnd client server.observers server.group
  have connected := created.call other .connected
  unfold enroll
  dsimp only
  split
  · exact (connected.fail false).drop other
  · exact connected

theorem release_spares (spares : h.Spares id h') : h.Spares id (release h' server).1 := by
  unfold release
  split
  · exact spares
  · refine spares.emitAll _ (List.filter_eq_nil_iff.mpr fun e member => ?_)
    obtain ⟨name, -, rfl⟩ := List.mem_map.mp member
    simp [Event.concerns]

theorem drainGroup_spares (spares : h.Spares id h') (now : Nat) (limit : Duration) (alarm : Alarm) :
    h.Spares id (drainGroup h' server now limit alarm).1 := by
  unfold drainGroup
  split
  · exact release_spares spares
  · split
    · exact release_spares spares
    · split
      · exact release_spares (spares.closeAll _)
      · exact spares

/-- Whatever a server does leaves the connections there are alone, except the one whose task ends. -/
theorem step_spares (spares : h.Spares id h') (there : id < h.lifecycles.length) {op : Op}
    (goesOn : op ≠ .finish id) : h.Spares id (server.step h' op).1 := by
  cases op with
  | turn client =>
    change h.Spares id (turn h' server client).1
    unfold turn
    split
    · exact spares
    · split
      · exact spares
      · split
        · exact spares
        · dsimp only
          split
          · exact enroll_spares spares there _
          · exact spares
  | finish j =>
    have other : j ≠ id := fun same => goesOn (same ▸ rfl)
    change h.Spares id (finish h' server j).1
    unfold finish
    split
    · exact spares.drop other
    · exact spares
  | drain now =>
    change h.Spares id (drain h' server now).1
    unfold drain
    split
    · split
      · exact drainGroup_spares spares _ _ _
      · exact spares
    · exact drainGroup_spares spares _ _ _
    · exact spares
  | abandon =>
    change h.Spares id (abandon h' server).1
    unfold abandon
    split
    · exact release_spares spares
    · exact release_spares spares
    · exact spares
  | depart =>
    change h.Spares id (depart h' server).1
    unfold depart
    split
    · split
      · exact release_spares spares
      · exact spares
    · exact spares
  | fault | resume | addCallback | dispose | leave => exact spares

/-- The task of a connection that has come to its end leaves nothing behind. -/
theorem finish_spares {past shown : List Event} {os : List Observer}
    (shows : h.Shows past id os (some .disposed) shown) : h.Spares id (finish h server id).1 := by
  unfold finish
  split
  · dsimp only
    rcases shows.drop_ended with same | same
    · rw [same]
      exact .refl id h
    · rw [same]
      exact (Hub.Spares.refl id h).modify _ fun _ => ⟨rfl, rfl, fun marked => marked⟩
  · exact .refl id h

end StreamHost.Server

/-! ## Sessions -/

namespace StreamHost.Server.Session

open Connection (Shared Wire Carrier Channel Flow Event Hub)
open StreamHost.Stream (Layered)

variable {b : Blueprint} {choices : Choices} {s : Shared} {h : Hub} {id j : Nat}

/-- A session after some time that has to do with the connection `j` only. -/
def Sparing (h : Hub) (id j : Nat) (r : Shared × Phase) : Prop :=
  h.Spares id r.1.hub ∧ ∀ own course, r.2 = .handling own course → ∀ c ∈ own, c.id = j

theorem Sparing.handling {own : Own} (spares : h.Spares id s.hub) (mine : ∀ c ∈ own, c.id = j)
    (course : Handler.Course) : Sparing h id j (s, .handling own course) := by
  refine ⟨spares, ?_⟩
  rintro _ _ ⟨⟩
  exact mine

theorem leave_spares {own : Own} (spares : h.Spares id s.hub) (mine : ∀ c ∈ own, c.id = j)
    (other : j ≠ id) (failure : Option IoError) : Sparing h id j (leave s j own failure, .ended) := by
  have given : h.Spares id (dropOwn s own).hub := by
    cases own with
    | none => exact spares
    | some c => exact (Hub.spares_bears other h).dropChannel spares (mine c rfl)
  refine ⟨Hub.Spares.call ?_ other .dispose, by simp⟩
  cases failure with
  | none => exact given
  | some e =>
    dsimp only
    split
    · exact given
    · exact given.report other _

theorem conclude_spares {own : Own} (spares : h.Spares id s.hub) (mine : ∀ c ∈ own, c.id = j)
    (other : j ≠ id) (course : Handler.Course) : Sparing h id j (conclude s j own course) := by
  unfold conclude
  split
  · exact .handling spares mine course
  · split
    · exact leave_spares spares mine other _
    · exact leave_spares spares mine other _
    · split
      · exact leave_spares spares mine other _
      · exact .handling spares mine course

theorem handle_spares {own : Own} (spares : h.Spares id s.hub) (mine : ∀ c ∈ own, c.id = j)
    (other : j ≠ id) (course : Handler.Course) : Sparing h id j (handle choices s j own course) := by
  unfold handle
  split
  · exact leave_spares spares mine other _
  · obtain ⟨worked, still⟩ := (bears_of_hub (Hub.spares_bears other h)).workUntil ⟨spares, mine⟩ course
    exact conclude_spares worked still other _

theorem configure_spares (spares : h.Spares id s.hub) {c : Channel (Carrier Wire)} (own : c.id = j)
    (other : j ≠ id) : Sparing h id j (configure choices b s c) := by
  subst own
  let f : Flow (Carrier (Network × Wire)) :=
    { hub := s.hub, channel := c.map (·.map fun w => (s.network, w)) }
  obtain ⟨attached, same⟩ : h.Spares id (b.pipeline.apply f).hub ∧
      (b.pipeline.apply f).channel.id = c.id := b.pipeline.apply_spares (f := f) spares other
  have still : (prepare b s c).2.id = c.id := same
  have ready : h.Spares id (prepare b s c).1.hub := by
    have configured := attached.call other .configured
    rw [← same] at configured
    exact configured
  unfold configure
  dsimp only
  have mine : ∀ d ∈ some (prepare b s c).2, d.id = c.id := fun _ same => Option.some.inj same ▸ still
  split
  · exact .handling ready mine _
  · rw [still]
    exact handle_spares (Hub.Spares.emit ready (by simp [Event.concerns, other])) mine other _

theorem pollHandshake_spares (spares : h.Spares id s.hub) (other : j ≠ id) (r : Tls.Registry)
    (a : Tls.Acceptance (Layered Wire)) : h.Spares id (pollHandshake s r j a).1.hub := by
  refine (spares.emitAll _ (Connection.filter_stream _)).emitAll _ ?_
  refine List.filter_eq_nil_iff.mpr fun e member => ?_
  obtain ⟨note, -, rfl⟩ := List.mem_map.mp member
  simp [Event.concerns, other]

theorem reportHandshake_spares (spares : h.Spares id s.hub) (other : j ≠ id)
    (chosen : Tls.Configuration) (session : Tls.Session) (completion : Connection.Completion) :
    h.Spares id (reportHandshake s j chosen session completion).hub := by
  unfold reportHandshake
  cases chosen.hook with
  | none => exact spares.report other _
  | some hook =>
    have negotiated := spares.emit (e := .negotiated hook j session) (by simp [Event.concerns, other])
    exact negotiated.report other _

theorem forsake_spares (spares : h.Spares id s.hub) (other : j ≠ id)
    (a : Tls.Acceptance (Layered Wire)) : Sparing h id j (forsake s j a) :=
  ⟨(Shared.dropWire_spares spares _).call other .dispose, by simp [forsake]⟩

theorem secure_spares (spares : h.Spares id s.hub) (other : j ≠ id) (r : Tls.Registry)
    (a : Tls.Acceptance (Layered Wire)) : Sparing h id j (secure choices b r s j a) := by
  unfold secure
  split
  · exact forsake_spares spares other a
  · have polled := pollHandshake_spares spares other r a
    dsimp only
    split
    · exact configure_spares (reportHandshake_spares polled other _ _ _) rfl other
    · exact ⟨((Shared.dropWire_spares polled _).report other _).call other .dispose, by simp⟩
    · split
      · exact forsake_spares polled other _
      · exact ⟨polled, by simp⟩

theorem begin_spares (spares : h.Spares id s.hub) (other : j ≠ id) (w : Wire) :
    Sparing h id j (begin choices b s j w) := by
  have staged := b.pipeline.wrapTransport_spares spares other w
  unfold begin
  dsimp only
  split
  · exact secure_spares staged other _ _
  · exact configure_spares staged rfl other

theorem breakOff_spares {p : Phase} (sparing : Sparing h id j (s, p)) (other : j ≠ id) :
    h.Spares id (breakOff s p).hub := by
  obtain ⟨spares, mine⟩ := sparing
  have resumed : h.Spares id { s.hub with failing := false } := Hub.Spares.fail spares false
  unfold breakOff
  dsimp only
  cases p with
  | starting w => exact (Shared.dropWire_spares resumed w).fail false
  | securing a => exact (Shared.dropWire_spares resumed _).fail false
  | handling own course =>
    cases own with
    | none => exact resumed.fail false
    | some c =>
      exact Hub.Spares.fail ((Hub.spares_bears other h).dropChannel resumed (mine _ _ rfl c rfl)) false
  | ended => exact resumed.fail false

theorem advance_spares {x : Session} (spares : h.Spares id s.hub) (other : x.id ≠ id)
    (mine : ∀ own course, x.phase = .handling own course → ∀ c ∈ own, c.id = x.id) :
    Sparing h id x.id (advance choices b s x) := by
  unfold advance
  cases stands : x.phase with
  | starting w => exact begin_spares spares other w
  | securing a =>
    dsimp only
    split
    · exact secure_spares spares other _ a
    · exact ⟨spares, by simp⟩
  | handling own course => exact handle_spares spares (mine own course stands) other course
  | ended => exact ⟨spares, by simp⟩

/-- Whatever one session does leaves the connections of all others alone, whatever happens in it. -/
theorem act_spares {x : Session} (spares : h.Spares id s.hub) (running : s.hub.failing = false)
    (other : x.id ≠ id) (mine : ∀ own course, x.phase = .handling own course → ∀ c ∈ own, c.id = x.id)
    (act : Act) :
    h.Spares id (x.after (act.perform b s x)).1.hub ∧ (x.after (act.perform b s x)).1.hub.failing = false := by
  have performed : Sparing h id x.id (act.perform b s x) := by
    rcases act.perform_cases b s x with ⟨choices, -, goes⟩ | ⟨own, course, stands, goes⟩ | stays
    · rw [goes]
      exact advance_spares spares other mine
    · rw [goes]
      by_cases breaks : act = .breakDown
      · rw [breaks]
        exact .handling (s := s.onHub fun h => { h with failing := true }) (Hub.Spares.fail spares true)
          (mine own course stands) course
      · obtain ⟨own', course', same, later, still⟩ := (bears_of_hub (Hub.spares_bears other h)).onHandler
          own course running ⟨spares, mine own course stands⟩ breaks
        rw [same]
        exact .handling later still course'
    · rw [stays]
      exact ⟨spares, mine⟩
  refine ⟨?_, x.after_running _⟩
  unfold after
  split
  · exact breakOff_spares performed other
  · exact performed.1

/-- So sessions go on side by side: a session goes on when another one does anything, of the same server or of
another one. -/
theorem Goes.beside {start : Shared × Session × Outside} {said : List Connection.Notice} {x y : Session}
    {out : Outside} (goes : Goes b start said (s, x, out)) (running : s.hub.failing = false)
    (other : y.id ≠ x.id) (mine : ∀ own course, y.phase = .handling own course → ∀ c ∈ own, c.id = y.id)
    (act : Act) (b' : Blueprint) : Goes b start said ((y.after (act.perform b' s y)).1, x, out) := by
  obtain ⟨spares, calm⟩ := act_spares (b := b') (.refl x.id s.hub) running other mine act
  exact .elsewhere goes spares calm

end StreamHost.Server.Session
