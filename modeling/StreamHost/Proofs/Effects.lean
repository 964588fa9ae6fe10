import StreamHost.Connection.Pipeline
import StreamHost.Connection.Waiter
import StreamHost.Handler
import StreamHost.Proofs.HandshakeOutcome
import StreamHost.Proofs.StateCourse

/-!
What one connection shows while it is worked on. Its effects are the notices about it, the stages put
around its stream, the outcome of its handshake, the hooks, and the start of its handler. Each thing that can
be done with a connection adds known effects to those before, as long as its observers stand aside: they may
look at groups and ask for the end of connections, but they neither move a lifecycle nor fail. Traffic has no
effects except that it may start the closing.
-/

namespace StreamHost.Stream

variable {σ : Type}

/-- Whatever operations come, `P` stays true of the state. -/
structure Medium.Keeps (m : Medium σ) (P : σ → Prop) : Prop where
  read : ∀ {s} room, P s → P (m.read s room).state
  write : ∀ {s} bytes, P s → P (m.write s bytes).state
  flush : ∀ {s}, P s → P (m.flush s).state
  shutdown : ∀ {s}, P s → P (m.shutdown s).state

end StreamHost.Stream

namespace StreamHost.Handler.Course

open StreamHost.Stream (Medium)

variable {σ : Type} {m : Medium σ} {P : σ → Prop}

theorem step_keeps (keeps : m.Keeps P) (now : Nat) {s : σ} (before : P s) (c : Course) :
    P (step m now s c).1 := by
  cases c with
  | reading room use =>
    simp only [step]
    split <;> exact keeps.read room before
  | writing rest readAgain =>
    simp only [step]
    split <;> exact keeps.write rest before
  | ending =>
    simp only [step]
    split <;> exact keeps.shutdown before
  | pausing | holding | ended | following => exact before

/-- What each operation of its stream keeps, a handler keeps. -/
theorem runWithin_keeps (keeps : m.Keeps P) {broken : σ → Bool} {now room : Nat} {s : σ} {c : Course}
    (before : P s) : P (runWithin m broken now room s c).1 := by
  induction room generalizing s c with
  | zero => exact before
  | succ room ih =>
    have stepped := step_keeps keeps now before c
    unfold runWithin
    split
    · rename_i shown
      rwa [shown] at stepped
    · rename_i shown
      rw [shown] at stepped
      split
      · exact stepped
      · exact ih stepped

end StreamHost.Handler.Course

namespace StreamHost.Connection

open StreamHost.Stream (Layered Medium Turn)

/-- Whether an event is an effect of a connection. -/
def Event.concerns (id : Nat) : Event → Bool
  | .notified _ k _ | .heard _ k _ | .staged _ k | .wrapped _ k | .negotiated _ k _ | .hooked _ k _ _
  | .handling k => k == id
  | .attempted k note => k == id && note.isOutcome
  | _ => false

/-- What is seen when observers get a notice, one after the other. -/
def told (os : List Observer) (id : Nat) (n : Notice) : List Event :=
  os.flatMap fun o => o.noticeEvents id n

/-- What is seen when a connection closes that has not begun to. -/
def farewell (os : List Observer) (id : Nat) : List Event :=
  told os id (.state .disconnecting) ++ told os id (.state .disposed)

/-- A reaction that moves no lifecycle and does not fail. -/
def Reaction.IsAside : Reaction → Prop
  | .call c => c = .requestClose
  | .closeAll _ | .count _ => True
  | .fail => False

/-- An observer that stands aside whatever it hears of. -/
def Observer.IsBystander (o : Observer) : Prop := ∀ r ∈ o.reactions, r.2.IsAside

section

variable {os : List Observer} {id : Nat} {n : Notice} {s : State}

theorem Observer.IsBystander.aside {o : Observer} (bystander : o.IsBystander) {r : Reaction}
    (reacts : r ∈ o.reactionsTo s) : r.IsAside :=
  bystander _ (mem_reactions_of_mem_reactionsTo reacts)

/-- Whoever is told is told of that connection, and of that notice. -/
theorem mem_told {e : Event} (member : e ∈ told os id n) :
    ∃ name, e = .notified name id n ∨ ∃ s, n = .state s ∧ e = .heard name id s := by
  obtain ⟨o, -, seen⟩ := List.mem_flatMap.mp member
  unfold Observer.noticeEvents Observer.stateEvent at seen
  split at seen
  · rename_i s
    split at seen
    · exact ⟨o.name, .inr ⟨s, rfl, List.mem_singleton.mp seen⟩⟩
    · exact ⟨o.name, .inl (List.mem_singleton.mp seen)⟩
  · split at seen
    · cases seen
    · exact ⟨o.name, .inl (List.mem_singleton.mp seen)⟩

theorem concerns_of_mem_told {e : Event} (member : e ∈ told os id n) (k : Nat) :
    e.concerns k = (id == k) := by
  obtain ⟨name, rfl | ⟨s, -, rfl⟩⟩ := mem_told member
  · rfl
  · rfl

@[simp] theorem filter_told : (told os id n).filter (Event.concerns id) = told os id n :=
  List.filter_eq_self.mpr fun _ member => by simp [concerns_of_mem_told member]

@[simp] theorem filter_stream (es : List Stream.Event) :
    (es.map Event.stream).filter (Event.concerns id) = [] := by
  refine List.filter_eq_nil_iff.mpr fun e member => ?_
  obtain ⟨_, -, rfl⟩ := List.mem_map.mp member
  simp [Event.concerns]

@[simp] theorem filter_attempted (notes : List Tls.Note) :
    (notes.map (Event.attempted id)).filter (Event.concerns id) =
      (notes.filter Tls.Note.isOutcome).map (Event.attempted id) := by
  simp [List.filter_map, Function.comp_def, Event.concerns]

end

namespace Hub

variable {h : Hub} {past : List Event} {id j : Nat} {os : List Observer} {last : Option State}
  {s : State} {shown : List Event}

@[simp] theorem emitAll_nil : h.emitAll [] = h := by simp [emitAll]

@[simp] theorem emitAll_emitAll (es fs : List Event) :
    (h.emitAll es).emitAll fs = h.emitAll (es ++ fs) := by
  simp [emitAll]

theorem emit_eq_emitAll (e : Event) : h.emit e = h.emitAll [e] := rfl

@[simp] theorem state?_emitAll (es : List Event) : (h.emitAll es).state? j = h.state? j := rfl

/-- The connection `id` has the observers `os` and the state `last`, no operation is being abandoned, and
the effects since `past` are `shown`. -/
structure Shows (past : List Event) (id : Nat) (os : List Observer) (last : Option State)
    (shown : List Event) (h : Hub) : Prop where
  running : h.failing = false
  present : ∃ l, h.lifecycle? id = some l ∧ l.observers = os ∧ l.state = last
  effects : ∃ news, h.events = past ++ news ∧ news.filter (Event.concerns id) = shown

namespace Shows

theorem state? (shows : h.Shows past id os last shown) : h.state? id = last := by
  obtain ⟨l, found, -, state⟩ := shows.present
  simp [Hub.state?, found, state]

theorem emitAll (shows : h.Shows past id os last shown) (es : List Event) :
    (h.emitAll es).Shows past id os last (shown ++ es.filter (Event.concerns id)) := by
  obtain ⟨news, happened, seen⟩ := shows.effects
  refine ⟨shows.running, shows.present, news ++ es, ?_, ?_⟩
  · simp [Hub.emitAll, happened]
  · rw [List.filter_append, seen]

/-- What does not concern the connection adds nothing. -/
theorem aside (shows : h.Shows past id os last shown) {es : List Event}
    (other : es.filter (Event.concerns id) = []) : (h.emitAll es).Shows past id os last shown := by
  have later := shows.emitAll es
  rwa [other, List.append_nil] at later

/-- Marks on lifecycles are not seen. -/
theorem modify (shows : h.Shows past id os last shown) (f : Lifecycle → Lifecycle)
    (same : ∀ l, (f l).observers = l.observers ∧ (f l).state = l.state) :
    (h.modify j f).Shows past id os last shown := by
  obtain ⟨l, found, observers, state⟩ := shows.present
  refine ⟨shows.running, ?_, shows.effects⟩
  rw [lifecycle?_modify, found]
  split
  · exact ⟨f l, rfl, (same l).1.trans observers, (same l).2.trans state⟩
  · exact ⟨l, rfl, observers, state⟩

theorem requestClose (shows : h.Shows past id os last shown) :
    (h.requestClose j).Shows past id os last shown :=
  shows.modify _ fun _ => ⟨rfl, rfl⟩

theorem closeAll (shows : h.Shows past id os last shown) (g : Nat) :
    (h.closeAll g).1.Shows past id os last shown :=
  List.foldlRecOn (h.reachable g) Hub.requestClose shows fun _ before _ _ => before.requestClose

/-! ### Telling observers -/

/-- An observer that stands aside changes nothing that is seen of the connection. -/
theorem react (shows : h.Shows past id os last shown) (move : Hub → Nat → State → Hub) (name : String)
    {r : Reaction} (aside : r.IsAside) :
    (Hub.react move name id h r).Shows past id os last shown := by
  unfold Hub.react
  split
  · exact shows
  · cases r with
    | call c =>
      obtain rfl : c = .requestClose := aside
      dsimp only
      split
      · exact shows.requestClose
      · exact shows
    | closeAll g =>
      have other : [Event.closedAll name (h.closeAll g).2].filter (Event.concerns id) = [] := rfl
      exact (shows.closeAll g).aside other
    | count g =>
      have other : [Event.counted name (h.members g).length].filter (Event.concerns id) = [] := rfl
      exact shows.aside other
    | fail => exact aside.elim

theorem reactAll (shows : h.Shows past id os last shown) (move : Hub → Nat → State → Hub)
    (name : String) (rs : List Reaction) (aside : ∀ r ∈ rs, r.IsAside) :
    (rs.foldl (Hub.react move name id) h).Shows past id os last shown :=
  List.foldlRecOn rs (Hub.react move name id) shows fun _ before r member =>
    before.react move name (aside r member)

theorem tellAll {ps : List Observer} (shows : h.Shows past id os last shown)
    (move : Hub → Nat → State → Hub) (s : State) (bystanders : ∀ p ∈ ps, p.IsBystander) :
    (ps.foldl (Hub.tell move id s) h).Shows past id os last (shown ++ told ps id (.state s)) := by
  induction ps generalizing h shown with
  | nil => simpa [told] using shows
  | cons p rest ih =>
    have heard := shows.emitAll (told [p] id (.state s))
    rw [filter_told] at heard
    have reacted := heard.reactAll move p.name (p.reactionsTo s)
      fun r reacts => (bystanders p List.mem_cons_self).aside reacts
    have later := ih reacted fun q member => bystanders q (List.mem_cons_of_mem _ member)
    have first : Hub.tell move id s h p =
        (p.reactionsTo s).foldl (Hub.react move p.name id) (h.emitAll (told [p] id (.state s))) := by
      simp [Hub.tell, shows.running, told, Observer.noticeEvents, emit_eq_emitAll]
    rw [List.foldl_cons, first]
    simpa [told] using later

/-- A state that may follow is told to all observers. -/
theorem advance (shows : h.Shows past id os last shown) (bystanders : ∀ o ∈ os, o.IsBystander)
    (follows : State.mayFollow last s = true) :
    (h.advance id s).Shows past id os (some s) (shown ++ told os id (.state s)) := by
  obtain ⟨l, found, rfl, rfl⟩ := shows.present
  have entered : (h.enter id l.group s).Shows past id l.observers (some s) shown := by
    refine ⟨failing_enter.trans shows.running, ⟨{ l with state := some s }, ?_, rfl, rfl⟩, ?_⟩
    · simp [lifecycle?_enter, found]
    · rw [events_enter]
      exact shows.effects
  have heard := entered.tellAll (advanceWithin 3) s bystanders
  change (advanceWithin (3 + 1) h id s).Shows _ _ _ _ _
  rw [advanceWithin]
  simp only [found, shows.running, follows, Bool.false_eq_true, Bool.true_eq_false, or_self, ↓reduceIte]
  split
  · exact heard.modify _ fun _ => ⟨rfl, rfl⟩
  · exact heard

/-- Another state is not. -/
theorem advance_blocked (shows : h.Shows past id os last shown)
    (blocked : State.mayFollow last s = false) : h.advance id s = h := by
  obtain ⟨l, found, -, rfl⟩ := shows.present
  exact advance_of_not_mayFollow found blocked

theorem report (shows : h.Shows past id os last shown) (n : Notice) :
    (h.report id n).Shows past id os last (shown ++ told os id n) := by
  obtain ⟨l, found, observers, -⟩ := shows.present
  subst observers
  have later := shows.emitAll (told l.observers id n)
  rw [filter_told] at later
  simp only [Hub.report, found]
  exact later

/-! ### Start and end -/

/-- A new connection is connected, and its observers know. -/
theorem of_create (running : h.failing = false) (bystanders : ∀ o ∈ os, o.IsBystander)
    (localEnd remoteEnd : Address.Endpoint) (group : Option Nat) :
    ((h.create localEnd remoteEnd os group).1.connected h.lifecycles.length).Shows h.events
      h.lifecycles.length os (some .connected) (told os h.lifecycles.length (.state .connected)) := by
  have created : (h.create localEnd remoteEnd os group).1.Shows h.events h.lifecycles.length os none
      [] := by
    refine ⟨running, ⟨_, lifecycle?_create.trans (if_pos rfl), rfl, rfl⟩, [], ?_, rfl⟩
    simp [Hub.create]
  exact created.advance bystanders (s := .connected) rfl

/-- The closing of a connection that has not begun to close. -/
theorem dispose {t : State} (shows : h.Shows past id os (some t) shown)
    (bystanders : ∀ o ∈ os, o.IsBystander) (early : t < .disconnecting) :
    (h.dispose id).Shows past id os (some .disposed) (shown ++ farewell os id) := by
  have closing := shows.advance bystanders (State.mayFollow_some.mpr early)
  have ended := closing.advance bystanders (s := .disposed) rfl
  rwa [List.append_assoc] at ended

theorem dispose_again (shows : h.Shows past id os (some .disposed) shown) : h.dispose id = h := by
  have first : h.advance id .disconnecting = h := shows.advance_blocked rfl
  have second : h.advance id .disposed = h := shows.advance_blocked rfl
  simp only [Hub.dispose, call, callVia, first, second]

end Shows

end Hub

/-! ## Giving streams up -/

namespace Shared

/-- A wire that is given up shows something of the stream at most. -/
theorem dropWire_hub (s : Shared) (w : Wire) :
    ∃ es : List Stream.Event, (s.dropWire w).hub = s.hub.emitAll (es.map .stream) :=
  ⟨_, rfl⟩

end Shared

/-! ## The pipeline -/

/-- What a stage shows when it is put around a stream. -/
def TransportStage.effects (stage : TransportStage) (place id : Nat) : List Event :=
  match stage with
  | .announce name => [.staged place id, .wrapped name id]
  | _ => [.staged place id]

namespace Pipeline

/-- The effects of the stages: each one once, in order. -/
def staging (p : Pipeline) (id : Nat) : List Event :=
  p.stages.zipIdx.flatMap fun q => q.1.effects q.2 id

/-- The effects of the hooks: each one once, in order. -/
def hooking (p : Pipeline) (id : Nat) (state : Option State) (secured : Bool) : List Event :=
  p.hooks.map fun k => .hooked k.name id state secured

@[simp] theorem filter_hooking (p : Pipeline) (id : Nat) (state : Option State) (secured : Bool) :
    (p.hooking id state secured).filter (Event.concerns id) = p.hooking id state secured := by
  refine List.filter_eq_self.mpr fun e member => ?_
  obtain ⟨k, -, rfl⟩ := List.mem_map.mp member
  simp [Event.concerns]

theorem concerns_of_mem_effects {stage : TransportStage} {place id k : Nat} {e : Event}
    (member : e ∈ stage.effects place id) : e.concerns k = (id == k) := by
  cases stage with
  | announce name =>
    obtain rfl | last := List.mem_cons.mp member
    · rfl
    · obtain rfl := List.mem_singleton.mp last
      rfl
  | layer | replace =>
    obtain rfl := List.mem_singleton.mp member
    rfl

/-- One stage shows itself, and perhaps something of a stream. -/
theorem wrapOnce_hub (id : Nat) (acc : Shared × Layered Wire) (q : TransportStage × Nat) :
    ∃ es : List Stream.Event,
      (wrapOnce id acc q).1.hub = acc.1.hub.emitAll (q.1.effects q.2 id ++ es.map .stream) := by
  obtain ⟨stage, place⟩ := q
  cases stage with
  | announce name => exact ⟨[], Hub.emitAll_emitAll [_] [_]⟩
  | layer l => exact ⟨[], rfl⟩
  | replace script =>
    obtain ⟨es, gone⟩ := (acc.1.onHub (·.emit (.staged place id))).dropWire_hub acc.2.inner
    exact ⟨es, gone.trans (Hub.emitAll_emitAll [_] _)⟩

/-- All that concerns any connection are the stages themselves. -/
theorem wrapTransport_hub (p : Pipeline) (s : Shared) (id : Nat) (w : Wire) :
    ∃ es, (p.wrapTransport s id w).1.hub = s.hub.emitAll es ∧
      ∀ k, es.filter (Event.concerns k) = (p.staging id).filter (Event.concerns k) := by
  have folded : ∀ (qs : List (TransportStage × Nat)) (acc : Shared × Layered Wire),
      ∃ es, (qs.foldl (wrapOnce id) acc).1.hub = acc.1.hub.emitAll es ∧
        ∀ k, es.filter (Event.concerns k) =
          (qs.flatMap fun q => q.1.effects q.2 id).filter (Event.concerns k) := by
    intro qs
    induction qs with
    | nil => exact fun acc => ⟨[], by simp, fun _ => rfl⟩
    | cons q rest ih =>
      intro acc
      obtain ⟨es, first⟩ := wrapOnce_hub id acc q
      obtain ⟨fs, later, others⟩ := ih (wrapOnce id acc q)
      refine ⟨q.1.effects q.2 id ++ es.map .stream ++ fs, ?_, fun k => ?_⟩
      · rw [List.foldl_cons, later, first, Hub.emitAll_emitAll]
      · rw [List.filter_append, List.filter_append, filter_stream, others, List.flatMap_cons,
          List.filter_append, List.append_nil]
  exact folded _ _

theorem filter_staging (p : Pipeline) (id k : Nat) :
    (p.staging id).filter (Event.concerns k) = if id = k then p.staging id else [] := by
  have concerned : ∀ e ∈ p.staging id, e.concerns k = (id == k) := by
    intro e member
    obtain ⟨q, -, seen⟩ := List.mem_flatMap.mp member
    exact concerns_of_mem_effects seen
  split
  · rename_i same
    exact List.filter_eq_self.mpr fun e member => by simp [concerned e member, same]
  · rename_i other
    exact List.filter_eq_nil_iff.mpr fun e member => by simp [concerned e member, other]

variable {σ : Type}

theorem tap_eq (p : Pipeline) (f : Flow σ) :
    (p.tap f).hub = f.hub ∧ (p.tap f).channel.id = f.channel.id ∧
      (p.tap f).channel.session = f.channel.session := by
  unfold tap
  split
  · exact ⟨rfl, rfl, rfl⟩
  · exact ⟨rfl, rfl, rfl⟩

theorem runHook_eq {k : Hook} (harmless : k.effect ≠ .dispose) (f : Flow σ) :
    (runHook f k).hub = f.hub.emitAll
        [.hooked k.name f.channel.id (f.hub.state? f.channel.id) f.channel.session.isSome] ∧
      (runHook f k).channel.id = f.channel.id ∧
      (runHook f k).channel.session = f.channel.session := by
  cases effect : k.effect with
  | nothing | layer => simp [runHook, effect, Hub.emit_eq_emitAll, Channel.mapStream]
  | dispose => exact absurd effect harmless

/-- Hooks that leave the lifecycle alone only show that they ran. -/
theorem apply_eq (p : Pipeline) (harmless : ∀ k ∈ p.hooks, k.effect ≠ .dispose) (f : Flow σ) :
    (p.apply f).hub = f.hub.emitAll
        (p.hooking f.channel.id (f.hub.state? f.channel.id) f.channel.session.isSome) ∧
      (p.apply f).channel.id = f.channel.id := by
  have folded : ∀ (ks : List Hook), (∀ k ∈ ks, k.effect ≠ .dispose) → ∀ f : Flow σ,
      (ks.foldl runHook f).hub = f.hub.emitAll (ks.map fun k =>
          .hooked k.name f.channel.id (f.hub.state? f.channel.id) f.channel.session.isSome) ∧
        (ks.foldl runHook f).channel.id = f.channel.id := by
    intro ks harmless
    induction ks with
    | nil => exact fun f => ⟨by simp, rfl⟩
    | cons k rest ih =>
      intro f
      obtain ⟨hub, own, session⟩ := runHook_eq (harmless k List.mem_cons_self) f
      obtain ⟨later, still⟩ := ih (fun q member => harmless q (List.mem_cons_of_mem _ member)) (runHook f k)
      refine ⟨?_, still.trans own⟩
      rw [List.foldl_cons, later, hub, own, session, Hub.state?_emitAll, Hub.emitAll_emitAll]
      rfl
  obtain ⟨hub, own, session⟩ := p.tap_eq f
  have applied := folded p.hooks harmless (p.tap f)
  rwa [hub, own, session] at applied

end Pipeline

/-! ## Traffic -/

/-- What shows that there is traffic. -/
def Event.isTraffic : Event → Bool
  | .stream _ | .inboundClosed _ | .outboundClosed _ => true
  | _ => false

theorem filter_traffic {es : List Event} (traffic : ∀ e ∈ es, e.isTraffic = true) {id : Nat} :
    es.filter (Event.concerns id) = [] := by
  refine List.filter_eq_nil_iff.mpr fun e member own => ?_
  have passes := traffic e member
  cases e <;> simp_all [Event.isTraffic, Event.concerns]

/-- `P` bears whatever the use of a connection does to lifecycles. -/
structure Hub.Bears (id : Nat) (P : Hub → Prop) : Prop where
  traffic : ∀ {h} es, P h → (∀ e ∈ es, e.isTraffic = true) → P (h.emitAll es)
  call : ∀ {h} (c : Call), P h → P (h.call id c)
  wrapped : ∀ {h} (name : String), P h → P (h.emit (.wrapped name id))

namespace Hub.Bears

variable {P : Hub → Prop} {id : Nat} {s : Shared}

theorem stream (bears : Hub.Bears id P) (es : List Stream.Event) {h : Hub} (before : P h) :
    P (h.emitAll (es.map .stream)) := by
  refine bears.traffic _ before fun e member => ?_
  obtain ⟨_, -, rfl⟩ := List.mem_map.mp member
  rfl

theorem dropStream (bears : Hub.Bears id P) (before : P s.hub) (c : Channel (Carrier Wire)) :
    P (s.dropStream c).hub := by
  unfold Shared.dropStream
  split
  · exact before
  · exact bears.stream _ before

/-- A connection that is given up. -/
theorem dropChannel (bears : Hub.Bears id P) (before : P s.hub) {c : Channel (Carrier Wire)}
    (own : c.id = id) : P (s.dropChannel c).hub := by
  subst own
  exact bears.call .dispose (bears.dropStream before c)

theorem remodel (bears : Hub.Bears id P) (stage : TransportStage) {c : Channel (Carrier Wire)}
    (before : P s.hub ∧ c.id = id) : P (stage.remodel s c).1.hub ∧ (stage.remodel s c).2.id = id := by
  obtain ⟨before, rfl⟩ := before
  unfold TransportStage.remodel
  split
  · exact ⟨before, rfl⟩
  · cases stage with
    | announce name => exact ⟨bears.wrapped name before, rfl⟩
    | layer l => exact ⟨before, rfl⟩
    | replace script => exact ⟨bears.dropStream before c, rfl⟩

end Hub.Bears

namespace Flow

variable {σ : Type} {m : Medium σ} {P : Hub → Prop} {id : Nat} {f : Flow σ}

theorem operate_bears {α : Type} (bears : Hub.Bears id P) (op : Layered σ → Turn (Layered σ) α)
    (before : P f.hub ∧ f.channel.id = id) :
    P (f.operate op).1.hub ∧ (f.operate op).1.channel.id = id := by
  unfold operate
  split
  · exact before
  · exact ⟨bears.stream _ before.1, before.2⟩

theorem closeInbound_bears (bears : Hub.Bears id P) (before : P f.hub ∧ f.channel.id = id) :
    P f.closeInbound.hub ∧ f.closeInbound.channel.id = id := by
  obtain ⟨before, rfl⟩ := before
  unfold closeInbound
  split
  · exact ⟨before, rfl⟩
  · exact ⟨bears.call .disconnecting (bears.traffic [_] before (by simp [Event.isTraffic])), rfl⟩

theorem closeOutbound_bears (bears : Hub.Bears id P) (before : P f.hub ∧ f.channel.id = id) :
    P f.closeOutbound.hub ∧ f.closeOutbound.channel.id = id := by
  obtain ⟨before, rfl⟩ := before
  unfold closeOutbound
  split
  · exact ⟨before, rfl⟩
  · exact ⟨bears.call .disconnecting (bears.traffic [_] before (by simp [Event.isTraffic])), rfl⟩

/-- Whatever is done with a connection, `P` bears it. -/
theorem medium_keeps (bears : Hub.Bears id P) :
    (Flow.medium m).Keeps fun f => P f.hub ∧ f.channel.id = id where
  read room before := by
    have operated := operate_bears bears (fun s => (Layered.medium m).read s room) before
    simp only [medium, read]
    split
    · exact closeInbound_bears bears operated
    · exact operated
  write bytes before := by
    have operated := operate_bears bears (fun s => (Layered.medium m).write s bytes) before
    simp only [medium, write]
    split
    · exact closeOutbound_bears bears operated
    · exact operated
  flush before := operate_bears bears (Layered.medium m).flush before
  shutdown before := by
    have operated := operate_bears bears (Layered.medium m).shutdown before
    simp only [medium, shutdown]
    split
    · exact closeOutbound_bears bears operated
    · exact operated

end Flow

namespace Shared

/-- A connection that is given up before it began to close. -/
theorem dropChannel_shows {s : Shared} {c : Channel (Carrier Wire)} {past : List Event}
    {os : List Observer} {t : State} {shown : List Event}
    (shows : s.hub.Shows past c.id os (some t) shown) (bystanders : ∀ o ∈ os, o.IsBystander)
    (early : t < .disconnecting) :
    (s.dropChannel c).hub.Shows past c.id os (some .disposed) (shown ++ farewell os c.id) := by
  obtain ⟨es, gone⟩ := s.dropChannel_hub c
  rw [gone]
  exact (shows.aside (filter_stream es)).dispose bystanders early

end Shared

/-! ## What happens elsewhere -/

/-- What others do while a connection is left alone: its lifecycle stays as it is, except that somebody
may ask for its end, and nothing that is seen concerns it. -/
structure Hub.Spares (id : Nat) (h h' : Hub) : Prop where
  lifecycle : ∀ l, h.lifecycle? id = some l → ∃ l', h'.lifecycle? id = some l' ∧
    l'.observers = l.observers ∧ l'.state = l.state ∧
    (l.closeRequested = true → l'.closeRequested = true)
  events : ∃ es, h'.events = h.events ++ es ∧ es.filter (Event.concerns id) = []

namespace Hub

variable {h h' : Hub} {past : List Event} {id j : Nat} {os : List Observer} {last : Option State}
  {shown : List Event}

theorem Shows.elsewhere (shows : h.Shows past id os last shown) (spares : Spares id h h')
    (running : h'.failing = false) : h'.Shows past id os last shown := by
  obtain ⟨l, found, observers, state⟩ := shows.present
  obtain ⟨l', later, watched, still, -⟩ := spares.lifecycle l found
  obtain ⟨news, happened, seen⟩ := shows.effects
  obtain ⟨es, added, other⟩ := spares.events
  refine ⟨running, ⟨l', later, watched.trans observers, still.trans state⟩, news ++ es, ?_, ?_⟩
  · rw [added, happened, List.append_assoc]
  · rw [List.filter_append, seen, other, List.append_nil]

/-- Nothing is left to do for a connection that has come to its end when nobody holds it any more. -/
theorem Shows.drop_ended (shows : h.Shows past id os (some .disposed) shown) :
    h.drop id = h ∨ h.drop id = h.letGo id := by
  cases held : h.isHeld id with
  | false => exact .inl (drop_of_not_isHeld held)
  | true =>
    have kept : (h.letGo id).Shows past id os (some .disposed) shown := shows.modify _ fun _ => ⟨rfl, rfl⟩
    exact .inr ((drop_of_isHeld held).trans kept.dispose_again)

/-- Whoever asked for the end of a connection has asked for it. -/
theorem closeSeen_withstands (id j : Nat) :
    Withstands (fun _ => True) j fun h => Waiter.closeSeen h id = true where
  observers _ _ _ _ := trivial
  enter {h l s} before _ _ := by
    unfold Waiter.closeSeen at before ⊢
    rw [lifecycle?_enter]
    split
    · simpa [Option.map_map, Function.comp_def] using before
    · exact before
  emit before _ := before
  requestClose {h} k before := by
    unfold Waiter.closeSeen at before ⊢
    rw [lifecycle?_requestClose]
    split
    · cases found : h.lifecycle? id with
      | none => simp [found] at before
      | some l => rfl
    · exact before
  release {h} before := by
    unfold Waiter.closeSeen at before ⊢
    rw [release, lifecycle?_modify]
    split
    · simpa [Option.map_map, Function.comp_def] using before
    · exact before
  fail before _ _ := before

theorem Spares.closeSeen (spares : Spares id h h') (asked : Waiter.closeSeen h id = true) :
    Waiter.closeSeen h' id = true := by
  unfold Waiter.closeSeen at asked ⊢
  cases found : h.lifecycle? id with
  | none => simp [found] at asked
  | some l =>
    obtain ⟨l', later, -, -, keeps⟩ := spares.lifecycle l found
    have marked : l.closeRequested = true := by simpa [found] using asked
    simpa [later] using keeps marked

end Hub

end StreamHost.Connection
