import StreamHost.Connection.Carrier
import StreamHost.Proofs.HubRuns

/-!
What observers hear of one connection. A lifecycle can be called, carry a connection that is read and
written, and be given up, in any order and any number of times. All its observers hear the same states,
which only go forward, and each state is told to all of them before the next one comes.
-/

namespace StreamHost.Connection

open StreamHost.Stream (Layered Medium Turn Poll)

/-- What an event tells of the states of a connection, and to whom. -/
def stateNotice? (id : Nat) : Event → Option (String × State)
  | .notified observer k (.state s) | .heard observer k s => if k = id then some (observer, s) else none
  | _ => none

/-- Who was told of which states of a connection since another time, in the order of telling. -/
def Hub.toldSince (start h : Hub) (id : Nat) : List (String × State) :=
  (h.events.drop start.events.length).filterMap (stateNotice? id)

/-- Which states one observer has heard of since another time. -/
def Hub.heardSince (start h : Hub) (id : Nat) (o : Observer) : List State :=
  ((start.toldSince h id).filter fun n => n.1 == o.name).map Prod.snd

/-! ## Courses -/

/-- The states after a move to `s` was asked for. -/
def State.extend (states : List State) (s : State) : List State :=
  if mayFollow states.getLast? s then states ++ [s] else states

/-- The states after an operation. -/
def Call.extend (states : List State) : Call → List State
  | .connected => State.extend states .connected
  | .configured => State.extend states .configured
  | .disconnecting => State.extend states .disconnecting
  | .dispose => State.extend (State.extend states .disconnecting) .disposed
  | .requestClose => states

/-- The states of a connection up to some time: they rise, they begin with the first, and the last one
comes only right after the one before it. -/
structure State.Course (states : List State) : Prop where
  rises : states.Pairwise (· < ·)
  begins : ∀ s, states.head? = some s → s = .connected
  ends : ∀ before after, states = before ++ .disposed :: after → before.getLast? = some .disconnecting

namespace State.Course

variable {states : List State} {s : State}

theorem nil : Course [] where
  rises := .nil
  begins _ none := by simp at none
  ends before after split := by simp at split

/-- In a course all states are below or at the last one. -/
theorem le_last {last : State} (course : Course states) (ending : states.getLast? = some last) :
    ∀ t ∈ states, t.rank ≤ last.rank := by
  obtain ⟨before, rfl⟩ := List.getLast?_eq_some_iff.mp ending
  intro t member
  rcases List.mem_append.mp member with earlier | final
  · exact Nat.le_of_lt ((List.pairwise_append.mp course.rises).2.2 t earlier _ (by simp))
  · obtain rfl := List.mem_singleton.mp final
    exact Nat.le_refl _

theorem concat (course : Course states) (follows : mayFollow states.getLast? s = true)
    (last : s = .disposed → states.getLast? = some .disconnecting) : Course (states ++ [s]) where
  rises := by
    refine List.pairwise_append.mpr ⟨course.rises, List.pairwise_singleton _ _, ?_⟩
    intro t member u same
    obtain rfl := List.mem_singleton.mp same
    cases ending : states.getLast? with
    | none => simp [List.getLast?_eq_none_iff.mp ending] at member
    | some final =>
      have above : final < u := mayFollow_some.mp (ending ▸ follows)
      exact Nat.lt_of_le_of_lt (course.le_last ending t member) above
  begins t first := by
    cases states with
    | nil =>
      obtain rfl : s = t := by simpa using first
      exact mayFollow_none.mp follows
    | cons u rest => exact course.begins t first
  ends before after split := by
    rcases List.eq_nil_or_concat after with rfl | ⟨earlier, final, rfl⟩
    · obtain ⟨rfl, same⟩ := List.append_inj' split rfl
      exact last (by simpa using same)
    · have split : states ++ [s] = (before ++ .disposed :: earlier) ++ [final] := by simpa using split
      obtain ⟨rfl, -⟩ := List.append_inj' split rfl
      exact course.ends before earlier rfl

theorem extend (course : Course states)
    (last : s = .disposed → ∀ t, states.getLast? = some t → State.disconnecting.rank ≤ t.rank) :
    Course (State.extend states s) := by
  unfold State.extend
  split
  · rename_i follows
    refine course.concat follows fun ends => ?_
    subst ends
    cases ending : states.getLast? with
    | none => exact absurd (mayFollow_none.mp (ending ▸ follows)) (by decide)
    | some t =>
      have low := last rfl t ending
      have high : t.rank < disposed.rank := mayFollow_some.mp (ending ▸ follows)
      cases t <;> simp_all [rank]
  · exact course

end State.Course

section

variable {states : List State} {s t : State}

/-- After a move to `s` was asked for, the last state is there or beyond. -/
theorem State.rank_le_of_extend (ending : (State.extend states s).getLast? = some t) :
    s.rank ≤ t.rank := by
  unfold State.extend at ending
  split at ending
  · obtain rfl : s = t := by simpa using ending
    exact Nat.le_refl _
  · rename_i blocked
    have blocked : ¬ t < s := fun below => blocked (ending ▸ mayFollow_some.mpr below)
    exact Nat.le_of_not_lt blocked

theorem State.extend_ne_nil (started : states ≠ []) : State.extend states s ≠ [] := by
  unfold State.extend
  split
  · simp
  · exact started

theorem Call.extend_ne_nil (started : states ≠ []) (c : Call) : c.extend states ≠ [] := by
  cases c with
  | connected | configured | disconnecting => exact State.extend_ne_nil started
  | dispose => exact State.extend_ne_nil (State.extend_ne_nil started)
  | requestClose => exact started

theorem Call.extend_connected_ne_nil : Call.connected.extend states ≠ [] := by
  cases states with
  | nil => simp [Call.extend, State.extend, State.mayFollow]
  | cons first rest => exact State.extend_ne_nil (by simp)

/-- A disposal leaves no state but the last one at the end. -/
theorem Call.eq_disposed_of_extend (ending : (Call.dispose.extend states).getLast? = some t) :
    t = .disposed := by
  have reached := State.rank_le_of_extend ending
  cases t <;> simp_all [State.rank]

theorem State.Course.call (course : Course states) (c : Call) : Course (c.extend states) := by
  cases c with
  | connected | configured | disconnecting => exact course.extend (by simp)
  | dispose =>
    have closing : Course (State.extend states .disconnecting) := course.extend (by simp)
    exact closing.extend fun _ t ending => State.rank_le_of_extend ending
  | requestClose => exact course

end

/-! ## What one operation tells -/

namespace Hub

variable {h : Hub} {id : Nat} {os : List Observer} {states : List State} {s : State}

/-- The observers `os` of a lifecycle have heard exactly `states` since `past`, each state all of them in
order before the next one. -/
structure Heard (past : List Event) (id : Nat) (os : List Observer) (states : List State) (h : Hub) :
    Prop where
  running : h.failing = false
  present : ∃ l, h.lifecycle? id = some l ∧ l.observers = os ∧ l.state = states.getLast?
  told : ∃ news, h.events = past ++ news ∧
    news.filterMap (stateNotice? id) = states.flatMap fun s => os.map fun o => (o.name, s)

theorem tell_quiet {move : Hub → Nat → State → Hub} {o : Observer} (running : h.failing = false)
    (quiet : o.IsQuiet) : tell move id s h o = h.emit (o.stateEvent id s) := by
  simp [tell, running, quiet s]

theorem foldl_tell_quiet {move : Hub → Nat → State → Hub} (running : h.failing = false)
    (quiet : ∀ o ∈ os, o.IsQuiet) :
    os.foldl (tell move id s) h = h.emitAll (os.map fun o => o.stateEvent id s) := by
  induction os generalizing h with
  | nil => simp [emitAll]
  | cons o rest ih =>
    have later := ih (h := h.emit (o.stateEvent id s)) running
      fun q member => quiet q (List.mem_cons_of_mem _ member)
    rw [List.foldl_cons, tell_quiet running (quiet o List.mem_cons_self), later]
    simp [emit, emitAll]

/-- A state that may follow is entered and told to everybody. -/
theorem advance_of_mayFollow {l : Lifecycle} (running : h.failing = false)
    (found : h.lifecycle? id = some l) (quiet : ∀ o ∈ l.observers, o.IsQuiet)
    (follows : State.mayFollow l.state s = true) :
    h.advance id s =
      if s = .disposed then
        ((h.enter id l.group s).emitAll (l.observers.map fun o => o.stateEvent id s)).release id
      else (h.enter id l.group s).emitAll (l.observers.map fun o => o.stateEvent id s) := by
  have entered : (h.enter id l.group s).failing = false := failing_enter.trans running
  simp [advance, advanceWithin, found, running, follows, foldl_tell_quiet entered quiet, emitAll]

/-- Another state is not. -/
theorem advance_of_not_mayFollow {l : Lifecycle} (found : h.lifecycle? id = some l)
    (blocked : State.mayFollow l.state s = false) : h.advance id s = h := by
  simp [advance, advanceWithin, found, blocked]

theorem filterMap_stateEvent (id : Nat) (s : State) (os : List Observer) :
    (os.map fun o => o.stateEvent id s).filterMap (stateNotice? id) = os.map fun o => (o.name, s) := by
  induction os with
  | nil => rfl
  | cons o rest ih =>
    have own : stateNotice? id (o.stateEvent id s) = some (o.name, s) := by
      unfold Observer.stateEvent
      split <;> simp [stateNotice?]
    simp [own, ih]

variable {past : List Event}

/-- What is not news of a state of this connection changes nothing. -/
theorem Heard.emitAll (heard : h.Heard past id os states) (es : List Event)
    (other : es.filterMap (stateNotice? id) = []) : (h.emitAll es).Heard past id os states := by
  obtain ⟨news, shown, told⟩ := heard.told
  refine ⟨heard.running, heard.present, news ++ es, ?_, ?_⟩
  · simp [Hub.emitAll, shown]
  · simp [told, other]

/-- A mark on a lifecycle is not told. -/
theorem Heard.modify (heard : h.Heard past id os states) {j : Nat} (f : Lifecycle → Lifecycle)
    (same : ∀ l, (f l).observers = l.observers ∧ (f l).state = l.state) :
    (h.modify j f).Heard past id os states := by
  obtain ⟨l, found, observers, state⟩ := heard.present
  refine ⟨heard.running, ?_, heard.told⟩
  rw [lifecycle?_modify, found]
  split
  · exact ⟨f l, rfl, (same l).1.trans observers, (same l).2.trans state⟩
  · exact ⟨l, rfl, observers, state⟩

theorem Heard.letGo (heard : h.Heard past id os states) {j : Nat} :
    (h.letGo j).Heard past id os states :=
  heard.modify _ fun _ => ⟨rfl, rfl⟩

theorem Heard.advance (heard : h.Heard past id os states) (quiet : ∀ o ∈ os, o.IsQuiet) (s : State) :
    (h.advance id s).Heard past id os (State.extend states s) := by
  obtain ⟨l, found, rfl, state⟩ := heard.present
  unfold State.extend
  split
  · rename_i follows
    rw [advance_of_mayFollow heard.running found quiet (state ▸ follows)]
    have told : ((h.enter id l.group s).emitAll (l.observers.map fun o => o.stateEvent id s)).Heard
        past id l.observers (states ++ [s]) := by
      obtain ⟨news, shown, before⟩ := heard.told
      refine ⟨failing_enter.trans heard.running, ⟨{ l with state := some s }, ?_, rfl, by simp⟩,
        news ++ l.observers.map fun o => o.stateEvent id s, ?_, ?_⟩
      · simp [lifecycle?_enter, found]
      · simp [Hub.emitAll, shown]
      · rw [List.filterMap_append, before, filterMap_stateEvent]
        simp
    split
    · exact told.modify _ fun _ => ⟨rfl, rfl⟩
    · exact told
  · rename_i blocked
    rw [advance_of_not_mayFollow found (by simpa [state] using blocked)]
    exact heard

/-- After a call the observers have heard of what it adds. -/
theorem Heard.call (heard : h.Heard past id os states) (quiet : ∀ o ∈ os, o.IsQuiet) (c : Call) :
    (h.call id c).Heard past id os (c.extend states) := by
  cases c with
  | connected | configured | disconnecting => exact heard.advance quiet _
  | dispose => exact (heard.advance quiet .disconnecting).advance quiet .disposed
  | requestClose => exact heard.modify _ fun _ => ⟨rfl, rfl⟩

end Hub

/-! ## What a poll does -/

/-- Events that tell nobody of a state. -/
def Event.Silent (es : List Event) : Prop := ∀ id, es.filterMap (stateNotice? id) = []

namespace Flow

variable {σ : Type} {m : Medium σ} {f g : Flow σ}

/-- What a poll of a connection may do to its lifecycle: it shows something of the stream, and perhaps it
starts the closing. -/
structure Polled (f g : Flow σ) : Prop where
  own : g.channel.id = f.channel.id
  shows : ∃ es, Event.Silent es ∧
    (g.hub = f.hub.emitAll es ∨ g.hub = (f.hub.emitAll es).disconnecting f.channel.id)

theorem silent_stream (es : List Stream.Event) : Event.Silent (es.map .stream) := by
  intro id
  rw [List.filterMap_map]
  exact List.filterMap_eq_nil_iff.mpr fun _ _ => rfl

theorem operate_hub {α : Type} (op : Layered σ → Turn (Layered σ) α) (f : Flow σ) :
    (f.operate op).1.channel.id = f.channel.id ∧
      ∃ es, Event.Silent es ∧ (f.operate op).1.hub = f.hub.emitAll es := by
  unfold operate
  split
  · exact ⟨rfl, [], fun _ => rfl, by simp [Hub.emitAll]⟩
  · exact ⟨rfl, _, silent_stream _, rfl⟩

theorem polled_still (own : g.channel.id = f.channel.id) {es : List Event} (silent : Event.Silent es)
    (shown : g.hub = f.hub.emitAll es) : f.Polled g :=
  ⟨own, es, silent, .inl shown⟩

theorem polled_closeInbound (own : g.channel.id = f.channel.id) {es : List Event}
    (silent : Event.Silent es) (shown : g.hub = f.hub.emitAll es) : f.Polled g.closeInbound := by
  unfold closeInbound
  split
  · exact polled_still own silent shown
  · refine ⟨own, es ++ [.inboundClosed g.channel.id], fun id => ?_, .inr ?_⟩
    · rw [List.filterMap_append, silent id]
      rfl
    · simp [shown, own, Hub.emit, Hub.emitAll]

theorem polled_closeOutbound (own : g.channel.id = f.channel.id) {es : List Event}
    (silent : Event.Silent es) (shown : g.hub = f.hub.emitAll es) : f.Polled g.closeOutbound := by
  unfold closeOutbound
  split
  · exact polled_still own silent shown
  · refine ⟨own, es ++ [.outboundClosed g.channel.id], fun id => ?_, .inr ?_⟩
    · rw [List.filterMap_append, silent id]
      rfl
    · simp [shown, own, Hub.emit, Hub.emitAll]

theorem polled_read (f : Flow σ) (room : Nat) : f.Polled ((Flow.medium m).read f room).state := by
  obtain ⟨own, es, silent, shown⟩ := f.operate_hub fun s => (Layered.medium m).read s room
  simp only [medium, read]
  split
  · exact polled_closeInbound own silent shown
  · exact polled_still own silent shown

theorem polled_write (f : Flow σ) (bytes : Bytes) :
    f.Polled ((Flow.medium m).write f bytes).state := by
  obtain ⟨own, es, silent, shown⟩ := f.operate_hub fun s => (Layered.medium m).write s bytes
  simp only [medium, write]
  split
  · exact polled_closeOutbound own silent shown
  · exact polled_still own silent shown

theorem polled_flush (f : Flow σ) : f.Polled ((Flow.medium m).flush f).state := by
  obtain ⟨own, es, silent, shown⟩ := f.operate_hub (Layered.medium m).flush
  exact polled_still own silent shown

theorem polled_shutdown (f : Flow σ) : f.Polled ((Flow.medium m).shutdown f).state := by
  obtain ⟨own, es, silent, shown⟩ := f.operate_hub (Layered.medium m).shutdown
  simp only [medium, shutdown]
  split
  · exact polled_closeOutbound own silent shown
  · exact polled_still own silent shown

end Flow

/-! ## Everything that can happen to a lifecycle -/

/-- One lifecycle, with the handle on it and the connection built over it. -/
structure Owned (σ : Type) where
  hub : Hub
  id : Nat
  handle : Bool := true
  channel : Option (Channel σ) := none

/-- What its owner can do. -/
inductive Act (σ : Type) where
  | call (c : Call)
  /-- A connection is built over it. -/
  | build (stream : Layered σ)
  /-- The stream of the connection is replaced, or lost. -/
  | replace (f : Layered σ → Option (Layered σ))
  | read (room : Nat)
  | write (bytes : Bytes)
  | flush
  | shutdown
  /-- The connection is dropped; its stream may show something as it goes. -/
  | dropConnection (shown : List Stream.Event)
  /-- The handle is dropped. -/
  | dropHandle

namespace Owned

variable {σ : Type} {m : Medium σ} {o : Owned σ} {past : List Event} {os : List Observer}
  {states : List State}

/-- A new lifecycle in the hands of its maker. -/
def create (h : Hub) (localEnd remoteEnd : Address.Endpoint) (os : List Observer) (group : Option Nat) :
    Owned σ :=
  let (hub, id) := h.recover.create localEnd remoteEnd os group
  { hub, id }

def isHeld (o : Owned σ) : Bool := o.handle || o.channel.isSome

/-- A poll of the connection, if there is one. -/
def poll (o : Owned σ) (op : Flow σ → Flow σ) : Owned σ :=
  match o.channel with
  | none => o
  | some channel =>
    let f := op { hub := o.hub, channel }
    { o with hub := f.hub, channel := some f.channel }

/-- The lifecycle goes with the last one that holds it. -/
def settle (o : Owned σ) : Owned σ := if o.isHeld then o else { o with hub := o.hub.drop o.id }

/-- One act; nothing happens if nobody is there to do it. A connection that is dropped loses its stream
first, and then it is disposed. -/
def step (m : Medium σ) (o : Owned σ) : Act σ → Owned σ
  | .call c => if o.isHeld then { o with hub := o.hub.call o.id c } else o
  | .build stream =>
    if o.handle && o.channel.isNone then
      { o with channel := some { id := o.id, stream := some stream } }
    else o
  | .replace f => { o with channel := o.channel.map fun c => { c with stream := c.stream.bind f } }
  | .read room => o.poll fun f => ((Flow.medium m).read f room).state
  | .write bytes => o.poll fun f => ((Flow.medium m).write f bytes).state
  | .flush => o.poll fun f => ((Flow.medium m).flush f).state
  | .shutdown => o.poll fun f => ((Flow.medium m).shutdown f).state
  | .dropConnection shown =>
    if o.channel.isSome then
      settle { o with hub := (o.hub.emitAll (shown.map .stream)).dispose o.id, channel := none }
    else o
  | .dropHandle => if o.handle then settle { o with handle := false } else o

def run (m : Medium σ) (o : Owned σ) (acts : List (Act σ)) : Owned σ := acts.foldl (step m) o

/-- What holds of a lifecycle at any time: its observers have heard one course, and when nobody holds it
any more that course has come to its end. -/
structure Sound (past : List Event) (os : List Observer) (states : List State) (o : Owned σ) : Prop where
  heard : o.hub.Heard past o.id os states
  course : State.Course states
  held : o.hub.isHeld o.id = o.isHeld
  own : ∀ c, o.channel = some c → c.id = o.id
  gone : o.isHeld = false → ∀ t, states.getLast? = some t → t = .disposed

/-- While somebody holds the lifecycle, the hub may go on and the connection may be another one. -/
theorem Sound.go {hub : Hub} {states' : List State} {channel : Option (Channel σ)}
    (sound : o.Sound past os states) (heard : hub.Heard past o.id os states')
    (course : State.Course states') (still : hub.isHeld o.id = o.hub.isHeld o.id)
    (alive : o.isHeld = true) (kept : (o.handle || channel.isSome) = true)
    (own : ∀ c, channel = some c → c.id = o.id) :
    Sound past os states' { o with hub, channel } where
  heard := heard
  course := course
  held := still.trans (sound.held.trans (alive.trans kept.symm))
  own := own
  gone lost := absurd (kept.symm.trans lost) (by decide)

/-- When the last one lets go, the course comes to its end. -/
theorem sound_settle (heard : o.hub.Heard past o.id os states) (course : State.Course states)
    (quiet : ∀ o ∈ os, o.IsQuiet) (alive : o.hub.isHeld o.id = true)
    (own : ∀ c, o.channel = some c → c.id = o.id) :
    ∃ states', o.settle.Sound past os states' ∧ (states ≠ [] → states' ≠ []) := by
  unfold settle
  split
  · rename_i held
    refine ⟨states, ⟨heard, course, alive.trans held.symm, own, ?_⟩, fun started => started⟩
    exact fun lost => absurd (held.symm.trans lost) (by decide)
  · rename_i lost
    have lost : o.isHeld = false := Bool.eq_false_iff.mpr lost
    refine ⟨Call.dispose.extend states, ⟨?_, course.call .dispose, Hub.isHeld_drop.trans lost.symm, own,
      fun _ _ ending => Call.eq_disposed_of_extend ending⟩, fun started => Call.extend_ne_nil started _⟩
    simp only [Hub.drop_of_isHeld alive]
    exact heard.letGo.call quiet .dispose

/-- A poll goes on with the course, or leaves it as it is. -/
theorem Sound.poll (sound : o.Sound past os states) (quiet : ∀ o ∈ os, o.IsQuiet)
    {op : Flow σ → Flow σ} (polled : ∀ f : Flow σ, f.Polled (op f)) :
    ∃ states', (o.poll op).Sound past os states' ∧ (states ≠ [] → states' ≠ []) := by
  unfold Owned.poll
  cases held : o.channel with
  | none => exact ⟨states, sound, fun started => started⟩
  | some channel =>
    have alive : o.isHeld = true := by simp [isHeld, held]
    have identity : channel.id = o.id := sound.own channel held
    obtain ⟨own, es, silent, shown | shown⟩ := polled { hub := o.hub, channel }
    · refine ⟨states, sound.go ?_ sound.course ?_ alive (by simp) ?_, fun started => started⟩
      · exact shown ▸ sound.heard.emitAll es (silent _)
      · rw [shown]
        rfl
      · simpa [identity] using own
    · rw [identity] at shown
      refine ⟨Call.disconnecting.extend states, sound.go ?_ (sound.course.call _) ?_ alive (by simp) ?_,
        fun started => Call.extend_ne_nil started _⟩
      · exact shown ▸ (sound.heard.emitAll es (silent _)).call quiet .disconnecting
      · rw [shown]
        exact (Hub.call_evolves _ _ .disconnecting).isHeld
      · simpa [identity] using own

theorem Sound.call (sound : o.Sound past os states) (quiet : ∀ o ∈ os, o.IsQuiet) (c : Call) :
    ∃ states', (o.step m (.call c)).Sound past os states' ∧
      (states ≠ [] ∨ (c = .connected ∧ o.isHeld = true) → states' ≠ []) := by
  simp only [Owned.step]
  split
  · rename_i alive
    refine ⟨c.extend states, sound.go (sound.heard.call quiet c) (sound.course.call c)
      (Hub.call_evolves _ _ c).isHeld alive alive sound.own, ?_⟩
    rintro (started | ⟨rfl, -⟩)
    · exact Call.extend_ne_nil started c
    · exact Call.extend_connected_ne_nil
  · rename_i gone
    refine ⟨states, sound, ?_⟩
    rintro (started | ⟨-, alive⟩)
    · exact started
    · exact absurd alive gone

/-- A connection that is built tells nobody anything. -/
theorem Sound.build (sound : o.Sound past os states) (stream : Layered σ) :
    (o.step m (.build stream)).Sound past os states := by
  simp only [Owned.step]
  split
  · rename_i allowed
    have handle : o.handle = true := (Bool.and_eq_true_iff.mp allowed).1
    refine sound.go sound.heard sound.course rfl (by simp [isHeld, handle]) (by simp) ?_
    rintro c made
    obtain rfl := Option.some.inj made
    rfl
  · exact sound

/-- And so does a stream that is replaced. -/
theorem Sound.replace (sound : o.Sound past os states) (f : Layered σ → Option (Layered σ)) :
    (o.step m (.replace f)).Sound past os states where
  heard := sound.heard
  course := sound.course
  held := by simpa [Owned.step, isHeld] using sound.held
  own c made := by
    obtain ⟨k, present, rfl⟩ := Option.map_eq_some_iff.mp made
    exact sound.own k present
  gone lost := sound.gone (by simpa [Owned.step, isHeld] using lost)

theorem Sound.dropConnection (sound : o.Sound past os states) (quiet : ∀ o ∈ os, o.IsQuiet)
    (shown : List Stream.Event) :
    ∃ states', (o.step m (.dropConnection shown)).Sound past os states' ∧
      (states ≠ [] → states' ≠ []) := by
  simp only [Owned.step]
  split
  · rename_i present
    have alive : o.isHeld = true := by simp [isHeld, present]
    have shed := (sound.heard.emitAll _ (Flow.silent_stream shown _)).call quiet .dispose
    have holds : ((o.hub.emitAll (shown.map .stream)).dispose o.id).isHeld o.id = true :=
      (Hub.call_evolves (o.hub.emitAll (shown.map .stream)) _ .dispose).isHeld.trans
        (sound.held.trans alive)
    obtain ⟨states', later, onward⟩ := sound_settle
      (o := { o with hub := (o.hub.emitAll (shown.map .stream)).dispose o.id, channel := none })
      shed (sound.course.call .dispose) quiet holds (by simp)
    exact ⟨states', later, fun started => onward (Call.extend_ne_nil started _)⟩
  · exact ⟨states, sound, fun started => started⟩

theorem Sound.dropHandle (sound : o.Sound past os states) (quiet : ∀ o ∈ os, o.IsQuiet) :
    ∃ states', (o.step m .dropHandle).Sound past os states' ∧ (states ≠ [] → states' ≠ []) := by
  simp only [Owned.step]
  split
  · rename_i handle
    have alive : o.hub.isHeld o.id = true := sound.held.trans (by simp [isHeld, handle])
    exact sound_settle (o := { o with handle := false }) sound.heard sound.course quiet alive sound.own
  · exact ⟨states, sound, fun started => started⟩

/-- One act goes on with the course; it has begun if it had, or if the act is the first call. -/
theorem Sound.step (sound : o.Sound past os states) (quiet : ∀ o ∈ os, o.IsQuiet) (act : Act σ) :
    ∃ states', (o.step m act).Sound past os states' ∧
      (states ≠ [] ∨ (act = .call .connected ∧ o.isHeld = true) → states' ≠ []) := by
  -- Only `connected` begins a course, whatever else goes on with it.
  have goesOn : ∀ {p : Owned σ}, (∀ c, act ≠ .call c) →
      (∃ states', p.Sound past os states' ∧ (states ≠ [] → states' ≠ [])) →
      ∃ states', p.Sound past os states' ∧
        (states ≠ [] ∨ (act = .call .connected ∧ o.isHeld = true) → states' ≠ []) := by
    rintro p other ⟨states', later, onward⟩
    refine ⟨states', later, ?_⟩
    rintro (started | ⟨called, -⟩)
    · exact onward started
    · exact absurd called (other _)
  cases act with
  | call c =>
    obtain ⟨states', later, onward⟩ := sound.call (m := m) quiet c
    refine ⟨states', later, fun begins => onward (begins.imp_right ?_)⟩
    rintro ⟨called, alive⟩
    exact ⟨Act.call.inj called, alive⟩
  | build stream => exact goesOn (by simp) ⟨states, sound.build stream, fun started => started⟩
  | replace f => exact goesOn (by simp) ⟨states, sound.replace f, fun started => started⟩
  | read room => exact goesOn (by simp) (sound.poll quiet fun f => f.polled_read room)
  | write bytes => exact goesOn (by simp) (sound.poll quiet fun f => f.polled_write bytes)
  | flush => exact goesOn (by simp) (sound.poll quiet fun f => f.polled_flush)
  | shutdown => exact goesOn (by simp) (sound.poll quiet fun f => f.polled_shutdown)
  | dropConnection shown => exact goesOn (by simp) (sound.dropConnection quiet shown)
  | dropHandle => exact goesOn (by simp) (sound.dropHandle quiet)

/-- Whether `connected` was called while somebody held the lifecycle. -/
def Begun (m : Medium σ) (o : Owned σ) (acts : List (Act σ)) : Prop :=
  ∃ before after, acts = before ++ .call .connected :: after ∧ (o.run m before).isHeld = true

theorem Sound.run (sound : o.Sound past os states) (quiet : ∀ o ∈ os, o.IsQuiet)
    (acts : List (Act σ)) :
    ∃ states', (o.run m acts).Sound past os states' ∧
      (states ≠ [] ∨ Begun m o acts → states' ≠ []) := by
  induction acts generalizing o states with
  | nil =>
    refine ⟨states, sound, ?_⟩
    rintro (started | ⟨before, after, split, -⟩)
    · exact started
    · simp at split
  | cons act rest ih =>
    obtain ⟨middle, stepped, onward⟩ := sound.step (m := m) quiet act
    obtain ⟨states', later, beyond⟩ := ih stepped
    refine ⟨states', later, ?_⟩
    rintro (started | ⟨before, after, split, held⟩)
    · exact beyond (.inl (onward (.inl started)))
    · cases before with
      | nil =>
        obtain ⟨rfl, -⟩ := List.cons.inj split
        exact beyond (.inl (onward (.inr ⟨rfl, held⟩)))
      | cons first earlier =>
        obtain ⟨rfl, rfl⟩ := List.cons.inj split
        exact beyond (.inr ⟨earlier, after, rfl, held⟩)

theorem sound_create (h : Hub) (localEnd remoteEnd : Address.Endpoint) (os : List Observer)
    (group : Option Nat) : (create h localEnd remoteEnd os group : Owned σ).Sound h.events os [] where
  heard := by
    have fresh : (h.create localEnd remoteEnd os group).1.lifecycle? h.lifecycles.length =
        some { identity := ⟨h.lifecycles.length + 1, localEnd, remoteEnd⟩, observers := os, group } :=
      Hub.lifecycle?_create.trans (if_pos rfl)
    exact ⟨rfl, ⟨_, fresh, rfl, rfl⟩, [], by simp [create, Hub.recover, Hub.create], rfl⟩
  course := .nil
  held := by simp [create, Hub.recover, Hub.create, Hub.isHeld, Hub.lifecycle?, isHeld]
  own _ absent := nomatch absent
  gone _ _ ending := nomatch ending

private theorem told_to_one {o : Observer} (member : o ∈ os) (unique : (os.map Observer.name).Nodup)
    (s : State) :
    ((os.map fun p => (p.name, s)).filter fun n => n.1 == o.name) = [(o.name, s)] := by
  induction os with
  | nil => cases member
  | cons first rest ih =>
    obtain ⟨other, unique⟩ := List.nodup_cons.mp unique
    rcases List.mem_cons.mp member with rfl | member
    · have none : ((rest.map fun p => (p.name, s)).filter fun n => n.1 == o.name) = [] := by
        refine List.filter_eq_nil_iff.mpr fun n told same => other ?_
        obtain ⟨p, inside, rfl⟩ := List.mem_map.mp told
        exact beq_iff_eq.mp same ▸ List.mem_map_of_mem inside
      simp [none]
    · have different : (first.name == o.name) = false := by
        refine beq_eq_false_iff_ne.mpr fun same => other ?_
        exact same ▸ List.mem_map_of_mem member
      rw [List.map_cons, List.filter_cons_of_neg (by simp [different]), ih member unique]

/-- When states are told to all observers, one with a name of its own hears each of them once. -/
theorem heard_by_one {o : Observer} (member : o ∈ os) (unique : (os.map Observer.name).Nodup)
    (states : List State) :
    ((states.flatMap fun s => os.map fun p => (p.name, s)).filter fun n => n.1 == o.name).map Prod.snd =
      states := by
  induction states with
  | nil => rfl
  | cons s later ih =>
    rw [List.flatMap_cons, List.filter_append, List.map_append, ih, told_to_one member unique]
    rfl

/-- Whatever is done with a lifecycle and the connection over it, in whatever order: all its observers
hear one course of states, state by state and in the order in which they are listed; the state of the
lifecycle is the last of them; and once it started and is given up, they have heard of its end. -/
theorem observers_hear_one_course (m : Medium σ) (h : Hub) (localEnd remoteEnd : Address.Endpoint)
    (os : List Observer) (quiet : ∀ o ∈ os, o.IsQuiet) (group : Option Nat) (acts : List (Act σ)) :
    let start := create h localEnd remoteEnd os group
    let final := start.run m acts
    ∃ states, State.Course states ∧
      h.toldSince final.hub final.id = (states.flatMap fun s => os.map fun o => (o.name, s)) ∧
      ((os.map Observer.name).Nodup → ∀ o ∈ os, h.heardSince final.hub final.id o = states) ∧
      final.hub.state? final.id = states.getLast? ∧
      (Begun m start acts → final.isHeld = false → states.getLast? = some .disposed) := by
  intro start final
  obtain ⟨states, sound, onward⟩ :=
    (sound_create h localEnd remoteEnd os group).run (m := m) quiet acts
  have told : h.toldSince final.hub final.id = states.flatMap fun s => os.map fun o => (o.name, s) := by
    obtain ⟨news, shown, told⟩ := sound.heard.told
    have shown : final.hub.events = h.events ++ news := shown
    rw [Hub.toldSince, shown, List.drop_left, told]
  refine ⟨states, sound.course, told, fun unique o member => ?_, ?_, fun begun lost => ?_⟩
  · rw [Hub.heardSince, told]
    exact heard_by_one member unique states
  · obtain ⟨l, found, -, state⟩ := sound.heard.present
    have found : final.hub.lifecycle? final.id = some l := found
    simp [Hub.state?, found, state]
  · have started : states ≠ [] := onward (.inr begun)
    obtain ⟨last, ending⟩ := Option.ne_none_iff_exists'.mp (mt List.getLast?_eq_none_iff.mp started)
    rw [ending, sound.gone lost last ending]

/-- A connection whose peer is done before its owner, who gives up the handle first. -/
def shortStay : List (Act Stream.Script) :=
  [.call .configured, .call .connected, .build ⟨{ reads := [.endOfInput] }, []⟩, .read 8, .dropHandle,
    .dropConnection []]

theorem course_of_short_stay :
    let start := create {} (.unix none) (.unix none) [{ name := "a" }, { name := "b" }] none
    let final := start.run Stream.Script.medium shortStay
    ∃ states, State.Course states ∧ Hub.heardSince {} final.hub final.id { name := "b" } = states ∧
      states.getLast? = some .disposed := by
  intro start final
  have quiet : ∀ o ∈ [{ name := "a" }, { name := "b" : Observer }], o.IsQuiet := by
    simp [Observer.IsQuiet, Observer.reactionsTo]
  obtain ⟨states, course, -, heard, -, ended⟩ := observers_hear_one_course Stream.Script.medium {}
    (.unix none) (.unix none) [{ name := "a" }, { name := "b" }] quiet none shortStay
  exact ⟨states, course, heard (by decide) _ (by simp),
    ended ⟨[.call .configured], shortStay.drop 2, rfl, rfl⟩ (by decide)⟩

end Owned

namespace Shared

/-- A connection that a program gives up is dropped as its owner would drop it. -/
theorem dropChannel_hub (s : Shared) (c : Channel (Carrier Wire)) :
    ∃ shown : List Stream.Event,
      (s.dropChannel c).hub = (s.hub.emitAll (shown.map .stream)).dispose c.id := by
  unfold dropChannel dropStream dropWire
  cases c.stream with
  | none => exact ⟨[], by simp [onHub, Hub.emitAll]⟩
  | some l => exact ⟨_, rfl⟩

/-- A poll of a connection in a program is a poll of the same connection among the same lifecycles. -/
theorem operate_hub {α : Type} (s : Shared) (c : Channel (Carrier Wire))
    (op : Flow (Carrier (Network × Wire)) → Turn (Flow (Carrier (Network × Wire))) α) :
    ∃ f, f.hub = s.hub ∧ f.channel.id = c.id ∧ (s.operate c op).1.hub = (op f).state.hub ∧
      (s.operate c op).2.1.id = (op f).state.channel.id :=
  ⟨{ hub := s.hub, channel := c.map (·.map fun w => (s.network, w)) }, rfl, rfl, rfl, rfl⟩

end Shared

end StreamHost.Connection
