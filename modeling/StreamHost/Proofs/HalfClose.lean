import Mathlib.Data.Bool.Basic
import Mathlib.Data.Fintype.EquivFin
import Mathlib.Order.Basic
import StreamHost.Proofs.Interleaving
import StreamHost.Proofs.Requests
import StreamHost.Proofs.Tellings

/-!
The two halves of a connection. Whatever is done with a connection goes to its stream, and what the stream
gives is given on. The one thing that is added is a watch for the end of a half, and the first half that
ends is what the observers hear of as the beginning of the end; the second one tells them nothing new.
-/

namespace StreamHost.Connection

open StreamHost.Stream (Layered Medium Poll Reply Request)

/-! ## What is done with a connection -/

/-- What its owner does with a connection. -/
inductive Use (σ : Type) where
  | ask (r : Request)
  /-- The stream is wrapped, or replaced by another one. -/
  | mapStream (stage : Layered σ → Layered σ)

/-- The same, done with the stream alone. -/
def Use.onStream {σ : Type} (m : Medium σ) (s : Layered σ) : Use σ → Layered σ × Option Reply
  | ask r => let o := (Layered.medium m).ask s r; (o.state, some o.reply)
  | mapStream stage => (stage s, none)

/-- What becomes of the connection, and what was given. -/
def Flow.use {σ : Type} (m : Medium σ) (f : Flow σ) : Use σ → Flow σ × Option Reply
  | .ask r => let o := (Flow.medium m).ask f r; (o.state, some o.reply)
  | .mapStream stage => ({ f with channel := f.channel.mapStream stage }, none)

/-- A read fails, or adds nothing where there is room. -/
inductive EndsInbound {σ : Type} : Use σ → Option Reply → Prop where
  | failed (room : Nat) (e : IoError) : EndsInbound (.ask (.read room)) (some (.read (.fail e)))
  | nothing {room : Nat} (wanted : 0 < room) : EndsInbound (.ask (.read room)) (some (.read (.done [])))

/-- A write fails, or a shutdown is over. -/
inductive EndsOutbound {σ : Type} : Use σ → Option Reply → Prop where
  | failed (bytes : Bytes) (e : IoError) : EndsOutbound (.ask (.write bytes)) (some (.written (.fail e)))
  | shutDown (result : Except IoError Unit) :
      EndsOutbound (.ask .shutdown) (some (.shutDown (.ready result)))

/-! ## Who hears of a state -/

theorem exists_other_name (os : List Observer) : ∃ name, ∀ o ∈ os, o.name ≠ name := by
  obtain ⟨name, fresh⟩ := Infinite.exists_notMem_finset (os.map Observer.name).toFinset
  exact ⟨name, fun o member same => fresh (by simpa using ⟨o, member, same⟩)⟩

namespace Hub

variable {h h' : Hub} {id depth : Nat} {os : List Observer} {s : State} {l : Lifecycle}

/-- Since an earlier time, these have heard of a state, in order. -/
def HeardBy (names : List String) (s : State) (id : Nat) (h h' : Hub) : Prop :=
  ∃ es, h'.events = h.events ++ es ∧ hearers s (es.filterMap (stateNotice? id)) = names

theorem HeardBy.hearers_eq {names : List String} (heard : HeardBy names s id h h') :
    hearers s (h.toldSince h' id) = names := by
  obtain ⟨es, shown, heard⟩ := heard
  rw [toldSince, shown, List.drop_left, heard]

theorem HeardBy.trans {names more : List String} {h'' : Hub} (first : HeardBy names s id h h')
    (second : HeardBy more s id h' h'') : HeardBy (names ++ more) s id h h'' := by
  obtain ⟨es, shown, heard⟩ := first
  obtain ⟨fs, shown', heard'⟩ := second
  exact ⟨es ++ fs, by rw [shown', shown, List.append_assoc], by simp [heard, heard']⟩

/-- Of a state that a connection has reached nobody is told by moves that come later. -/
theorem Moves.heardBy {name : String} (moves : Moves name id false none h h')
    (reached : s.rank ≤ h.place id) : HeardBy [] s id h h' := by
  obtain ⟨states, es, enters, shown, tells⟩ := moves
  refine ⟨es, shown, hearers_of_unheard fun n member same => ?_⟩
  obtain ⟨e, among, notice⟩ := List.mem_filterMap.mp member
  obtain ⟨-, entered | never⟩ := tells.about e among id n.1 n.2 notice
  · have above := (enters.between n.2 entered).1
    rw [same] at above
    omega
  · cases never

/-- An observer that is told of a state that was reached hears of it before it reacts. -/
theorem tell_heardBy {o : Observer} (running : h.failing = false) (reached : s.rank ≤ h.place id) :
    HeardBy [o.name] s id h (tell (advanceWithin depth) id s h o) := by
  have heard : HeardBy [o.name] s id h (h.emit (o.stateEvent id s)) := by
    refine ⟨[o.stateEvent id s], rfl, ?_⟩
    have notice := filterMap_stateEvent id s [o]
    simp only [List.map_cons, List.map_nil] at notice
    simp [notice, hearers]
  generalize onward : h.emit (o.stateEvent id s) = h' at heard
  have reached : s.rank ≤ h'.place id := by simpa [← onward, place] using reached
  -- What is told of a move is known for one name at a time, so a name is taken that nobody goes by.
  obtain ⟨name, others⟩ := exists_other_name ((h'.observers? id).getD [])
  have advances : Advances name id false (h'.observers? id) (advanceWithin depth) := by
    intro h t watched
    refine advanceWithin_moves depth watched (fun os watchers => ?_) t
    rw [watchers] at others
    exact others
  have reacts : Moves name id false none h'
      ((o.reactionsTo s).foldl (react (advanceWithin depth) o.name id) h') := by
    refine List.foldlRecOn (motive := fun after => Moves name id false none h' after) _ _
      (.refl name id false none h') fun after before r _ => ?_
    exact before.trans (.react advances before.evolves.observers? o.name r)
  simp only [tell, running, onward]
  exact heard.trans (reacts.heardBy reached)

theorem tellAll_heardBy (calm : h.Calm id) (reached : s.rank ≤ h.place id) (kind : ∀ o ∈ os, o.NeverFails) :
    HeardBy (os.map Observer.name) s id h (os.foldl (tell (advanceWithin depth) id s) h) := by
  induction os generalizing h with
  | nil => exact ⟨[], by simp, rfl⟩
  | cons o rest ih =>
    have tame := calm_withstands id
    have onward := evolves_withstands h id
    have calm' := tame.tell (tame.advanceWithin depth) (kind o List.mem_cons_self) (s := s) calm
    have evolves := onward.tell (onward.advanceWithin depth) (o := o) trivial (s := s) (.refl id h)
    have later := ih calm' (Nat.le_trans reached evolves.place_le)
      fun p member => kind p (List.mem_cons_of_mem _ member)
    exact (tell_heardBy calm.running reached).trans later

/-- Everybody hears of a state that is entered, in order, whatever else they then do. -/
theorem advance_heardBy (calm : h.Calm id) (found : h.lifecycle? id = some l)
    (follows : State.mayFollow l.state s = true) :
    HeardBy (l.observers.map Observer.name) s id h (h.advance id s) := by
  have kind := calm.observers l found
  have entered : (h.enter id l.group s).Calm id := (calm_withstands id).enter calm found follows
  have reached : s.rank ≤ (h.enter id l.group s).place id := by
    simp [place, lifecycle?_enter, found, Lifecycle.place]
  have told : HeardBy (l.observers.map Observer.name) s id h
      (l.observers.foldl (tell (advanceWithin 3) id s) (h.enter id l.group s)) := by
    have all : HeardBy (l.observers.map Observer.name) s id (h.enter id l.group s)
        (l.observers.foldl (tell (advanceWithin 3) id s) (h.enter id l.group s)) :=
      tellAll_heardBy entered reached kind
    obtain ⟨es, shown, heard⟩ := all
    exact ⟨es, by rw [shown, events_enter], heard⟩
  have allowed : ¬ (h.failing = true ∨ State.mayFollow l.state s = false) := by simp [calm.running, follows]
  rw [advance, advanceWithin, found]
  simp only [if_neg allowed]
  split
  · exact told
  · exact told

/-- A connection on its way is told to close: everybody hears of it, unless they have heard before. -/
theorem disconnecting_heardBy (calm : h.Calm id) (found : h.lifecycle? id = some l)
    (started : l.state ≠ none) :
    HeardBy (if l.place < State.disconnecting.rank then l.observers.map Observer.name else []) .disconnecting id
      h (h.disconnecting id) := by
  cases follows : State.mayFollow l.state .disconnecting with
  | true =>
    rw [if_pos (State.place_lt_of_mayFollow follows)]
    exact advance_heardBy calm found follows
  | false =>
    have reached := State.rank_le_place follows (.inl started)
    have still : h.disconnecting id = h := advance_of_not_mayFollow found follows
    rw [if_neg (Nat.not_lt.mpr reached), still]
    exact ⟨[], by simp, rfl⟩

end Hub

namespace Flow

/-- Which halves have ended. -/
def halves {σ : Type} (f : Flow σ) : Bool × Bool := (f.channel.inboundClosed, f.channel.outboundClosed)

section

variable {σ : Type} {m : Medium σ} {f g g' : Flow σ} {s : Layered σ} {room : Nat} {bytes : Bytes}

theorem endsInbound_iff {p : Poll Bytes} : endsInbound room p = true ↔
    EndsInbound (.ask (.read room) : Use σ) (some (.read p)) := by
  constructor
  · intro ends
    unfold endsInbound at ends
    split at ends
    · exact .nothing (of_decide_eq_true ends)
    · exact .failed room _
    · cases ends
  · rintro (_ | wanted)
    · rfl
    · exact decide_eq_true wanted

theorem isFailure_iff {p : Poll Nat} : p.isFailure = true ↔
    EndsOutbound (.ask (.write bytes) : Use σ) (some (.written p)) := by
  constructor
  · intro fails
    unfold Poll.isFailure at fails
    split at fails
    · exact .failed bytes _
    · cases fails
  · rintro (_ | _)
    rfl

theorem isReady_iff {p : Poll Unit} : p.isReady = true ↔
    EndsOutbound (.ask .shutdown : Use σ) (some (.shutDown p)) := by
  constructor
  · intro ready
    cases p with
    | pending => cases ready
    | ready result => exact .shutDown result
  · rintro (_ | _)
    rfl

/-! ## One use -/

/-- Something is shown that tells nobody of a state, and if a half ended the lifecycle is asked to close. -/
def Reports (f g : Flow σ) : Prop :=
  ∃ es, Event.Silent es ∧ ((g.halves = f.halves ∧ g.hub = f.hub.emitAll es) ∨
    (g.halves ≠ f.halves ∧ g.hub = (f.hub.emitAll es).disconnecting f.channel.id))

/-- What a use does to a connection: its stream goes on, and a half may end. -/
structure Turns (f g : Flow σ) (s : Layered σ) (inbound outbound : Prop) : Prop where
  own : g.channel.id = f.channel.id
  stream : g.channel.stream = some s
  inbound : g.channel.inboundClosed = true ↔ f.channel.inboundClosed = true ∨ inbound
  outbound : g.channel.outboundClosed = true ↔ f.channel.outboundClosed = true ∨ outbound
  reports : f.Reports g

/-- The stream went on, and something of it was shown. -/
structure Passes (f g : Flow σ) (s : Layered σ) : Prop where
  channel : g.channel = { f.channel with stream := some s }
  hub : ∃ es, Event.Silent es ∧ g.hub = f.hub.emitAll es

namespace Passes

variable {inbound outbound : Prop} {ends : Bool}

theorem halves (passes : f.Passes g s) : g.halves = f.halves := by
  rw [Flow.halves, passes.channel]
  rfl

theorem reports (passes : f.Passes g s) : f.Reports g := by
  obtain ⟨es, silent, shown⟩ := passes.hub
  exact ⟨es, silent, .inl ⟨passes.halves, shown⟩⟩

/-- A half ended on top of that. -/
theorem reports_close (passes : f.Passes g s) {e : Event} (silent : Event.Silent [e])
    (changed : g'.halves ≠ g.halves) (closes : g'.hub = (g.hub.emit e).disconnecting g.channel.id) :
    f.Reports g' := by
  obtain ⟨es, before, shown⟩ := passes.hub
  have own : g.channel.id = f.channel.id := by rw [passes.channel]
  refine ⟨es ++ [e], fun id => ?_, .inr ⟨passes.halves ▸ changed, ?_⟩⟩
  · rw [List.filterMap_append, before id, silent id, List.append_nil]
  · rw [closes, shown, own, Hub.emit_eq_emitAll, Hub.emitAll_emitAll]

/-- Nothing more happened. -/
theorem turns (passes : f.Passes g s) (inward : ¬ inbound) (outward : ¬ outbound) :
    f.Turns g s inbound outbound where
  own := by rw [passes.channel]
  stream := by rw [passes.channel]
  inbound := by simp [passes.channel, inward]
  outbound := by simp [passes.channel, outward]
  reports := passes.reports

/-- The answer was searched for the end of the inbound half. -/
theorem watchInbound (passes : f.Passes g s) (shows : ends = true ↔ inbound) (outward : ¬ outbound) :
    f.Turns (if ends then g.closeInbound else g) s inbound outbound := by
  cases ends with
  | false => exact passes.turns (mt shows.mpr (by decide)) outward
  | true =>
    have inward : inbound := shows.mp rfl
    unfold closeInbound
    simp only [↓reduceIte]
    split
    · rename_i ended
      have ended : f.channel.inboundClosed = true := by simpa [passes.channel] using ended
      exact ⟨by rw [passes.channel], by rw [passes.channel], by simp [passes.channel, ended],
        by simp [passes.channel, outward], passes.reports⟩
    · rename_i going
      refine ⟨by rw [passes.channel], by rw [passes.channel], by simp [inward],
        by simp [passes.channel, outward], passes.reports_close (fun _ => rfl) (fun same => ?_) rfl⟩
      exact going (Prod.mk.inj same).1.symm

/-- The answer was searched for the end of the outbound half. -/
theorem watchOutbound (passes : f.Passes g s) (shows : ends = true ↔ outbound) (inward : ¬ inbound) :
    f.Turns (if ends then g.closeOutbound else g) s inbound outbound := by
  cases ends with
  | false => exact passes.turns inward (mt shows.mpr (by decide))
  | true =>
    have outward : outbound := shows.mp rfl
    unfold closeOutbound
    simp only [↓reduceIte]
    split
    · rename_i ended
      have ended : f.channel.outboundClosed = true := by simpa [passes.channel] using ended
      exact ⟨by rw [passes.channel], by rw [passes.channel], by simp [passes.channel, inward],
        by simp [passes.channel, ended], passes.reports⟩
    · rename_i going
      refine ⟨by rw [passes.channel], by rw [passes.channel], by simp [passes.channel, inward],
        by simp [outward], passes.reports_close (fun _ => rfl) (fun same => ?_) rfl⟩
      exact going (Prod.mk.inj same).2.symm

end Passes

/-- A stream that is there is asked. -/
theorem operate_passes {α : Type} (flows : f.channel.stream = some s)
    (op : Layered σ → Stream.Turn (Layered σ) α) :
    (f.operate op).2 = (op s).poll ∧ f.Passes (f.operate op).1 (op s).state := by
  unfold operate
  rw [flows]
  exact ⟨rfl, rfl, _, silent_stream _, rfl⟩

/-- A use does to the stream what it would do to it alone, and gives the same. -/
theorem use_turns (m : Medium σ) (flows : f.channel.stream = some s) (u : Use σ) :
    (f.use m u).2 = (u.onStream m s).2 ∧
      f.Turns (f.use m u).1 (u.onStream m s).1 (EndsInbound u (f.use m u).2)
        (EndsOutbound u (f.use m u).2) := by
  have present : f.channel.stream.isSome = true := by rw [flows]; rfl
  cases u with
  | mapStream stage =>
    have passes : f.Passes (f.use m (.mapStream stage)).1 (stage s) :=
      ⟨by simp [use, Channel.mapStream, flows], [], fun _ => rfl, by simp [use]⟩
    exact ⟨rfl, passes.turns (by rintro ⟨⟩) (by rintro ⟨⟩)⟩
  | ask r =>
    cases r with
    | read room =>
      obtain ⟨reply, passes⟩ := operate_passes flows fun s => (Layered.medium m).read s room
      refine ⟨congrArg (fun p => some (Reply.read p)) reply, ?_⟩
      simp only [use, Medium.ask, Stream.Turn.outcome, medium, read, present, Bool.true_and]
      exact passes.watchInbound endsInbound_iff (by rintro ⟨⟩)
    | write bytes =>
      obtain ⟨reply, passes⟩ := operate_passes flows fun s => (Layered.medium m).write s bytes
      refine ⟨congrArg (fun p => some (Reply.written p)) reply, ?_⟩
      simp only [use, Medium.ask, Stream.Turn.outcome, medium, write, present, Bool.true_and]
      exact passes.watchOutbound isFailure_iff (by rintro ⟨⟩)
    | flush =>
      obtain ⟨reply, passes⟩ := operate_passes flows (Layered.medium m).flush
      exact ⟨congrArg (fun p => some (Reply.flushed p)) reply, passes.turns (by rintro ⟨⟩) (by rintro ⟨⟩)⟩
    | shutdown =>
      obtain ⟨reply, passes⟩ := operate_passes flows (Layered.medium m).shutdown
      refine ⟨congrArg (fun p => some (Reply.shutDown p)) reply, ?_⟩
      simp only [use, Medium.ask, Stream.Turn.outcome, medium, shutdown, present, Bool.true_and]
      exact passes.watchOutbound isReady_iff (by rintro ⟨⟩)

theorem Turns.le {inbound outbound : Prop} (turns : f.Turns g s inbound outbound) : f.halves ≤ g.halves :=
  ⟨Bool.le_iff_imp.mpr fun ended => turns.inbound.mpr (.inl ended),
    Bool.le_iff_imp.mpr fun ended => turns.outbound.mpr (.inl ended)⟩

end

/-! ## The first half that ends -/

section

variable {σ : Type} {m : Medium σ} {f g g' : Flow σ} {s : Layered σ} {l : Lifecycle} {inbound outbound : Prop}

/-- One connection later on: it is where it was if no half has ended since, and else it is about to close. -/
structure Later (f : Flow σ) (l : Lifecycle) (g : Flow σ) : Prop where
  own : g.channel.id = f.channel.id
  calm : g.hub.Calm f.channel.id
  onward : f.halves ≤ g.halves
  present : ∃ l', g.hub.lifecycle? f.channel.id = some l' ∧ l.Descends l' ∧
    ((g.halves = f.halves ∧ l'.place = l.place) ∨
      (g.halves ≠ f.halves ∧ State.disconnecting.rank ≤ l'.place))

/-- Those who are told when a connection comes from one stage to the next. -/
def farewells (f : Flow σ) (l : Lifecycle) (g g' : Flow σ) : List String :=
  if g.halves = f.halves ∧ g'.halves ≠ f.halves ∧ l.place < State.disconnecting.rank then
    l.observers.map Observer.name
  else []

theorem Later.refl (calm : f.hub.Calm f.channel.id) (found : f.hub.lifecycle? f.channel.id = some l) :
    f.Later l f :=
  ⟨rfl, calm, le_refl _, l, found, .refl l, .inl ⟨rfl, rfl⟩⟩

theorem Later.turns (later : f.Later l g) (started : l.state ≠ none)
    (turns : g.Turns g' s inbound outbound) :
    f.Later l g' ∧ Hub.HeardBy (farewells f l g g') .disconnecting f.channel.id g.hub g'.hub := by
  obtain ⟨l', found, goes, stage⟩ := later.present
  obtain ⟨es, silent, happened⟩ := turns.reports
  have own : g'.channel.id = f.channel.id := turns.own.trans later.own
  have calm : (g.hub.emitAll es).Calm f.channel.id :=
    later.calm.of_evolves (.events (.refl 0 _)) later.calm.running
  have quiet : Hub.HeardBy [] .disconnecting f.channel.id g.hub (g.hub.emitAll es) :=
    ⟨es, rfl, by rw [silent]; rfl⟩
  rcases happened with ⟨same, shown⟩ | ⟨changed, shown⟩
  · have nobody : farewells f l g g' = [] := if_neg fun ⟨going, ended, _⟩ => ended (same.trans going)
    rw [nobody, shown]
    refine ⟨⟨own, shown ▸ calm, same ▸ later.onward, l', ?_, goes, same ▸ stage⟩, quiet⟩
    rw [shown]
    exact found
  · rw [later.own] at shown
    have ended : g'.halves ≠ f.halves := fun back =>
      changed (le_antisymm (back ▸ later.onward) turns.le)
    have closes := Hub.disconnecting_heardBy calm found (goes.started started)
    have same : (if l'.place < State.disconnecting.rank then l'.observers.map Observer.name else []) =
        farewells f l g g' := by
      unfold farewells
      rw [goes.observers]
      rcases stage with ⟨going, place⟩ | ⟨past, reached⟩
      · simp [going, ended, place]
      · simp [past, Nat.not_lt.mpr reached]
    obtain ⟨l'', found', reached⟩ :=
      Hub.place_le_of_advance calm.running found (.inl (goes.started started)) (s := .disconnecting)
    obtain ⟨k, found'', goesOn⟩ :=
      (Hub.advance_evolves (g.hub.emitAll es) f.channel.id .disconnecting).some_of_lifecycle found
    obtain rfl : l'' = k := Option.some.inj (found'.symm.trans found'')
    rw [shown, ← same]
    refine ⟨⟨own, ?_, le_trans later.onward turns.le, l'', ?_, goes.trans goesOn.toDescends,
        .inr ⟨ended, reached⟩⟩,
      quiet.trans closes⟩
    · rw [shown]
      exact (Hub.calm_withstands _).call .disconnecting calm
    · rw [shown]
      exact found'

/-- A connection that has a stream. -/
def HasStream (f : Flow σ) : Prop := ∃ s, f.channel.stream = some s

theorem inbound_inTurn (has : f.HasStream) (uses : List (Use σ)) :
    (inTurn (use m) f uses).1.channel.inboundClosed = true ↔ f.channel.inboundClosed = true ∨
      ∃ x ∈ uses.zip (inTurn (use m) f uses).2, EndsInbound x.1 x.2 := by
  refine inTurn_sets HasStream (·.channel.inboundClosed = true) EndsInbound ?_ has uses
  rintro f ⟨s, flows⟩ u
  have turns := (use_turns m flows u).2
  exact ⟨⟨_, turns.stream⟩, turns.inbound⟩

theorem outbound_inTurn (has : f.HasStream) (uses : List (Use σ)) :
    (inTurn (use m) f uses).1.channel.outboundClosed = true ↔ f.channel.outboundClosed = true ∨
      ∃ x ∈ uses.zip (inTurn (use m) f uses).2, EndsOutbound x.1 x.2 := by
  refine inTurn_sets HasStream (·.channel.outboundClosed = true) EndsOutbound ?_ has uses
  rintro f ⟨s, flows⟩ u
  have turns := (use_turns m flows u).2
  exact ⟨⟨_, turns.stream⟩, turns.outbound⟩

theorem stream_inTurn (flows : f.channel.stream = some s) (uses : List (Use σ)) :
    (inTurn (use m) f uses).1.channel.stream = some (inTurn (Use.onStream m) s uses).1 ∧
      (inTurn (use m) f uses).2 = (inTurn (Use.onStream m) s uses).2 := by
  refine inTurn_alike (fun (f : Flow σ) s => f.channel.stream = some s) ?_ flows uses
  intro f s flows u
  obtain ⟨reply, turns⟩ := use_turns m flows u
  exact ⟨turns.stream, reply⟩

theorem later_inTurn (later : f.Later l g) (has : g.HasStream) (started : l.state ≠ none)
    (uses : List (Use σ)) : f.Later l (inTurn (use m) g uses).1 := by
  refine (inTurn_keeps (fun g => f.Later l g ∧ g.HasStream) ?_ ⟨later, has⟩ uses).1
  rintro g ⟨later, s, flows⟩ u
  have turns := (use_turns m flows u).2
  exact ⟨(later.turns started turns).1, _, turns.stream⟩

/-- Whatever is done with a connection on its way, one thing after another: each use gives what the stream
alone would give, and leaves the stream as it would be left alone. The inbound half ends with the first
read that fails or adds nothing where there is room, the outbound half with the first write that fails or
the first shutdown that is over, and neither with anything else. All observers hear that the connection
closes, once and in order, when the first half ends, if they have not heard of it before, and at no other
time. -/
theorem first_end_of_half_is_told (m : Medium σ) (flows : f.channel.stream = some s)
    (found : f.hub.lifecycle? f.channel.id = some l) (started : l.state ≠ none)
    (running : f.hub.failing = false) (kind : ∀ o ∈ l.observers, o.NeverFails) (uses : List (Use σ)) :
    let course := inTurn (use m) f uses
    let alone := inTurn (Use.onStream m) s uses
    let g := course.1
    course.2 = alone.2 ∧ g.channel.stream = some alone.1 ∧
      (g.channel.inboundClosed = true ↔
        f.channel.inboundClosed = true ∨ ∃ x ∈ uses.zip course.2, EndsInbound x.1 x.2) ∧
      (g.channel.outboundClosed = true ↔
        f.channel.outboundClosed = true ∨ ∃ x ∈ uses.zip course.2, EndsOutbound x.1 x.2) ∧
      ∀ u, hearers .disconnecting (g.hub.toldSince (g.use m u).1.hub f.channel.id) =
        if g.halves = f.halves ∧ (g.use m u).1.halves ≠ f.halves ∧
            l.place < State.disconnecting.rank then
          l.observers.map Observer.name
        else [] := by
  intro course alone g
  have calm : f.hub.Calm f.channel.id := by
    refine ⟨running, fun k present => ?_⟩
    obtain rfl : l = k := Option.some.inj (found.symm.trans present)
    exact kind
  obtain ⟨stream, same⟩ := stream_inTurn (m := m) flows uses
  have later : f.Later l g := later_inTurn (.refl calm found) ⟨s, flows⟩ started uses
  refine ⟨same, stream, inbound_inTurn ⟨s, flows⟩ uses, outbound_inTurn ⟨s, flows⟩ uses, fun u => ?_⟩
  exact (later.turns started (use_turns m stream u).2).2.hearers_eq

end

/-- A connection to a peer that is done after one byte. One of its observers disposes of it as soon as it
hears that it closes. -/
def toHastyPeer : Flow Stream.Script where
  hub := (Hub.create {} (.unix none) (.unix none)
    [{ name := "a", reactions := [(.disconnecting, .call .dispose)] }, { name := "b" }] none).1.connected 0
  channel := { id := 0, stream := some ⟨{ reads := [.data [7], .endOfInput] }, []⟩ }

theorem hasty_peer_is_noticed :
    let g := (inTurn (use Stream.Script.medium) toHastyPeer [.ask (.read 8), .ask (.write [])]).1
    hearers .disconnecting (g.hub.toldSince (g.use Stream.Script.medium (.ask (.read 8))).1.hub 0) =
      ["a", "b"] := by
  intro g
  obtain ⟨l, found, state, observers⟩ : ∃ l, toHastyPeer.hub.lifecycle? 0 = some l ∧
      l.state = some .connected ∧ l.observers =
        [{ name := "a", reactions := [(.disconnecting, .call .dispose)] }, { name := "b" }] :=
    ⟨_, rfl, rfl, rfl⟩
  have started : l.state ≠ none := by simp [state]
  have kind : ∀ o ∈ l.observers, o.NeverFails := by simp [observers, Observer.NeverFails]
  obtain ⟨-, -, -, -, told⟩ := first_end_of_half_is_told Stream.Script.medium (f := toHastyPeer) rfl found
    started rfl kind [.ask (.read 8), .ask (.write [])]
  refine (told (.ask (.read 8))).trans ?_
  rw [if_pos ⟨by decide, by decide, by simp [Lifecycle.place, state, State.rank]⟩, observers]
  rfl

end Flow

end StreamHost.Connection
