import StreamHost.Proofs.NoticeOrder
import StreamHost.Proofs.SessionCourse

/-!
The notices about an accepted connection are in order, whatever its hooks and its handler do, with one
exception: the failure of a handler is reported after the handler lost its connection, and so after the end,
unless somebody else had the connection by then.
-/

namespace StreamHost.Connection.Hub

variable {h : Hub} {past : List Event} {id : Nat} {os : List Observer} {shown : List Event}

/-- A connection that has come to its end, with its notices in order. After the end there may be the failure of
a handler that was started. -/
def IsOver (past : List Event) (id : Nat) (os : List Observer) (h : Hub) : Prop :=
  ∃ shown timely late, h.Shows past id os (some .disposed) shown ∧
    shown.filter (Event.isNotice id) = timely ++ late ∧ Bounded os id .disposed timely ∧
    (late = [] ∨ .handling id ∈ shown ∧ ∃ e, late = told os id (.error (.io e)))

theorem Ordered.isOver (ordered : h.Ordered past id os .disposed shown) : h.IsOver past id os :=
  ⟨shown, _, [], ordered.shows, (List.append_nil _).symm, ordered.bounded, .inl rfl⟩

theorem OrderedFrom.isOver (ordered : h.OrderedFrom past id os shown) (ended : h.isDisposed id = true) :
    h.IsOver past id os := by
  obtain ⟨last, more, later⟩ := ordered
  obtain rfl : last = .disposed := by simpa [isDisposed, later.shows.state?] using ended
  exact later.isOver

theorem IsOver.running (gone : h.IsOver past id os) : h.failing = false := by
  obtain ⟨_, _, _, shows, -⟩ := gone
  exact shows.running

/-- Nothing is called that has ended. -/
theorem Shows.call_ended (shows : h.Shows past id os (some .disposed) shown) (c : Call) :
    (h.call id c).Shows past id os (some .disposed) shown := by
  have blocked : ∀ s, h.advance id s = h := fun s => shows.advance_blocked (by cases s <;> rfl)
  cases c with
  | connected | configured | disconnecting | dispose => simpa only [call, callVia, blocked] using shows
  | requestClose => exact shows.requestClose

/-- Whatever is done with a connection that has come to its end, nobody hears of it. -/
theorem isOver_bears : Bears id (IsOver past id os) where
  traffic es gone traffic := by
    obtain ⟨shown, timely, late, shows, split, bounded, exception⟩ := gone
    exact ⟨shown, timely, late, shows.aside (filter_traffic traffic), split, bounded, exception⟩
  call c gone := by
    obtain ⟨shown, timely, late, shows, split, bounded, exception⟩ := gone
    exact ⟨shown, timely, late, shows.call_ended c, split, bounded, exception⟩
  wrapped name gone := by
    obtain ⟨shown, timely, late, shows, split, bounded, exception⟩ := gone
    refine ⟨_, timely, late, shows.emitAll [.wrapped name id], ?_, bounded,
      exception.imp_right fun failed => ⟨List.mem_append_left _ failed.1, failed.2⟩⟩
    rw [List.filter_append, split]
    simp [Event.concerns, Event.isNotice]

end StreamHost.Connection.Hub

namespace StreamHost.Server

open Connection (Shared Wire Carrier Channel Event Hub Bounded Notice told)
open StreamHost.Stream (Layered)

namespace Session

/-- What a session shows by where it stands, with its notices in order. Nobody else knows of its connection
before its handler does. -/
def IsOrdered (b : Blueprint) (past : List Event) (id : Nat) (out : Outside) (s : Shared) : Phase → Prop
  | .starting _ => out = .nobody ∧ ∃ shown, s.hub.Ordered past id b.pipeline.observers .connected shown
  | .securing _ => out = .nobody ∧ b.registry ≠ none ∧
    ∃ shown, s.hub.Ordered past id b.pipeline.observers .connected shown
  | .handling own _ => (∀ c ∈ own, c.id = id) ∧
    ∃ shown, s.hub.OrderedFrom past id b.pipeline.observers shown ∧ .handling id ∈ shown
  | .ended => s.hub.IsOver past id b.pipeline.observers

variable {b : Blueprint} {past : List Event} {id : Nat} {choices : Choices} {s : Shared}
  {shown : List Event} {out : Outside} {own : Own}

theorem IsOrdered.running {p : Phase} (ordered : IsOrdered b past id out s p) :
    s.hub.failing = false := by
  cases p with
  | starting =>
    obtain ⟨-, _, later⟩ := ordered
    exact later.shows.running
  | securing =>
    obtain ⟨-, -, _, later⟩ := ordered
    exact later.shows.running
  | handling =>
    obtain ⟨-, _, later, -⟩ := ordered
    exact later.running
  | ended => exact Hub.IsOver.running ordered

/-- What a session did without failing. -/
theorem IsOrdered.after {x : Session} {r : Shared × Phase} (ordered : IsOrdered b past id out r.1 r.2) :
    IsOrdered b past id out (x.after r).1 (x.after r).2.phase := by
  rw [after_of_running ordered.running]
  exact ordered

section

variable (bystanders : ∀ o ∈ b.pipeline.observers, o.IsBystander)
include bystanders

/-- A failure is reported in time only if the connection has not come to its end by then. -/
theorem leave_ordered (mine : ∀ c ∈ own, c.id = id)
    (ordered : s.hub.OrderedFrom past id b.pipeline.observers shown) (started : .handling id ∈ shown)
    (failure : Option IoError) : (leave s id own failure).hub.IsOver past id b.pipeline.observers := by
  obtain ⟨given, -⟩ := (bears_of_hub (Hub.orderedFrom_bears bystanders)).dropOwn ordered.running
    ⟨ordered, mine⟩
  unfold leave
  cases failure with
  | none =>
    obtain ⟨_, ended⟩ := given.dispose bystanders
    exact ended.isOver
  | some e =>
    simp only [given.running, Bool.false_eq_true, ↓reduceIte]
    obtain ⟨last, more, later⟩ := given
    by_cases gone : last = .disposed
    · subst gone
      have reported := later.shows.report (.error (.io e))
      refine ⟨_, _, told b.pipeline.observers id (.error (.io e)), reported.call_ended .dispose, ?_,
        later.bounded, .inr ⟨?_, e, rfl⟩⟩
      · rw [List.filter_append, Connection.filter_notice_told]
      · exact List.mem_append_left _ (List.mem_append_left _ started)
    · have reported := later.report gone (n := .error (.io e)) (by simp)
      obtain ⟨_, ended⟩ := reported.onward.dispose bystanders
      exact ended.isOver

theorem conclude_ordered (mine : ∀ c ∈ own, c.id = id)
    (ordered : s.hub.OrderedFrom past id b.pipeline.observers shown) (started : .handling id ∈ shown)
    (course : Handler.Course) :
    IsOrdered b past id out (conclude s id own course).1 (conclude s id own course).2 := by
  unfold conclude
  rw [if_neg (by simp [ordered.running])]
  split
  · exact leave_ordered bystanders mine ordered started _
  · exact leave_ordered bystanders mine ordered started _
  · split
    · exact leave_ordered bystanders mine ordered started _
    · exact ⟨mine, shown, ordered, started⟩

theorem handle_ordered (mine : ∀ c ∈ own, c.id = id)
    (ordered : s.hub.OrderedFrom past id b.pipeline.observers shown) (started : .handling id ∈ shown)
    (course : Handler.Course) :
    IsOrdered b past id out (handle choices s id own course).1 (handle choices s id own course).2 := by
  unfold handle
  split
  · exact leave_ordered bystanders mine ordered started _
  · obtain ⟨worked, still⟩ := (bears_of_hub (Hub.orderedFrom_bears bystanders)).workUntil
      ⟨ordered, mine⟩ course
    exact conclude_ordered bystanders still worked started _

theorem configure_ordered {c : Channel (Carrier Wire)} (own : c.id = id)
    (ordered : s.hub.OrderedFrom past id b.pipeline.observers shown) :
    IsOrdered b past id out (configure choices b s c).1 (configure choices b s c).2 := by
  obtain ⟨attached, still⟩ : (prepare b s c).1.hub.OrderedFrom past id b.pipeline.observers shown ∧
      (prepare b s c).2.id = id :=
    b.pipeline.attach_ordered bystanders ordered own
  obtain ⟨last, more, ready⟩ := attached
  have started := ready.emitAll [.handling id] (by simp [Event.concerns, Event.isNotice])
  unfold configure
  dsimp only
  rw [if_neg (by simp [ready.shows.running]), still]
  exact handle_ordered bystanders (fun _ same => Option.some.inj same ▸ still) started.onward
    (by simp [Event.concerns]) _

theorem forsake_ordered
    (ordered : s.hub.Ordered past id b.pipeline.observers .connected shown)
    (a : Tls.Acceptance (Layered Wire)) :
    IsOrdered b past id out (forsake s id a).1 (forsake s id a).2 := by
  obtain ⟨es, gone⟩ := s.dropWire_hub a.stream.inner.inner
  obtain ⟨more, closed⟩ := (ordered.aside (Connection.filter_stream es)).onward.dispose bystanders
  rw [← gone] at closed
  exact closed.isOver

omit bystanders in
theorem pollHandshake_ordered
    (ordered : s.hub.Ordered past id b.pipeline.observers .connected shown) (r : Tls.Registry)
    (a : Tls.Acceptance (Layered Wire)) :
    ∃ more, (pollHandshake s r id a).1.hub.Ordered past id b.pipeline.observers .connected
      (shown ++ more) := by
  refine ⟨_, (ordered.aside (Connection.filter_stream _)).emitAll _ fun e member => ?_⟩
  obtain ⟨note, -, rfl⟩ := List.mem_map.mp (List.mem_filter.mp member).1
  rfl

omit bystanders in
theorem reportHandshake_ordered
    (ordered : s.hub.Ordered past id b.pipeline.observers .connected shown) (chosen : Tls.Configuration)
    (session : Tls.Session) (completion : Connection.Completion) :
    ∃ more, (reportHandshake s id chosen session completion).hub.Ordered past id b.pipeline.observers
      .connected (shown ++ more) := by
  unfold reportHandshake
  cases chosen.hook with
  | none => exact ⟨_, ordered.report (by simp) (n := .completion completion) (by simp)⟩
  | some hook =>
    have negotiated := ordered.emitAll [.negotiated hook id session]
      (by simp [Event.concerns, Event.isNotice])
    have reported := negotiated.report (by simp) (n := .completion completion) (by simp)
    rw [List.append_assoc] at reported
    exact ⟨_, reported⟩

theorem secure_ordered (secured : b.registry ≠ none)
    (ordered : s.hub.Ordered past id b.pipeline.observers .connected shown) (r : Tls.Registry)
    (a : Tls.Acceptance (Layered Wire)) :
    IsOrdered b past id .nobody (secure choices b r s id a).1 (secure choices b r s id a).2 := by
  unfold secure
  split
  · exact forsake_ordered bystanders ordered a
  · obtain ⟨more, polled⟩ := pollHandshake_ordered ordered r a
    dsimp only
    split
    · rename_i hostname resolution session stream _ _
      obtain ⟨_, reported⟩ := reportHandshake_ordered polled resolution.chosen
        { session with hostname } ⟨hostname, resolution.matched⟩
      exact configure_ordered bystanders rfl reported.onward
    · rename_i e _
      obtain ⟨es, gone⟩ := (pollHandshake s r id a).1.dropWire_hub
        (pollHandshake s r id a).2.stream.inner.inner
      have reported := (polled.aside (Connection.filter_stream es)).report (by simp) (n := .error e)
        (by simp)
      obtain ⟨_, closed⟩ := reported.onward.dispose bystanders
      rw [← gone] at closed
      exact closed.isOver
    · split
      · exact forsake_ordered bystanders polled _
      · exact ⟨rfl, secured, _, polled⟩

theorem begin_ordered (ordered : s.hub.Ordered past id b.pipeline.observers .connected shown)
    (w : Wire) : IsOrdered b past id .nobody (begin choices b s id w).1 (begin choices b s id w).2 := by
  have opened := b.pipeline.wrapTransport_ordered ordered w
  unfold begin
  dsimp only
  split
  · rename_i r registry
    exact secure_ordered bystanders (by simp [registry]) opened r _
  · exact configure_ordered bystanders rfl opened.onward

theorem advance_ordered (choices : Choices) {x : Session} (ordered : IsOrdered b past x.id out s x.phase) :
    IsOrdered b past x.id out (advance choices b s x).1 (advance choices b s x).2 := by
  unfold advance
  cases stands : x.phase with
  | starting w =>
    rw [stands] at ordered
    obtain ⟨rfl, _, accepted⟩ := ordered
    exact begin_ordered bystanders accepted w
  | securing a =>
    rw [stands] at ordered
    obtain ⟨rfl, secured, _, opened⟩ := ordered
    dsimp only
    split
    · rename_i r _
      exact secure_ordered bystanders secured opened r a
    · rename_i unsecured
      exact absurd unsecured secured
  | handling own course =>
    rw [stands] at ordered
    obtain ⟨mine, _, working, started⟩ := ordered
    exact handle_ordered bystanders mine working started course
  | ended =>
    rw [stands] at ordered
    exact ordered

/-- Whatever a handler does of its own. If it breaks down, its connection is given up. -/
theorem handler_ordered {x : Session} {course : Handler.Course} (stands : x.phase = .handling own course)
    {act : Act} (whole : act = .breakDown → x.Keeps s)
    (ordered : IsOrdered b past x.id out s (.handling own course))
    (performed : act.perform b s x = act.onHandler s own course) :
    IsOrdered b past x.id out (x.after (act.perform b s x)).1 (x.after (act.perform b s x)).2.phase := by
  obtain ⟨mine, shown, working, started⟩ := ordered
  by_cases breaks : act = .breakDown
  · have ended : (dropOwn s own).hub.IsOver past x.id b.pipeline.observers := by
      cases own with
      | none => exact working.isOver (whole breaks course stands)
      | some c =>
        have own : c.id = x.id := mine c rfl
        rw [← own] at working ⊢
        obtain ⟨_, ended⟩ := Shared.dropChannel_ordered bystanders working
        exact ended.isOver
    rw [breaks, after_breakDown working.running stands ended.running]
    exact ended
  · obtain ⟨own', course', same, later, still⟩ :=
      (bears_of_hub (Hub.orderedFrom_bears bystanders)).onHandler own course working.running
        ⟨working, mine⟩ breaks
    have done : IsOrdered b past x.id out (act.perform b s x).1 (act.perform b s x).2 := by
      rw [performed, same]
      exact ⟨still, shown, later, started⟩
    exact done.after

/-- Whatever its handler does, the notices stay in order. -/
theorem act_ordered {x : Session} (act : Act) (whole : act = .breakDown → x.Keeps s)
    (ordered : IsOrdered b past x.id out s x.phase) :
    IsOrdered b past x.id out (x.after (act.perform b s x)).1 (x.after (act.perform b s x)).2.phase := by
  rcases act.perform_cases b s x with ⟨choices, -, goes⟩ | ⟨own, course, stands, goes⟩ | stays
  · rw [goes]
    exact (advance_ordered bystanders choices ordered).after
  · rw [stands] at ordered
    exact handler_ordered bystanders stands whole ordered goes
  · rw [stays]
    exact IsOrdered.after (r := (s, x.phase)) ordered

end

theorem IsOrdered.elsewhere {s' : Shared} {p : Phase} (ordered : IsOrdered b past id out s p)
    (spares : s.hub.Spares id s'.hub) (running : s'.hub.failing = false) :
    IsOrdered b past id out s' p := by
  cases p with
  | starting =>
    obtain ⟨nobody, _, accepted⟩ := ordered
    exact ⟨nobody, _, accepted.elsewhere spares running⟩
  | securing =>
    obtain ⟨nobody, secured, _, opened⟩ := ordered
    exact ⟨nobody, secured, _, opened.elsewhere spares running⟩
  | handling =>
    obtain ⟨mine, _, working, started⟩ := ordered
    exact ⟨mine, _, working.elsewhere spares running, started⟩
  | ended =>
    obtain ⟨shown, timely, late, shows, rest⟩ := ordered
    exact ⟨shown, timely, late, shows.elsewhere spares running, rest⟩

/-- What others do with the connection of a handler keeps the notices in order. -/
theorem IsOrdered.continued (bystanders : ∀ o ∈ b.pipeline.observers, o.IsBystander) {s' : Shared}
    {p : Phase} {out' : Outside} (ordered : IsOrdered b past id out s p) (known : out ≠ .nobody)
    (goes : ∀ {P : Hub → Prop}, Hub.Bears id P → P s.hub → P s'.hub) : IsOrdered b past id out' s' p := by
  cases p with
  | starting | securing => exact absurd ordered.1 known
  | handling =>
    obtain ⟨mine, shown, working, started⟩ := ordered
    exact ⟨mine, shown, goes (Hub.orderedFrom_bears bystanders) working, started⟩
  | ended => exact goes Hub.isOver_bears ordered

/-- Induction on what happens; nobody but the session itself reports anything. -/
theorem Goes.ordered {start now : Shared × Session × Outside} {said : List Notice}
    (goes : Goes b start said now) (silent : said = [])
    (bystanders : ∀ o ∈ b.pipeline.observers, o.IsBystander) (fits : start.2.2.Fits start.2.1.id)
    (ordered : IsOrdered b past start.2.1.id start.2.2 start.1 start.2.1.phase) :
    now.2.1.id = start.2.1.id ∧ now.2.2.Fits start.2.1.id ∧
      IsOrdered b past start.2.1.id now.2.2 now.1 now.2.1.phase := by
  induction goes with
  | start => exact ⟨rfl, fits, ordered⟩
  | act act whole _ ih =>
    obtain ⟨same, fits, before⟩ := ih silent
    rw [← same] at before fits ⊢
    exact ⟨after_id _ _, fits, act_ordered bystanders act whole before⟩
  | share owns _ ih =>
    obtain ⟨same, -, before⟩ := ih silent
    dsimp only at before ⊢
    rw [owns] at before ⊢
    exact ⟨same, trivial, before⟩
  | handOver owns _ ih =>
    obtain ⟨same, -, before⟩ := ih silent
    dsimp only at before
    rw [owns] at before
    exact ⟨same, before.1 _ rfl, by simp, before.2⟩
  | takeBack lacks _ ih =>
    obtain ⟨same, own, before⟩ := ih silent
    dsimp only at before
    rw [lacks] at before
    exact ⟨same, trivial, fun _ holds => Option.some.inj holds ▸ own, before.2⟩
  | call k known _ ih =>
    obtain ⟨same, fits, before⟩ := ih silent
    exact ⟨same, fits, before.continued bystanders known fun bears => same ▸ bears.call k⟩
  | report => simp at silent
  | use u _ ih =>
    obtain ⟨same, own, before⟩ := ih silent
    exact ⟨same, (u.apply_id _ _).trans own, before.continued bystanders (by simp) fun bears before =>
      (Connection.Operation.apply_keeps bears ⟨before, own⟩ u).1⟩
  | letGo _ ih =>
    obtain ⟨same, own, before⟩ := ih silent
    exact ⟨same, trivial, before.continued bystanders (by simp) fun bears before =>
      bears.dropChannel before own⟩
  | elsewhere _ spares running ih =>
    obtain ⟨same, fits, before⟩ := ih silent
    exact ⟨same, fits, before.elsewhere (same ▸ spares) running⟩

/-- Wherever a session stands, the notices about its connection are in order, but for the failure of a
handler. -/
theorem IsOrdered.split {p : Phase} (ordered : IsOrdered b past id out s p) :
    ∃ last shown timely late, s.hub.Shows past id b.pipeline.observers (some last) shown ∧
      shown.filter (Event.isNotice id) = timely ++ late ∧ Bounded b.pipeline.observers id last timely ∧
      (late = [] ∨ p = .ended ∧ .handling id ∈ shown ∧
        ∃ e, late = told b.pipeline.observers id (.error (.io e))) := by
  cases p with
  | starting =>
    obtain ⟨-, shown, accepted⟩ := ordered
    exact ⟨_, shown, _, [], accepted.shows, (List.append_nil _).symm, accepted.bounded, .inl rfl⟩
  | securing =>
    obtain ⟨-, -, shown, opened⟩ := ordered
    exact ⟨_, shown, _, [], opened.shows, (List.append_nil _).symm, opened.bounded, .inl rfl⟩
  | handling =>
    obtain ⟨-, _, ⟨last, _, working⟩, -⟩ := ordered
    exact ⟨last, _, _, [], working.shows, (List.append_nil _).symm, working.bounded, .inl rfl⟩
  | ended =>
    obtain ⟨shown, timely, late, shows, split, bounded, exception⟩ := ordered
    exact ⟨_, shown, timely, late, shows, split, bounded, exception.imp_right fun started => ⟨rfl, started⟩⟩

/-- The notices about an accepted connection: they come between its start and its end, unless a handler
failed. -/
theorem Goes.notices {s t : Shared} {x : Session} {out : Outside} {server : Server}
    {client : Address.Endpoint} {w : Wire}
    (goes : Goes b ({ s with hub := (enroll s.hub server client).1 },
      ⟨s.hub.lifecycles.length, .starting w⟩, .nobody) [] (t, x, out))
    (running : s.hub.failing = false) (bystanders : ∀ o ∈ b.pipeline.observers, o.IsBystander)
    (serves : server.observers = b.pipeline.observers) :
    ∃ last timely late, s.hub.noticesSince t.hub x.id = timely ++ late ∧
      Bounded b.pipeline.observers x.id last timely ∧ t.hub.state? x.id = some last ∧
      (late = [] ∨ x.phase = .ended ∧ .handling x.id ∈ effectsSince s.hub t.hub x.id ∧
        ∃ e, late = told b.pipeline.observers x.id (.error (.io e))) := by
  have connected := enroll_shows running serves bystanders client
  have bounded : Bounded b.pipeline.observers s.hub.lifecycles.length .connected
      ((told b.pipeline.observers s.hub.lifecycles.length (.state .connected)).filter
        (Event.isNotice s.hub.lifecycles.length)) := by
    rw [Connection.filter_notice_told]
    exact Connection.bounded_start
  obtain ⟨same, -, ordered⟩ := goes.ordered rfl bystanders trivial ⟨rfl, _, connected, bounded⟩
  obtain ⟨last, shown, timely, late, shows, split, early, exception⟩ := ordered.split
  have same : x.id = s.hub.lifecycles.length := same
  rw [same]
  refine ⟨last, timely, late, shows.noticesSince.trans split, early, shows.state?, exception.imp_right ?_⟩
  rintro ⟨ended, started, failed⟩
  obtain ⟨news, happened, seen⟩ := shows.effects
  have happened : t.hub.events = s.hub.events ++ news := happened
  refine ⟨ended, ?_, failed⟩
  rw [effectsSince, happened, List.drop_left, seen]
  exact started

end Session

end StreamHost.Server
