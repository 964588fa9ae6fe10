import StreamHost.Proofs.ConnectionUse

/-!
The course of one accepted connection, from its acceptance to its end. Its effects come in one order:
the observers hear that it is connected, the stages are put around its stream, a handshake succeeds,
fails or is given up, the hooks run, the observers hear that it is configured, the handler starts, and at
the end the observers hear that it closes. This holds however often it is polled, whatever is looked at
first where a poll has a choice, and whatever happens elsewhere in between, a request for its end included.

The handler may be anything. It uses its connection as it likes, gives it up when it likes, and may give the
lifecycle or the connection itself to others, who may have them still when `serve_connection` is over.
-/

namespace StreamHost.Server

open Connection (Shared Wire Carrier Channel Flow State Event Hub Observer Notice Sequel told farewell)
open StreamHost.Stream (Layered)

/-! ## The order of effects -/

namespace Blueprint

/-- What is seen before anything is decided. -/
def opening (b : Blueprint) (id : Nat) : List Event :=
  told b.pipeline.observers id (.state .connected) ++ b.pipeline.staging id

/-- What a handshake that succeeded shows: that it did, then the hook of the selected configuration, then
the completion. -/
def agreeing (b : Blueprint) (id : Nat) (r : Tls.Registry) (hostname : Option String)
    (session : Tls.Session) : List Event :=
  [.attempted id (.moved .inProgress .completed)] ++
    ((r.lookup hostname).chosen.hook.toList.map fun hook =>
      .negotiated hook id { session with hostname }) ++
    told b.pipeline.observers id (.completion ⟨hostname, (r.lookup hostname).matched⟩)

/-- What a handshake that failed shows. -/
def refusing (b : Blueprint) (id : Nat) (p : Tls.Progress) (reason : String) : List Event :=
  [.attempted id (.moved p .failed)] ++
    told b.pipeline.observers id (.error (.handshake (p.text ++ ": " ++ reason)))

/-- The last steps before the handler works. -/
def settling (b : Blueprint) (id : Nat) (secured : Bool) : List Event :=
  b.pipeline.hooking id (some .connected) secured ++ told b.pipeline.observers id (.state .configured) ++
    [.handling id]

end Blueprint

namespace Session

/-- The effects up to the start of the handler, without TLS and with it. -/
inductive Prepared (b : Blueprint) (id : Nat) : List Event → Prop where
  | plain (unsecured : b.registry = none) : Prepared b id (b.opening id ++ b.settling id false)
  | secured {r : Tls.Registry} (registry : b.registry = some r) (hostname : Option String)
      (session : Tls.Session) :
    Prepared b id (b.opening id ++ b.agreeing id r hostname session ++ b.settling id true)

/-- What others have of a connection, from its handler: nothing, its lifecycle, or the connection itself. What
several share is with the one who uses it. -/
inductive Outside where
  | nobody
  | lifecycle
  | connection (c : Channel (Carrier Wire))

/-- The effects of a connection by where its session stands, and its state there. `asked` says whether
somebody asked for its end, and `said` is what others reported about it. -/
inductive Course (b : Blueprint) (id : Nat) (asked : Bool) :
    Outside → Phase → State → List Notice → List Event → Prop where
  | accepted {w : Wire} :
    Course b id asked .nobody (.starting w) .connected [] (told b.pipeline.observers id (.state .connected))
  | securing {r : Tls.Registry} {a : Tls.Acceptance (Layered Wire)} (registry : b.registry = some r) :
    Course b id asked .nobody (.securing a) .connected [] (b.opening id)
  /-- The handshake failed. -/
  | failed {r : Tls.Registry} (registry : b.registry = some r) (p : Tls.Progress) (reason : String) :
    Course b id asked .nobody .ended .disposed []
      (b.opening id ++ b.refusing id p reason ++ farewell b.pipeline.observers id)
  /-- The handshake was given up. -/
  | abandoned {r : Tls.Registry} (registry : b.registry = some r) (request : asked = true) :
    Course b id asked .nobody .ended .disposed [] (b.opening id ++ farewell b.pipeline.observers id)
  | handling {out : Outside} {own : Own} {course : Handler.Course} {shown more : List Event} {state : State}
      {said : List Notice} (prepared : Prepared b id shown)
      (sequel : Sequel b.pipeline.observers id state said none more) :
    Course b id asked out (.handling own course) state said (shown ++ more)
  /-- The handler did its work, failed or was cut off. -/
  | served {out : Outside} {shown more : List Event} {said : List Notice} {failure : Option IoError}
      (prepared : Prepared b id shown)
      (sequel : Sequel b.pipeline.observers id .disposed said failure more) :
    Course b id asked out .ended .disposed said (shown ++ more)

/-- Where a session stands in the hands of its blueprint. -/
def Phase.Fits (b : Blueprint) (id : Nat) : Phase → Prop
  | .securing a => ∃ r, b.registry = some r ∧ a.attempt.phase.Waits r
  | .handling own _ => ∀ c ∈ own, c.id = id
  | _ => True

/-- A session after some time: what was seen of its connection since `past` is the course up to where it
stands. -/
structure Sound (b : Blueprint) (past : List Event) (id : Nat) (state : State) (said : List Notice)
    (shown : List Event) (out : Outside) (s : Shared) (p : Phase) : Prop where
  shows : s.hub.Shows past id b.pipeline.observers (some state) shown
  course : Course b id (closeRequested s id) out p state said shown
  fits : p.Fits b id

/-- The same, whatever the state and the effects are. -/
def IsSound (b : Blueprint) (past : List Event) (id : Nat) (said : List Notice) (out : Outside)
    (r : Shared × Phase) : Prop :=
  ∃ state shown, Sound b past id state said shown out r.1 r.2

variable {b : Blueprint} {past : List Event} {id : Nat} {choices : Choices} {s : Shared}
  {shown : List Event} {said : List Notice} {out : Outside} {own : Own}

theorem IsSound.fits {p : Phase} (sound : IsSound b past id said out (s, p)) : p.Fits b id := by
  obtain ⟨_, _, later⟩ := sound
  exact later.fits

theorem IsSound.running {r : Shared × Phase} (sound : IsSound b past id said out r) :
    r.1.hub.failing = false := by
  obtain ⟨_, _, later⟩ := sound
  exact later.shows.running

/-- What a session did without failing. -/
theorem IsSound.after {x : Session} {r : Shared × Phase} (sound : IsSound b past id said out r) :
    IsSound b past id said out ((x.after r).1, (x.after r).2.phase) := by
  rw [after_of_running sound.running]
  exact sound

/-! ## The handler -/

/-- No handler is at work on a connection that somebody else has, unless the connection is disposed. -/
def Keeps (s : Shared) (x : Session) : Prop :=
  ∀ course, x.phase = .handling none course → s.hub.isDisposed x.id = true

theorem handling_sound (prepared : Prepared b id shown) (mine : ∀ c ∈ own, c.id = id)
    (continues : s.hub.Continues past id b.pipeline.observers shown said none .configured)
    (course : Handler.Course) : IsSound b past id said out (s, .handling own course) := by
  obtain ⟨state, more, shows, sequel, -⟩ := continues
  exact ⟨state, _, shows, .handling prepared sequel, mine⟩

theorem ended_sound (prepared : Prepared b id shown) {failure : Option IoError}
    (continues : s.hub.Continues past id b.pipeline.observers shown said failure .disposed) :
    IsSound b past id said out (s, .ended) := by
  obtain ⟨state, more, shows, sequel, reached⟩ := continues
  obtain rfl : state = .disposed := by
    cases state <;> simp [State.rank] at reached ⊢
  exact ⟨_, _, shows, .served prepared sequel, trivial⟩

section

variable (bystanders : ∀ o ∈ b.pipeline.observers, o.IsBystander)
include bystanders

/-- Whoever has the connection by then, the end of `serve_connection` disposes it. -/
theorem leave_sound (prepared : Prepared b id shown) (mine : ∀ c ∈ own, c.id = id)
    (continues : s.hub.Continues past id b.pipeline.observers shown said none .configured)
    (failure : Option IoError) : IsSound b past id said out (leave s id own failure, .ended) := by
  obtain ⟨given, -⟩ := (bears_of_hub (Hub.continues_bears bystanders)).dropOwn continues.running
    ⟨continues, mine⟩
  unfold leave
  cases failure with
  | none => exact ended_sound prepared (given.dispose bystanders)
  | some e =>
    simp only [given.running, Bool.false_eq_true, ↓reduceIte]
    exact ended_sound prepared ((given.fail e).dispose bystanders)

theorem conclude_sound (prepared : Prepared b id shown) (mine : ∀ c ∈ own, c.id = id)
    (continues : s.hub.Continues past id b.pipeline.observers shown said none .configured)
    (course : Handler.Course) : IsSound b past id said out (conclude s id own course) := by
  unfold conclude
  rw [if_neg (by simp [continues.running])]
  split
  · exact leave_sound bystanders prepared mine continues _
  · exact leave_sound bystanders prepared mine continues _
  · split
    · exact leave_sound bystanders prepared mine continues _
    · exact handling_sound prepared mine continues course

theorem handle_sound (prepared : Prepared b id shown) (mine : ∀ c ∈ own, c.id = id)
    (continues : s.hub.Continues past id b.pipeline.observers shown said none .configured)
    (course : Handler.Course) : IsSound b past id said out (handle choices s id own course) := by
  unfold handle
  split
  · exact leave_sound bystanders prepared mine continues _
  · obtain ⟨worked, still⟩ := (bears_of_hub (Hub.continues_bears bystanders)).workUntil
      ⟨continues, mine⟩ course
    exact conclude_sound bystanders prepared still worked _

/-- Whatever a handler does of its own. If it breaks down, its connection is given up. -/
theorem handler_sound {x : Session} {handler : Handler.Course} (stands : x.phase = .handling own handler)
    {act : Act} (whole : act = .breakDown → x.Keeps s)
    (sound : IsSound b past x.id said out (s, .handling own handler))
    (performed : act.perform b s x = act.onHandler s own handler) :
    IsSound b past x.id said out ((x.after (act.perform b s x)).1, (x.after (act.perform b s x)).2.phase) := by
  obtain ⟨state, shown, shows, course, mine⟩ := sound
  have running : s.hub.failing = false := shows.running
  cases course with
  | handling prepared sequel =>
    rename_i shown more
    have continues : s.hub.Continues past x.id b.pipeline.observers shown said none .configured :=
      ⟨_, _, shows, sequel, sequel.reached⟩
    by_cases breaks : act = .breakDown
    · have ended : (dropOwn s own).hub.Continues past x.id b.pipeline.observers shown said none
          .disposed := by
        cases own with
        | none => exact continues.disposed (whole breaks handler stands)
        | some c => exact continues.dropChannel bystanders (mine c rfl)
      rw [breaks, after_breakDown running stands ended.running]
      exact ended_sound prepared ended
    · obtain ⟨own', handler', same, done, still⟩ :=
        (bears_of_hub (Hub.continues_bears bystanders)).onHandler own handler running ⟨continues, mine⟩
          breaks
      have later : IsSound b past x.id said out ((act.onHandler s own handler).1, .handling own' handler') :=
        handling_sound prepared still done handler'
      rw [← same, ← performed] at later
      exact later.after

/-! ## The handshake -/

omit bystanders in
/-- A poll of a handshake shows how it ended, if it did. -/
theorem pollHandshake_shows {r : Tls.Registry} {a : Tls.Acceptance (Layered Wire)}
    (shows : s.hub.Shows past id b.pipeline.observers (some .connected) shown)
    (waits : a.attempt.phase.Waits r) :
    ∃ outcomes, (pollHandshake s r id a).1.hub.Shows past id b.pipeline.observers (some .connected)
        (shown ++ outcomes.map (.attempted id)) ∧
      (pollHandshake s r id a).2.attempt.phase.Becomes r outcomes ∧
      (pollHandshake s r id a).2.IsSecured := by
  let shared := a.map fun l => l.map fun w => (s.network, w)
  obtain ⟨follows, secured⟩ := Tls.Acceptance.poll_follows (m := Layered.medium Wire.medium) (a := shared)
    waits s.now
  obtain ⟨added, notes, becomes⟩ := follows
  refine ⟨_, ?_, becomes, secured.map _⟩
  have fresh : (shared.poll (Layered.medium Wire.medium) r s.now).1.attempt.notes.drop
      a.attempt.notes.length = added := by
    rw [notes]
    exact List.drop_left
  have polled := (shows.aside (Connection.filter_stream
    (shared.poll (Layered.medium Wire.medium) r s.now).2)).emitAll (added.map (.attempted id))
  rw [Connection.filter_attempted, ← fresh] at polled
  rw [← fresh]
  exact polled

omit bystanders in
theorem reportHandshake_shows (r : Tls.Registry) (hostname : Option String) (session : Tls.Session)
    (shows : s.hub.Shows past id b.pipeline.observers (some .connected)
      (shown ++ [.attempted id (.moved .inProgress .completed)])) :
    (reportHandshake s id (r.lookup hostname).chosen { session with hostname }
        ⟨hostname, (r.lookup hostname).matched⟩).hub.Shows past id b.pipeline.observers
      (some .connected) (shown ++ b.agreeing id r hostname session) := by
  unfold reportHandshake Blueprint.agreeing
  cases (r.lookup hostname).chosen.hook with
  | none =>
    have reported := shows.report (.completion ⟨hostname, (r.lookup hostname).matched⟩)
    rw [List.append_assoc] at reported
    exact reported
  | some hook =>
    have own : [Event.negotiated hook id { session with hostname }].filter (Event.concerns id) =
        [.negotiated hook id { session with hostname }] := by
      simp [Event.concerns]
    have negotiated := shows.emitAll [.negotiated hook id { session with hostname }]
    have reported := negotiated.report (.completion ⟨hostname, (r.lookup hostname).matched⟩)
    rw [own, List.append_assoc, List.append_assoc] at reported
    exact reported

/-- A handshake that is given up on request ends the connection. -/
theorem forsake_sound {r : Tls.Registry} (registry : b.registry = some r)
    (shows : s.hub.Shows past id b.pipeline.observers (some .connected) (b.opening id))
    (request : closeRequested s id = true) (a : Tls.Acceptance (Layered Wire)) :
    IsSound b past id [] .nobody (forsake s id a) := by
  obtain ⟨es, gone⟩ := s.dropWire_hub a.stream.inner.inner
  have closed := (shows.aside (Connection.filter_stream es)).dispose bystanders (by decide)
  have still : closeRequested (forsake s id a).1 id = true := by
    have keeps := Hub.closeSeen_withstands id id
    exact keeps.call .dispose (h := (s.dropWire a.stream.inner.inner).hub) (gone ▸ request)
  rw [← gone] at closed
  exact ⟨_, _, closed, .abandoned registry still, trivial⟩

/-! ## From the acceptance to the handler -/

variable (harmless : ∀ k ∈ b.pipeline.hooks, k.effect ≠ .dispose)
include harmless

theorem prepare_shows {c : Channel (Carrier Wire)} (own : c.id = id)
    (shows : s.hub.Shows past id b.pipeline.observers (some .connected) shown) :
    (prepare b s c).1.hub.Shows past id b.pipeline.observers (some .configured)
        (shown ++ b.pipeline.hooking id (some .connected) c.session.isSome ++
          told b.pipeline.observers id (.state .configured)) ∧
      (prepare b s c).2.id = id := by
  subst own
  let f : Flow (Carrier (Network × Wire)) :=
    { hub := s.hub, channel := c.map (·.map fun w => (s.network, w)) }
  obtain ⟨hub, own⟩ := b.pipeline.apply_eq harmless f
  have state : f.hub.state? f.channel.id = some .connected := shows.state?
  have hooked := shows.emitAll (b.pipeline.hooking c.id (some .connected) c.session.isSome)
  rw [Connection.Pipeline.filter_hooking] at hooked
  have configured := hooked.advance bystanders (s := .configured) rfl
  refine ⟨?_, own⟩
  show ((b.pipeline.apply f).hub.configured (b.pipeline.apply f).channel.id).Shows _ _ _ _ _
  rw [hub, own, state]
  exact configured

theorem configure_sound {c : Channel (Carrier Wire)} (own : c.id = id)
    (shows : s.hub.Shows past id b.pipeline.observers (some .connected) shown)
    (prepared : Prepared b id (shown ++ b.settling id c.session.isSome)) :
    IsSound b past id [] .nobody (configure choices b s c) := by
  obtain ⟨ready, still⟩ := prepare_shows bystanders harmless own shows
  have started := ready.emitAll [.handling id]
  unfold configure
  dsimp only
  rw [if_neg (by simp [ready.running]), still]
  refine handle_sound bystanders prepared (fun _ same => Option.some.inj same ▸ still)
    (Hub.Shows.continues ?_) _
  simpa [Blueprint.settling, Event.concerns, Shared.onHub, Hub.emit_eq_emitAll] using started

theorem secure_sound {r : Tls.Registry} (registry : b.registry = some r)
    (shows : s.hub.Shows past id b.pipeline.observers (some .connected) (b.opening id))
    {a : Tls.Acceptance (Layered Wire)} (waits : a.attempt.phase.Waits r) :
    IsSound b past id [] .nobody (secure choices b r s id a) := by
  unfold secure
  split
  · rename_i first
    exact forsake_sound bystanders registry shows (Bool.and_eq_true_iff.mp first).2 a
  · obtain ⟨outcomes, polled, becomes, secured⟩ := pollHandshake_shows shows waits
    dsimp only
    generalize pollHandshake s r id a = out at polled becomes secured
    obtain ⟨s, a⟩ := out
    dsimp only at polled becomes secured ⊢
    generalize stands : a.attempt.phase = phase at becomes
    cases becomes with
    | completed hostname session =>
      obtain ⟨stream, inside⟩ := secured _ _ _ stands
      rw [inside]
      have reported := reportHandshake_shows r hostname session polled
      exact configure_sound bystanders harmless rfl reported (.secured registry hostname session)
    | failed p reason =>
      obtain ⟨es, gone⟩ := s.dropWire_hub a.stream.inner.inner
      have reported := (polled.aside (Connection.filter_stream es)).report
        (.error (.handshake (p.text ++ ": " ++ reason)))
      have closed := reported.dispose bystanders (by decide)
      rw [← gone, List.append_assoc (b.opening id)] at closed
      exact ⟨_, _, closed, .failed registry p reason, trivial⟩
    | waits waits =>
      have unchanged : s.hub.Shows past id b.pipeline.observers (some .connected) (b.opening id) := by
        simpa using polled
      have goesOn : IsSound b past id [] .nobody
          (if closeRequested s id then forsake s id a else (s, .securing a)) := by
        split
        · rename_i request
          exact forsake_sound bystanders registry unchanged request a
        · exact ⟨_, _, unchanged, .securing registry, r, registry, stands ▸ waits⟩
      cases waits with
      | hello => exact goesOn
      | engaged hostname => exact goesOn

theorem begin_sound
    (shows : s.hub.Shows past id b.pipeline.observers (some .connected)
      (told b.pipeline.observers id (.state .connected))) (w : Wire) :
    IsSound b past id [] .nobody (begin choices b s id w) := by
  obtain ⟨es, staged, own⟩ := b.pipeline.wrapTransport_hub s id w
  have opened := shows.emitAll es
  rw [own, Connection.Pipeline.filter_staging, if_pos rfl, ← staged] at opened
  unfold begin
  dsimp only
  split
  · rename_i r registry
    exact secure_sound bystanders harmless registry opened .hello
  · rename_i unsecured
    exact configure_sound bystanders harmless rfl opened (.plain unsecured)

/-! ## A whole run -/

/-- A session goes on with its course. -/
theorem advance_sound (choices : Choices) {x : Session}
    (sound : IsSound b past x.id said out (s, x.phase)) :
    IsSound b past x.id said out (advance choices b s x) := by
  obtain ⟨state, shown, shows, course, fits⟩ := sound
  dsimp only at shows course fits
  unfold advance
  cases stands : x.phase with
  | starting w =>
    rw [stands] at course
    cases course
    exact begin_sound bystanders harmless shows w
  | securing a =>
    rw [stands] at course fits
    obtain ⟨r, registry, waits⟩ := fits
    cases course
    simp only [registry]
    exact secure_sound bystanders harmless registry shows waits
  | handling own handler =>
    rw [stands] at course fits
    cases course with
    | handling prepared sequel =>
      exact handle_sound bystanders prepared fits ⟨_, _, shows, sequel, sequel.reached⟩ handler
  | ended =>
    rw [stands] at course
    exact ⟨state, shown, shows, course, trivial⟩

/-- Whatever its handler does, a session goes on with its course. -/
theorem act_sound {x : Session} (act : Act) (whole : act = .breakDown → x.Keeps s)
    (sound : IsSound b past x.id said out (s, x.phase)) :
    IsSound b past x.id said out ((x.after (act.perform b s x)).1, (x.after (act.perform b s x)).2.phase) := by
  rcases act.perform_cases b s x with ⟨choices, -, goes⟩ | ⟨own, handler, stands, goes⟩ | stays
  · rw [goes]
    exact (advance_sound bystanders harmless choices sound).after
  · rw [stands] at sound
    exact handler_sound bystanders stands whole sound goes
  · rw [stays]
    exact sound.after

end

theorem Course.mono {asked asked' : Bool} {p : Phase} {state : State}
    (course : Course b id asked out p state said shown) (keeps : asked = true → asked' = true) :
    Course b id asked' out p state said shown := by
  cases course with
  | accepted => exact .accepted
  | securing registry => exact .securing registry
  | failed registry p reason => exact .failed registry p reason
  | abandoned registry request => exact .abandoned registry (keeps request)
  | handling prepared sequel => exact .handling prepared sequel
  | served prepared sequel => exact .served prepared sequel

theorem Course.disposed {asked : Bool} {state : State}
    (course : Course b id asked out .ended state said shown) : state = .disposed := by
  cases course <;> rfl

theorem IsSound.elsewhere {s' : Shared} {p : Phase} (sound : IsSound b past id said out (s, p))
    (spares : s.hub.Spares id s'.hub) (running : s'.hub.failing = false) :
    IsSound b past id said out (s', p) := by
  obtain ⟨state, shown, shows, course, fits⟩ := sound
  exact ⟨state, shown, shows.elsewhere spares running, course.mono spares.closeSeen, fits⟩

/-- Others have something of a connection only after its handler got it. What they do then continues what it
showed. -/
theorem IsSound.continued {s' : Shared} {p : Phase} {said' : List Notice} {out' : Outside}
    (sound : IsSound b past id said out (s, p)) (known : out ≠ .nobody)
    (goes : ∀ {shown : List Event} {failure : Option IoError} {least : State},
      s.hub.Continues past id b.pipeline.observers shown said failure least →
      s'.hub.Continues past id b.pipeline.observers shown said' failure least) :
    IsSound b past id said' out' (s', p) := by
  obtain ⟨state, shown, shows, course, fits⟩ := sound
  cases course with
  | accepted | securing | failed | abandoned => exact absurd rfl known
  | handling prepared sequel =>
    exact handling_sound prepared fits (goes ⟨_, _, shows, sequel, sequel.reached⟩) _
  | served prepared sequel => exact ended_sound prepared (goes ⟨_, _, shows, sequel, Nat.le_refl _⟩)

/-- Whoever has the connection while the handler is at work, its course is the same. -/
theorem IsSound.passed {own' : Own} {course : Handler.Course} {out' : Outside}
    (sound : IsSound b past id said out (s, .handling own course)) (mine : ∀ c ∈ own', c.id = id) :
    IsSound b past id said out' (s, .handling own' course) := by
  obtain ⟨state, shown, shows, course, -⟩ := sound
  cases course with
  | handling prepared sequel => exact ⟨state, _, shows, .handling prepared sequel, mine⟩

/-- What may happen to a session, to its connection, which others may have by then, and around them. -/
inductive Goes (b : Blueprint) (start : Shared × Session × Outside) :
    List Notice → Shared × Session × Outside → Prop where
  | start : Goes b start [] start
  /-- The session is polled, or its handler does something. A handler that breaks down ends `serve_connection`
  before the last `dispose`, so it must not leave its connection with somebody else. -/
  | act {said : List Notice} {s : Shared} {x : Session} {out : Outside} (act : Act)
      (whole : act = .breakDown → x.Keeps s)
      (goes : Goes b start said (s, x, out)) :
    Goes b start said ((x.after (act.perform b s x)).1, (x.after (act.perform b s x)).2, out)
  /-- The handler gives others the lifecycle of its connection. -/
  | share {said : List Notice} {s : Shared} {x : Session} {c : Channel (Carrier Wire)}
      {course : Handler.Course} (owns : x.phase = .handling (some c) course)
      (goes : Goes b start said (s, x, .nobody)) : Goes b start said (s, x, .lifecycle)
  /-- The handler gives others its connection. -/
  | handOver {said : List Notice} {s : Shared} {x : Session} {out : Outside} {c : Channel (Carrier Wire)}
      {course : Handler.Course} (owns : x.phase = .handling (some c) course)
      (goes : Goes b start said (s, x, out)) :
    Goes b start said (s, { x with phase := .handling none course }, .connection c)
  /-- The handler gets its connection back. -/
  | takeBack {said : List Notice} {s : Shared} {x : Session} {c : Channel (Carrier Wire)}
      {course : Handler.Course} (lacks : x.phase = .handling none course)
      (goes : Goes b start said (s, x, .connection c)) :
    Goes b start said (s, { x with phase := .handling (some c) course }, .lifecycle)
  /-- Others call the lifecycle. -/
  | call {said : List Notice} {s : Shared} {x : Session} {out : Outside} (k : Connection.Call)
      (known : out ≠ .nobody) (goes : Goes b start said (s, x, out)) :
    Goes b start said (s.onHub (·.call x.id k), x, out)
  /-- Others report something through the lifecycle. -/
  | report {said : List Notice} {s : Shared} {x : Session} {out : Outside} (n : Notice)
      (unmoved : ∀ state, n ≠ .state state) (known : out ≠ .nobody) (goes : Goes b start said (s, x, out)) :
    Goes b start (said ++ [n]) (s.onHub (·.report x.id n), x, out)
  /-- Others use the connection that they have. -/
  | use {said : List Notice} {s : Shared} {x : Session} {c : Channel (Carrier Wire)} (u : Connection.Operation)
      (goes : Goes b start said (s, x, .connection c)) :
    Goes b start said ((u.apply s c).1, x, .connection (u.apply s c).2)
  /-- Others give up the connection that they have. -/
  | letGo {said : List Notice} {s : Shared} {x : Session} {c : Channel (Carrier Wire)}
      (goes : Goes b start said (s, x, .connection c)) : Goes b start said (s.dropChannel c, x, .lifecycle)
  /-- Something else happens that leaves the connection alone. -/
  | elsewhere {said : List Notice} {s s' : Shared} {x : Session} {out : Outside}
      (goes : Goes b start said (s, x, out)) (spares : s.hub.Spares x.id s'.hub)
      (running : s'.hub.failing = false) : Goes b start said (s', x, out)

/-- Others have the connection of the session, if any. -/
def Outside.Fits (id : Nat) : Outside → Prop
  | .connection c => c.id = id
  | _ => True

theorem Goes.sound {start now : Shared × Session × Outside} (goes : Goes b start said now)
    (bystanders : ∀ o ∈ b.pipeline.observers, o.IsBystander)
    (harmless : ∀ k ∈ b.pipeline.hooks, k.effect ≠ .dispose)
    (fits : start.2.2.Fits start.2.1.id)
    (sound : IsSound b past start.2.1.id [] start.2.2 (start.1, start.2.1.phase)) :
    now.2.1.id = start.2.1.id ∧ now.2.2.Fits start.2.1.id ∧
      IsSound b past start.2.1.id said now.2.2 (now.1, now.2.1.phase) := by
  have bears : ∀ {shown said failure least}, Hub.Bears start.2.1.id
      (Hub.Continues past start.2.1.id b.pipeline.observers shown said failure least) :=
    Hub.continues_bears bystanders
  induction goes with
  | start => exact ⟨rfl, fits, sound⟩
  | act act whole _ ih =>
    obtain ⟨same, fits, before⟩ := ih
    rw [← same] at before fits ⊢
    exact ⟨after_id _ _, fits, act_sound bystanders harmless act whole before⟩
  | share owns _ ih =>
    obtain ⟨same, -, before⟩ := ih
    dsimp only at before ⊢
    rw [owns] at before ⊢
    exact ⟨same, trivial, before.passed before.fits⟩
  | handOver owns _ ih =>
    obtain ⟨same, -, before⟩ := ih
    dsimp only at before
    rw [owns] at before
    exact ⟨same, before.fits _ rfl, before.passed (by simp)⟩
  | takeBack lacks _ ih =>
    obtain ⟨same, own, before⟩ := ih
    dsimp only at before
    rw [lacks] at before
    exact ⟨same, trivial, before.passed fun _ holds => Option.some.inj holds ▸ own⟩
  | call k known _ ih =>
    obtain ⟨same, fits, before⟩ := ih
    exact ⟨same, fits, before.continued known fun continues => same ▸ continues.call bystanders k⟩
  | report n _ known _ ih =>
    obtain ⟨same, fits, before⟩ := ih
    exact ⟨same, fits, before.continued known fun continues => same ▸ continues.report n⟩
  | use u _ ih =>
    obtain ⟨same, own, before⟩ := ih
    exact ⟨same, (u.apply_id _ _).trans own, before.continued (by simp) fun continues =>
      (Connection.Operation.apply_keeps bears ⟨continues, own⟩ u).1⟩
  | letGo _ ih =>
    obtain ⟨same, own, before⟩ := ih
    exact ⟨same, trivial, before.continued (by simp) fun continues => bears.dropChannel continues own⟩
  | elsewhere _ spares running ih =>
    obtain ⟨same, fits, before⟩ := ih
    exact ⟨same, fits, before.elsewhere (same ▸ spares) running⟩

end Session

/-- A client that is enrolled is connected, and its observers know. -/
theorem enroll_shows {h : Hub} (running : h.failing = false) {server : Server} {os : List Observer}
    (serves : server.observers = os) (bystanders : ∀ o ∈ os, o.IsBystander)
    (client : Address.Endpoint) :
    (enroll h server client).1.Shows h.events h.lifecycles.length os (some .connected)
      (told os h.lifecycles.length (.state .connected)) := by
  subst serves
  have connected := Hub.Shows.of_create running bystanders server.localEnd client server.group
  unfold enroll
  dsimp only
  rw [if_neg (by exact fun failed => absurd (connected.running.symm.trans failed) (by decide))]
  exact connected

namespace Session

/-- The effects of a connection since another time. -/
def effectsSince (start now : Hub) (id : Nat) : List Event :=
  (now.events.drop start.events.length).filter (Event.concerns id)

/-- From its acceptance to its end an accepted connection has its effects in order, whatever its handler and
those who have the connection from it do. -/
theorem effects_come_in_order (b : Blueprint) (bystanders : ∀ o ∈ b.pipeline.observers, o.IsBystander)
    (harmless : ∀ k ∈ b.pipeline.hooks, k.effect ≠ .dispose) (s : Shared)
    (running : s.hub.failing = false) (server : Server) (serves : server.observers = b.pipeline.observers)
    (client : Address.Endpoint) (w : Wire) (said : List Notice) (t : Shared) (x : Session) (out : Outside)
    (goes : Goes b ({ s with hub := (enroll s.hub server client).1 },
      ⟨s.hub.lifecycles.length, .starting w⟩, .nobody) said (t, x, out)) :
    ∃ state, Course b x.id (closeRequested t x.id) out x.phase state said
        (effectsSince s.hub t.hub x.id) ∧
      t.hub.state? x.id = some state ∧ (x.phase = .ended → state = .disposed) := by
  have accepted : IsSound b s.hub.events s.hub.lifecycles.length [] .nobody
      ({ s with hub := (enroll s.hub server client).1 }, .starting w) :=
    ⟨.connected, _, enroll_shows running serves bystanders client, .accepted, trivial⟩
  obtain ⟨same, -, state, shown, shows, course, -⟩ := goes.sound bystanders harmless trivial accepted
  obtain ⟨news, happened, seen⟩ := shows.effects
  have same : x.id = s.hub.lifecycles.length := same
  have happened : t.hub.events = s.hub.events ++ news := happened
  rw [same, effectsSince, happened, List.drop_left, seen]
  refine ⟨state, course, shows.state?, fun ended => ?_⟩
  have course : Course b _ _ out x.phase state said shown := course
  rw [ended] at course
  exact course.disposed

/-- A service with one stage and one hook, two observers, and a handler that says hello and then waits for
others. -/
def briefService : Blueprint where
  pipeline := {
    observers := [{ name := "log" }, { name := "count", statesOnly := true }]
    stages := [.announce "stage"]
    hooks := [{ name := "hook" }] }
  handler := .ofMachine (fun _ _ => false)
    (fun greeted => if greeted then .hold else .use (.write (Bytes.ofText "hello"))) fun _ _ => true

/-- Its first guest. -/
def firstGuest : Shared × Session :=
  let server := Server.start (.unix none) briefService.pipeline.observers none ⟨1, 1⟩
  ({ ({} : Shared) with hub := (enroll {} server (.unix none)).1 }, ⟨0, .starting (.script {})⟩)

/-- The handler gives the connection away and fails; others have it when `serve_connection` disposes it. -/
theorem brief_service_in_order :
    let served := firstGuest.2.poll {} briefService firstGuest.1
    let failed : Session := ⟨0, .handling none (.ended (.error (.bare .invalidData)))⟩
    let later := failed.poll {} briefService served.1
    let lent : Channel (Carrier Wire) := { id := 0, stream := some ⟨.plain ⟨.script {}, []⟩, []⟩ }
    effectsSince {} later.1.hub 0 = [
      .notified "log" 0 (.state .connected), .heard "count" 0 .connected, .staged 0 0, .wrapped "stage" 0,
      .hooked "hook" 0 (some .connected) false, .notified "log" 0 (.state .configured),
      .heard "count" 0 .configured, .handling 0, .notified "log" 0 (.error (.io (.bare .invalidData))),
      .notified "log" 0 (.state .disconnecting), .heard "count" 0 .disconnecting,
      .notified "log" 0 (.state .disposed), .heard "count" 0 .disposed] ∧
    ∃ state, Course briefService later.2.id (closeRequested later.1 later.2.id) (.connection lent)
        later.2.phase state [] (effectsSince {} later.1.hub later.2.id) ∧
      later.1.hub.state? later.2.id = some state ∧ (later.2.phase = .ended → state = .disposed) := by
  intro served failed later lent
  have bystanders : ∀ o ∈ briefService.pipeline.observers, o.IsBystander := by
    simp [briefService, Observer.IsBystander]
  have polled : Goes briefService (firstGuest.1, firstGuest.2, .nobody) [] (served.1, served.2, .nobody) :=
    .act (.goOn {}) (by simp) .start
  have handed := Goes.handOver rfl polled
  have turned := Goes.act (.want (.ended (.error (.bare .invalidData)))) (by simp) handed
  have goes : Goes briefService (firstGuest.1, firstGuest.2, .nobody) []
      (later.1, later.2, .connection lent) := .act (.goOn {}) (by simp) turned
  refine ⟨by decide +kernel, ?_⟩
  exact effects_come_in_order briefService bystanders (by decide) {} rfl
    (Server.start (.unix none) briefService.pipeline.observers none ⟨1, 1⟩) rfl (.unix none)
    (.script {}) [] later.1 later.2 (.connection lent) goes

end Session

end StreamHost.Server
