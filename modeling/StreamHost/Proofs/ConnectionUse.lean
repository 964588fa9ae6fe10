import StreamHost.Proofs.Effects
import StreamHost.Server.Session

/-!
What a connection shows while it is in use. Its owner may do anything with it that `Connection` offers, and
whoever got its lifecycle from the owner may call that, and report what they like, even when the connection is
gone. All of this only moves it on: it begins to close once, and ends once. A handler is such an owner,
whether it is one of those that come with the program or anything else.
-/

namespace StreamHost.Connection

open StreamHost.Stream (Layered)

/-! ## Effects of use -/

/-- The effects of a connection since its handler started, and its state there: the closing, then the end,
each once at most and told to all observers. Anywhere among them is what others report, which is `said`, and
the failure of the handler, once at most. Stages that are put around its stream may show themselves. -/
inductive Sequel (os : List Observer) (id : Nat) :
    State → List Notice → Option IoError → List Event → Prop where
  | configured : Sequel os id .configured [] none []
  | closing {said : List Notice} {failure : Option IoError} {es : List Event}
      (before : Sequel os id .configured said failure es) :
    Sequel os id .disconnecting said failure (es ++ told os id (.state .disconnecting))
  | closed {said : List Notice} {failure : Option IoError} {es : List Event}
      (before : Sequel os id .disconnecting said failure es) :
    Sequel os id .disposed said failure (es ++ told os id (.state .disposed))
  | reported {state : State} {said : List Notice} {failure : Option IoError} {es : List Event}
      (before : Sequel os id state said failure es) (n : Notice) :
    Sequel os id state (said ++ [n]) failure (es ++ told os id n)
  | failed {state : State} {said : List Notice} {es : List Event} (before : Sequel os id state said none es)
      (e : IoError) :
    Sequel os id state said (some e) (es ++ told os id (.error (.io e)))
  | wrapped {state : State} {said : List Notice} {failure : Option IoError} {es : List Event}
      (before : Sequel os id state said failure es) (name : String) :
    Sequel os id state said failure (es ++ [.wrapped name id])

theorem Sequel.reached {os : List Observer} {id : Nat} {state : State} {said : List Notice}
    {failure : Option IoError} {es : List Event} (sequel : Sequel os id state said failure es) :
    State.configured.rank ≤ state.rank := by
  induction sequel with
  | configured | closing | closed => decide
  | reported _ _ ih | failed _ _ ih | wrapped _ _ ih => exact ih

namespace Hub

variable {h : Hub} {past : List Event} {id : Nat} {os : List Observer} {shown : List Event}
  {said : List Notice} {failure : Option IoError} {least : State}

/-- A connection that was in use since its effects were `shown`, and has come to the state `least` at least. -/
def Continues (past : List Event) (id : Nat) (os : List Observer) (shown : List Event) (said : List Notice)
    (failure : Option IoError) (least : State) (h : Hub) : Prop :=
  ∃ state more, h.Shows past id os (some state) (shown ++ more) ∧ Sequel os id state said failure more ∧
    least.rank ≤ state.rank

theorem Shows.continues (shows : h.Shows past id os (some .configured) shown) :
    h.Continues past id os shown [] none .configured :=
  ⟨_, [], by simpa using shows, .configured, Nat.le_refl _⟩

namespace Continues

theorem running (continues : h.Continues past id os shown said failure least) : h.failing = false := by
  obtain ⟨_, _, shows, -⟩ := continues
  exact shows.running

theorem aside (continues : h.Continues past id os shown said failure least) {es : List Event}
    (other : es.filter (Event.concerns id) = []) :
    (h.emitAll es).Continues past id os shown said failure least := by
  obtain ⟨state, more, shows, sequel, reached⟩ := continues
  exact ⟨state, more, shows.aside other, sequel, reached⟩

theorem requestClose (continues : h.Continues past id os shown said failure least) :
    (h.requestClose id).Continues past id os shown said failure least := by
  obtain ⟨state, more, shows, sequel, reached⟩ := continues
  exact ⟨state, more, shows.requestClose, sequel, reached⟩

theorem wrapped (continues : h.Continues past id os shown said failure least) (name : String) :
    (h.emit (.wrapped name id)).Continues past id os shown said failure least := by
  obtain ⟨state, more, shows, sequel, reached⟩ := continues
  have seen := shows.emitAll [.wrapped name id]
  have own : [Event.wrapped name id].filter (Event.concerns id) = [.wrapped name id] := by
    simp [Event.concerns]
  rw [own, List.append_assoc] at seen
  exact ⟨state, _, seen, sequel.wrapped name, reached⟩

theorem report (continues : h.Continues past id os shown said failure least) (n : Notice) :
    (h.report id n).Continues past id os shown (said ++ [n]) failure least := by
  obtain ⟨state, more, shows, sequel, reached⟩ := continues
  have reported := shows.report n
  rw [List.append_assoc] at reported
  exact ⟨state, _, reported, sequel.reported n, reached⟩

/-- The failure of its handler is reported. -/
theorem fail (continues : h.Continues past id os shown said none least) (e : IoError) :
    (h.reportError id (.io e)).Continues past id os shown said (some e) least := by
  obtain ⟨state, more, shows, sequel, reached⟩ := continues
  have reported := shows.report (.error (.io e))
  rw [List.append_assoc] at reported
  exact ⟨state, _, reported, sequel.failed e, reached⟩

/-- A connection in use does not go back. -/
theorem advance_early (continues : h.Continues past id os shown said failure least) {s : State}
    (early : s.rank ≤ State.configured.rank) :
    (h.advance id s).Continues past id os shown said failure least := by
  obtain ⟨state, more, shows, sequel, reached⟩ := continues
  have blocked : h.advance id s = h :=
    shows.advance_blocked (decide_eq_false (Nat.not_lt.mpr (Nat.le_trans early sequel.reached)))
  exact ⟨state, more, blocked.symm ▸ shows, sequel, reached⟩

/-- A connection whose state is the last one has come there. -/
theorem disposed (continues : h.Continues past id os shown said failure least)
    (ended : h.isDisposed id = true) : h.Continues past id os shown said failure .disposed := by
  obtain ⟨state, more, shows, sequel, -⟩ := continues
  obtain rfl : state = .disposed := by simpa [isDisposed, shows.state?] using ended
  exact ⟨_, more, shows, sequel, Nat.le_refl _⟩

variable (bystanders : ∀ o ∈ os, o.IsBystander)
include bystanders

/-- The closing begins, if it has not begun. -/
theorem disconnecting (continues : h.Continues past id os shown said failure least) :
    (h.disconnecting id).Continues past id os shown said failure least ∧
      (h.disconnecting id).Continues past id os shown said failure .disconnecting := by
  obtain ⟨state, more, shows, sequel, reached⟩ := continues
  cases state with
  | connected => exact absurd sequel.reached (by decide)
  | configured =>
    have closing := shows.advance bystanders (s := .disconnecting) rfl
    rw [List.append_assoc] at closing
    exact ⟨⟨_, _, closing, sequel.closing, Nat.le_trans reached (by decide)⟩,
      _, _, closing, sequel.closing, Nat.le_refl _⟩
  | disconnecting | disposed =>
    have same : h.disconnecting id = h := shows.advance_blocked rfl
    rw [same]
    exact ⟨⟨_, more, shows, sequel, reached⟩, _, more, shows, sequel, by decide⟩

/-- A connection that is disposed ends, if it has not ended. -/
theorem dispose (continues : h.Continues past id os shown said failure least) :
    (h.dispose id).Continues past id os shown said failure .disposed := by
  obtain ⟨-, state, more, shows, sequel, reached⟩ := continues.disconnecting bystanders
  show ((h.disconnecting id).advance id .disposed).Continues _ _ _ _ _ _ _
  cases state with
  | connected | configured => exact absurd reached (by decide)
  | disconnecting =>
    have closed := shows.advance bystanders (s := .disposed) rfl
    rw [List.append_assoc] at closed
    exact ⟨_, _, closed, sequel.closed, Nat.le_refl _⟩
  | disposed =>
    rw [shows.advance_blocked rfl]
    exact ⟨_, more, shows, sequel, Nat.le_refl _⟩

theorem call (continues : h.Continues past id os shown said failure least) (c : Call) :
    (h.call id c).Continues past id os shown said failure least := by
  cases c with
  | connected => exact continues.advance_early (by decide)
  | configured => exact continues.advance_early (Nat.le_refl _)
  | disconnecting => exact (continues.disconnecting bystanders).1
  | dispose =>
    obtain ⟨state, more, shows, sequel, reached⟩ := continues.dispose bystanders
    refine ⟨state, more, shows, sequel, Nat.le_trans ?_ reached⟩
    cases least <;> decide
  | requestClose => exact continues.requestClose

end Continues

theorem continues_bears (bystanders : ∀ o ∈ os, o.IsBystander) :
    Bears id (Continues past id os shown said failure least) where
  traffic _ continues traffic := continues.aside (filter_traffic traffic)
  call c continues := continues.call bystanders c
  wrapped name continues := continues.wrapped name

/-- A connection that is given up ends. -/
theorem Continues.dropChannel (bystanders : ∀ o ∈ os, o.IsBystander) {s : Shared}
    (continues : s.hub.Continues past id os shown said failure least) {c : Channel (Carrier Wire)}
    (own : c.id = id) : (s.dropChannel c).hub.Continues past id os shown said failure .disposed := by
  subst own
  exact ((continues_bears bystanders).dropStream continues c).dispose bystanders

end Hub

/-! ## One use -/

/-- Whatever the owner of a connection does with it, `P` bears it. -/
theorem Operation.apply_keeps {P : Hub → Prop} {id : Nat} (bears : Hub.Bears id P) {s : Shared}
    {c : Channel (Carrier Wire)} (before : P s.hub ∧ c.id = id) (u : Operation) :
    P (u.apply s c).1.hub ∧ (u.apply s c).2.id = id := by
  have keeps := Flow.medium_keeps (m := Carrier.medium Wire.medium) bears
  let f : Flow (Carrier (Network × Wire)) :=
    { hub := s.hub, channel := c.map (·.map fun w => (s.network, w)) }
  have ready : P f.hub ∧ f.channel.id = id := before
  cases u with
  | read room => exact keeps.read room ready
  | write bytes => exact keeps.write bytes ready
  | flush => exact keeps.flush ready
  | shutdown => exact keeps.shutdown ready
  | call k =>
    obtain ⟨before, rfl⟩ := before
    exact ⟨bears.call k before, rfl⟩
  | remodel stage => exact bears.remodel stage before
  | detach => exact ⟨bears.dropStream before.1 c, before.2⟩

theorem Operation.apply_id (u : Operation) (s : Shared) (c : Channel (Carrier Wire)) :
    (u.apply s c).2.id = c.id := by
  have nothing : Hub.Bears c.id fun _ => True :=
    ⟨fun _ _ _ => trivial, fun _ _ => trivial, fun _ _ => trivial⟩
  exact (Operation.apply_keeps nothing ⟨trivial, rfl⟩ u).2

end StreamHost.Connection

/-! ## Handlers -/

namespace StreamHost.Server.Session

open Connection (Shared Wire Carrier Channel Flow Hub Operation)

/-- `K` bears whatever a handler may do with the connection that it has. -/
structure Bears (K : Shared → Own → Prop) : Prop where
  use : ∀ {s c} (u : Operation), K s (some c) → K (u.apply s c).1 (some (u.apply s c).2)
  work : ∀ {s c} (course : Handler.Course), K s (some c) →
    K (workOn s c course).1 (some (workOn s c course).2.1)
  drop : ∀ {s c}, s.hub.failing = false → K s (some c) → K (s.dropChannel c) none

namespace Bears

variable {K : Shared → Own → Prop} (bears : Bears K) {s : Shared} {own : Own}
include bears

theorem dropOwn (running : s.hub.failing = false) (before : K s own) : K (Session.dropOwn s own) none := by
  cases own with
  | none => exact before
  | some c => exact bears.drop running before

theorem follow (running : s.hub.failing = false) (before : K s own) (given : List Operation.Answer)
    (want : Handler.Want) : K (Session.follow s own given want).1 (Session.follow s own given want).2.1 := by
  cases want with
  | use u =>
    cases own with
    | none => exact before
    | some c => exact bears.use u before
  | drop => exact bears.dropOwn running before
  | pause | hold | finish => exact before

/-- Induction on the number of steps; a step is taken only while no observer failed. -/
theorem followWithin (strategy : Handler.Strategy) (room : Nat) (before : K s own)
    (given : List Operation.Answer) :
    K (Session.followWithin strategy room s own given).1
      (Session.followWithin strategy room s own given).2.1 := by
  induction room generalizing s own given with
  | zero => exact before
  | succ room ih =>
    unfold Session.followWithin
    split
    · exact before
    · rename_i calm
      have followed := bears.follow (Bool.eq_false_iff.mpr calm) before given (strategy given)
      split
      · rename_i same
        rwa [same] at followed
      · rename_i same
        rw [same] at followed
        exact ih followed _

/-- Whatever a handler does until it has to wait. -/
theorem workUntil (before : K s own) (course : Handler.Course) :
    K (Session.work s own course).1 (Session.work s own course).2.1 := by
  unfold Session.work
  split
  · exact bears.followWithin _ _ before _
  · cases own with
    | none => exact before
    | some c => exact bears.work course before

/-- Whatever a handler does of its own, it stays at work unless it breaks down. -/
theorem onHandler (own : Own) (course : Handler.Course) (running : s.hub.failing = false)
    (before : K s own) {act : Act} (calm : act ≠ .breakDown) :
    ∃ own' course', act.onHandler s own course = ((act.onHandler s own course).1, .handling own' course') ∧
      K (act.onHandler s own course).1 own' := by
  cases act with
  | goOn | want => exact ⟨own, _, rfl, before⟩
  | use u =>
    cases own with
    | none => exact ⟨none, course, rfl, before⟩
    | some c => exact ⟨some (u.apply s c).2, course, rfl, bears.use u before⟩
  | drop => exact ⟨none, course, rfl, bears.dropOwn running before⟩
  | breakDown => exact absurd rfl calm

end Bears

/-- What bears the use of a connection bears what its handler does. -/
theorem bears_of_hub {P : Hub → Prop} {id : Nat} (bears : Hub.Bears id P) :
    Bears fun s own => P s.hub ∧ ∀ c ∈ own, c.id = id where
  use {s c} u before := by
    obtain ⟨used, still⟩ := Operation.apply_keeps bears ⟨before.1, before.2 c rfl⟩ u
    exact ⟨used, fun _ same => Option.some.inj same ▸ still⟩
  work {s c} course before := by
    let f : Flow (Carrier (Network × Wire)) :=
      { hub := s.hub, channel := c.map (·.map fun w => (s.network, w)) }
    let worked := (course.run Shared.flowMedium (fun f => f.hub.failing) s.now f).1
    have kept : P worked.hub ∧ worked.channel.id = id :=
      Handler.Course.runWithin_keeps (Flow.medium_keeps bears) ⟨before.1, before.2 c rfl⟩
    exact ⟨kept.1, fun _ same => Option.some.inj same ▸ kept.2⟩
  drop {s c} _ before := ⟨bears.dropChannel before.1 (before.2 c rfl), by simp⟩

/-! ## Acts -/

variable {s : Shared} {x : Session} {b : Blueprint}

theorem after_id (x : Session) (r : Shared × Phase) : (x.after r).2.id = x.id := by
  unfold after
  split <;> rfl

theorem after_running (x : Session) (r : Shared × Phase) : (x.after r).1.hub.failing = false := by
  unfold after
  split
  · rfl
  · rename_i calm
    exact Bool.eq_false_iff.mpr calm

theorem after_of_running {r : Shared × Phase} (running : r.1.hub.failing = false) :
    x.after r = (r.1, { x with phase := r.2 }) := by
  rw [after, if_neg (by simp [running])]

theorem after_of_failing {r : Shared × Phase} (failing : r.1.hub.failing = true) :
    x.after r = (breakOff r.1 r.2, { x with phase := .ended }) := by
  rw [after, if_pos failing]

/-- A session is polled, or its handler does something of its own; what else is tried does nothing. -/
theorem Act.perform_cases (act : Act) (b : Blueprint) (s : Shared) (x : Session) :
    (∃ choices, act = .goOn choices ∧ act.perform b s x = advance choices b s x) ∨
      (∃ own course, x.phase = .handling own course ∧ act.perform b s x = act.onHandler s own course) ∨
      act.perform b s x = (s, x.phase) := by
  unfold Act.perform
  split
  · exact .inl ⟨_, rfl, rfl⟩
  · rename_i stands
    exact .inr (.inl ⟨_, _, stands, rfl⟩)
  · exact .inr (.inr rfl)

/-- A handler that breaks down takes with it what it has. -/
theorem after_breakDown (running : s.hub.failing = false) {own : Own} {course : Handler.Course}
    (stands : x.phase = .handling own course) (given : (dropOwn s own).hub.failing = false) :
    x.after (Act.breakDown.perform b s x) = (dropOwn s own, { x with phase := .ended }) := by
  have performed : Act.breakDown.perform b s x =
      (s.onHub fun h => { h with failing := true }, .handling own course) := by
    simp only [Act.perform, stands, Act.onHandler]
  have resumed :
      ((s.onHub fun h => { h with failing := true }).onHub fun h => { h with failing := false }) = s := by
    obtain ⟨now, network, hub⟩ := s
    obtain ⟨lifecycles, groups, events, failing⟩ := hub
    obtain rfl : failing = false := running
    rfl
  rw [performed, after_of_failing rfl, breakOff, resumed]
  exact congrArg (fun hub => ({ dropOwn s own with hub }, { x with phase := .ended })) (Hub.recover_eq given)

end StreamHost.Server.Session
