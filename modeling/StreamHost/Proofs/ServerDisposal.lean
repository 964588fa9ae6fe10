import Mathlib.Data.List.Induction
import StreamHost.Proofs.ServerSteps

/-!
How a server ends. It runs among all connections and groups: its own operations and those of everybody
else come in any order, but nobody else brings connections into its group and no observer fails. A
disposal then waits for exactly the connections that the server accepted, until its limit is over.
-/

namespace StreamHost

open Connection (Hub Lifecycle Observer State)

namespace Site

/-- What others may do: anything, but not into the group of the server, and with no failing observer. -/
def Move.Allowed (group : Option Nat) : Move → Prop
  | .server _ => True
  | .around op => op.NeverFails ∧ ∀ g ∈ group, op.Spares g

/-! ## What holds at any time -/

/-- A server and its connections while nobody fails: the group has exactly what the server accepted and
what is still live of it, and the listener is there as long as the handle is. -/
structure Sound (x : Site) : Prop where
  orderly : x.hub.Orderly
  steady : x.hub.Steady
  kind : ∀ o ∈ x.server.observers, o.NeverFails
  known : ∀ g ∈ x.server.group, g < x.hub.groups.length
  enrolled : ∀ id ∈ x.server.accepted, ∃ l, x.hub.lifecycle? id = some l ∧
    l.group = x.server.group ∧ l.state ≠ none
  own : ∀ g, x.server.group = some g → ∀ id l, x.hub.lifecycle? id = some l → l.group = some g →
    id ∈ x.server.accepted
  alive : x.server.loop ≠ .broken
  listening : x.server.handle ≠ .gone → x.server.listening = true
  drains : ∀ limit alarm, x.server.handle = .draining limit alarm → x.server.loopEnded = true

variable {x y : Site} {move : Move}

/-- The part of it that is about the server alone goes on as the server does. -/
theorem Sound.follow (sound : x.Sound) {hub : Hub} {server : Server} (follows : x.server.Follows server)
    (orderly : hub.Orderly) (steady : hub.Steady)
    (groups : x.hub.groups.length ≤ hub.groups.length)
    (enrolled : ∀ id ∈ server.accepted, ∃ l, hub.lifecycle? id = some l ∧
      l.group = x.server.group ∧ l.state ≠ none)
    (own : ∀ g, x.server.group = some g → ∀ id l, hub.lifecycle? id = some l → l.group = some g →
      id ∈ server.accepted) : Sound ⟨hub, server⟩ where
  orderly := orderly
  steady := steady
  kind := follows.observers ▸ sound.kind
  known g joined := Nat.lt_of_lt_of_le (sound.known g (follows.group ▸ joined)) groups
  enrolled := follows.group ▸ enrolled
  own := follows.group ▸ own
  alive := by
    rcases follows.loop with same | ⟨-, alive⟩
    · exact same ▸ sound.alive
    · exact alive
  listening present := by
    obtain ⟨before, same⟩ := follows.handle present
    exact same.trans (sound.listening before)
  drains limit alarm draining := by
    rcases follows.drains limit alarm draining with before | ended
    · exact follows.ended (sound.drains limit alarm before)
    · exact ended

/-- What brings nothing into the group and accepts nobody keeps it. -/
theorem Sound.touch (sound : x.Sound) {server : Server} (follows : x.server.Follows server)
    (accepted : server.accepted = x.server.accepted) (ops : List Hub.Op)
    (es : List Connection.Event) (kind : ∀ op ∈ ops, op.NeverFails)
    (spares : ∀ g ∈ x.server.group, ∀ op ∈ ops, op.Spares g) :
    Sound ⟨(x.hub.run ops).emitAll es, server⟩ := by
  refine sound.follow follows ((sound.orderly.run sound.steady ops kind).emitAll es)
    ((sound.steady.run ops kind).emitAll es) (Hub.length_groups_run x.hub ops) ?_ ?_
  · intro id member
    obtain ⟨l, found, joined, started⟩ := sound.enrolled id (accepted ▸ member)
    obtain ⟨l', later, goes⟩ := Hub.descends_run ops found
    exact ⟨l', later, goes.group.trans joined, goes.started started⟩
  · intro g joined id l found own
    obtain ⟨l', before, own⟩ := Hub.lifecycle_of_run (spares g joined) found own
    exact accepted ▸ sound.own g joined id l' before own

/-- A client that is accepted has started, in the group of the server. -/
theorem Sound.admit (sound : x.Sound) (client : Address.Endpoint)
    (follows : x.server.Follows (x.server.acquire.admitted x.hub)) :
    Sound ⟨x.hub.run (x.server.admission x.hub client), x.server.acquire.admitted x.hub⟩ := by
  have kind := Server.neverFails_admission (h := x.hub) sound.kind client
  have accepted : (x.server.acquire.admitted x.hub).accepted =
      x.server.accepted ++ [x.hub.lifecycles.length] := by
    simp only [Server.admitted, Server.accepted_acquire]
  refine sound.follow follows (sound.orderly.run sound.steady _ kind) (sound.steady.run _ kind)
    (Hub.length_groups_run x.hub _) ?_ ?_
  · intro id member
    rw [accepted] at member
    rcases List.mem_append.mp member with earlier | new
    · obtain ⟨l, found, joined, started⟩ := sound.enrolled id earlier
      obtain ⟨l', later, goes⟩ := Hub.descends_run (x.server.admission x.hub client) found
      exact ⟨l', later, goes.group.trans joined, goes.started started⟩
    · obtain rfl := List.mem_singleton.mp new
      exact Server.lifecycle_of_admission sound.steady sound.known client
  · intro g joined id l found own
    rw [accepted]
    rcases Server.eq_or_lifecycle_of_admission sound.steady sound.known found with
      rfl | ⟨k, before, goes⟩
    · simp
    · exact List.mem_append_left _ (sound.own g joined id k before (goes.group ▸ own))

/-- Whatever happens, it holds afterwards too, and the server has gone on as it may. -/
theorem Sound.step (sound : x.Sound) (allowed : move.Allowed x.server.group) :
    (x.step move).Sound ∧ x.server.Follows (x.step move).server := by
  cases move with
  | server op =>
    have follows := Server.follows_step sound.steady sound.kind sound.known op
    refine ⟨?_, follows⟩
    rcases Server.step_cases sound.steady sound.kind sound.known op with
      ⟨accepted, ops, es, touches, shown⟩ | ⟨-, client, accepts⟩
    · have kept := sound.touch follows accepted ops es touches.neverFails
        fun g _ => touches.spares g
      simpa only [Site.step, shown] using kept
    · rw [accepts] at follows
      have kept := sound.admit client follows
      simpa only [Site.step, accepts] using kept
  | around op =>
    refine ⟨?_, .refl _⟩
    obtain ⟨kind, spares⟩ := allowed
    have kept := sound.touch (.refl _) rfl [op] [] (by simpa using kind)
      fun g joined => by simpa using spares g joined
    have same : (x.hub.run [op]).emitAll [] = x.hub.step op := by simp [Hub.emitAll, Hub.run]
    rw [same] at kept
    exact kept

/-- It holds at the start. -/
theorem sound_start {h : Hub} (orderly : h.Orderly) (steady : h.Steady) (localEnd : Address.Endpoint)
    {observers : List Observer} (kind : ∀ o ∈ observers, o.NeverFails) (tracked : Bool)
    (places : Places) : (start h localEnd observers tracked places).Sound := by
  cases tracked with
  | true =>
    have group : ∀ {g}, (start h localEnd observers true places).server.group = some g →
        h.groups.length = g := fun joined => Option.some.inj joined
    exact
      { orderly := ⟨orderly.toKept.newGroup, orderly.ended⟩
        steady := ⟨steady.running, steady.observers⟩
        kind
        known := fun g joined => by
          obtain rfl := group joined
          simp [start, Hub.newGroup]
        enrolled := fun id member => absurd member List.not_mem_nil
        own := fun g joined id l found own => by
          obtain rfl := group joined
          exact absurd (orderly.grouped found own) (Nat.lt_irrefl _)
        alive := by simp [start, Server.start]
        listening := fun _ => rfl
        drains := fun _ _ draining => by cases draining }
  | false =>
    exact
      { orderly
        steady
        kind
        known := fun g joined => by cases joined
        enrolled := fun id member => absurd member List.not_mem_nil
        own := fun g joined => by cases joined
        alive := by simp [start, Server.start]
        listening := fun _ => rfl
        drains := fun _ _ draining => by cases draining }

/-- From the steps to a whole run. -/
theorem Sound.run (sound : x.Sound) (moves : List Move)
    (allowed : ∀ move ∈ moves, move.Allowed x.server.group) :
    (x.run moves).Sound ∧ x.server.Follows (x.run moves).server := by
  induction moves generalizing x with
  | nil => exact ⟨sound, .refl _⟩
  | cons move rest ih =>
    obtain ⟨next, goes⟩ := sound.step (allowed move List.mem_cons_self)
    obtain ⟨last, onward⟩ := ih next fun later member =>
      goes.group ▸ allowed later (List.mem_cons_of_mem _ member)
    exact ⟨last, goes.trans onward⟩

/-! ## Who is accepted -/

/-- Once the loop has ended nobody is accepted any more. -/
theorem Sound.accepted_step (sound : x.Sound) (ended : x.server.loopEnded = true) (move : Move) :
    (x.step move).server.accepted = x.server.accepted := by
  cases move with
  | around op => rfl
  | server op =>
    rcases Server.step_cases sound.steady sound.kind sound.known op with ⟨accepted, -⟩ | ⟨running, -⟩
    · exact accepted
    · exact nomatch running.symm.trans ended

theorem Sound.accepted_run (sound : x.Sound) (ended : x.server.loopEnded = true) (moves : List Move)
    (allowed : ∀ move ∈ moves, move.Allowed x.server.group) :
    (x.run moves).server.accepted = x.server.accepted := by
  induction moves generalizing x with
  | nil => rfl
  | cons move rest ih =>
    obtain ⟨next, goes⟩ := sound.step (allowed move List.mem_cons_self)
    have onward := ih next (goes.ended ended) fun later member =>
      goes.group ▸ allowed later (List.mem_cons_of_mem _ member)
    exact onward.trans (sound.accepted_step ended move)

/-- So whatever else happens, in one run or another, the last to be accepted came before. -/
theorem Sound.frozen (sound : x.Sound) (early late : List Move)
    (allowed : ∀ move ∈ early ++ late, move.Allowed x.server.group)
    (ended : (x.run early).server.loopEnded = true) :
    (x.run (early ++ late)).server.accepted = (x.run early).server.accepted := by
  obtain ⟨middle, onward⟩ := sound.run early fun m member => allowed m (List.mem_append_left _ member)
  rw [run_append]
  exact middle.accepted_run ended late fun m member =>
    onward.group ▸ allowed m (List.mem_append_right _ member)

/-- A loop that has ended while no observer fails has handed the listener back. -/
theorem Sound.stopped (sound : x.Sound) (ended : x.server.loopEnded = true) :
    x.server.loop = .stopped := by
  cases loop : x.server.loop with
  | stopped => rfl
  | broken => exact absurd loop sound.alive
  | acquiring | accepting | pausing => simp [Server.loopEnded, loop] at ended

/-- What was accepted is in the group until it is disposed. -/
theorem Sound.member_or_disposed (sound : x.Sound) {id g : Nat} (member : id ∈ x.server.accepted)
    (tracks : x.server.group = some g) :
    id ∈ x.hub.members g ∨ x.hub.state? id = some .disposed := by
  obtain ⟨l, found, joined, started⟩ := sound.enrolled id member
  cases last : l.state with
  | none => exact absurd last started
  | some s =>
    by_cases ended : s = .disposed
    · subst ended
      exact .inr (by simp [Hub.state?, found, last])
    · refine .inl (sound.orderly.member_iff.mpr ⟨l, found, joined.trans tracks, ?_⟩)
      cases s <;> simp_all [Lifecycle.IsLive]

/-- What is in the group was accepted. -/
theorem Sound.accepted_of_mem (sound : x.Sound) {id g : Nat} (tracks : x.server.group = some g)
    (member : id ∈ x.hub.members g) : id ∈ x.server.accepted := by
  obtain ⟨l, found, joined, -⟩ := sound.orderly.member_iff.mp member
  exact sound.own g tracks id l found joined

/-- Whoever was accepted in a run was in the group, or disposed already, while the loop still ran. -/
theorem Sound.accepted_while_running (sound : x.Sound) {g : Nat} (tracks : x.server.group = some g)
    (moves : List Move) (allowed : ∀ move ∈ moves, move.Allowed x.server.group) :
    ∀ id ∈ (x.run moves).server.accepted, id ∈ x.server.accepted ∨
      ∃ early late, moves = early ++ late ∧ (x.run early).server.loopEnded = false ∧
        (id ∈ (x.run early).hub.members g ∨ (x.run early).hub.state? id = some .disposed) := by
  induction moves using List.reverseRec with
  | nil => exact fun id member => .inl member
  | append_singleton earlier move ih =>
    have before := fun m member => allowed m (List.mem_append_left [move] member)
    obtain ⟨middle, goes⟩ := sound.run earlier before
    have extended : ∀ id ∈ (x.run earlier).server.accepted, id ∈ x.server.accepted ∨
        ∃ early late, earlier ++ [move] = early ++ late ∧ (x.run early).server.loopEnded = false ∧
          (id ∈ (x.run early).hub.members g ∨ (x.run early).hub.state? id = some .disposed) := by
      intro id member
      rcases ih before id member with old | ⟨early, late, rfl, running, enrolled⟩
      · exact .inl old
      · exact .inr ⟨early, late ++ [move], by simp, running, enrolled⟩
    intro id member
    rw [run_concat] at member
    cases move with
    | around op => exact extended id member
    | server op =>
      rcases Server.step_cases middle.steady middle.kind middle.known op with
        ⟨accepted, -⟩ | ⟨-, client, accepts⟩
      · exact extended id (accepted ▸ member)
      · have permitted : (Move.server op).Allowed (x.run earlier).server.group :=
          goes.group.symm ▸ allowed (.server op) (by simp)
        obtain ⟨last, onward⟩ := middle.step permitted
        have tracks : ((x.run earlier).step (.server op)).server.group = some g :=
          onward.group.trans (goes.group.trans tracks)
        refine .inr ⟨earlier ++ [.server op], [], by simp, ?_, ?_⟩
        · rw [run_concat]
          simp [Site.step, accepts, Server.admitted, Server.loopEnded]
        · rw [run_concat]
          exact last.member_or_disposed member tracks

/-! ## A disposal -/

/-- How a disposal begins. -/
def begin (begun : Nat) (limit : Duration) : Move := .server (.dispose begun limit)

/-- A look of the disposal at the group. -/
def look (now : Nat) : Move := .server (.drain now)

/-- A disposal that begins after the moves `before`, with an acceptable limit, is still pending after the
moves `during`, and is ended by its next look at the group with the result `r`. -/
structure Disposes (x : Site) (before during : List Move) (begun ended : Nat) (limit : Duration)
    (r : Except Error Unit) : Prop where
  held : (x.run before).server.handle = .held
  short : limit ≤ Deadline.maxTimeout
  pending : (x.run (before ++ begin begun limit :: during)).server.disposal = none
  result : ((x.run (before ++ begin begun limit :: during)).step (look ended)).server.disposal = some r

/-- What a disposal has come to: `x` is the start, `y` the time of its last look, `z` its end. -/
structure Outcome (x y z : Site) (before during : List Move) (begun ended : Nat) (limit : Duration)
    (r : Except Error Unit) : Prop where
  /-- The loop has handed the listener back. -/
  stopped : y.server.loop = .stopped
  /-- Nobody is accepted after the loop has done so, in this run or another. -/
  frozen : ∀ early late, (∀ move ∈ early ++ late, move.Allowed x.server.group) →
    (x.run early).server.loopEnded = true →
    (x.run (early ++ late)).server.accepted = (x.run early).server.accepted
  /-- Everybody who was accepted came into the group before. -/
  tracked : ∀ g, x.server.group = some g → ∀ id ∈ z.server.accepted,
    ∃ early late, before ++ begin begun limit :: during = early ++ late ∧
      (x.run early).server.loopEnded = false ∧
      (id ∈ (x.run early).hub.members g ∨ (x.run early).hub.state? id = some .disposed)
  /-- While the disposal waits it leaves everybody alone. -/
  waited : ∀ early now late, during = early ++ look now :: late →
    ((x.run (before ++ begin begun limit :: early)).step (look now)).hub =
      (x.run (before ++ begin begun limit :: early)).hub
  /-- If all went well, everybody who was ever accepted is disposed, and nobody was asked to close. -/
  drained : r = .ok () → (x.server.group ≠ none → ∀ id ∈ z.server.accepted,
    z.hub.state? id = some .disposed) ∧ z.hub.lifecycles = y.hub.lifecycles
  /-- Otherwise the limit was over with somebody left, and just those who were left are asked. -/
  expired : ∀ e, r = .error e → e = .timeout "server dispose" limit ∧ begun + limit.nanos ≤ ended ∧
    ∃ g, x.server.group = some g ∧ (∃ id ∈ y.server.accepted, id ∈ y.hub.members g) ∧
      ∀ id, z.hub.lifecycle? id = (y.hub.lifecycle? id).map fun l =>
        if id ∈ y.hub.members g then { l with closeRequested := true } else l
  /-- The listener stays until the wait is over, and is released then. -/
  held : ∀ early late, before ++ begin begun limit :: during = early ++ late →
    (x.run early).server.listening = true
  released : z.server.listening = false
  /-- Without a group the first look after the end of the loop ends the disposal well. -/
  untracked : x.server.group = none → r = .ok () ∧ ∀ early late, during = early ++ late →
    (x.run (before ++ begin begun limit :: early)).server.loopEnded = true → ∀ now,
    ((x.run (before ++ begin begun limit :: early)).step (look now)).server.disposal = some (.ok ())

section

variable {before during : List Move} {begun ended : Nat} {limit : Duration} {r : Except Error Unit}

/-- A look at the group that ends a disposal. -/
theorem drain_ends (pending : x.server.disposal = none)
    (result : (x.step (look ended)).server.disposal = some r) :
    ∃ limit alarm, x.server.MayLook limit alarm ∧
      (((∀ g ∈ x.server.group, x.hub.members g = []) ∧ r = .ok () ∧
        x.server.drain x.hub ended = Server.conclude x.hub x.server r) ∨
      (∃ g, x.server.group = some g ∧ x.hub.members g ≠ [] ∧ alarm.isOver ended = true ∧
        r = .error (.timeout "server dispose" limit) ∧
        x.server.drain x.hub ended = Server.conclude (x.hub.closeAll g).1 x.server r)) := by
  have result : (x.server.drain x.hub ended).2.disposal = some r := result
  rcases Server.drain_cases x.hub x.server ended with ⟨waits, -⟩ | ⟨limit, alarm, looks,
    ⟨empty, ends⟩ | ⟨g, tracks, left, late, ends⟩ | ⟨g, -, -, -, goes⟩⟩
  · rw [waits, pending] at result
    cases result
  · refine ⟨limit, alarm, looks, .inl ⟨empty, ?_, ?_⟩⟩
    all_goals
      rw [ends, Server.conclude_snd] at result
      obtain rfl := Option.some.inj result
    · rfl
    · exact ends
  · refine ⟨limit, alarm, looks, .inr ⟨g, tracks, left, late, ?_, ?_⟩⟩
    all_goals
      rw [ends, Server.conclude_snd] at result
      obtain rfl := Option.some.inj result
    · rfl
    · exact ends
  · rw [goes] at result
    exact nomatch pending.symm.trans result

theorem handle_of_mayLook {s : Server} {limit : Duration} {alarm : Alarm}
    (looks : s.MayLook limit alarm) : s.handle ≠ .gone := by
  rcases looks with same | ⟨same, -⟩ <;> simp [same]

theorem loopEnded_of_mayLook (sound : x.Sound) {alarm : Alarm} (looks : x.server.MayLook limit alarm) :
    x.server.loopEnded = true := by
  rcases looks with draining | ⟨-, ended⟩
  · exact sound.drains limit alarm draining
  · exact ended

/-- The handle is there until the disposal ends. -/
theorem Disposes.present (disposes : x.Disposes before during begun ended limit r) :
    (x.run (before ++ begin begun limit :: during)).server.handle ≠ .gone := by
  obtain ⟨l, alarm, looks, -⟩ := drain_ends disposes.pending disposes.result
  exact handle_of_mayLook looks

/-- At any time before its end the server has its handle, and with it the listener. -/
theorem Disposes.present_before (disposes : x.Disposes before during begun ended limit r)
    (sound : x.Sound)
    (allowed : ∀ move ∈ before ++ begin begun limit :: during, move.Allowed x.server.group)
    (early late : List Move) (split : before ++ begin begun limit :: during = early ++ late) :
    (x.run early).Sound ∧ x.server.Follows (x.run early).server ∧
      (x.run early).server.handle ≠ .gone := by
  rw [split] at allowed
  obtain ⟨middle, goes⟩ := sound.run early fun m member => allowed m (List.mem_append_left _ member)
  obtain ⟨-, onward⟩ := middle.run late fun m member =>
    goes.group ▸ allowed m (List.mem_append_right _ member)
  refine ⟨middle, goes, fun gone => disposes.present ?_⟩
  rw [split, run_append]
  exact onward.gone gone

/-- And as long as it is pending it waits for the limit that it was given. -/
theorem Disposes.waits (disposes : x.Disposes before during begun ended limit r) (sound : x.Sound)
    (allowed : ∀ move ∈ before ++ begin begun limit :: during, move.Allowed x.server.group)
    (early late : List Move) (split : during = early ++ late) :
    (x.run (before ++ begin begun limit :: early)).server.waitsFor =
      some (limit, ⟨begun + limit.nanos⟩) := by
  subst split
  obtain ⟨middle, goes⟩ := sound.run before fun m member => allowed m (List.mem_append_left _ member)
  obtain ⟨next, onward⟩ := middle.step (show (begin begun limit).Allowed _ from trivial)
  obtain ⟨-, later⟩ := next.run early fun m member => by
    rw [onward.group, goes.group]
    exact allowed m (by simp [member])
  obtain ⟨-, -, present⟩ := disposes.present_before sound allowed
    (before ++ begin begun limit :: early) late (by simp)
  have waiting : ((x.run before).step (begin begun limit)).server.waitsFor =
      some (limit, ⟨begun + limit.nanos⟩) := by
    have checked : Deadline.check begun limit = .ok (begun + limit.nanos) :=
      Deadline.check_eq_ok_iff.mpr ⟨disposes.short, rfl⟩
    simp [Site.step, begin, Server.step, disposes.held, Server.dispose, checked, Server.waitsFor]
  have split : x.run (before ++ begin begun limit :: early) =
      ((x.run before).step (begin begun limit)).run early := run_append x before _
  rw [split] at present ⊢
  rcases later.waits _ waiting with still | gone
  · exact still
  · exact absurd gone present

theorem mayLook_of_waitsFor {s : Server} {alarm : Alarm} (waits : s.waitsFor = some (limit, alarm))
    (ended : s.loopEnded = true) : s.MayLook limit alarm := by
  unfold Server.waitsFor at waits
  split at waits
  · rename_i stopping
    obtain ⟨rfl, rfl⟩ := Prod.mk.inj (Option.some.inj waits)
    exact .inr ⟨stopping, ended⟩
  · rename_i draining
    obtain ⟨rfl, rfl⟩ := Prod.mk.inj (Option.some.inj waits)
    exact .inl draining
  · cases waits

/-- A look that does not end a disposal changes nothing around it. -/
theorem hub_of_look {now : Nat} (present : (x.step (look now)).server.handle ≠ .gone) :
    (x.step (look now)).hub = x.hub := by
  have present : (x.server.drain x.hub now).2.handle ≠ .gone := present
  show (x.server.drain x.hub now).1 = x.hub
  rcases Server.drain_cases x.hub x.server now with ⟨waits, -⟩ | ⟨limit, alarm, -,
    ⟨-, ends⟩ | ⟨g, -, -, -, ends⟩ | ⟨g, -, -, -, goes⟩⟩
  · rw [waits]
  · rw [ends, Server.conclude_snd] at present
    exact absurd rfl present
  · rw [ends, Server.conclude_snd] at present
    exact absurd rfl present
  · rw [goes]

/-- Without a group a look that is possible is the last one. -/
theorem disposal_of_look {alarm : Alarm} (untracked : x.server.group = none)
    (looks : x.server.MayLook limit alarm) (now : Nat) :
    (x.step (look now)).server.disposal = some (.ok ()) := by
  show (x.server.drain x.hub now).2.disposal = some (.ok ())
  rcases Server.drain_cases x.hub x.server now with ⟨-, none⟩ | ⟨_, _, -, ⟨-, ends⟩ |
    ⟨g, tracks, -⟩ | ⟨g, tracks, -⟩⟩
  · exact absurd looks (none _ _)
  · rw [ends, Server.conclude_snd]
  · exact nomatch untracked.symm.trans tracks
  · exact nomatch untracked.symm.trans tracks

/-- A look that ends a disposal releases the listener, and accepts nobody. -/
theorem ends_of_look (pending : x.server.disposal = none)
    (result : (x.step (look ended)).server.disposal = some r) :
    (x.step (look ended)).server.accepted = x.server.accepted ∧
      (x.step (look ended)).server.listening = false := by
  have same : (x.step (look ended)).server = (x.server.drain x.hub ended).2 := rfl
  have concluded : ∃ h, x.server.drain x.hub ended = Server.conclude h x.server r := by
    obtain ⟨_, _, -, ⟨-, -, ends⟩ | ⟨g, -, -, -, -, ends⟩⟩ := drain_ends pending result
    · exact ⟨_, ends⟩
    · exact ⟨_, ends⟩
  obtain ⟨h, ends⟩ := concluded
  rw [same, ends, Server.conclude_snd]
  exact ⟨rfl, rfl⟩

/-- If it ends the disposal well, it changes no lifecycle, and the group was empty. -/
theorem drained_of_look (sound : x.Sound) (pending : x.server.disposal = none)
    (result : (x.step (look ended)).server.disposal = some (.ok ())) :
    (x.server.group ≠ none → ∀ id ∈ x.server.accepted, x.hub.state? id = some .disposed) ∧
      (x.step (look ended)).hub.lifecycles = x.hub.lifecycles := by
  have same : (x.step (look ended)).hub = (x.server.drain x.hub ended).1 := rfl
  obtain ⟨_, _, -, ⟨empty, -, ends⟩ | ⟨g, -, -, -, failed, -⟩⟩ := drain_ends pending result
  · refine ⟨fun tracks id member => ?_, by rw [same, ends, Server.lifecycles_conclude]⟩
    obtain ⟨g, tracks⟩ := Option.ne_none_iff_exists'.mp tracks
    rcases sound.member_or_disposed member tracks with left | disposed
    · simp [empty g tracks] at left
    · exact disposed
  · cases failed

/-- If it ends the disposal with an error, its limit was over while somebody was in the group, and just
those who were are asked to close. -/
theorem expired_of_look (sound : x.Sound) {alarm : Alarm} (waits : x.server.waitsFor = some (limit, alarm))
    (pending : x.server.disposal = none) {e : Error}
    (result : (x.step (look ended)).server.disposal = some (.error e)) :
    e = .timeout "server dispose" limit ∧ alarm.instant ≤ ended ∧
      ∃ g, x.server.group = some g ∧ (∃ id ∈ x.server.accepted, id ∈ x.hub.members g) ∧
        ∀ id, (x.step (look ended)).hub.lifecycle? id = (x.hub.lifecycle? id).map fun l =>
          if id ∈ x.hub.members g then { l with closeRequested := true } else l := by
  have same : (x.step (look ended)).hub = (x.server.drain x.hub ended).1 := rfl
  obtain ⟨l, alarm, looks, ⟨-, well, -⟩ | ⟨g, tracks, left, late, failed, ends⟩⟩ :=
    drain_ends pending result
  · cases well
  · obtain ⟨rfl, rfl⟩ := Prod.mk.inj
      (Option.some.inj ((Server.waitsFor_of_mayLook looks).symm.trans waits))
    have alike : (x.step (look ended)).hub.lifecycles = (x.hub.closeAll g).1.lifecycles := by
      rw [same, ends, Server.lifecycles_conclude]
    refine ⟨Except.error.inj failed, Alarm.instant_le_of_isOver late, g, tracks, ?_, fun id => ?_⟩
    · obtain ⟨id, member⟩ := List.exists_mem_of_ne_nil _ left
      exact ⟨id, sound.accepted_of_mem tracks member, member⟩
    · rw [Hub.lifecycle?, alike, Hub.closeAll_eq sound.orderly]
      exact Hub.lifecycle?_foldl_requestClose _

/-- A disposal that was driven to its end has waited for exactly the clients of the server. -/
theorem disposal_outcome (earlier : List Hub.Op) (calm : ∀ op ∈ earlier, op.NeverFails)
    {localEnd : Address.Endpoint} {observers : List Observer} (kind : ∀ o ∈ observers, o.NeverFails)
    {tracked : Bool} {places : Places} {x y z : Site}
    (started : x = start (Hub.run {} earlier) localEnd observers tracked places)
    (allowed : ∀ move ∈ before ++ begin begun limit :: during, move.Allowed x.server.group)
    (disposes : x.Disposes before during begun ended limit r)
    (last : y = x.run (before ++ begin begun limit :: during)) (final : z = y.step (look ended)) :
    Outcome x y z before during begun ended limit r := by
  have sound : x.Sound := started ▸ sound_start (Hub.orderly_empty.run Hub.steady_empty earlier calm)
    (Hub.steady_empty.run earlier calm) localEnd kind tracked places
  have unused : x.server.accepted = [] := by
    subst started
    cases tracked <;> rfl
  obtain ⟨settled, goes, -⟩ := disposes.present_before sound allowed _ _ (List.append_nil _).symm
  have waits := disposes.waits sound allowed _ _ (List.append_nil during).symm
  have pending := disposes.pending
  have result := disposes.result
  rw [← last] at settled goes waits pending result
  obtain ⟨_, _, looks, -⟩ := drain_ends pending result
  obtain ⟨accepted, released⟩ := ends_of_look pending result
  rw [← final] at accepted
  refine
    { stopped := settled.stopped (loopEnded_of_mayLook settled looks), frozen := sound.frozen, tracked := ?_,
      waited := ?_, drained := ?_, expired := ?_, held := ?_, released := final ▸ released, untracked := ?_ }
  · intro g tracks id member
    rw [accepted, last] at member
    rcases sound.accepted_while_running tracks _ allowed id member with old | found
    · simp [unused] at old
    · exact found
  · rintro early now late rfl
    refine hub_of_look ?_
    obtain ⟨-, -, present⟩ := disposes.present_before sound allowed
      (before ++ begin begun limit :: early ++ [look now]) late (by simp)
    rwa [run_concat] at present
  · rintro rfl
    obtain ⟨disposed, alike⟩ := drained_of_look settled pending result
    rw [← final] at alike
    refine ⟨fun tracks id member => ?_, alike⟩
    rw [accepted] at member
    have once := disposed (goes.group ▸ tracks) id member
    simpa only [Hub.state?, Hub.lifecycle?, alike] using once
  · rintro e rfl
    obtain ⟨failed, late, g, tracks, left, asked⟩ := expired_of_look settled waits pending result
    exact ⟨failed, late, g, goes.group.symm.trans tracks, left, final ▸ asked⟩
  · intro early late split
    obtain ⟨middle, -, present⟩ := disposes.present_before sound allowed early late split
    exact middle.listening present
  · intro untracked
    have alone : y.server.group = none := goes.group.trans untracked
    refine ⟨?_, fun early late split halted now => ?_⟩
    · have well := disposal_of_look alone looks ended
      exact Option.some.inj (result.symm.trans well)
    · have waits := disposes.waits sound allowed early late split
      obtain ⟨-, goes, -⟩ := disposes.present_before sound allowed
        (before ++ begin begun limit :: early) late (by simp [split])
      have alone := goes.group.trans untracked
      exact disposal_of_look alone (mayLook_of_waitsFor waits halted) now

/-- A server with one client, which stays, and a disposal that waits five milliseconds for it. -/
def oneGuest : Site := start (Hub.run {} []) (.unix none) [{ name := "o" }] true ⟨2, 2⟩

theorem guest_is_asked_to_close :
    ∃ y z : Site, Outcome oneGuest y z [.server (.turn (some (.unix none)))]
        [.server (.turn none), look 0] 0 7000000 ⟨5000000⟩
        (.error (.timeout "server dispose" ⟨5000000⟩)) ∧
      (z.hub.lifecycle? 0).map Lifecycle.closeRequested = some true := by
  have disposes : oneGuest.Disposes [.server (.turn (some (.unix none)))]
      [.server (.turn none), look 0] 0 7000000 ⟨5000000⟩
      (.error (.timeout "server dispose" ⟨5000000⟩)) :=
    ⟨by decide, by decide, rfl, rfl⟩
  refine ⟨_, _, disposal_outcome [] (by simp) ?_ rfl ?_ disposes rfl rfl, ?_⟩
  · simp [Observer.NeverFails]
  · simp [Move.Allowed, begin, look]
  · rfl

end

end Site

end StreamHost
