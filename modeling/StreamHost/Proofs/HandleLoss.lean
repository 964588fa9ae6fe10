import StreamHost.Host
import StreamHost.Proofs.ServerRelease

/-!
What becomes of a server whose handle is lost. A handle is lost when it is dropped, and also when a
disposal is asked for with a limit that is too long: that disposal fails, but the handle is gone with it.
From then on the server accepts nobody. It goes on until its loop sees the signal; then the listener is
released and the callbacks run, as if nobody had asked for a disposal.
-/

namespace StreamHost

open Connection (Hub Observer)

namespace Server

variable {h : Hub} {s : Server} {outcome : Option (Except Error Unit)} {accepted : List Nat}

/-- The handle was lost when the server had accepted `accepted` and its disposal had gone as `outcome`
says. The loop is told to stop, and the end does not come before the loop has ended. -/
structure Lost (outcome : Option (Except Error Unit)) (accepted : List Nat) (s : Server) : Prop where
  handle : s.handle = .leaving ∨ (s.handle = .gone ∧ s.loopEnded = true)
  signal : s.signal.isOver = true
  disposal : s.disposal = outcome
  accepted : s.accepted = accepted

/-- A disposal with a limit that is too long fails, and what it leaves behind is a handle that is lost. -/
theorem dispose_overlong {limit : Duration} (overlong : Deadline.maxTimeout < limit) (now : Nat) :
    s.dispose now limit = { s with
      signal := s.signal.trigger
      handle := .leaving
      disposal := some (.error (.arithmetic limit)) } := by
  have refused : Deadline.check now limit = .error (.arithmetic limit) :=
    Deadline.check_eq_error_iff.mpr ⟨overlong, rfl⟩
  simp [dispose, refused, leave]

theorem lost_leave (s : Server) : s.leave.Lost s.disposal s.accepted :=
  ⟨.inl rfl, rfl, rfl, rfl⟩

/-- A loop that is told to stop does nothing else: it has ended or pauses, or it stops. -/
theorem turn_of_signal (signal : s.signal.isOver = true) (client : Option Address.Endpoint) :
    (turn h s client = (h, s) ∧ (s.loopEnded = true ∨ s.pause? ≠ none)) ∨
      turn h s client = (h, s.stopLoop) := by
  unfold turn
  by_cases ended : s.loopEnded = true
  · rw [if_pos ended]
    exact .inl ⟨rfl, .inl ended⟩
  · rw [if_neg ended]
    by_cases pauses : s.pause?.isSome = true
    · rw [if_pos pauses]
      exact .inl ⟨rfl, .inr (Option.isSome_iff_ne_none.mp pauses)⟩
    · rw [if_neg pauses, if_pos signal]
      exact .inr rfl

namespace Lost

theorem not_held (lost : s.Lost outcome accepted) : s.handle ≠ .held := by
  rcases lost.handle with leaving | ⟨gone, -⟩
  · simp [leaving]
  · simp [gone]

theorem waitsFor_eq (lost : s.Lost outcome accepted) : s.waitsFor = none := by
  rcases lost.handle with leaving | ⟨gone, -⟩
  · simp [waitsFor, leaving]
  · simp [waitsFor, gone]

/-- Nothing brings a handle back that is lost, and nobody comes in any more. -/
theorem step (lost : s.Lost outcome accepted) (op : Op) :
    (step h s op).2.Lost outcome accepted := by
  obtain ⟨handle, signal, disposal, same⟩ := lost
  have away : s.handle ≠ .held := not_held ⟨handle, signal, disposal, same⟩
  cases op with
  | turn client =>
    rcases turn_of_signal signal client with ⟨waits, -⟩ | stops
    · rw [Server.step, waits]
      exact ⟨handle, signal, disposal, same⟩
    · rw [Server.step, stops]
      refine ⟨?_, signal, disposal, same⟩
      rcases handle with leaving | ⟨gone, -⟩
      · exact .inl leaving
      · exact .inr ⟨gone, rfl⟩
  | fault now =>
    have deaf : s.fault now = s := by simp [fault, signal]
    rw [Server.step, deaf]
    exact ⟨handle, signal, disposal, same⟩
  | resume now =>
    rcases resume_eq s now with still | ⟨⟨alarm, pauses⟩, goes⟩
    · rw [Server.step, still]
      exact ⟨handle, signal, disposal, same⟩
    · rw [Server.step, goes]
      refine ⟨?_, signal, disposal, same⟩
      rcases handle with leaving | ⟨-, ended⟩
      · exact .inl leaving
      · simp [loopEnded, pauses] at ended
  | finish id =>
    rw [Server.step, finish]
    split
    · exact ⟨handle, signal, disposal, same⟩
    · exact ⟨handle, signal, disposal, same⟩
  | addCallback name =>
    rw [Server.step, if_neg away]
    exact ⟨handle, signal, disposal, same⟩
  | dispose now limit =>
    rw [Server.step, if_neg away]
    exact ⟨handle, signal, disposal, same⟩
  | drain now =>
    have idle : drain h s now = (h, s) := by
      rcases handle with leaving | ⟨gone, -⟩
      · simp [drain, leaving]
      · simp [drain, gone]
    rw [Server.step, idle]
    exact ⟨handle, signal, disposal, same⟩
  | abandon =>
    have idle : abandon h s = (h, s) := by
      rcases handle with leaving | ⟨gone, -⟩
      · simp [abandon, leaving]
      · simp [abandon, gone]
    rw [Server.step, idle]
    exact ⟨handle, signal, disposal, same⟩
  | leave =>
    rw [Server.step, if_neg away]
    exact ⟨handle, signal, disposal, same⟩
  | depart =>
    rw [Server.step]
    unfold depart
    split
    · by_cases ended : s.loopEnded = true
      · rw [if_pos ended, release_snd]
        exact ⟨.inr ⟨rfl, ended⟩, signal, disposal, same⟩
      · rw [if_neg ended]
        exact ⟨handle, signal, disposal, same⟩
    · exact ⟨handle, signal, disposal, same⟩

/-- Once the loop does not pause it ends with its next turn. -/
theorem loopEnded_turn (lost : s.Lost outcome accepted) (awake : s.pause? = none)
    (client : Option Address.Endpoint) : (turn h s client).2.loopEnded = true := by
  rcases turn_of_signal lost.signal client with ⟨waits, ended | pauses⟩ | stops
  · rw [waits]
    exact ended
  · exact absurd awake pauses
  · rw [stops]
    rfl

/-- When the loop has ended, the handle comes to its end. -/
theorem gone_depart (lost : s.Lost outcome accepted) (ended : s.loopEnded = true) :
    (depart h s).2.handle = .gone := by
  rcases lost.handle with leaving | ⟨gone, -⟩
  · simp only [depart, leaving, ended, if_true, release_snd]
  · simp only [depart, gone]

end Lost

/-- Some time every pause is over. -/
theorem pause_ends (s : Server) : ∃ now, (s.resume now).pause? = none := by
  cases pauses : s.pause? with
  | none => exact ⟨0, by simp [resume, pauses]⟩
  | some alarm =>
    have elapsed : alarm.isOver (alarm.due * Alarm.tick) = true := by
      simp [Alarm.isOver, Alarm.tick]
    have woken : s.resume (alarm.due * Alarm.tick) = { s with loop := .acquiring } := by
      simp only [resume, pauses, elapsed, if_true]
    exact ⟨alarm.due * Alarm.tick, by rw [woken]; rfl⟩

end Server

namespace Site

variable {x : Site} {outcome : Option (Except Error Unit)} {accepted : List Nat}

theorem lost_run (lost : x.server.Lost outcome accepted) (moves : List Move) :
    (x.run moves).server.Lost outcome accepted := by
  induction moves generalizing x with
  | nil => exact lost
  | cons move rest ih =>
    cases move with
    | server op => exact ih (x := x.step (.server op)) (lost.step op)
    | around op => exact ih (x := x.step (.around op)) lost

/-- Without a handle no callback is added. -/
theorem added_of_lost (lost : x.server.Lost outcome accepted) (moves : List Move) :
    x.added moves = [] := by
  induction moves generalizing x with
  | nil => rfl
  | cons move rest ih =>
    cases move with
    | server op =>
      have none : x.server.adds op = [] := by
        cases op with
        | addCallback name => exact if_neg lost.not_held
        | turn | fault | resume | finish | dispose | drain | abandon | leave | depart => rfl
      rw [added, none, List.nil_append]
      exact ih (lost.step op)
    | around op =>
      rw [added]
      exact ih (x := x.step (.around op)) lost

/-- No disposal is under way that could be given up. -/
theorem timely_of_lost (lost : x.server.Lost outcome accepted) (moves : List Move) : x.Timely moves := by
  rintro early late - ⟨⟨limit, alarm, stopping⟩, -⟩
  have waits := (lost_run lost early).waitsFor_eq
  simp [Server.waitsFor, stopping] at waits

/-- From wherever it stands, three steps bring a server without a handle to its end. -/
theorem lost_ends (lost : x.server.Lost outcome accepted) :
    ∃ now, ∀ client,
      (x.run [.server (.resume now), .server (.turn client), .server .depart]).server.handle = .gone := by
  obtain ⟨now, awake⟩ := x.server.pause_ends
  refine ⟨now, fun client => ?_⟩
  have resumed : (x.server.resume now).Lost outcome accepted := lost.step (h := x.hub) (.resume now)
  have ended := resumed.loopEnded_turn (h := x.hub) awake client
  exact (resumed.step (h := x.hub) (.turn client)).gone_depart ended

/-- A disposal that is asked for with a limit that is too long fails at once; the call itself changes nothing
but the signal and the handle. But the handle is lost with it, and so the server comes to its end: it
accepts nobody any more, and when the loop has ended the listener is released and all callbacks run. -/
theorem overlong_disposal_ends_server (h : Hub) (localEnd : Address.Endpoint)
    (observers : List Observer) (tracked : Bool) (places : Places) (moves later : List Move) (now : Nat)
    (limit : Duration)
    (held : ((start h localEnd observers tracked places).run moves).server.handle = .held)
    (overlong : Deadline.maxTimeout < limit) :
    let x := start h localEnd observers tracked places
    let y := x.run moves
    let z := y.step (.server (.dispose now limit))
    z = ⟨y.hub, { y.server with
        signal := y.server.signal.trigger
        handle := .leaving
        disposal := some (.error (.arithmetic limit)) }⟩ ∧
      (z.run later).server.disposal = some (.error (.arithmetic limit)) ∧
      (z.run later).server.accepted = y.server.accepted ∧
      ((z.run later).server.released = true ↔ (z.run later).server.handle = .gone) ∧
      ((z.run later).server.handle = .gone →
        (z.run later).server.loopEnded = true ∧ (z.run later).server.listening = false) ∧
      h.ranSince (z.run later).hub =
        (if (z.run later).server.handle = .gone then x.added moves else []) ∧
      ∃ wake, ∀ client, ((z.run later).run [.server (.resume wake), .server (.turn client),
        .server .depart]).server.handle = .gone := by
  intro x y z
  have consumed : z = ⟨y.hub, { y.server with
      signal := y.server.signal.trigger
      handle := .leaving
      disposal := some (.error (.arithmetic limit)) }⟩ := by
    simp only [z, step, Server.step]
    rw [if_pos held, Server.dispose_overlong overlong]
  have lost : z.server.Lost (some (.error (.arithmetic limit))) y.server.accepted := by
    rw [consumed]
    exact Server.lost_leave { y.server with disposal := some (.error (.arithmetic limit)) }
  have before : y.server.Announces h.events (x.added moves) False y.hub :=
    announces_run (announces_start h localEnd observers tracked places False) moves fun never =>
      never.elim
  -- As long as the handle is held nothing was announced, so nothing was announced too early.
  have intime : z.server.Announces h.events (x.added moves) True z.hub := by
    have unannounced : y.server.released = false := by
      cases announced : y.server.released with
      | false => rfl
      | true => cases held.symm.trans (before.released.mp announced)
    have strict : y.server.Announces h.events (x.added moves) True y.hub :=
      ⟨before.released, before.listening, before.waiting, before.told,
        fun _ announced => by cases unannounced.symm.trans announced⟩
    rw [consumed]
    exact strict.of_held held (by simp) rfl rfl rfl rfl
  have after := announces_run intime later fun _ => timely_of_lost lost later
  rw [added_of_lost lost, List.append_nil] at after
  have still := lost_run lost later
  refine ⟨consumed, still.disposal, still.accepted, after.released, fun gone => ?_, after.ranSince,
    lost_ends still⟩
  constructor
  · rcases still.handle with leaving | ⟨-, ended⟩
    · cases gone.symm.trans leaving
    · exact ended
  · exact after.freed trivial (after.released.mpr gone)

/-- A server with one callback, asked for a disposal of more than three hundred years, two steps later. -/
theorem callback_of_overlong_disposal :
    let x := start {} (.unix (some "s.sock")) [] false ⟨1, 1⟩
    let y := x.run [.server (.addCallback "k")]
    let z := y.step (.server (.dispose 0 (Duration.ofSecs 10000000000)))
    y.server.handle = .held ∧ Deadline.maxTimeout < Duration.ofSecs 10000000000 ∧
    z.server.disposal = some (.error (.arithmetic (Duration.ofSecs 10000000000))) ∧
    Hub.ranSince {} (z.run [.server (.turn none), .server .depart]).hub = ["k"] ∧
    (z.run [.server (.turn none), .server .depart]).server.listening = false := by
  intro x y z
  have held : y.server.handle = .held := rfl
  have overlong : Deadline.maxTimeout < Duration.ofSecs 10000000000 := by decide
  obtain ⟨-, failed, -, -, freed, ran, -⟩ := overlong_disposal_ends_server {} (.unix (some "s.sock")) []
    false ⟨1, 1⟩ [.server (.addCallback "k")] [.server (.turn none), .server .depart] 0
    (Duration.ofSecs 10000000000) held overlong
  exact ⟨held, overlong, rfl, ran, (freed rfl).2⟩

end Site

namespace Host

/-- A host whose server listens on a domain socket. -/
def doorkeeper : Host :=
  let shared : Connection.Shared := { network := (({} : Network).listen (.unix (some "s.sock"))).1 }
  ({ shared } : Host).serve { address := { unixPath := some "s.sock" } } ⟨0, .unix (some "s.sock"), ⟨1, 1⟩⟩

/-- A disposal with a limit that is too long fails, and yet the loop stops, the socket is unbound, those who
wait for the end are released, and the callback runs. -/
theorem overlong_disposal_takes_server_down :
    let before := doorkeeper.operate (.addCallback "k")
    let after := before.operate (.dispose 0 (Duration.ofSecs 10000000000))
    before.shared.network.listeners.map (·.isOpen) = [true] ∧ before.shared.hub.events = [] ∧
    after.disposal? = some (.error (.arithmetic (Duration.ofSecs 10000000000))) ∧
    after.shared.network.listeners.map (·.isOpen) = [false] ∧
    after.shared.hub.events = [.released "k"] ∧
    (after.running.map fun r => (r.server.loop, r.server.released)) = some (.stopped, true) := by
  decide +kernel

end Host

end StreamHost
