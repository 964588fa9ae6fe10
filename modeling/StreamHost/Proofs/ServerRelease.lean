import StreamHost.Proofs.ServerSteps

/-!
What is told when a server is gone. The callbacks that were added run together, once, when the handle has
come to its end, whichever way that was; that is also when those who wait for the end are released. Only
one way lets this happen too early: a disposal that is given up while the loop still has the listener.
-/

namespace StreamHost

open Connection (Hub Observer Event)

/-- The callback that an event shows. -/
def callback? : Event → Option String
  | .released name => some name
  | _ => none

namespace Connection.Hub

variable {h : Hub} {past : List Event} {names : List String}

/-- Which callbacks ran since another time, in order. -/
def ranSince (start h : Hub) : List String := (h.events.drop start.events.length).filterMap callback?

/-- Since `past` exactly the callbacks `names` ran. -/
def Ran (past : List Event) (names : List String) (h : Hub) : Prop :=
  ∃ news, h.events = past ++ news ∧ news.filterMap callback? = names

theorem Ran.ranSince {start : Hub} (ran : h.Ran start.events names) : start.ranSince h = names := by
  obtain ⟨news, shown, told⟩ := ran
  rw [Hub.ranSince, shown, List.drop_left, told]

theorem Ran.emitAll (ran : h.Ran past names) (es : List Event) :
    (h.emitAll es).Ran past (names ++ es.filterMap callback?) := by
  obtain ⟨news, shown, told⟩ := ran
  exact ⟨news ++ es, by simp [Hub.emitAll, shown], by simp [told]⟩

/-- What does not show a callback is no matter. -/
theorem Ran.quiet (ran : h.Ran past names) (es : List Event) (quiet : ∀ e ∈ es, callback? e = none) :
    (h.emitAll es).Ran past names := by
  have none : es.filterMap callback? = [] := List.filterMap_eq_nil_iff.mpr quiet
  have shown := ran.emitAll es
  rwa [none, List.append_nil] at shown

theorem ran_withstands (past : List Event) (names : List String) (id : Nat) :
    Withstands (fun _ => True) id (Ran past names) where
  observers _ _ _ _ := trivial
  enter before _ _ := by simpa only [Ran, events_enter] using before
  emit {h e} before news := by
    refine before.quiet [e] fun d member => ?_
    obtain rfl := List.mem_singleton.mp member
    cases d <;> first | rfl | cases news
  requestClose _ before := before
  release before := before
  fail before _ _ := before

/-- Nothing that is done to lifecycles runs a callback. -/
theorem ran_endures (past : List Event) (names : List String) :
    Endures (fun _ => True) (Ran past names) where
  recover before := before
  newGroup before := before
  create _ _ _ _ before _ _ := before
  letGo _ before := before
  withstands := ran_withstands past names

theorem Ran.step (ran : h.Ran past names) (op : Op) : (h.step op).Ran past names :=
  (ran_endures past names).step (brings_anything op) ran

theorem Ran.drop (ran : h.Ran past names) (id : Nat) : (h.drop id).Ran past names :=
  (ran_endures past names).drop id ran

end Connection.Hub

namespace Server

variable {h : Hub} {s : Server} {past : List Event} {names : List String} {timely : Prop}

/-- What is so between a server and its handle at any time, even if observers fail: the end was announced
exactly when the handle came to its end, and until then a loop that runs has the listener. If everything
was `timely`, nobody has the listener any more at that end. -/
structure Announces (past : List Event) (names : List String) (timely : Prop) (h : Hub) (s : Server) :
    Prop where
  released : s.released = true ↔ s.handle = .gone
  listening : s.handle ≠ .gone → s.loopEnded = false → s.listening = true
  waiting : s.released = false → h.Ran past [] ∧ s.callbacks = names
  told : s.released = true → h.Ran past names
  freed : timely → s.released = true → s.listening = false

/-- All callbacks ran if the handle has come to its end, and none otherwise. -/
theorem Announces.ranSince {start : Hub} (announces : Announces start.events names timely h s) :
    start.ranSince h = if s.handle = .gone then names else [] := by
  split
  · rename_i gone
    exact (announces.told (announces.released.mpr gone)).ranSince
  · rename_i present
    have unannounced : s.released = false :=
      Bool.eq_false_iff.mpr fun announced => present (announces.released.mp announced)
    exact (announces.waiting unannounced).1.ranSince

/-- Nothing but the loop and its clients changed, and no callback ran. -/
theorem Announces.of_loop (announces : Announces past names timely h s) {h' : Hub} {s' : Server}
    (kept : ∀ {ns}, h.Ran past ns → h'.Ran past ns) (handle : s'.handle = s.handle)
    (released : s'.released = s.released) (callbacks : s'.callbacks = s.callbacks)
    (listening : s.handle ≠ .gone → s'.loopEnded = false → s'.listening = true)
    (still : s.listening = false → s'.listening = false) : Announces past names timely h' s' where
  released := by rw [released, handle, announces.released]
  listening present := listening (handle ▸ present)
  waiting unannounced := by
    obtain ⟨none, same⟩ := announces.waiting (released ▸ unannounced)
    exact ⟨kept none, callbacks.trans same⟩
  told announced := kept (announces.told (released ▸ announced))
  freed intime announced := still (announces.freed intime (released ▸ announced))

/-- The release runs all callbacks that were added, in order. -/
theorem Announces.release (announces : Announces past names timely h s) (present : s.handle ≠ .gone)
    {h' : Hub} (kept : ∀ {ns}, h.Ran past ns → h'.Ran past ns) {s' : Server}
    (gone : s'.handle = .gone) (released : s'.released = s.released)
    (callbacks : s'.callbacks = s.callbacks) (freed : timely → s'.listening = false) :
    Announces past names timely (release h' s').1 (release h' s').2 := by
  have unannounced : s.released = false := by
    cases announced : s.released with
    | false => rfl
    | true => exact absurd (announces.released.mp announced) present
  obtain ⟨none, same⟩ := announces.waiting unannounced
  have first : (Server.release h' s').1 = h'.emitAll (names.map .released) := by
    simp [Server.release, released, unannounced, callbacks, same]
  rw [release_snd]
  refine ⟨by simp [gone], fun lasts => absurd gone lasts, fun none => by simp at none, fun _ => ?_,
    fun intime _ => freed intime⟩
  rw [first]
  have shown := (kept none).emitAll (names.map .released)
  have all : (names.map Event.released).filterMap callback? = names := by
    rw [List.filterMap_map]
    exact List.filterMap_some
  rwa [all, List.nil_append] at shown

theorem announces_enroll (announces : Announces past names timely h s) (running : s.loopEnded = false)
    (client : Address.Endpoint) :
    Announces past names timely (enroll h s client).1 (enroll h s client).2 := by
  let joined := (h.create s.localEnd client s.observers s.group).1.connected h.lifecycles.length
  have connected : ∀ {ns}, h.Ran past ns → joined.Ran past ns := fun ran =>
    (Hub.ran_withstands past _ _).call (h := (h.create _ _ _ _).1) .connected ran
  have either : enroll h s client =
      if joined.failing then
        (joined.recover.drop h.lifecycles.length,
          { s with
            accepted := s.accepted ++ [h.lifecycles.length]
            loop := .broken, listening := false, places := s.places.give })
      else (joined, s.admitted h) := rfl
  rw [either]
  split
  · have recovered : ∀ {ns}, h.Ran past ns → joined.recover.Ran past ns := connected
    exact announces.of_loop (fun ran => (recovered ran).drop _) rfl rfl rfl
      (fun _ running => by simp [loopEnded] at running) fun _ => rfl
  · exact announces.of_loop connected rfl rfl rfl (fun present _ => announces.listening present running)
      fun freed => freed

theorem announces_turn (announces : Announces past names timely h s) (client : Option Address.Endpoint) :
    Announces past names timely (turn h s client).1 (turn h s client).2 := by
  unfold turn
  split
  · exact announces
  · rename_i running
    have running : s.loopEnded = false := Bool.eq_false_iff.mpr running
    split
    · exact announces
    · split
      · exact announces.of_loop (fun ran => ran) rfl rfl rfl
          (fun _ ended => by simp [stopLoop, loopEnded] at ended) fun freed => by simp [stopLoop, freed]
      · have taken : Announces past names timely h s.acquire := by
          rcases acquire_eq s with same | ⟨-, places, taken⟩
          · rw [same]
            exact announces
          · rw [taken]
            exact announces.of_loop (fun ran => ran) rfl rfl rfl
              (fun present _ => announces.listening present running) fun freed => freed
        simp only
        split
        · exact announces_enroll taken ((loopEnded_acquire s).trans running) _
        · exact taken

theorem announces_fault (announces : Announces past names timely h s) (now : Nat) :
    Announces past names timely h (s.fault now) := by
  rcases fault_eq s now with same | ⟨waiting, pauses⟩
  · rw [same]
    exact announces
  · rw [pauses]
    have running : s.loopEnded = false := by simp [loopEnded, waiting]
    exact announces.of_loop (fun ran => ran) rfl rfl rfl
      (fun present _ => announces.listening present running) fun freed => freed

theorem announces_resume (announces : Announces past names timely h s) (now : Nat) :
    Announces past names timely h (s.resume now) := by
  rcases resume_eq s now with same | ⟨⟨alarm, pauses⟩, goes⟩
  · rw [same]
    exact announces
  · rw [goes]
    have running : s.loopEnded = false := by simp [loopEnded, pauses]
    exact announces.of_loop (fun ran => ran) rfl rfl rfl
      (fun present _ => announces.listening present running) fun freed => freed

theorem announces_finish (announces : Announces past names timely h s) (id : Nat) :
    Announces past names timely (finish h s id).1 (finish h s id).2 := by
  unfold finish
  split
  · exact announces.of_loop (fun ran => ran.drop id) rfl rfl rfl announces.listening fun freed => freed
  · exact announces

theorem announces_drain (announces : Announces past names timely h s) (now : Nat) :
    Announces past names timely (drain h s now).1 (drain h s now).2 := by
  rcases drain_cases h s now with ⟨waits, -⟩ | ⟨limit, alarm, looks, ends⟩
  · rw [waits]
    exact announces
  · have present : s.handle ≠ .gone := by
      rcases looks with same | ⟨same, -⟩ <;> simp [same]
    rcases ends with ⟨-, ends⟩ | ⟨g, -, -, -, ends⟩ | ⟨g, -, -, -, goes⟩
    · rw [ends]
      exact announces.release present (fun ran => ran) rfl rfl rfl fun _ => rfl
    · rw [ends]
      exact announces.release present (fun ran => (Hub.ran_withstands past _ 0).closeAll ran) rfl rfl rfl
        fun _ => rfl
    · rw [goes]
      refine ⟨?_, fun _ => announces.listening present, announces.waiting, announces.told,
        announces.freed⟩
      simpa [present] using announces.released

/-- A disposal that is given up here is given up while the loop still has the listener. -/
def LeavesEarly (s : Server) : Prop :=
  (∃ limit alarm, s.handle = .stopping limit alarm) ∧ s.loopEnded = false

theorem announces_abandon (announces : Announces past names timely h s)
    (intime : timely → ¬ s.LeavesEarly) :
    Announces past names timely (abandon h s).1 (abandon h s).2 := by
  unfold abandon
  split
  · rename_i stopping
    refine announces.release (by simp [stopping]) (fun ran => ran) rfl rfl rfl fun always => ?_
    cases ended : s.loopEnded with
    | true => simp
    | false => exact absurd ⟨⟨_, _, stopping⟩, ended⟩ (intime always)
  · rename_i draining
    exact announces.release (by simp [draining]) (fun ran => ran) rfl rfl rfl fun _ => rfl
  · exact announces

theorem announces_depart (announces : Announces past names timely h s) :
    Announces past names timely (depart h s).1 (depart h s).2 := by
  unfold depart
  split
  · rename_i leaving
    split
    · exact announces.release (by simp [leaving]) (fun ran => ran) rfl rfl rfl fun _ => rfl
    · exact announces
  · exact announces

/-- As long as the handle is held it may begin to end. -/
theorem Announces.of_held (announces : Announces past names timely h s) (held : s.handle = .held)
    {s' : Server} (present : s'.handle ≠ .gone) (released : s'.released = s.released)
    (callbacks : s'.callbacks = s.callbacks) (loop : s'.loop = s.loop)
    (listening : s'.listening = s.listening) : Announces past names timely h s' where
  released := by
    have unannounced := announces.released
    simp only [held, reduceCtorEq, iff_false] at unannounced
    simp [released, unannounced, present]
  listening _ running := by
    refine listening.trans (announces.listening (by simp [held]) ?_)
    simpa [loopEnded, loop] using running
  waiting unannounced := by
    obtain ⟨none, same⟩ := announces.waiting (released ▸ unannounced)
    exact ⟨none, callbacks.trans same⟩
  told announced := announces.told (released ▸ announced)
  freed intime announced := listening.trans (announces.freed intime (released ▸ announced))

theorem announces_dispose (announces : Announces past names timely h s) (held : s.handle = .held) (now : Nat)
    (limit : Duration) : Announces past names timely h (s.dispose now limit) := by
  unfold dispose
  split
  · exact announces.of_held held (by simp [leave]) rfl rfl rfl rfl
  · exact announces.of_held held (by simp) rfl rfl rfl rfl

theorem announces_leave (announces : Announces past names timely h s) (held : s.handle = .held) :
    Announces past names timely h s.leave :=
  announces.of_held held (by simp [leave]) rfl rfl rfl rfl

/-- A callback that is added while the handle is held is one more to run. -/
theorem announces_addCallback (announces : Announces past names timely h s) (held : s.handle = .held)
    (name : String) :
    Announces past (names ++ [name]) timely h { s with callbacks := s.callbacks ++ [name] } := by
  have unannounced : s.released = false := by
    cases announced : s.released with
    | false => rfl
    | true => exact nomatch held.symm.trans (announces.released.mp announced)
  refine ⟨announces.released, announces.listening, fun _ => ?_, fun announced => ?_, announces.freed⟩
  · obtain ⟨none, same⟩ := announces.waiting unannounced
    exact ⟨none, by rw [same]⟩
  · exact nomatch unannounced.symm.trans announced

/-- The callback that an operation adds, if the handle is still there to take it. -/
def adds (s : Server) : Op → List String
  | .addCallback name => if s.handle = .held then [name] else []
  | _ => []

/-- Whatever happens to a server keeps this, with the callbacks that are added. -/
theorem announces_step (announces : Announces past names timely h s) (op : Op)
    (intime : timely → op = .abandon → ¬ s.LeavesEarly) :
    Announces past (names ++ s.adds op) timely (step h s op).1 (step h s op).2 := by
  have none : names ++ [] = names := List.append_nil names
  cases op with
  | addCallback name =>
    simp only [step, adds]
    split
    · rename_i held
      exact announces_addCallback announces held name
    · exact none.symm ▸ announces
  | turn client => exact none.symm ▸ announces_turn announces client
  | fault now => exact none.symm ▸ announces_fault announces now
  | resume now => exact none.symm ▸ announces_resume announces now
  | finish id => exact none.symm ▸ announces_finish announces id
  | dispose now limit =>
    simp only [step, adds, none]
    split
    · rename_i held
      exact announces_dispose announces held now limit
    · exact announces
  | drain now => exact none.symm ▸ announces_drain announces now
  | abandon => exact none.symm ▸ announces_abandon announces fun always => intime always rfl
  | leave =>
    simp only [step, adds, none]
    split
    · rename_i held
      exact announces_leave announces held
    · exact announces
  | depart => exact none.symm ▸ announces_depart announces

end Server

namespace Site

variable {x : Site} {past : List Event} {names : List String} {timely : Prop}

/-- The callbacks that a run adds, in order. -/
def added (x : Site) : List Move → List String
  | [] => []
  | .server op :: rest => x.server.adds op ++ added (x.step (.server op)) rest
  | .around op :: rest => added (x.step (.around op)) rest

/-- In a run that is timely no disposal is given up while the loop still has the listener. -/
def Timely (x : Site) (moves : List Move) : Prop :=
  ∀ early late, moves = early ++ .server .abandon :: late → ¬ (x.run early).server.LeavesEarly

theorem announces_run (announces : x.server.Announces past names timely x.hub) (moves : List Move)
    (intime : timely → x.Timely moves) :
    (x.run moves).server.Announces past (names ++ x.added moves) timely (x.run moves).hub := by
  induction moves generalizing x names with
  | nil =>
    rw [added, List.append_nil]
    exact announces
  | cons move rest ih =>
    have later : timely → (x.step move).Timely rest := fun always early late split =>
      intime always (move :: early) late (by rw [split]; rfl)
    cases move with
    | server op =>
      have next := Server.announces_step announces op fun always same =>
        intime always [] rest (by rw [same]; rfl)
      rw [added, ← List.append_assoc]
      exact ih next later
    | around op =>
      have next : (x.step (.around op)).server.Announces past names timely (x.step (.around op)).hub :=
        announces.of_loop (fun ran => ran.step op) rfl rfl rfl announces.listening fun freed => freed
      exact ih next later

theorem announces_start (h : Hub) (localEnd : Address.Endpoint) (observers : List Observer)
    (tracked : Bool) (places : Places) (timely : Prop) :
    (start h localEnd observers tracked places).server.Announces h.events [] timely
      (start h localEnd observers tracked places).hub := by
  have none : (start h localEnd observers tracked places).hub.Ran h.events [] := by
    refine ⟨[], ?_, rfl⟩
    cases tracked <;> simp [start, Hub.newGroup]
  cases tracked <;> exact ⟨by simp [start, Server.start], fun _ _ => rfl, fun _ => ⟨none, rfl⟩,
    fun announced => by simp [start, Server.start] at announced,
    fun _ announced => by simp [start, Server.start] at announced⟩

/-- Whatever happens to a server, even if observers fail: its callbacks run together and once, in the
order in which they were added, when the handle has come to its end. Nobody has the listener then, at any
time of the run, exactly if no disposal is given up while the loop still has it. -/
theorem callbacks_run_at_the_end (h : Hub) (localEnd : Address.Endpoint) (observers : List Observer)
    (tracked : Bool) (places : Places) (moves : List Move) :
    let x := start h localEnd observers tracked places
    ((x.run moves).server.released = true ↔ (x.run moves).server.handle = .gone) ∧
    h.ranSince (x.run moves).hub =
      (if (x.run moves).server.handle = .gone then x.added moves else []) ∧
    ((∀ early late, moves = early ++ late → (x.run early).server.released = true →
      (x.run early).server.listening = false) ↔ x.Timely moves) := by
  intro x
  have begins := announces_start h localEnd observers tracked places
  have announces := announces_run (begins False) moves fun never => never.elim
  rw [List.nil_append] at announces
  refine ⟨announces.released, ?_, ?_, ?_⟩
  · exact announces.ranSince
  · rintro freed early late rfl ⟨⟨limit, alarm, stopping⟩, running⟩
    have before := announces_run (begins False) early fun never => never.elim
    have listening : (x.run early).server.listening = true :=
      before.listening (fun gone => by cases stopping.symm.trans gone) running
    have left : (x.run (early ++ [.server .abandon])).server =
        { (x.run early).server with
          handle := .gone, released := true, callbacks := [] } := by
      rw [run_concat]
      simp only [step, Server.step, Server.abandon, stopping, Server.release_snd, running, listening]
      rfl
    have kept := freed (early ++ [.server .abandon]) late (by simp) (by rw [left])
    rw [left] at kept
    cases listening.symm.trans kept
  · rintro intime early late rfl announced
    have timely : x.Timely early := fun first last split =>
      intime first (last ++ late) (by simp [split])
    exact (announces_run (begins True) early fun _ => timely).freed trivial announced

/-- A disposal that is given up before the loop took another turn: the callback runs while the loop still
has the listener. -/
theorem callback_runs_too_early :
    let x := start {} (.unix none) [] false ⟨1, 1⟩
    let y := x.run [.server (.addCallback "k"), .server (.dispose 0 ⟨0⟩), .server .abandon]
    Hub.ranSince {} y.hub = ["k"] ∧ y.server.released = true ∧ y.server.loopEnded = false ∧
      y.server.listening = true := by
  decide

end Site

end StreamHost
