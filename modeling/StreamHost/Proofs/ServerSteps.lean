import StreamHost.Proofs.GroupMembership
import StreamHost.Server.Core

/-!
What one operation does to a server, and to the connections around it. A server goes on in few ways: its
loop may end once, a disposal keeps its limit until it is over, and the listener stays for as long as the
handle does. Apart from the clients that it enrolls it leaves the lifecycles to others: it drops one whose
task is over, and asks its group to close when a disposal has waited long enough.
-/

namespace StreamHost

open Connection (Hub Observer State)

namespace Server

variable {h : Hub} {s s' : Server}

/-- What a pending disposal waits for: its limit and its alarm. -/
def waitsFor (s : Server) : Option (Duration × Alarm) :=
  match s.handle with
  | .stopping limit alarm | .draining limit alarm => some (limit, alarm)
  | _ => none

/-- A server later on. -/
structure Follows (s s' : Server) : Prop where
  group : s'.group = s.group
  observers : s'.observers = s.observers
  /-- The loop ends once, and does not die. -/
  loop : s'.loop = s.loop ∨ (s.loopEnded = false ∧ s'.loop ≠ .broken)
  /-- The handle does not come back, and as long as it is there so is the listener. -/
  handle : s'.handle ≠ .gone → s.handle ≠ .gone ∧ s'.listening = s.listening
  waits : ∀ p, s.waitsFor = some p → s'.waitsFor = some p ∨ s'.handle = .gone
  /-- A disposal looks at the group only when the loop has ended. -/
  drains : ∀ limit alarm, s'.handle = .draining limit alarm →
    s.handle = .draining limit alarm ∨ s'.loopEnded = true

namespace Follows

theorem refl (s : Server) : s.Follows s where
  group := rfl
  observers := rfl
  loop := .inl rfl
  handle present := ⟨present, rfl⟩
  waits _ waiting := .inl waiting
  drains _ _ draining := .inl draining

theorem ended (follows : s.Follows s') (ended : s.loopEnded = true) : s'.loopEnded = true := by
  rcases follows.loop with same | ⟨running, -⟩
  · simpa [loopEnded, same] using ended
  · exact nomatch running.symm.trans ended

theorem gone (follows : s.Follows s') (gone : s.handle = .gone) : s'.handle = .gone := by
  by_cases present : s'.handle = .gone
  · exact present
  · exact absurd gone (follows.handle present).1

theorem trans {s'' : Server} (first : s.Follows s') (second : s'.Follows s'') : s.Follows s'' where
  group := second.group.trans first.group
  observers := second.observers.trans first.observers
  loop := by
    rcases second.loop with same | ⟨running, alive⟩
    · rcases first.loop with before | ⟨running, alive⟩
      · exact .inl (same.trans before)
      · exact .inr ⟨running, same ▸ alive⟩
    · cases ended : s.loopEnded with
      | true => exact nomatch running.symm.trans (first.ended ended)
      | false => exact .inr ⟨rfl, alive⟩
  handle present := by
    obtain ⟨middle, late⟩ := second.handle present
    obtain ⟨before, early⟩ := first.handle middle
    exact ⟨before, late.trans early⟩
  waits p waiting := by
    rcases first.waits p waiting with middle | gone
    · exact second.waits p middle
    · exact .inr (second.gone gone)
  drains limit alarm draining := by
    rcases second.drains limit alarm draining with middle | ended
    · rcases first.drains limit alarm middle with before | ended
      · exact .inl before
      · exact .inr (second.ended ended)
    · exact .inr ended

/-- Nothing but the loop, its places and its clients changed. -/
theorem of_loop (group : s'.group = s.group) (observers : s'.observers = s.observers)
    (loop : s'.loop = s.loop ∨ (s.loopEnded = false ∧ s'.loop ≠ .broken))
    (handle : s'.handle = s.handle) (listening : s.handle ≠ .gone → s'.listening = s.listening) :
    s.Follows s' where
  group := group
  observers := observers
  loop := loop
  handle present := ⟨handle ▸ present, listening (handle ▸ present)⟩
  waits _ waiting := .inl (by simpa [waitsFor, handle] using waiting)
  drains _ _ draining := .inl (handle ▸ draining)

/-- The handle is gone. -/
theorem of_gone (group : s'.group = s.group) (observers : s'.observers = s.observers)
    (loop : s'.loop = s.loop) (gone : s'.handle = .gone) : s.Follows s' where
  group := group
  observers := observers
  loop := .inl loop
  handle present := absurd gone present
  waits _ _ := .inr gone
  drains _ _ draining := nomatch gone.symm.trans draining

end Follows

/-! ## The loop -/

theorem acquire_eq (s : Server) : s.acquire = s ∨
    (s.loop = .acquiring ∧ ∃ places, s.acquire = { s with loop := .accepting, places }) := by
  unfold acquire
  split
  · rename_i places waiting _
    exact .inr ⟨waiting, places, rfl⟩
  · exact .inl rfl

theorem follows_acquire (s : Server) : s.Follows s.acquire := by
  rcases acquire_eq s with same | ⟨waiting, places, taken⟩
  · rw [same]
    exact .refl s
  · rw [taken]
    exact .of_loop rfl rfl (.inr ⟨by simp [loopEnded, waiting], by simp⟩) rfl fun _ => rfl

theorem accepted_acquire (s : Server) : s.acquire.accepted = s.accepted := by
  rcases acquire_eq s with same | ⟨-, places, taken⟩
  · rw [same]
  · rw [taken]

theorem loopEnded_acquire (s : Server) : s.acquire.loopEnded = s.loopEnded := by
  rcases acquire_eq s with same | ⟨waiting, places, taken⟩
  · rw [same]
  · rw [taken]
    simp only [loopEnded, waiting]
    rfl

theorem follows_stopLoop (running : s.loopEnded = false) : s.Follows s.stopLoop :=
  .of_loop rfl rfl (.inr ⟨running, by simp [stopLoop]⟩) rfl fun present => by simp [stopLoop, present]

theorem fault_eq (s : Server) (now : Nat) : s.fault now = s ∨
    (s.loop = .accepting ∧ s.fault now =
      { s with loop := .pausing (Alarm.after now backoff), places := s.places.give }) := by
  unfold fault
  split
  · rename_i waiting
    exact .inr ⟨waiting.1, rfl⟩
  · exact .inl rfl

theorem resume_eq (s : Server) (now : Nat) : s.resume now = s ∨
    ((∃ alarm, s.loop = .pausing alarm) ∧ s.resume now = { s with loop := .acquiring }) := by
  unfold resume
  cases pauses : s.pause? with
  | none => exact .inl rfl
  | some alarm =>
    have loop : s.loop = .pausing alarm := by
      unfold pause? at pauses
      split at pauses
      · rename_i loop
        rw [loop, Option.some.inj pauses]
      · cases pauses
    dsimp only
    split
    · exact .inr ⟨⟨alarm, loop⟩, rfl⟩
    · exact .inl rfl

theorem follows_fault (s : Server) (now : Nat) : s.Follows (s.fault now) := by
  rcases fault_eq s now with same | ⟨waiting, pauses⟩
  · rw [same]
    exact .refl s
  · rw [pauses]
    exact .of_loop rfl rfl (.inr ⟨by simp [loopEnded, waiting], by simp⟩) rfl fun _ => rfl

theorem follows_resume (s : Server) (now : Nat) : s.Follows (s.resume now) := by
  rcases resume_eq s now with same | ⟨⟨alarm, pauses⟩, goes⟩
  · rw [same]
    exact .refl s
  · rw [goes]
    exact .of_loop rfl rfl (.inr ⟨by simp [loopEnded, pauses], by simp⟩) rfl fun _ => rfl

/-- What the loop does to the lifecycles when it accepts a client. -/
def admission (h : Hub) (s : Server) (client : Address.Endpoint) : List Hub.Op :=
  [.create s.localEnd client s.observers s.group, .call h.lifecycles.length .connected]

/-- The loop after it has accepted a client. -/
def admitted (h : Hub) (s : Server) : Server :=
  { s with
    loop := .acquiring
    serving := s.serving ++ [h.lifecycles.length]
    accepted := s.accepted ++ [h.lifecycles.length] }

theorem neverFails_admission (kind : ∀ o ∈ s.observers, o.NeverFails) (client : Address.Endpoint) :
    ∀ op ∈ admission h s client, op.NeverFails := by
  intro op member
  simp only [admission, List.mem_cons, List.not_mem_nil, or_false] at member
  rcases member with rfl | rfl
  · exact kind
  · trivial

theorem run_admission (steady : h.Steady) (known : ∀ g ∈ s.group, g < h.groups.length)
    (client : Address.Endpoint) : h.run (admission h s client) =
      (h.create s.localEnd client s.observers s.group).1.connected h.lifecycles.length := by
  have made : h.step (.create s.localEnd client s.observers s.group) =
      (h.create s.localEnd client s.observers s.group).1 := by
    simp only [Hub.step, if_pos known, steady.recover_eq]
  have held : (h.create s.localEnd client s.observers s.group).1.isHeld h.lifecycles.length = true :=
    Hub.isHeld_iff.mpr ⟨_, Hub.lifecycle?_create.trans (if_pos rfl), rfl⟩
  have calm : (h.create s.localEnd client s.observers s.group).1.recover =
      (h.create s.localEnd client s.observers s.group).1 := by
    simp only [Hub.recover, Hub.create, ← steady.running]
  simp only [Hub.run, admission, List.foldl_cons, List.foldl_nil, made]
  simp only [Hub.step, held, if_true, calm, Hub.connected]

/-- If no observer fails, a client is enrolled by two operations on the lifecycles. -/
theorem enroll_eq (steady : h.Steady) (kind : ∀ o ∈ s.observers, o.NeverFails)
    (known : ∀ g ∈ s.group, g < h.groups.length) (client : Address.Endpoint) :
    s.enroll h client = (h.run (admission h s client), s.admitted h) := by
  have running : (h.run (admission h s client)).failing = false :=
    (steady.run _ (neverFails_admission kind client)).running
  rw [run_admission steady known] at running ⊢
  simp only [enroll, Hub.create] at running ⊢
  simp [running, admitted]

/-- The client that is accepted has a lifecycle in the group of the server, and it has started. -/
theorem lifecycle_of_admission (steady : h.Steady) (known : ∀ g ∈ s.group, g < h.groups.length)
    (client : Address.Endpoint) :
    ∃ l, (h.run (admission h s client)).lifecycle? h.lifecycles.length = some l ∧
      l.group = s.group ∧ l.state ≠ none := by
  rw [run_admission steady known]
  have fresh : (h.create s.localEnd client s.observers s.group).1.lifecycle? h.lifecycles.length = _ :=
    Hub.lifecycle?_create.trans (if_pos rfl)
  obtain ⟨l, found, started⟩ := Hub.connected_starts (h := (h.create _ _ _ _).1) steady.running fresh
  obtain ⟨k, before, goes⟩ := (Hub.call_evolves _ _ .connected).lifecycle_of_some found
  obtain rfl := Option.some.inj (fresh.symm.trans before)
  exact ⟨l, found, goes.group, started⟩

/-- Apart from that client nobody comes into a group. -/
theorem eq_or_lifecycle_of_admission (steady : h.Steady) (known : ∀ g ∈ s.group, g < h.groups.length)
    {client : Address.Endpoint} {id : Nat} {l : Connection.Lifecycle}
    (found : (h.run (admission h s client)).lifecycle? id = some l) :
    id = h.lifecycles.length ∨ ∃ k, h.lifecycle? id = some k ∧ k.Descends l := by
  rw [run_admission steady known] at found
  obtain ⟨k, before, goes⟩ := (Hub.call_evolves _ _ .connected).lifecycle_of_some found
  rw [Hub.lifecycle?_create] at before
  split at before
  · rename_i last
    exact .inl last
  · exact .inr ⟨k, before, goes.toDescends⟩

/-- One turn of a loop: it waits, it stops, or it accepts a client. -/
theorem turn_cases (steady : h.Steady) (kind : ∀ o ∈ s.observers, o.NeverFails)
    (known : ∀ g ∈ s.group, g < h.groups.length) (client : Option Address.Endpoint) :
    turn h s client = (h, s) ∨
      (s.loopEnded = false ∧ (turn h s client = (h, s.stopLoop) ∨ turn h s client = (h, s.acquire) ∨
        ∃ c, client = some c ∧
          turn h s client = (h.run (admission h s c), s.acquire.admitted h))) := by
  unfold turn
  split
  · exact .inl rfl
  · rename_i running
    split
    · exact .inl rfl
    · refine .inr ⟨Bool.eq_false_iff.mpr running, ?_⟩
      split
      · exact .inl rfl
      · refine .inr ?_
        have follows := follows_acquire s
        have same : admission h s.acquire = admission h s := by
          rcases acquire_eq s with same | ⟨-, places, taken⟩
          · rw [same]
          · rw [taken]
            rfl
        simp only
        split
        · rename_i c _
          refine .inr ⟨c, rfl, ?_⟩
          rw [enroll_eq steady (follows.observers ▸ kind) (follows.group ▸ known), same]
        · exact .inl rfl

/-! ## The handle -/

theorem lifecycles_release : (release h s).1.lifecycles = h.lifecycles := by
  unfold release
  split <;> rfl

theorem release_snd : (release h s).2 = { s with released := true, callbacks := [] } := by
  unfold release
  split
  · rename_i released
    rw [← released]
  · rfl

theorem release_fst : ∃ es, (release h s).1 = h.emitAll es := by
  unfold release
  split
  · exact ⟨[], by simp [Hub.emitAll]⟩
  · exact ⟨_, rfl⟩

theorem lifecycles_conclude (r : Except Error Unit) : (conclude h s r).1.lifecycles = h.lifecycles :=
  lifecycles_release

theorem conclude_snd (r : Except Error Unit) : (conclude h s r).2 =
    { s with
      listening := false, handle := .gone, disposal := some r, released := true, callbacks := [] } :=
  release_snd

/-- A disposal may look at the group: the loop has ended, or it has looked before. -/
def MayLook (s : Server) (limit : Duration) (alarm : Alarm) : Prop :=
  s.handle = .draining limit alarm ∨ (s.handle = .stopping limit alarm ∧ s.loopEnded = true)

/-- How a disposal goes on: it waits, it ends well with nobody left to wait for, or it ends with the
alarm and asks those who are left to close. -/
theorem drain_cases (h : Hub) (s : Server) (now : Nat) :
    (drain h s now = (h, s) ∧ ∀ limit alarm, ¬ s.MayLook limit alarm) ∨
      ∃ limit alarm, s.MayLook limit alarm ∧
        (((∀ g ∈ s.group, h.members g = []) ∧ drain h s now = conclude h s (.ok ())) ∨
        (∃ g, s.group = some g ∧ h.members g ≠ [] ∧ alarm.isOver now = true ∧
          drain h s now = conclude (h.closeAll g).1 s (.error (.timeout "server dispose" limit))) ∨
        (∃ g, s.group = some g ∧ h.members g ≠ [] ∧ alarm.isOver now = false ∧
          drain h s now = (h, { s with handle := .draining limit alarm }))) := by
  have looking : ∀ limit alarm,
      ((∀ g ∈ s.group, h.members g = []) ∧ drainGroup h s now limit alarm = conclude h s (.ok ())) ∨
      (∃ g, s.group = some g ∧ h.members g ≠ [] ∧ alarm.isOver now = true ∧
        drainGroup h s now limit alarm =
          conclude (h.closeAll g).1 s (.error (.timeout "server dispose" limit))) ∨
      (∃ g, s.group = some g ∧ h.members g ≠ [] ∧ alarm.isOver now = false ∧
        drainGroup h s now limit alarm = (h, { s with handle := .draining limit alarm })) := by
    intro limit alarm
    unfold drainGroup
    cases own : s.group with
    | none => exact .inl ⟨by simp, rfl⟩
    | some g =>
      simp only
      split
      · rename_i empty
        exact .inl ⟨by simpa using List.isEmpty_iff.mp empty, rfl⟩
      · rename_i left
        have left : h.members g ≠ [] := fun none => left (List.isEmpty_iff.mpr none)
        split
        · rename_i elapsed
          exact .inr (.inl ⟨g, rfl, left, elapsed, rfl⟩)
        · rename_i early
          exact .inr (.inr ⟨g, rfl, left, Bool.eq_false_iff.mpr early, rfl⟩)
  cases state : s.handle with
  | stopping limit alarm =>
    cases ended : s.loopEnded with
    | true =>
      refine .inr ⟨limit, alarm, .inr ⟨state, ended⟩, ?_⟩
      simpa only [drain, state, ended, if_true] using looking limit alarm
    | false =>
      refine .inl ⟨by simp [drain, state, ended], ?_⟩
      rintro l a (draining | ⟨-, halted⟩)
      · exact nomatch state.symm.trans draining
      · exact nomatch ended.symm.trans halted
  | draining limit alarm =>
    refine .inr ⟨limit, alarm, .inl state, ?_⟩
    simpa only [drain, state] using looking limit alarm
  | held | leaving | gone =>
    refine .inl ⟨by simp [drain, state], ?_⟩
    rintro l a (draining | ⟨stopping, -⟩)
    · exact nomatch state.symm.trans draining
    · exact nomatch state.symm.trans stopping

theorem waitsFor_of_mayLook {limit : Duration} {alarm : Alarm} (looks : s.MayLook limit alarm) :
    s.waitsFor = some (limit, alarm) := by
  rcases looks with draining | ⟨stopping, -⟩
  · simp [waitsFor, draining]
  · simp [waitsFor, stopping]

/-! ## Any operation -/

theorem follows_drain (now : Nat) : s.Follows (drain h s now).2 := by
  rcases drain_cases h s now with ⟨waits, -⟩ | ⟨limit, alarm, looks, ⟨-, ends⟩ | ⟨g, -, -, -, ends⟩ |
    ⟨g, -, -, -, goes⟩⟩
  · rw [waits]
    exact .refl s
  · rw [ends, conclude_snd]
    exact .of_gone rfl rfl rfl rfl
  · rw [ends, conclude_snd]
    exact .of_gone rfl rfl rfl rfl
  · rw [goes]
    refine ⟨rfl, rfl, .inl rfl, fun _ => ⟨?_, rfl⟩, fun p waiting => ?_, fun l a draining => ?_⟩
    · intro gone
      rcases looks with same | ⟨same, -⟩ <;> exact nomatch gone.symm.trans same
    · rw [waitsFor_of_mayLook looks] at waiting
      exact .inl waiting
    · obtain ⟨rfl, rfl⟩ := Handle.draining.inj draining
      rcases looks with same | ⟨-, ended⟩
      · exact .inl same
      · exact .inr (by simpa [loopEnded] using ended)

theorem follows_turn (steady : h.Steady) (kind : ∀ o ∈ s.observers, o.NeverFails)
    (known : ∀ g ∈ s.group, g < h.groups.length) (client : Option Address.Endpoint) :
    s.Follows (turn h s client).2 := by
  rcases turn_cases steady kind known client with same | ⟨running, stops | takes | ⟨c, -, accepts⟩⟩
  · rw [same]
    exact .refl s
  · rw [stops]
    exact follows_stopLoop running
  · rw [takes]
    exact follows_acquire s
  · rw [accepts]
    rcases acquire_eq s with same | ⟨-, places, taken⟩
    · rw [same]
      exact .of_loop rfl rfl (.inr ⟨running, by simp [admitted]⟩) rfl fun _ => rfl
    · rw [taken]
      exact .of_loop rfl rfl (.inr ⟨running, by simp [admitted]⟩) rfl fun _ => rfl

theorem follows_finish (id : Nat) : s.Follows (finish h s id).2 := by
  unfold finish
  split
  · exact .of_loop rfl rfl (.inl rfl) rfl fun _ => rfl
  · exact .refl s

theorem follows_abandon : s.Follows (abandon h s).2 := by
  unfold abandon
  split
  · rw [release_snd]
    exact .of_gone rfl rfl rfl rfl
  · rw [release_snd]
    exact .of_gone rfl rfl rfl rfl
  · exact .refl s

theorem follows_depart : s.Follows (depart h s).2 := by
  unfold depart
  split
  · split
    · rw [release_snd]
      exact .of_gone rfl rfl rfl rfl
    · exact .refl s
  · exact .refl s

/-- What a handle can do only while it is held. -/
theorem follows_of_held (held : s.handle = .held) (group : s'.group = s.group)
    (observers : s'.observers = s.observers) (loop : s'.loop = s.loop)
    (listening : s'.listening = s.listening)
    (undrained : ∀ limit alarm, s'.handle ≠ .draining limit alarm) : s.Follows s' where
  group := group
  observers := observers
  loop := .inl loop
  handle _ := ⟨by simp [held], listening⟩
  waits p waiting := by simp [waitsFor, held] at waiting
  drains l a draining := absurd draining (undrained l a)

theorem follows_dispose (held : s.handle = .held) (now : Nat) (limit : Duration) :
    s.Follows (s.dispose now limit) := by
  unfold dispose
  split
  · exact follows_of_held held rfl rfl rfl rfl (by simp [leave])
  · exact follows_of_held held rfl rfl rfl rfl (by simp)

/-- Whatever happens to a server, it goes on as it may. -/
theorem follows_step (steady : h.Steady) (kind : ∀ o ∈ s.observers, o.NeverFails)
    (known : ∀ g ∈ s.group, g < h.groups.length) (op : Op) : s.Follows (step h s op).2 := by
  cases op with
  | turn client => exact follows_turn steady kind known client
  | fault now => exact follows_fault s now
  | resume now => exact follows_resume s now
  | finish id => exact follows_finish id
  | addCallback name =>
    simp only [step]
    split
    · exact .of_loop rfl rfl (.inl rfl) rfl fun _ => rfl
    · exact .refl s
  | dispose now limit =>
    simp only [step]
    split
    · rename_i held
      exact follows_dispose held now limit
    · exact .refl s
  | drain now => exact follows_drain now
  | abandon => exact follows_abandon
  | leave =>
    simp only [step]
    split
    · rename_i held
      exact follows_of_held held rfl rfl rfl rfl (by simp [leave])
    · exact .refl s
  | depart => exact follows_depart

/-- What an operation of a server does to the lifecycles, apart from what it shows: at most it drops one
or asks a group to close. -/
def Touches (ops : List Hub.Op) : Prop := ops = [] ∨ (∃ id, ops = [.drop id]) ∨ ∃ g, ops = [.closeAll g]

theorem Touches.neverFails {ops : List Hub.Op} (touches : Touches ops) : ∀ op ∈ ops, op.NeverFails := by
  rcases touches with rfl | ⟨id, rfl⟩ | ⟨g, rfl⟩
  · simp
  · simp [Hub.Op.Brings]
  · simp [Hub.Op.Brings]

theorem Touches.spares {ops : List Hub.Op} (touches : Touches ops) (g : Nat) :
    ∀ op ∈ ops, op.Spares g := by
  rcases touches with rfl | ⟨id, rfl⟩ | ⟨k, rfl⟩
  · simp
  · simp [Hub.Op.Spares]
  · simp [Hub.Op.Spares]

/-- An operation that accepts nobody and does little to the lifecycles. -/
def Ordinary (h : Hub) (s : Server) (after : Hub × Server) : Prop :=
  after.2.accepted = s.accepted ∧ ∃ ops es, Touches ops ∧ after.1 = (h.run ops).emitAll es

theorem ordinary_still (same : s'.accepted = s.accepted) : Ordinary h s (h, s') :=
  ⟨same, [], [], .inl rfl, by simp [Hub.run, Hub.emitAll]⟩

theorem ordinary_release (same : s'.accepted = s.accepted) (ops : List Hub.Op) (touches : Touches ops) :
    Ordinary h s (release (h.run ops) s') := by
  obtain ⟨es, shown⟩ := release_fst (h := h.run ops) (s := s')
  exact ⟨by rw [release_snd, same], ops, es, touches, shown⟩

theorem ordinary_finish (steady : h.Steady) (id : Nat) : Ordinary h s (finish h s id) := by
  unfold finish
  split
  · refine ⟨rfl, [.drop id], [], .inr (.inl ⟨id, rfl⟩), ?_⟩
    simp [Hub.run, Hub.step, steady.recover_eq, Hub.emitAll]
  · exact ordinary_still rfl

theorem ordinary_drain (steady : h.Steady) (now : Nat) : Ordinary h s (drain h s now) := by
  rcases drain_cases h s now with ⟨waits, -⟩ | ⟨limit, alarm, -, ⟨-, ends⟩ | ⟨g, -, -, -, ends⟩ |
    ⟨g, -, -, -, goes⟩⟩
  · rw [waits]
    exact ordinary_still rfl
  · rw [ends]
    exact ordinary_release rfl [] (.inl rfl)
  · have closed : (h.closeAll g).1 = h.run [.closeAll g] := by
      simp [Hub.run, Hub.step, steady.recover_eq]
    rw [ends, closed]
    exact ordinary_release rfl _ (.inr (.inr ⟨g, rfl⟩))
  · rw [goes]
    exact ordinary_still rfl

theorem ordinary_abandon : Ordinary h s (abandon h s) := by
  unfold abandon
  split
  · exact ordinary_release rfl [] (.inl rfl)
  · exact ordinary_release rfl [] (.inl rfl)
  · exact ordinary_still rfl

theorem ordinary_depart : Ordinary h s (depart h s) := by
  unfold depart
  split
  · split
    · exact ordinary_release rfl [] (.inl rfl)
    · exact ordinary_still rfl
  · exact ordinary_still rfl

/-- An operation of a server either accepts a client, or does little to the lifecycles. -/
theorem step_cases (steady : h.Steady) (kind : ∀ o ∈ s.observers, o.NeverFails)
    (known : ∀ g ∈ s.group, g < h.groups.length) (op : Op) :
    Ordinary h s (step h s op) ∨ (s.loopEnded = false ∧
      ∃ client, step h s op = (h.run (admission h s client), s.acquire.admitted h)) := by
  cases op with
  | turn client =>
    rcases turn_cases steady kind known client with same | ⟨running, stops | takes | ⟨c, -, accepts⟩⟩
    · exact .inl (by rw [step, same]; exact ordinary_still rfl)
    · exact .inl (by rw [step, stops]; exact ordinary_still rfl)
    · refine .inl ?_
      rw [step, takes]
      exact ordinary_still (accepted_acquire s)
    · exact .inr ⟨running, c, accepts⟩
  | fault now =>
    refine .inl (ordinary_still ?_)
    rcases fault_eq s now with same | ⟨-, pauses⟩
    · rw [same]
    · rw [pauses]
  | resume now =>
    refine .inl (ordinary_still ?_)
    rcases resume_eq s now with same | ⟨-, goes⟩
    · rw [same]
    · rw [goes]
  | finish id => exact .inl (ordinary_finish steady id)
  | addCallback name => exact .inl (ordinary_still (by split <;> rfl))
  | dispose now limit =>
    refine .inl (ordinary_still ?_)
    split
    · unfold dispose
      split <;> rfl
    · rfl
  | drain now => exact .inl (ordinary_drain steady now)
  | abandon => exact .inl ordinary_abandon
  | leave => exact .inl (ordinary_still (by split <;> rfl))
  | depart => exact .inl ordinary_depart

end Server

/-! ## A server among others -/

/-- A server among all connections and groups. -/
structure Site where
  hub : Hub
  server : Server

namespace Site

/-- What can happen: something to the server, or something around it. -/
inductive Move where
  | server (op : Server.Op)
  | around (op : Hub.Op)

def step (x : Site) : Move → Site
  | .server op => ⟨(x.server.step x.hub op).1, (x.server.step x.hub op).2⟩
  | .around op => ⟨x.hub.step op, x.server⟩

def run (x : Site) (moves : List Move) : Site := moves.foldl step x

theorem run_append (x : Site) (moves later : List Move) :
    x.run (moves ++ later) = (x.run moves).run later :=
  List.foldl_append

theorem run_concat (x : Site) (moves : List Move) (move : Move) :
    x.run (moves ++ [move]) = (x.run moves).step move :=
  run_append x moves [move]

/-- A server that starts among other connections; it has a group of its own if it tracks its clients. -/
def start (h : Hub) (localEnd : Address.Endpoint) (observers : List Observer) (tracked : Bool)
    (places : Places) : Site :=
  if tracked then ⟨h.newGroup.1, Server.start localEnd observers (some h.newGroup.2) places⟩
  else ⟨h, Server.start localEnd observers none places⟩

end Site

end StreamHost
