import StreamHost.Connection.Waiter
import StreamHost.Proofs.Lifecourses

/-!
Futures that wait for the disposal of a lifecycle, or for a request to close it. Each listens to a watch
channel of its own lifecycle. A value that was sent stays in the channel, so it does not matter when a
future was taken from a lifecycle, or when it is polled. What differs is what a future makes of a channel
whose sender has gone with its lifecycle: a disposal has happened then, while a request to close will
never come.

A future may be taken and polled between any two steps of a run, and it may outlive its lifecycle.
-/

namespace StreamHost.Connection

/-- What a future waits for. -/
inductive Signal where
  | disposal
  | closeRequest
  deriving DecidableEq, Repr

/-- What a look at a watch channel gives. -/
inductive Look where
  | sent
  | waiting
  /-- The sender is gone, and never sent the value. -/
  | orphaned
  deriving DecidableEq, Repr

/-- The value counts, even if the sender is gone since. -/
def Look.of (sent sender : Bool) : Look :=
  if sent then .sent else if sender then .waiting else .orphaned

/-- How far a future has got. -/
inductive Future.Stage where
  | listening
  /-- It pends for good. -/
  | deaf
  | ended
  deriving DecidableEq, Repr

structure Future where
  signal : Signal
  id : Nat
  stage : Future.Stage := .listening
  deriving DecidableEq, Repr

namespace Signal

/-- Whether the value was sent. -/
def isSent (h : Hub) (id : Nat) : Signal → Bool
  | disposal => ((h.lifecycle? id).map Lifecycle.released).getD false
  | closeRequest => Waiter.closeSeen h id

/-- What becomes of a future whose sender is gone: nobody can ask for anything any more. -/
def atLoss : Signal → Future.Stage
  | disposal => .ended
  | closeRequest => .deaf

/-- What a future waits for has come about. -/
def Fulfilled (a : PendingCalls) (id : Nat) : Signal → Prop
  | disposal => (∃ l, a.hub.lifecycle? id = some l ∧ l.released = true) ∨ id ∈ a.gone
  | closeRequest => id ∈ a.asked

end Signal

namespace Future

/-- A future is polled. -/
def poll (a : PendingCalls) (f : Future) : Future :=
  match f.stage with
  | .listening =>
    match Look.of (f.signal.isSent a.hub f.id) (!a.gone.contains f.id) with
    | .sent => { f with stage := .ended }
    | .waiting => f
    | .orphaned => { f with stage := f.signal.atLoss }
  | _ => f

/-- Whether a future is ready, or would be if it were polled now. -/
def isReady (a : PendingCalls) (f : Future) : Bool := (f.poll a).stage == .ended

end Future

/-- All connections, and the futures that were taken from them. -/
structure FutureState where
  calls : PendingCalls := {}
  futures : List Future := []

namespace FutureState

inductive Move where
  | act (m : PendingCalls.Move)
  /-- Somebody who holds a lifecycle takes a future from it. -/
  | take (s : Signal) (id : Nat)
  | poll (k : Nat)

def step (v : FutureState) : Move → FutureState
  | .act m => { v with calls := v.calls.step m }
  | .take s id =>
    if v.calls.hub.isHeld id then { v with futures := v.futures ++ [{ signal := s, id := id }] } else v
  | .poll k => { v with futures := v.futures.modify k (Future.poll v.calls) }

def run (v : FutureState) (moves : List Move) : FutureState := moves.foldl step v

end FutureState

/-! ## What lasts -/

namespace PendingCalls

variable {a b : PendingCalls} {id : Nat} {l : Lifecycle}

/-- What was so once stays so: what futures wait for, and that nobody asks a lifecycle that is gone. -/
structure Lasts (id : Nat) (a b : PendingCalls) : Prop where
  present : a.hub.lifecycle? id ≠ none → b.hub.lifecycle? id ≠ none
  fulfilled : ∀ s : Signal, s.Fulfilled a id → s.Fulfilled b id
  gone : id ∈ a.gone → id ∈ b.gone
  unasked : id ∈ a.gone → id ∉ a.asked → id ∉ b.asked

theorem Sound.loose_of_gone (sound : a.Sound id l) (gone : id ∈ a.gone) : l.held = false ∧ a.left id = [] := by
  cases sound.holding with
  | held _ there | leaving _ _ there => exact absurd gone there
  | gone loose _ done => exact ⟨loose, done⟩

/-- A lifecycle whose last call has returned is gone if and only if nobody holds it. -/
theorem Sound.gone_iff (sound : a.Sound id l) (idle : a.left id = []) : id ∈ a.gone ↔ l.held = false := by
  cases sound.holding with
  | held holds there => simp [holds, there]
  | leaving front _ _ split =>
    rw [idle] at split
    exact absurd split.symm (by simp)
  | gone loose left => simp [loose, left]

theorem Regular.lasts (regular : a.Regular) (m : Move) (id : Nat) : Lasts id a (a.step m) := by
  cases happens id (fun absent => (regular.unborn absent).left) m with
  | aside asks aside =>
    refine ⟨fun some => ?_, fun s fulfilled => ?_, aside.gone.mpr, fun gone unasked member => ?_⟩
    · simpa [aside.lifecycle] using some
    · cases s with
      | disposal =>
        rcases fulfilled with ⟨l, present, released⟩ | gone
        · exact .inl ⟨l.askedIf asks, by rw [aside.lifecycle, present]; rfl, released⟩
        · exact .inr (aside.gone.mpr gone)
      | closeRequest => exact aside.asked.mpr (.inl fulfilled)
    · -- Only who is held is asked, and nobody holds a lifecycle that is gone.
      rcases aside.asked.mp member with before | asks
      · exact unasked before
      · obtain ⟨l, present, holds⟩ := Hub.isHeld_iff.mp (aside.held asks)
        rw [((regular.sound present).loose_of_gone gone).1] at holds
        cases holds
  | created l creates =>
    have unborn := regular.unborn creates.absent
    refine ⟨fun some => absurd creates.absent some, fun s fulfilled => ?_, fun gone => absurd gone unborn.gone,
      fun gone => absurd gone unborn.gone⟩
    cases s with
    | disposal =>
      rcases fulfilled with ⟨l, present, -⟩ | gone
      · cases creates.absent.symm.trans present
      · exact absurd gone unborn.gone
    | closeRequest => exact absurd fulfilled unborn.asked
  | called c held idle same =>
    rw [same]
    exact ⟨fun some => some, fun s fulfilled => by cases s <;> exact fulfilled, fun gone => gone,
      fun _ unasked => unasked⟩
  | dropped held idle same =>
    rw [same]
    refine ⟨fun some => ?_, fun s fulfilled => ?_, fun gone => gone, fun _ unasked => unasked⟩
    · simpa [Hub.lifecycle?_letGo] using some
    · cases s with
      | disposal =>
        rcases fulfilled with ⟨l, present, released⟩ | gone
        · exact .inl ⟨{ l with held := false }, by simp [Hub.lifecycle?_letGo, present], released⟩
        · exact .inr gone
      | closeRequest => exact fulfilled
  | went l x rest does =>
    refine ⟨fun _ => by simp [does.lifecycle], fun s fulfilled => ?_, fun gone => does.gone.mpr (.inl gone),
      fun gone => ?_⟩
    · cases s with
      | disposal =>
        rcases fulfilled with ⟨l', present, released⟩ | gone
        · obtain rfl := Option.some.inj (does.present.symm.trans present)
          exact .inl ⟨_, does.lifecycle, by simp [CallStep.marks, released]⟩
        · exact .inr (does.gone.mpr (.inl gone))
      | closeRequest => exact does.asked.mpr (.inl fulfilled)
    · have done := ((regular.sound does.present).loose_of_gone gone).2
      cases done.symm.trans does.had

end PendingCalls

/-! ## What futures stand for -/

namespace Future

variable {a b : PendingCalls} {f : Future} {l : Lifecycle}

/-- A future that has ended did so with reason, and one that pends for good has nothing to wait for. -/
structure Faithful (a : PendingCalls) (f : Future) : Prop where
  present : a.hub.lifecycle? f.id ≠ none
  ended : f.stage = .ended → f.signal.Fulfilled a f.id
  deaf : f.stage = .deaf → f.signal = .closeRequest ∧ f.id ∈ a.gone ∧ f.id ∉ a.asked

theorem Faithful.lasts (faithful : f.Faithful a) (lasts : PendingCalls.Lasts f.id a b) : f.Faithful b where
  present := lasts.present faithful.present
  ended stage := lasts.fulfilled _ (faithful.ended stage)
  deaf pends := by
    obtain ⟨signal, gone, unasked⟩ := faithful.deaf pends
    exact ⟨signal, lasts.gone gone, lasts.unasked gone unasked⟩

theorem isSent_closeRequest (regular : a.Regular) {id : Nat} :
    Signal.closeRequest.isSent a.hub id = true ↔ id ∈ a.asked := by
  cases present : a.hub.lifecycle? id with
  | none =>
    have unasked := (regular.unborn present).asked
    simp [Signal.isSent, Waiter.closeSeen, present, unasked]
  | some l => simpa [Signal.isSent, Waiter.closeSeen, present] using (regular.sound present).asked

theorem isSent_disposal {id : Nat} : Signal.disposal.isSent a.hub id = true ↔
    ∃ l, a.hub.lifecycle? id = some l ∧ l.released = true := by
  cases present : a.hub.lifecycle? id with
  | none => simp [Signal.isSent, present]
  | some l => simp [Signal.isSent, present]

/-- What a future that listens finds out. -/
theorem poll_listening (listening : f.stage = .listening) : f.poll a =
    match Look.of (f.signal.isSent a.hub f.id) (!a.gone.contains f.id) with
    | .sent => { f with stage := .ended }
    | .waiting => f
    | .orphaned => { f with stage := f.signal.atLoss } := by
  rw [poll, listening]

theorem poll_not_listening (other : f.stage ≠ .listening) : f.poll a = f := by
  unfold poll
  split
  · next listening => exact absurd listening other
  · rfl

/-- A future that listens ends when it is polled if and only if what it waits for has come about. -/
theorem stage_poll_listening (regular : a.Regular) (listening : f.stage = .listening) :
    (f.poll a).stage = .ended ↔ f.signal.Fulfilled a f.id := by
  rw [poll_listening listening, Look.of]
  cases signal : f.signal with
  | disposal =>
    cases sent : Signal.disposal.isSent a.hub f.id with
    | true => simpa [Signal.Fulfilled] using Or.inl (isSent_disposal.mp sent)
    | false =>
      have unsent : ¬ ∃ l, a.hub.lifecycle? f.id = some l ∧ l.released = true := fun some => by
        rw [isSent_disposal.mpr some] at sent
        cases sent
      by_cases gone : f.id ∈ a.gone
      · simp [gone, Signal.atLoss, Signal.Fulfilled]
      · simp [gone, listening, Signal.Fulfilled, unsent]
  | closeRequest =>
    cases sent : Signal.closeRequest.isSent a.hub f.id with
    | true => simpa [Signal.Fulfilled] using (isSent_closeRequest regular).mp sent
    | false =>
      have unasked : f.id ∉ a.asked := fun asked => by
        rw [(isSent_closeRequest regular).mpr asked] at sent
        cases sent
      by_cases gone : f.id ∈ a.gone
      · simp [gone, Signal.atLoss, Signal.Fulfilled, unasked]
      · simp [gone, listening, Signal.Fulfilled, unasked]

/-- A future is ready if and only if what it waits for has come about, whenever it was taken or polled. -/
theorem Faithful.isReady_iff (faithful : f.Faithful a) (regular : a.Regular) :
    f.isReady a = true ↔ f.signal.Fulfilled a f.id := by
  rw [isReady, beq_iff_eq]
  cases stage : f.stage with
  | listening => exact stage_poll_listening regular stage
  | deaf =>
    obtain ⟨signal, -, unasked⟩ := faithful.deaf stage
    rw [poll_not_listening (by simp [stage])]
    simp [stage, signal, Signal.Fulfilled, unasked]
  | ended =>
    rw [poll_not_listening (by simp [stage])]
    simp [stage, faithful.ended stage]

/-- A future comes to pend for good only if it asked for a close request that nobody made while it could be
made. -/
theorem stage_poll_deaf (regular : a.Regular) (listening : f.stage = .listening)
    (pends : (f.poll a).stage = .deaf) : f.signal = .closeRequest ∧ f.id ∈ a.gone ∧ f.id ∉ a.asked := by
  rw [poll_listening listening, Look.of] at pends
  cases sent : f.signal.isSent a.hub f.id with
  | true => simp [sent] at pends
  | false =>
    by_cases gone : f.id ∈ a.gone
    · have loss : f.signal.atLoss = .deaf := by simpa [sent, gone] using pends
      have signal : f.signal = .closeRequest := by
        cases signal : f.signal with
        | disposal => simp [signal, Signal.atLoss] at loss
        | closeRequest => rfl
      rw [signal] at sent
      refine ⟨signal, gone, fun asked => ?_⟩
      rw [(isSent_closeRequest regular).mpr asked] at sent
      cases sent
    · simp [sent, gone, listening] at pends

theorem signal_poll : (f.poll a).signal = f.signal ∧ (f.poll a).id = f.id := by
  cases stage : f.stage with
  | listening =>
    rw [poll_listening stage]
    split <;> exact ⟨rfl, rfl⟩
  | deaf | ended => rw [poll_not_listening (by simp [stage])]; exact ⟨rfl, rfl⟩

/-- A poll makes a future end, or pend for good, with reason only. -/
theorem Faithful.poll (faithful : f.Faithful a) (regular : a.Regular) : (f.poll a).Faithful a := by
  obtain ⟨signal, id⟩ := signal_poll (a := a) (f := f)
  refine ⟨by rw [id]; exact faithful.present, fun ended => ?_, fun pends => ?_⟩
  · rw [signal, id]
    exact (faithful.isReady_iff regular).mp (beq_iff_eq.mpr ended)
  · cases stage : f.stage with
    | listening =>
      rw [signal, id]
      exact stage_poll_deaf regular stage pends
    | deaf | ended =>
      rw [poll_not_listening (by simp [stage])] at pends ⊢
      exact faithful.deaf pends

/-- Where no call is under way a future is ready if and only if the hub says so to somebody who waits. -/
theorem Faithful.isReady_eq_seen (faithful : f.Faithful a) (regular : a.Regular) (idle : a.left f.id = []) :
    f.isReady a =
      match f.signal with
      | .disposal => Waiter.disposalSeen a.hub f.id
      | .closeRequest => Waiter.closeSeen a.hub f.id := by
  obtain ⟨l, present⟩ := Option.ne_none_iff_exists'.mp faithful.present
  have ready := faithful.isReady_iff regular
  cases signal : f.signal with
  | disposal =>
    rw [Bool.eq_iff_iff, ready, signal, Signal.Fulfilled, (regular.sound present).gone_iff idle, present]
    simp [Waiter.disposalSeen, present]
  | closeRequest =>
    rw [Bool.eq_iff_iff, ready, signal]
    exact (isSent_closeRequest regular).symm

end Future

/-! ## Runs -/

namespace FutureState

variable {v : FutureState}

/-- All lifecycles are sound, and all futures stand for what has come about. -/
structure Keeps (v : FutureState) : Prop where
  regular : v.calls.Regular
  faithful : ∀ f ∈ v.futures, f.Faithful v.calls

theorem Keeps.step (keeps : v.Keeps) (m : Move) : (v.step m).Keeps := by
  cases m with
  | act m =>
    exact ⟨keeps.regular.step m, fun f member => (keeps.faithful f member).lasts (keeps.regular.lasts m f.id)⟩
  | take s id =>
    simp only [FutureState.step]
    split
    · next held =>
      refine ⟨keeps.regular, fun f member => ?_⟩
      rcases List.mem_append.mp member with before | new
      · exact keeps.faithful f before
      · obtain ⟨l, present, -⟩ := Hub.isHeld_iff.mp held
        rw [List.mem_singleton.mp new]
        exact ⟨by simp [present], fun ended => (by cases ended), fun pends => (by cases pends)⟩
    · exact keeps
  | poll k =>
    refine ⟨keeps.regular, fun f member => ?_⟩
    obtain ⟨i, inside, rfl⟩ := List.getElem_of_mem member
    simp only [FutureState.step, List.getElem_modify]
    split
    · exact (keeps.faithful _ (List.getElem_mem _)).poll keeps.regular
    · exact keeps.faithful _ (List.getElem_mem _)

theorem keeps_run (moves : List Move) : (run {} moves).Keeps :=
  List.foldlRecOn (motive := Keeps) moves step ⟨PendingCalls.regular_empty, fun _ member => by cases member⟩
    fun _ before m _ => before.step m

end FutureState

/-! ## What a disposal has done -/

namespace PendingCalls.Sound

variable {a : PendingCalls} {id : Nat} {l : Lifecycle}

theorem state_of_released (sound : a.Sound id l) (released : l.released = true) : l.state = some .disposed := by
  cases sound.phase with
  | ahead _ waiting | underWay _ _ _ waiting | abandoned _ waiting =>
    rw [waiting] at released
    cases released
  | done state => exact state

/-- When those who wait are released, the observers were told already, all of them and in order, and the
connection is in no group. -/
theorem farewell_of_released (sound : a.Sound id l) (released : l.released = true) :
    hearers .disposed (a.hub.announced id) = l.observers.map Observer.name ∧ ∀ g, id ∉ a.hub.members g := by
  cases sound.phase with
  | ahead _ waiting | underWay _ _ _ waiting | abandoned _ waiting =>
    rw [waiting] at released
    cases released
  | done state _ clean heard =>
    refine ⟨heard, fun g member => ?_⟩
    have leaving := (sound.placed g member).2 state
    have apart := clean _ (List.mem_of_mem_head? leaving)
    cases apart

/-- Those who wait are released when whoever disposed the lifecycle has returned, and no observer failed. -/
theorem released_of_returned (sound : a.Sound id l) (state : l.state = some .disposed)
    (returned : a.left id = []) (calm : ∀ o ∈ l.observers, .fail ∉ o.reactionsTo .disposed) :
    l.released = true := by
  cases sound.phase with
  | ahead other => exact absurd state other
  | underWay front back _ _ split =>
    rw [returned] at split
    exact absurd split.symm (by simp)
  | done _ released => exact released
  | abandoned _ _ _ fails =>
    obtain ⟨o, own, cut⟩ := fails
    exact absurd cut (calm o own)

/-- A lifecycle that was connected and is gone has released those who wait, if no observer failed. -/
theorem released_of_gone (sound : a.Sound id l) (gone : id ∈ a.gone) (connected : l.state ≠ none)
    (sees : l.SeesOut) : l.released = true := by
  cases sound.holding with
  | held _ there | leaving _ _ there => exact absurd gone there
  | gone _ _ done ended =>
    have state : l.state = some .disposed := (ended.resolve_left connected).resolve_right (not_not_intro sees)
    exact sound.released_of_returned state done fun o own => sees o own .disposed rfl

end PendingCalls.Sound

/-- The same for a run of operations of the hub, each of which is done before the next one begins: whoever
waits for a disposal and is told that it has happened comes after all observers. -/
theorem Hub.farewell_of_disposalSeen (ops : List Hub.Op) {id : Nat} {l : Lifecycle}
    (present : (Hub.run {} ops).lifecycle? id = some l) (seen : Waiter.disposalSeen (Hub.run {} ops) id = true)
    (connected : l.state ≠ none) (sees : l.released = true ∨ l.SeesOut) :
    hearers .disposed ((Hub.run {} ops).announced id) = l.observers.map Observer.name ∧
      ∀ g, id ∉ (Hub.run {} ops).members g := by
  obtain ⟨moves, same, idle⟩ := PendingCalls.leadsTo_run ops
  have found : (PendingCalls.run {} moves).hub.lifecycle? id = some l := by rw [same]; exact present
  have sound := (PendingCalls.regular_empty.run moves).sound found
  have released : l.released = true := by
    simp only [Waiter.disposalSeen, present, Bool.or_eq_true, Bool.not_eq_true'] at seen
    rcases seen with released | loose
    · exact released
    · exact sees.elim (fun released => released)
        (sound.released_of_gone ((sound.gone_iff (idle id)).mpr loose) connected)
  have farewell := sound.farewell_of_released released
  rw [same] at farewell
  exact farewell

namespace FutureState

/-- Take any run, of any lifecycles with any observers, and any future that was taken from one of them at any
moment. If it waits for the disposal: it pends as long as the lifecycle exists and is not disposed; it is
ready when the disposal is done, that is when whoever disposed it has returned, or when the lifecycle is
gone; and when it is ready for a lifecycle that was connected, all observers were told of the end and the
connection is in no group. Only an observer that fails while a lifecycle is being dropped can hide the end
from those after it. If it waits for a request to close: it is ready if and only if somebody asked for
that, before it was taken or after, whatever else happened. -/
theorem futures_end_when_due (moves : List Move) (f : Future) (taken : f ∈ (run {} moves).futures) :
    let a := (run {} moves).calls
    ∃ l, a.hub.lifecycle? f.id = some l ∧
      match f.signal with
      | .disposal =>
        (f.id ∉ a.gone → l.state ≠ some .disposed → f.isReady a = false) ∧
        (l.state = some .disposed → a.left f.id = [] →
          (∀ o ∈ l.observers, .fail ∉ o.reactionsTo .disposed) → f.isReady a = true) ∧
        (l.released = true ∨ f.id ∈ a.gone → f.isReady a = true) ∧
        (f.isReady a = true → l.state ≠ none → l.released = true ∨ l.SeesOut →
          hearers .disposed (a.hub.announced f.id) = l.observers.map Observer.name ∧
            ∀ g, f.id ∉ a.hub.members g)
      | .closeRequest => (f.isReady a = true ↔ f.id ∈ a.asked) := by
  intro a
  obtain ⟨regular, faithful⟩ := keeps_run moves
  have faithful := faithful f taken
  have ready := faithful.isReady_iff regular
  obtain ⟨l, present⟩ := Option.ne_none_iff_exists'.mp faithful.present
  have sound := regular.sound present
  refine ⟨l, present, ?_⟩
  cases signal : f.signal with
  | closeRequest => rwa [signal] at ready
  | disposal =>
    have ready : f.isReady a = true ↔ l.released = true ∨ f.id ∈ a.gone := by
      rw [ready, signal, Signal.Fulfilled, present]
      simp [a]
    refine ⟨fun there early => ?_, fun state returned calm => ?_, ready.mpr, fun ended connected sees => ?_⟩
    · refine Bool.eq_false_iff.mpr fun ended => early ?_
      exact sound.state_of_released ((ready.mp ended).resolve_right there)
    · exact ready.mpr (.inl (sound.released_of_returned state returned calm))
    · have released : l.released = true := by
        rcases ready.mp ended with released | gone
        · exact released
        · exact sees.elim id (sound.released_of_gone gone connected)
      exact sound.farewell_of_released released

/-- A connection of a group that is connected, asked to close and given up, and from which futures were taken
before all that. -/
def shortStay : List Move :=
  [.act .newGroup, .act (.create (.unix none) (.unix none) [{ name := "log" }] (some 0)),
    .take .disposal 0, .take .closeRequest 0, .act (.call 0 .connected)] ++
  List.replicate 3 (.act (.go 0)) ++ [.act (.ask 0), .poll 1, .act (.drop 0)] ++
  List.replicate 8 (.act (.go 0))

/-- The future that nobody polled is ready when the lifecycle is gone, and the end was told before that. The
other one had ended when it was polled. -/
theorem short_stay_is_told :
    let a := (run {} shortStay).calls
    let f : Future := { signal := .disposal, id := 0 }
    let g : Future := { signal := .closeRequest, id := 0, stage := .ended }
    f ∈ (run {} shortStay).futures ∧ g ∈ (run {} shortStay).futures ∧ 0 ∈ a.gone ∧ 0 ∈ a.asked ∧
      f.isReady a = true ∧ g.isReady a = true ∧
      hearers .disposed (a.hub.announced 0) = ["log"] ∧ ∀ k, 0 ∉ a.hub.members k := by
  intro a f g
  have taken : f ∈ (run {} shortStay).futures := by decide
  have other : g ∈ (run {} shortStay).futures := by decide
  have gone : 0 ∈ a.gone := by decide
  have asked : 0 ∈ a.asked := by decide
  obtain ⟨l, present, -, -, ends, tells⟩ := futures_end_when_due shortStay f taken
  obtain ⟨_, -, requested⟩ := futures_end_when_due shortStay g other
  have ready : f.isReady a = true := ends (.inr gone)
  have found : a.hub.lifecycle? 0 = some
      { identity := ⟨1, .unix none, .unix none⟩, observers := [{ name := "log" }], group := some 0
        state := some .disposed, closeRequested := true, released := true, held := false } := rfl
  obtain rfl := Option.some.inj (found.symm.trans present)
  exact ⟨taken, other, gone, asked, ready, requested.mpr asked, tells ready (by decide) (.inl rfl)⟩

/-- A lifecycle that is given up before it was ever connected. Whoever waits for its disposal goes on, and
whoever waits for a request to close it does not. -/
example :
    let v := run {} ([.act (.create (.unix none) (.unix none) [] none), .take .disposal 0, .take .closeRequest 0,
      .act (.drop 0)] ++ List.replicate 3 (.act (.go 0)))
    v.futures.map (Future.isReady v.calls) = [true, false] := by decide

end FutureState

end StreamHost.Connection
