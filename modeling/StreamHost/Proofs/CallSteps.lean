import Mathlib.Data.List.Induction
import Mathlib.Logic.Function.Basic
import StreamHost.Proofs.HubRuns
import StreamHost.Proofs.Interleaving

/-!
Calls in small steps. What a call of a lifecycle has to do is a list of steps, and an observer that
reacts puts its own in front of those that are left. Calls of one lifecycle come one after the other, those
of different lifecycles take turns as they like, and between two steps anybody may ask a connection to
close. When its last holder gives a lifecycle up it is disposed, and only then is it gone.

A call that goes on without interruption is that call of the hub, however the observers react.
-/

namespace StreamHost.Connection

/-- A step of a call whose observers may react. -/
inductive CallStep where
  | atomic (x : AtomicStep)
  /-- An observer that was told of a state reacts. -/
  | react (o : Observer) (s : State) (r : Reaction)
  /-- The lifecycle is freed. -/
  | vanish

/-- What a call has to do. -/
def Call.steps (c : Call) : List CallStep := c.atomicSteps.map .atomic

namespace CallStep

def isVanish : CallStep → Bool
  | vanish => true
  | _ => false

/-- What has to be done because of a step: what comes after a move, and what an observer does that was
told. -/
def brings (id : Nat) (h : Hub) : CallStep → List CallStep
  | atomic (.tell o s) => (o.reactionsTo s).map (react o s)
  | atomic x => (x.run id h).2.map atomic
  | react _ _ (.call c) => if h.isHeld id then c.steps else []
  | _ => []

/-- What a step does to the hub. -/
def run (id : Nat) (h : Hub) : CallStep → Hub
  | atomic x => (x.run id h).1
  | react o _ (.closeAll g) => (h.closeAll g).1.emit (.closedAll o.name (h.closeAll g).2)
  | react o _ (.count g) => h.emit (.counted o.name (h.members g).length)
  | _ => h

/-- What is left to do after a step. An observer that fails ends the call, but whoever was about to free
the lifecycle does so. -/
def leaves (id : Nat) (h : Hub) (rest : List CallStep) : CallStep → List CallStep
  | react _ _ .fail => rest.filter isVanish
  | x => x.brings id h ++ rest

/-- Whom a step asks to close. -/
def asks (id : Nat) (h : Hub) : CallStep → List Nat
  | atomic .askToClose => [id]
  | react _ _ (.closeAll g) => h.reachable g
  | _ => []

/-- Whom a step frees. -/
def frees (id : Nat) : CallStep → List Nat
  | vanish => [id]
  | _ => []

end CallStep

/-- All connections, and what is left to do for each. -/
structure PendingCalls where
  hub : Hub := {}
  left : Nat → List CallStep := fun _ => []
  /-- The connections that were asked to close at some time. -/
  asked : List Nat := []
  /-- The connections whose lifecycle was freed. -/
  gone : List Nat := []

namespace PendingCalls

/-- The call of a lifecycle goes on by one step. -/
def go (a : PendingCalls) (id : Nat) : PendingCalls :=
  match a.left id with
  | [] => a
  | x :: rest =>
    { hub := x.run id a.hub
      left := Function.update a.left id (x.leaves id a.hub rest)
      asked := a.asked ++ x.asks id a.hub
      gone := a.gone ++ x.frees id }

/-- What may happen next. -/
inductive Move where
  | newGroup
  | create (localEnd remoteEnd : Address.Endpoint) (observers : List Observer) (group : Option Nat)
  | call (id : Nat) (c : Call)
  /-- Somebody asks a connection to close, at any time. -/
  | ask (id : Nat)
  | askAll (group : Nat)
  | reportError (id : Nat) (e : Error)
  | reportCompletion (id : Nat) (c : Completion)
  /-- The last holder of a lifecycle gives it up. -/
  | drop (id : Nat)
  | go (id : Nat)

/-- One move. Nothing happens if it is impossible: a lifecycle is called by somebody who holds it, when the
call before has returned. -/
def step (a : PendingCalls) : Move → PendingCalls
  | .newGroup => { a with hub := a.hub.newGroup.1 }
  | .create localEnd remoteEnd observers group =>
    if ∀ g ∈ group, g < a.hub.groups.length then
      { a with hub := (a.hub.create localEnd remoteEnd observers group).1 }
    else a
  | .call id c =>
    if a.hub.isHeld id && (a.left id).isEmpty then { a with left := Function.update a.left id c.steps }
    else a
  | .ask id =>
    if a.hub.isHeld id then { a with hub := a.hub.requestClose id, asked := a.asked ++ [id] } else a
  | .askAll g => { a with hub := (a.hub.closeAll g).1, asked := a.asked ++ a.hub.reachable g }
  | .reportError id e => if a.hub.isHeld id then { a with hub := a.hub.reportError id e } else a
  | .reportCompletion id c =>
    if a.hub.isHeld id then { a with hub := a.hub.reportCompletion id c } else a
  | .drop id =>
    if a.hub.isHeld id && (a.left id).isEmpty then
      { a with
        hub := a.hub.letGo id
        left := Function.update a.left id (Call.dispose.steps ++ [.vanish]) }
    else a
  | .go id => a.go id

/-- Moves one after the other. -/
def run (a : PendingCalls) (moves : List Move) : PendingCalls := moves.foldl step a

variable {a b c : PendingCalls} {id : Nat} {s : State} {o : Observer} {rest : List CallStep} {depth : Nat}

theorem go_cons {x : CallStep} (had : a.left id = x :: rest) : a.go id =
    { hub := x.run id a.hub
      left := Function.update a.left id (x.leaves id a.hub rest)
      asked := a.asked ++ x.asks id a.hub
      gone := a.gone ++ x.frees id } := by
  unfold go
  rw [had]

/-! ## Calls that are not interrupted -/

/-- A call goes on by so many steps. -/
def goOn (id : Nat) : Nat → PendingCalls → PendingCalls
  | 0, a => a
  | n + 1, a => goOn id n (a.go id)

theorem goOn_add (m n : Nat) (a : PendingCalls) : goOn id (m + n) a = goOn id n (goOn id m a) := by
  induction m generalizing a with
  | zero => rw [Nat.zero_add, goOn]
  | succ m ih => rw [Nat.succ_add, goOn, goOn, ih]

/-- What the call of `id` comes to when it goes on for a while: a hub, what is left to do, and nothing else. -/
structure Settles (id : Nat) (a : PendingCalls) (h : Hub) (w : List CallStep) (b : PendingCalls) : Prop where
  goes : ∃ n, goOn id n a = b
  hub : b.hub = h
  left : b.left id = w
  others : ∀ j, j ≠ id → b.left j = a.left j
  gone : b.gone = a.gone

theorem Settles.trans {h h' : Hub} {w w' : List CallStep} (first : Settles id a h w b)
    (second : Settles id b h' w' c) : Settles id a h' w' c := by
  obtain ⟨m, goes⟩ := first.goes
  obtain ⟨n, goes'⟩ := second.goes
  refine ⟨⟨m + n, ?_⟩, second.hub, second.left, fun j other => ?_, second.gone.trans first.gone⟩
  · rw [goOn_add, goes, goes']
  · exact (second.others j other).trans (first.others j other)

theorem settles_go {x : CallStep} (had : a.left id = x :: rest) (stays : x.frees id = []) :
    Settles id a (x.run id a.hub) (x.leaves id a.hub rest) (a.go id) := by
  refine ⟨⟨1, rfl⟩, ?_, ?_, fun j other => ?_, ?_⟩
  · rw [go_cons had]
  · rw [go_cons had]
    exact Function.update_self ..
  · rw [go_cons had]
    exact Function.update_of_ne other ..
  · rw [go_cons had]
    simp [stays]

/-! ## Operations of the hub -/

variable {h h' : Hub} {w w' : List CallStep}

/-- What is left to do after an operation of the hub that may have failed. -/
def remains (h : Hub) (w : List CallStep) : List CallStep := if h.failing then w.filter CallStep.isVanish else w

/-- The call of `id` comes to what an operation of the hub makes, and what is left to do is `w` unless that
operation failed. -/
def Yields (id : Nat) (a : PendingCalls) (h : Hub) (w : List CallStep) : Prop :=
  ∃ b, Settles id a h.recover (remains h w) b

theorem recover_of_running (running : h.failing = false) : h.recover = h := by
  cases h
  cases running
  rfl

theorem Settles.yields (settles : Settles id a h w b) (running : h.failing = false) :
    Yields id a h w := by
  refine ⟨b, ?_⟩
  rw [recover_of_running running, remains, if_neg (by simp [running])]
  exact settles

theorem yields_refl (running : a.hub.failing = false) (had : a.left id = w) : Yields id a a.hub w :=
  Settles.yields ⟨⟨0, rfl⟩, rfl, had, fun _ _ => rfl, rfl⟩ running

/-- An operation after another one. If the first one fails the second one does nothing. -/
theorem Yields.next (first : Yields id a h w)
    (next : ∀ b, b.hub = h → b.hub.failing = false → b.left id = w → Yields id b h' w')
    (failed : h.failing = true → h' = h)
    (same : w.filter CallStep.isVanish = w'.filter CallStep.isVanish) : Yields id a h' w' := by
  obtain ⟨b, settles⟩ := first
  cases running : h.failing with
  | true =>
    refine ⟨b, ?_⟩
    have left : remains h w = remains h w' := by rw [remains, remains, if_pos running, if_pos running, same]
    rw [failed running, ← left]
    exact settles
  | false =>
    have hub : b.hub = h := settles.hub.trans (recover_of_running running)
    have left : b.left id = w := settles.left.trans (by rw [remains, if_neg (by simp [running])])
    obtain ⟨c, settles'⟩ := next b hub (by rw [hub, running]) left
    exact ⟨c, settles.trans settles'⟩

theorem Yields.after (settles : Settles id a h w b) (yields : Yields id b h' w') : Yields id a h' w' := by
  obtain ⟨c, settles'⟩ := yields
  exact ⟨c, settles.trans settles'⟩

/-- Moves of `id` may nest so deep: one level for each state that is left to it. -/
def Deep (id depth : Nat) (h : Hub) : Prop := ∀ l, h.lifecycle? id = some l → 4 ≤ depth + l.place

theorem Deep.of_evolves (deep : Deep id depth h) (evolves : Hub.Evolves id h h') : Deep id depth h' := by
  intro l' found'
  obtain ⟨l, found, goes⟩ := evolves.lifecycle_of_some found'
  have enough := deep l found
  have forward := goes.place
  omega

/-- Moves that nest at most so deep are moves of the hub. -/
def MovesWithin (id depth : Nat) : Prop :=
  ∀ {a : PendingCalls} {s : State} {rest : List CallStep}, a.hub.failing = false →
    a.left id = .atomic (.move s) :: rest → Deep id depth a.hub →
      Yields id a (Hub.advanceWithin depth a.hub id s) rest

theorem advanceWithin_failing (failing : h.failing = true) : Hub.advanceWithin depth h id s = h := by
  cases depth with
  | zero => rfl
  | succ depth =>
    unfold Hub.advanceWithin
    split
    · rfl
    · rw [if_pos (.inl failing)]

theorem failing_closeAll (g : Nat) : (h.closeAll g).1.failing = h.failing :=
  List.foldlRecOn (motive := fun later : Hub => later.failing = h.failing) (h.reachable g)
    Hub.requestClose rfl fun _ before _ _ => before

theorem foldl_react_failing {move : Hub → Nat → State → Hub} {n : String} {rs : List Reaction}
    (failing : h.failing = true) : rs.foldl (Hub.react move n id) h = h := by
  induction rs with
  | nil => rfl
  | cons r rs ih =>
    have still : Hub.react move n id h r = h := by simp [Hub.react, failing]
    rw [List.foldl_cons, still, ih]

theorem foldl_tell_failing {move : Hub → Nat → State → Hub} {os : List Observer}
    (failing : h.failing = true) : os.foldl (Hub.tell move id s) h = h := by
  induction os with
  | nil => rfl
  | cons o os ih =>
    have still : Hub.tell move id s h o = h := by simp [Hub.tell, failing]
    rw [List.foldl_cons, still, ih]

section

variable (moves : MovesWithin id depth)
include moves

theorem callVia_yields (running : a.hub.failing = false) (k : Call) (had : a.left id = k.steps ++ rest)
    (deep : Deep id depth a.hub) : Yields id a (Hub.callVia (Hub.advanceWithin depth) a.hub id k) rest := by
  cases k with
  | connected | configured | disconnecting => exact moves running had deep
  | dispose =>
    refine (moves running had deep).next (fun b hub still left => ?_) advanceWithin_failing (by rfl)
    show Yields id b
      (Hub.advanceWithin depth (Hub.advanceWithin depth a.hub id .disconnecting) id .disposed) rest
    have evolves : Hub.Evolves id a.hub b.hub := by
      rw [hub]
      exact (Hub.evolves_withstands a.hub id).advanceWithin depth (.refl id a.hub)
    rw [← hub]
    exact moves still left (deep.of_evolves evolves)
  | requestClose => exact (settles_go had rfl).yields running

theorem react_yields (running : a.hub.failing = false) (r : Reaction)
    (had : a.left id = .react o s r :: rest) (deep : Deep id depth a.hub) :
    Yields id a (Hub.react (Hub.advanceWithin depth) o.name id a.hub r) rest := by
  have step := settles_go had rfl
  unfold Hub.react
  rw [if_neg (by simp [running])]
  cases r with
  | call k =>
    show Yields id a (if a.hub.isHeld id then Hub.callVia (Hub.advanceWithin depth) a.hub id k else a.hub)
      rest
    have left := step.left
    simp only [CallStep.leaves, CallStep.brings] at left
    split at left
    · next held =>
      rw [if_pos held]
      have hub : (a.go id).hub = a.hub := step.hub
      refine Yields.after step ?_
      rw [← hub] at running deep ⊢
      exact callVia_yields moves running k left deep
    · next loose =>
      rw [if_neg loose]
      have settles : Settles id a a.hub rest (a.go id) := { step with left := left }
      exact settles.yields running
  | closeAll g =>
    exact step.yields ((failing_closeAll g).trans running)
  | count g => exact step.yields running
  | fail =>
    refine ⟨a.go id, ?_⟩
    have hub : ({ a.hub with failing := true } : Hub).recover = a.hub := recover_of_running running
    rw [hub]
    exact step

/-- The reactions of an observer one after the other. -/
theorem reacts_yields (running : a.hub.failing = false) (rs : List Reaction) (own : ∀ r ∈ rs, r ∈ o.reactionsTo s)
    (had : a.left id = rs.map (.react o s) ++ rest) (deep : Deep id depth a.hub) :
    Yields id a (rs.foldl (Hub.react (Hub.advanceWithin depth) o.name id) a.hub) rest := by
  induction rs generalizing a with
  | nil => exact yields_refl running had
  | cons r rs ih =>
    rw [List.foldl_cons]
    refine (react_yields moves running r had deep).next (fun b hub still left => ?_)
      foldl_react_failing (by simp [CallStep.isVanish])
    have evolves : Hub.Evolves id a.hub b.hub := by
      rw [hub]
      exact (Hub.evolves_withstands a.hub id).react
        ((Hub.evolves_withstands a.hub id).advanceWithin depth) trivial
        (Observer.mem_reactions_of_mem_reactionsTo (own r List.mem_cons_self)) (.refl id a.hub)
    rw [← hub]
    exact ih still (fun q member => own q (List.mem_cons_of_mem _ member)) left (deep.of_evolves evolves)

theorem tell_yields (running : a.hub.failing = false) (had : a.left id = .atomic (.tell o s) :: rest)
    (deep : Deep id depth a.hub) :
    Yields id a (Hub.tell (Hub.advanceWithin depth) id s a.hub o) rest := by
  have step := settles_go had rfl
  unfold Hub.tell
  rw [if_neg (by simp [running])]
  have hub : (a.go id).hub = a.hub.emit (o.stateEvent id s) := step.hub
  refine Yields.after step ?_
  rw [← hub]
  refine reacts_yields moves ?_ _ (fun r member => member) step.left ?_
  · rw [hub]
    exact running
  · rw [hub]
    exact deep

/-- Observers are told one after the other. -/
theorem tells_yields (running : a.hub.failing = false) (os : List Observer)
    (had : a.left id = (os.map fun o => .atomic (.tell o s)) ++ rest) (deep : Deep id depth a.hub) :
    Yields id a (os.foldl (Hub.tell (Hub.advanceWithin depth) id s) a.hub) rest := by
  induction os generalizing a with
  | nil => exact yields_refl running had
  | cons o os ih =>
    rw [List.foldl_cons]
    refine (tell_yields moves running had deep).next (fun b hub still left => ?_)
      foldl_tell_failing (by simp [CallStep.isVanish])
    have evolves : Hub.Evolves id a.hub b.hub := by
      rw [hub]
      exact (Hub.evolves_withstands a.hub id).tell
        ((Hub.evolves_withstands a.hub id).advanceWithin depth) trivial (.refl id a.hub)
    rw [← hub]
    exact ih still left (deep.of_evolves evolves)

/-- A lifecycle that enters a state keeps its group, its observers are told, and at its end those who wait
are released. -/
theorem enters_yields {l : Lifecycle} (running : a.hub.failing = false)
    (found : a.hub.lifecycle? id = some l) (follows : State.mayFollow l.state s = true)
    (had : a.left id = .atomic (.move s) :: rest) (deep : Deep id (depth + 1) a.hub) :
    Yields id a
      (if s = .disposed ∧ (l.observers.foldl (Hub.tell (Hub.advanceWithin depth) id s)
          (a.hub.enter id l.group s)).failing = false
        then (l.observers.foldl (Hub.tell (Hub.advanceWithin depth) id s)
          (a.hub.enter id l.group s)).release id
        else l.observers.foldl (Hub.tell (Hub.advanceWithin depth) id s) (a.hub.enter id l.group s))
      rest := by
  have moved := settles_go had rfl
  have enters : (AtomicStep.move s).run id a.hub =
      (a.hub.modify id fun l => { l with state := some s }, s.aftermath l.observers) := by
    simp [AtomicStep.run, found, follows]
  have left := moved.left
  simp only [CallStep.leaves, CallStep.brings, enters, State.aftermath, List.map_cons, List.cons_append] at left
  have first : (a.go id).hub = a.hub.modify id fun l => { l with state := some s } :=
    moved.hub.trans (congrArg Prod.fst enters)
  have grouped := settles_go left rfl
  have hub : ((a.go id).go id).hub = a.hub.enter id l.group s := by
    rw [grouped.hub, first]
    simp [CallStep.run, AtomicStep.run, Hub.lifecycle?_modify, found, Hub.enter]
  have tells : ((a.go id).go id).left id = (l.observers.map fun o => .atomic (.tell o s)) ++
      ((if s = .disposed then [CallStep.atomic .release] else []) ++ rest) := by
    rw [grouped.left]
    simp only [CallStep.leaves, CallStep.brings, AtomicStep.run, List.map_nil, List.nil_append, List.map_append,
      List.map_map, Function.comp_def, List.append_assoc]
    split <;> rfl
  have calm : ((a.go id).go id).hub.failing = false := by
    rw [hub]
    exact Hub.failing_enter.trans running
  -- One level less is enough for the reactions, since the lifecycle has come one state further.
  have lower : Deep id depth ((a.go id).go id).hub := by
    intro l' found'
    rw [hub, Hub.lifecycle?_enter, if_pos rfl, found] at found'
    obtain rfl := Option.some.inj found'
    have enough := deep l found
    have forward := State.place_lt_of_mayFollow follows
    show 4 ≤ depth + s.rank
    omega
  have told := tells_yields moves calm l.observers tells lower
  rw [hub] at told
  refine Yields.after moved (Yields.after grouped ?_)
  by_cases ends : s = .disposed
  · subst ends
    refine told.next (fun b hub still left => ?_) (fun failed => ?_) rfl
    · rw [if_pos ⟨rfl, by rw [← hub, still]⟩, ← hub]
      exact (settles_go left rfl).yields still
    · rw [if_neg fun both => by simp [failed] at both]
  · rw [if_neg fun both => ends both.1]
    rwa [if_neg ends] at told

end

/-- Moves in small steps are those of the hub. The induction is on how deep they may nest: reactions go one
level further in, and to a later state. -/
theorem movesWithin (id depth : Nat) : MovesWithin id depth := by
  induction depth with
  | zero =>
    intro a s rest running had deep
    have step := settles_go had rfl
    have blocked : (AtomicStep.move s).run id a.hub = (a.hub, []) := by
      simp only [AtomicStep.run]
      split
      · rfl
      · next l found =>
        have far := deep l found
        have last : s.rank ≤ 4 := by cases s <;> decide
        rw [if_neg fun follows => ?_]
        have lower := State.place_lt_of_mayFollow follows
        omega
    simp only [CallStep.run, CallStep.leaves, CallStep.brings, blocked] at step
    exact step.yields running
  | succ depth ih =>
    intro a s rest running had deep
    have step := settles_go had rfl
    unfold Hub.advanceWithin
    cases found : a.hub.lifecycle? id with
    | none =>
      have blocked : (AtomicStep.move s).run id a.hub = (a.hub, []) := by simp [AtomicStep.run, found]
      simp only [CallStep.run, CallStep.leaves, CallStep.brings, blocked] at step
      exact step.yields running
    | some l =>
      by_cases follows : State.mayFollow l.state s = true
      · simp only [running, follows, Bool.false_eq_true, Bool.true_eq_false, or_false, if_false]
        exact enters_yields ih running found follows had deep
      · have blocked : (AtomicStep.move s).run id a.hub = (a.hub, []) := by simp [AtomicStep.run, found, follows]
        simp only [CallStep.run, CallStep.leaves, CallStep.brings, blocked] at step
        simp only [running, Bool.eq_false_iff.mpr follows, Bool.false_eq_true, or_true, if_true]
        exact step.yields running

/-- A call that nobody interrupts is a call of the hub. -/
theorem call_settles (running : a.hub.failing = false) (held : a.hub.isHeld id = true)
    (idle : a.left id = []) (k : Call) :
    ∃ b, Settles id (a.step (.call id k)) (a.hub.step (.call id k)).recover [] b := by
  have begun : a.step (.call id k) = { a with left := Function.update a.left id k.steps } := by
    simp [step, held, idle]
  have had : (a.step (.call id k)).left id = k.steps ++ [] := by
    rw [begun, List.append_nil]
    exact Function.update_self ..
  have hub : (a.step (.call id k)).hub = a.hub := by rw [begun]
  obtain ⟨b, settles⟩ := callVia_yields (movesWithin id 4) (by rw [hub]; exact running) k had
    fun l _ => Nat.le_add_right 4 _
  have called : a.hub.step (.call id k) = a.hub.call id k := by
    simp [Hub.step, held, recover_of_running running]
  have none : remains (Hub.callVia (Hub.advanceWithin 4) (a.step (.call id k)).hub id k) [] = [] := by
    unfold remains
    split <;> rfl
  rw [none, hub] at settles
  rw [called]
  exact ⟨b, settles⟩

/-- A lifecycle that is given up and that nobody interrupts ends as it does in the hub, and is gone then. -/
theorem drop_settles (running : a.hub.failing = false) (held : a.hub.isHeld id = true)
    (idle : a.left id = []) : ∃ n, let b := goOn id n (a.step (.drop id))
      b.hub = (a.hub.step (.drop id)).recover ∧ b.left id = [] ∧
        (∀ j, j ≠ id → b.left j = a.left j) ∧ b.gone = a.gone ++ [id] := by
  have begun : a.step (.drop id) =
      { a with
        hub := a.hub.letGo id
        left := Function.update a.left id (Call.dispose.steps ++ [.vanish]) } := by
    simp [step, held, idle]
  have had : (a.step (.drop id)).left id = Call.dispose.steps ++ [.vanish] := by
    rw [begun]
    exact Function.update_self ..
  have hub : (a.step (.drop id)).hub = a.hub.letGo id := by rw [begun]
  obtain ⟨b, settles⟩ := callVia_yields (movesWithin id 4) (by rw [hub]; exact running) .dispose had
    fun l _ => Nat.le_add_right 4 _
  have dropped : a.hub.step (.drop id) = (a.hub.letGo id).call id .dispose := by
    simp only [Hub.step, recover_of_running running]
    exact Hub.drop_of_isHeld held
  have last : remains (Hub.callVia (Hub.advanceWithin 4) (a.step (.drop id)).hub id .dispose) [.vanish] =
      [.vanish] := by
    unfold remains
    split <;> rfl
  rw [last, hub] at settles
  obtain ⟨n, goes⟩ := settles.goes
  have freed : goOn id (n + 1) (a.step (.drop id)) = b.go id := by rw [goOn_add, goes]; rfl
  have stepped := go_cons settles.left
  refine ⟨n + 1, ?_⟩
  rw [freed, stepped, dropped]
  refine ⟨settles.hub, Function.update_self .., fun j other => ?_, ?_⟩
  · show Function.update b.left id _ j = a.left j
    rw [Function.update_of_ne other, settles.others j other, begun]
    exact Function.update_of_ne other ..
  · show b.gone ++ [id] = a.gone ++ [id]
    rw [settles.gone, begun]

theorem run_append (a : PendingCalls) (moves later : List Move) :
    a.run (moves ++ later) = (a.run moves).run later :=
  List.foldl_append

theorem run_goes (id n : Nat) (a : PendingCalls) : a.run (List.replicate n (.go id)) = goOn id n a := by
  induction n generalizing a with
  | zero => rfl
  | succ n ih => exact ih (a.go id)

theorem recover_step (h : Hub) (op : Hub.Op) : (h.step op).recover = (h.recover.step op).recover := by
  cases op with
  | newGroup | closeAll | drop => rfl
  | create localEnd remoteEnd observers group =>
    show (if ∀ g ∈ group, g < h.groups.length then _ else h).recover =
      (if ∀ g ∈ group, g < h.groups.length then _ else h.recover).recover
    split <;> rfl
  | call id k | reportError id k | reportCompletion id k =>
    show (if h.isHeld id then _ else h).recover = (if h.isHeld id then _ else h.recover).recover
    split <;> rfl

/-- Some moves lead to the hub `h`, and nothing is left to do then. -/
def LeadsTo (a : PendingCalls) (h : Hub) : Prop :=
  ∃ moves, (a.run moves).hub = h.recover ∧ ∀ id, (a.run moves).left id = []

theorem leadsTo_refl (running : a.hub.failing = false) (idle : ∀ id, a.left id = []) : a.LeadsTo a.hub :=
  ⟨[], (recover_of_running running).symm, idle⟩

/-- One move leads to a hub if it leaves nothing to do. -/
theorem leadsTo_step (m : Move) (running : (a.step m).hub.failing = false)
    (idle : ∀ id, (a.step m).left id = []) : a.LeadsTo (a.step m).hub :=
  ⟨[m], (recover_of_running running).symm, idle⟩

theorem leadsTo_call (running : a.hub.failing = false) (idle : ∀ id, a.left id = []) (id : Nat) (k : Call) :
    a.LeadsTo (a.hub.step (.call id k)) := by
  cases held : a.hub.isHeld id with
  | true =>
    obtain ⟨b, settles⟩ := call_settles running held (idle id) k
    obtain ⟨n, goes⟩ := settles.goes
    have ran : a.run (.call id k :: List.replicate n (.go id)) = b := (run_goes id n _).trans goes
    refine ⟨.call id k :: List.replicate n (.go id), ran ▸ settles.hub, fun j => ?_⟩
    rw [ran]
    by_cases own : j = id
    · rw [own]
      exact settles.left
    · rw [settles.others j own]
      simp only [step, held, idle id, List.isEmpty_nil, Bool.and_self, if_true]
      rw [Function.update_of_ne own]
      exact idle j
  | false =>
    have still : a.hub.step (.call id k) = a.hub := by simp [Hub.step, held]
    rw [still]
    exact leadsTo_refl running idle

theorem leadsTo_drop (running : a.hub.failing = false) (idle : ∀ id, a.left id = []) (id : Nat) :
    a.LeadsTo (a.hub.step (.drop id)) := by
  cases held : a.hub.isHeld id with
  | true =>
    obtain ⟨n, hub, left, others, -⟩ := drop_settles running held (idle id)
    have ran : a.run (.drop id :: List.replicate n (.go id)) = goOn id n (a.step (.drop id)) := run_goes id n _
    refine ⟨.drop id :: List.replicate n (.go id), ran ▸ hub, fun j => ?_⟩
    rw [ran]
    by_cases own : j = id
    · rw [own]
      exact left
    · rw [others j own]
      exact idle j
  | false =>
    have still : a.hub.step (.drop id) = a.hub := by
      simp only [Hub.step, recover_of_running running, Hub.drop_of_not_isHeld held]
    rw [still]
    exact leadsTo_refl running idle

/-- What an operation does, done in small steps. -/
theorem leadsTo_op (running : a.hub.failing = false) (idle : ∀ id, a.left id = []) (op : Hub.Op) :
    a.LeadsTo (a.hub.step op) := by
  have afresh : a.hub.recover = a.hub := recover_of_running running
  cases op with
  | newGroup => exact ⟨[.newGroup], congrArg (fun h => h.newGroup.1) afresh.symm, idle⟩
  | create localEnd remoteEnd observers group =>
    simp only [Hub.step, afresh]
    split
    · next known =>
      have made := leadsTo_step (a := a) (.create localEnd remoteEnd observers group)
      simp only [step, if_pos known] at made
      exact made running idle
    · exact leadsTo_refl running idle
  | call id k => exact leadsTo_call running idle id k
  | reportError id e =>
    simp only [Hub.step, afresh]
    split
    · next held =>
      have made := leadsTo_step (a := a) (.reportError id e)
      simp only [step, if_pos held] at made
      exact made (Hub.failing_report.trans running) idle
    · exact leadsTo_refl running idle
  | reportCompletion id k =>
    simp only [Hub.step, afresh]
    split
    · next held =>
      have made := leadsTo_step (a := a) (.reportCompletion id k)
      simp only [step, if_pos held] at made
      exact made (Hub.failing_report.trans running) idle
    · exact leadsTo_refl running idle
  | closeAll g =>
    simp only [Hub.step, afresh]
    exact leadsTo_step (a := a) (.askAll g) ((failing_closeAll g).trans running) idle
  | drop id => exact leadsTo_drop running idle id

/-- Every run of operations is a run in small steps in which each call goes on until it is done. -/
theorem leadsTo_run (ops : List Hub.Op) : LeadsTo {} (Hub.run {} ops) := by
  induction ops using List.reverseRecOn with
  | nil => exact leadsTo_refl rfl fun _ => rfl
  | append_singleton ops op ih =>
    obtain ⟨moves, same, idle⟩ := ih
    obtain ⟨more, same', idle'⟩ := leadsTo_op (by rw [same]; rfl) idle op
    refine ⟨moves ++ more, ?_, fun id => ?_⟩
    · rw [run_append, same', same, Hub.run_concat, ← recover_step]
    · rw [run_append]
      exact idle' id

end PendingCalls

end StreamHost.Connection
