import StreamHost.Proofs.Disposals

/-!
The course of one lifecycle among all others. What a move means to it is one of five things: it is created,
a call of it begins, it is given up, its call goes on by a step, or the move is another's business and asks
it to close at most. Each keeps what is known of its end, and so does every run.
-/

namespace StreamHost.Connection

/-- A lifecycle that was asked to close once more, or not. -/
def Lifecycle.askedIf (l : Lifecycle) (asks : Bool) : Lifecycle :=
  { l with closeRequested := l.closeRequested || asks }

theorem Lifecycle.askedIf_false (l : Lifecycle) : l.askedIf false = l := by simp [askedIf]

namespace Hub

variable {h : Hub} {id j g : Nat}

/-- Who was told of which states of a connection. -/
def announced (h : Hub) (id : Nat) : List (String × State) := h.events.filterMap (stateNotice? id)

theorem announced_emit (e : Event) : (h.emit e).announced j = h.announced j ++ [e].filterMap (stateNotice? j) :=
  List.filterMap_append

theorem announced_of_events {h' : Hub} (same : h'.events = h.events) : h'.announced j = h.announced j := by
  unfold announced
  rw [same]

/-- A report is about something else than a state. -/
theorem announced_report {n : Notice} (other : ∀ s, n ≠ .state s) :
    (h.report id n).announced j = h.announced j := by
  unfold report
  split
  · rfl
  · next l _ =>
    have silent : (l.observers.flatMap fun o => o.noticeEvents id n).filterMap (stateNotice? j) = [] := by
      refine List.filterMap_eq_nil_iff.mpr fun e member => ?_
      obtain ⟨o, -, seen⟩ := List.mem_flatMap.mp member
      cases n with
      | state s => exact absurd rfl (other s)
      | error | completion =>
        simp only [Observer.noticeEvents] at seen
        split at seen
        · cases seen
        · rw [List.mem_singleton.mp seen]
          rfl
    show (h.events ++ _).filterMap _ = _
    rw [List.filterMap_append, silent, List.append_nil]
    rfl

theorem lifecycle?_closeAll (k : Nat) : (h.closeAll k).1.lifecycle? j =
    (h.lifecycle? j).map fun l => l.askedIf ((h.reachable k).contains j) := by
  show ((h.reachable k).foldl requestClose h).lifecycle? j = _
  rw [lifecycle?_foldl_requestClose]
  congr
  funext l
  split <;> simp_all [Lifecycle.askedIf]

private theorem frame_closeAll (k : Nat) :
    (h.closeAll k).1.events = h.events ∧ (h.closeAll k).1.groups = h.groups :=
  List.foldlRecOn (motive := fun later : Hub => later.events = h.events ∧ later.groups = h.groups)
    (h.reachable k) requestClose ⟨rfl, rfl⟩ fun _ before _ _ => before

theorem announced_closeAll (k : Nat) : (h.closeAll k).1.announced j = h.announced j :=
  announced_of_events (frame_closeAll k).1

theorem members_closeAll (k : Nat) : (h.closeAll k).1.members g = h.members g := by
  rw [members, (frame_closeAll k).2]
  rfl

/-- Whoever is asked to close with its group is held by somebody. -/
theorem isHeld_of_mem_reachable {k : Nat} (member : j ∈ h.reachable k) : h.isHeld j = true :=
  (List.mem_filter.mp member).2

end Hub

namespace CallStep

variable {h : Hub} {id j g : Nat} {l : Lifecycle} {x : CallStep}

/-! ## What a step does to the hub -/

/-- A step that enters no state and releases nobody asks the lifecycle to close at most. -/
theorem marks_of_still (still : x.enters l.state = none) (other : x ≠ .atomic .release) (asks : Bool) :
    x.marks l asks = l.askedIf asks := by
  have state : (x.marks l asks).state = l.state := marks_state still
  have released : (x.marks l asks).released = l.released := marks_released other
  simp only [marks, Lifecycle.askedIf] at state released ⊢
  rw [state, released]

theorem lifecycle?_run_self (found : h.lifecycle? id = some l) (x : CallStep) :
    (x.run id h).lifecycle? id = some (x.marks l ((x.asks id h).contains id)) := by
  cases x with
  | atomic x =>
    cases x with
    | move s =>
      simp only [run, AtomicStep.run, found]
      split
      · next follows =>
        simp [Hub.lifecycle?_modify, found, marks, enters, AtomicStep.enters, follows, asks]
      · next blocked =>
        have still : (atomic (.move s)).enters l.state = none := by simp [enters, AtomicStep.enters, blocked]
        rw [marks_of_still still (by simp)]
        simp [found, asks, Lifecycle.askedIf]
    | regroup s =>
      rw [marks_of_still rfl (by simp)]
      simp [run, AtomicStep.run, found, asks, Lifecycle.askedIf]
    | tell o s =>
      rw [marks_of_still rfl (by simp)]
      simp [run, AtomicStep.run, found, asks, Lifecycle.askedIf]
    | release =>
      simp [run, AtomicStep.run, Hub.release, Hub.lifecycle?_modify, found, marks, enters, AtomicStep.enters, asks]
    | askToClose =>
      rw [marks_of_still rfl (by simp)]
      simp [run, AtomicStep.run, Hub.lifecycle?_requestClose, found, asks, Lifecycle.askedIf]
  | react o s r =>
    rw [marks_of_still rfl (by simp)]
    cases r with
    | closeAll g =>
      simp only [run, Hub.lifecycle?_emit, Hub.lifecycle?_closeAll, found, Option.map_some, asks]
    | call | count | fail => simp [run, found, asks, Lifecycle.askedIf]
  | vanish =>
    rw [marks_of_still rfl (by simp)]
    simp [run, found, asks, Lifecycle.askedIf]

/-- What a step means to any other lifecycle. -/
theorem lifecycle?_run_of_ne (other : j ≠ id) (x : CallStep) :
    (x.run id h).lifecycle? j = (h.lifecycle? j).map fun l => l.askedIf ((x.asks id h).contains j) := by
  have apart : id ≠ j := Ne.symm other
  have same : (h.lifecycle? j).map (fun l => l.askedIf false) = h.lifecycle? j := by
    simp [Lifecycle.askedIf_false]
  cases x with
  | atomic x =>
    cases x with
    | move s =>
      simp only [run, AtomicStep.run, asks, List.contains_nil, same]
      split
      · rfl
      · split
        · rw [Hub.lifecycle?_modify, if_neg apart]
        · rfl
    | regroup | tell => simp [run, AtomicStep.run, asks, same]
    | release => simp [run, AtomicStep.run, Hub.release, Hub.lifecycle?_modify, apart, asks, same]
    | askToClose => simp [run, AtomicStep.run, Hub.lifecycle?_requestClose, apart, other, asks, same]
  | react o s r =>
    cases r with
    | closeAll g =>
      simp only [run, Hub.lifecycle?_emit, Hub.lifecycle?_closeAll, asks]
    | call | count | fail => simp [run, asks, same]
  | vanish => simp [run, asks, same]

/-- Only who is told is told. -/
theorem announced_run (x : CallStep) :
    (x.run id h).announced j = h.announced j ++ if j = id then x.notices else [] := by
  have silent : ∀ h' : Hub, h'.events = h.events →
      h'.announced j = h.announced j ++ if j = id then [] else [] := by
    intro h' same
    rw [ite_self, List.append_nil, Hub.announced_of_events same]
  cases x with
  | atomic x =>
    cases x with
    | move s =>
      refine silent _ ?_
      simp only [run, AtomicStep.run]
      split
      · rfl
      · split <;> rfl
    | regroup s => exact silent _ Hub.events_regroup
    | tell o s =>
      show (h.emit (o.stateEvent id s)).announced j = _
      rw [Hub.announced_emit]
      congr 1
      split
      · next same =>
        subst same
        exact Hub.filterMap_stateEvent j s [o]
      · next other =>
        have apart : ¬ id = j := fun same => other same.symm
        simp only [Observer.stateEvent]
        split <;> simp [stateNotice?, apart]
    | release | askToClose => exact silent _ rfl
  | react o s r =>
    cases r with
    | closeAll g =>
      show ((h.closeAll g).1.emit _).announced j = h.announced j ++ if j = id then [] else []
      rw [Hub.announced_emit, Hub.announced_closeAll, ite_self]
      rfl
    | count g =>
      show (h.emit _).announced j = h.announced j ++ if j = id then [] else []
      rw [Hub.announced_emit, ite_self]
      rfl
    | call | fail => exact silent _ rfl
  | vanish => exact silent _ rfl

/-- A step adds a lifecycle to its own group at most, when it has just been connected. -/
theorem joins_run (x : CallStep) (member : j ∈ (x.run id h).members g) : j ∈ h.members g ∨
    (j = id ∧ x = .atomic (.regroup .connected) ∧ (h.lifecycle? id).bind Lifecycle.group = some g) := by
  cases x with
  | atomic x =>
    cases x with
    | move s =>
      refine .inl ?_
      simp only [run, AtomicStep.run] at member
      split at member
      · exact member
      · split at member <;> exact member
    | regroup s =>
      cases s with
      | connected =>
        rcases Hub.mem_members_join.mp member with before | ⟨rfl, own, -⟩
        · exact .inl before
        · exact .inr ⟨rfl, rfl, own⟩
      | disposed => exact .inl (Hub.mem_members_leave.mp member).1
      | configured | disconnecting => exact .inl member
    | tell | release | askToClose => exact .inl member
  | react o s r =>
    cases r with
    | closeAll k =>
      refine .inl ?_
      rwa [run, Hub.members_emit, Hub.members_closeAll] at member
    | call | count | fail => exact .inl member
  | vanish => exact .inl member

/-- A step asks nobody else to close who is not held. -/
theorem isHeld_of_asks (other : j ≠ id) (member : j ∈ x.asks id h) : h.isHeld j = true := by
  cases x with
  | atomic x =>
    cases x with
    | askToClose => exact absurd (List.mem_singleton.mp member) other
    | _ => cases member
  | react o s r =>
    cases r with
    | closeAll k => exact Hub.isHeld_of_mem_reachable member
    | _ => cases member
  | vanish => cases member

/-- A lifecycle that leaves its group is not in it. -/
theorem leaves_run (found : h.lifecycle? id = some l) (own : l.group = some g) :
    id ∉ ((atomic (.regroup .disposed)).run id h).members g := by
  have group : (h.lifecycle? id).bind Lifecycle.group = some g := by simp [found, own]
  intro member
  exact (Hub.mem_members_leave.mp member).2 ⟨rfl, group⟩

end CallStep

/-! ## What a move means to one lifecycle -/

namespace PendingCalls

variable {a b : PendingCalls} {id : Nat} {l : Lifecycle} {x : CallStep} {rest : List CallStep} {asks : Bool}

/-- A move that is another's business. It asks the lifecycle to close at most, and only if it is held. -/
structure Aside (id : Nat) (asks : Bool) (a b : PendingCalls) : Prop where
  lifecycle : b.hub.lifecycle? id = (a.hub.lifecycle? id).map fun l => l.askedIf asks
  left : b.left id = a.left id
  told : b.hub.announced id = a.hub.announced id
  members : ∀ g, id ∈ b.hub.members g → id ∈ a.hub.members g
  asked : id ∈ b.asked ↔ id ∈ a.asked ∨ asks = true
  gone : id ∈ b.gone ↔ id ∈ a.gone
  held : asks = true → a.hub.isHeld id = true

/-- A lifecycle is created. -/
structure Creates (id : Nat) (l : Lifecycle) (a b : PendingCalls) : Prop where
  absent : a.hub.lifecycle? id = none
  present : b.hub.lifecycle? id = some l
  begins : l.state = none ∧ l.released = false ∧ l.closeRequested = false ∧ l.held = true
  left : b.left id = a.left id
  told : b.hub.announced id = a.hub.announced id
  members : ∀ g, id ∈ b.hub.members g → id ∈ a.hub.members g
  asked : b.asked = a.asked
  gone : b.gone = a.gone

/-- The call of a lifecycle does the step `x`. -/
structure Does (id : Nat) (l : Lifecycle) (x : CallStep) (rest : List CallStep) (a b : PendingCalls) : Prop where
  present : a.hub.lifecycle? id = some l
  had : a.left id = x :: rest
  lifecycle : b.hub.lifecycle? id = some (x.marks l ((x.asks id a.hub).contains id))
  left : b.left id = x.next l rest
  told : b.hub.announced id = a.hub.announced id ++ x.notices
  joins : ∀ g, id ∈ b.hub.members g →
    id ∈ a.hub.members g ∨ (x = .atomic (.regroup .connected) ∧ l.group = some g)
  leaves : ∀ g, x = .atomic (.regroup .disposed) → l.group = some g → id ∉ b.hub.members g
  asked : id ∈ b.asked ↔ id ∈ a.asked ∨ (x.asks id a.hub).contains id = true
  gone : id ∈ b.gone ↔ id ∈ a.gone ∨ x = .vanish

/-- What a move means to a lifecycle. -/
inductive Happens (id : Nat) (a b : PendingCalls) : Prop where
  | aside (asks : Bool) (aside : Aside id asks a b)
  | created (l : Lifecycle) (creates : Creates id l a b)
  | called (c : Call) (held : a.hub.isHeld id = true) (idle : a.left id = [])
      (same : b = { a with left := Function.update a.left id c.steps })
  | dropped (held : a.hub.isHeld id = true) (idle : a.left id = [])
      (same : b = { a with
        hub := a.hub.letGo id
        left := Function.update a.left id (Call.dispose.steps ++ [.vanish]) })
  | went (l : Lifecycle) (x : CallStep) (rest : List CallStep) (does : Does id l x rest a b)

theorem aside_refl (id : Nat) (a : PendingCalls) : Aside id false a a where
  lifecycle := by simp [Lifecycle.askedIf_false]
  left := rfl
  told := rfl
  members _ member := member
  asked := by simp
  gone := .rfl
  held asks := by cases asks

/-- The call of another lifecycle goes on. -/
theorem aside_go {j : Nat} (other : id ≠ j) (a : PendingCalls) : ∃ asks, Aside id asks a (a.go j) := by
  cases had : a.left j with
  | nil =>
    have still : a.go j = a := by rw [go, had]
    exact ⟨false, by rw [still]; exact aside_refl id a⟩
  | cons x rest =>
    refine ⟨(x.asks j a.hub).contains id, ?_⟩
    rw [go_cons had]
    refine ⟨CallStep.lifecycle?_run_of_ne other x, Function.update_of_ne other .., ?_, fun g member => ?_, ?_,
      ?_, fun asks => ?_⟩
    · show (x.run j a.hub).announced id = a.hub.announced id
      rw [CallStep.announced_run, if_neg other, List.append_nil]
    · exact (CallStep.joins_run x member).resolve_right fun joins => other joins.1
    · simp
    · have apart : id ∉ x.frees j := by cases x <;> simp [CallStep.frees, other]
      simp [apart]
    · exact CallStep.isHeld_of_asks other (by simpa using asks)

/-- The call of a lifecycle goes on. -/
theorem does_go (present : a.hub.lifecycle? id = some l) (had : a.left id = x :: rest) :
    Does id l x rest a (a.go id) := by
  rw [go_cons had]
  refine ⟨present, had, CallStep.lifecycle?_run_self present x, ?_, ?_, fun g member => ?_,
    fun g same own => ?_, ?_, ?_⟩
  · show Function.update a.left id _ id = _
    rw [Function.update_self, CallStep.leaves_eq present]
  · show (x.run id a.hub).announced id = _
    rw [CallStep.announced_run, if_pos rfl]
  · rcases CallStep.joins_run x member with before | ⟨-, joins, own⟩
    · exact .inl before
    · exact .inr ⟨joins, by simpa [present] using own⟩
  · subst same
    exact CallStep.leaves_run present own
  · simp
  · have frees : id ∈ x.frees id ↔ x = .vanish := by cases x <;> simp [CallStep.frees]
    simp [frees]

/-- A move after which only the hub is another, and that only asks to close. -/
theorem aside_of_hub {hub : Hub} {asked : List Nat}
    (lifecycle : hub.lifecycle? id = (a.hub.lifecycle? id).map fun l => l.askedIf (asked.contains id))
    (told : hub.announced id = a.hub.announced id) (members : ∀ g, hub.members g = a.hub.members g)
    (held : id ∈ asked → a.hub.isHeld id = true) :
    Happens id a { a with hub := hub, asked := a.asked ++ asked } := by
  refine .aside (asked.contains id) ⟨lifecycle, rfl, told, fun g member => members g ▸ member, ?_, .rfl, ?_⟩
  · simp
  · simpa using held

theorem happens_nothing (id : Nat) (a : PendingCalls) : Happens id a a := .aside false (aside_refl id a)

/-- A move after which nothing else is another than the hub, in which nothing moves. -/
theorem happens_of_hub {hub : Hub} (lifecycle : hub.lifecycle? id = a.hub.lifecycle? id)
    (told : hub.announced id = a.hub.announced id) (members : ∀ g, hub.members g = a.hub.members g) :
    Happens id a { a with hub := hub } := by
  have aside : Happens id a { a with hub := hub, asked := a.asked ++ [] } :=
    aside_of_hub (by simpa [Lifecycle.askedIf_false] using lifecycle) told members (by simp)
  simpa using aside

theorem happens_create (localEnd remoteEnd : Address.Endpoint) (observers : List Observer)
    (group : Option Nat) :
    Happens id a { a with hub := (a.hub.create localEnd remoteEnd observers group).1 } := by
  by_cases new : id = a.hub.lifecycles.length
  · refine .created _ ⟨?_, Hub.lifecycle?_create.trans (if_pos new), ⟨rfl, rfl, rfl, rfl⟩, rfl, rfl,
      fun _ member => member, rfl, rfl⟩
    rw [new]
    exact List.getElem?_eq_none (Nat.le_refl _)
  · exact happens_of_hub (Hub.lifecycle?_create.trans (if_neg new)) rfl fun _ => rfl

theorem happens_ask {k : Nat} (held : a.hub.isHeld k = true) :
    Happens id a { a with hub := a.hub.requestClose k, asked := a.asked ++ [k] } := by
  refine aside_of_hub ?_ rfl (fun _ => rfl) fun member => List.mem_singleton.mp member ▸ held
  rw [Hub.lifecycle?_requestClose]
  by_cases same : k = id
  · subst same
    simp [Lifecycle.askedIf]
  · have apart : ¬ id = k := fun equal => same equal.symm
    simp [same, apart, Lifecycle.askedIf_false]

theorem happens_askAll (g : Nat) :
    Happens id a { a with hub := (a.hub.closeAll g).1, asked := a.asked ++ a.hub.reachable g } :=
  aside_of_hub (Hub.lifecycle?_closeAll g) (Hub.announced_closeAll g) (fun _ => Hub.members_closeAll g)
    Hub.isHeld_of_mem_reachable

theorem happens_report {k : Nat} {n : Notice} (other : ∀ s, n ≠ .state s) :
    Happens id a { a with hub := a.hub.report k n } :=
  happens_of_hub Hub.lifecycle?_report (Hub.announced_report other) fun _ => Hub.members_report

/-- Another lifecycle is called, or given up. -/
theorem happens_elsewhere {k : Nat} (other : id ≠ k) {hub : Hub} (w : List CallStep)
    (lifecycle : hub.lifecycle? id = a.hub.lifecycle? id) (told : hub.announced id = a.hub.announced id)
    (members : ∀ g, hub.members g = a.hub.members g) :
    Happens id a { a with hub := hub, left := Function.update a.left k w } := by
  refine .aside false ⟨?_, Function.update_of_ne other .., told, fun g member => members g ▸ member, ?_,
    .rfl, fun asks => by cases asks⟩
  · simpa [Lifecycle.askedIf_false] using lifecycle
  · simp

/-- What a move means to a lifecycle is one of five things. -/
theorem happens (id : Nat) (unborn : a.hub.lifecycle? id = none → a.left id = []) (m : Move) :
    Happens id a (a.step m) := by
  cases m with
  | newGroup => exact happens_of_hub rfl rfl fun _ => Hub.members_newGroup
  | create localEnd remoteEnd observers group =>
    simp only [step]
    split
    · exact happens_create localEnd remoteEnd observers group
    · exact happens_nothing id a
  | call k c =>
    simp only [step]
    split
    · next free =>
      simp only [Bool.and_eq_true, List.isEmpty_iff] at free
      by_cases own : id = k
      · subst own
        exact .called c free.1 free.2 rfl
      · exact happens_elsewhere own _ rfl rfl fun _ => rfl
    · exact happens_nothing id a
  | ask k =>
    simp only [step]
    split
    · next held => exact happens_ask held
    · exact happens_nothing id a
  | askAll g => exact happens_askAll g
  | reportError k e =>
    simp only [step]
    split
    · exact happens_report fun s same => by cases same
    · exact happens_nothing id a
  | reportCompletion k c =>
    simp only [step]
    split
    · exact happens_report fun s same => by cases same
    · exact happens_nothing id a
  | drop k =>
    simp only [step]
    split
    · next free =>
      simp only [Bool.and_eq_true, List.isEmpty_iff] at free
      by_cases own : id = k
      · subst own
        exact .dropped free.1 free.2 rfl
      · exact happens_elsewhere own _ (Hub.lifecycle?_letGo.trans (if_neg (Ne.symm own))) rfl fun _ => rfl
    · exact happens_nothing id a
  | go k =>
    by_cases own : id = k
    · subst own
      cases had : a.left id with
      | nil =>
        have still : a.step (.go id) = a := by rw [step, go, had]
        rw [still]
        exact happens_nothing id a
      | cons x rest =>
        cases present : a.hub.lifecycle? id with
        | none => cases had.symm.trans (unborn present)
        | some l => exact .went l x rest (does_go present had)
    · obtain ⟨asks, aside⟩ := aside_go own a
      exact .aside asks aside

/-! ## What is known of a lifecycle -/

/-- A lifecycle with what is left to do for it. -/
structure Sound (a : PendingCalls) (id : Nat) (l : Lifecycle) : Prop where
  phase : Phase l (a.left id) (a.hub.announced id)
  known : ∀ x ∈ a.left id, x.Known l.observers
  lined : Lined l (a.left id)
  placed : Placed l (a.left id) fun g => id ∈ a.hub.members g
  holding : Holding l (a.left id) (id ∈ a.gone)
  asked : l.closeRequested = true ↔ id ∈ a.asked

/-- A number that no lifecycle has so far. -/
structure Unborn (a : PendingCalls) (id : Nat) : Prop where
  left : a.left id = []
  told : a.hub.announced id = []
  members : ∀ g, id ∉ a.hub.members g
  asked : id ∉ a.asked
  gone : id ∉ a.gone

/-- All lifecycles are sound. -/
structure Regular (a : PendingCalls) : Prop where
  unborn : ∀ {id}, a.hub.lifecycle? id = none → a.Unborn id
  sound : ∀ {id l}, a.hub.lifecycle? id = some l → a.Sound id l

theorem Sound.aside (sound : a.Sound id l) (aside : Aside id asks a b) : b.Sound id (l.askedIf asks) where
  phase := aside.left ▸ aside.told ▸ sound.phase.congr rfl rfl rfl
  known := aside.left ▸ sound.known
  lined := aside.left ▸ sound.lined.congr rfl
  placed g member := aside.left ▸ sound.placed g (aside.members g member)
  holding := aside.left ▸ sound.holding.congr aside.gone rfl rfl rfl
  asked := by simp [Lifecycle.askedIf, aside.asked, sound.asked]

theorem Sound.created (unborn : a.Unborn id) (creates : Creates id l a b) : b.Sound id l := by
  obtain ⟨state, released, closeRequested, held⟩ := creates.begins
  have left : b.left id = [] := creates.left.trans unborn.left
  have told : b.hub.announced id = [] := creates.told.trans unborn.told
  have apart : ∀ g, id ∉ b.hub.members g := fun g member => unborn.members g (creates.members g member)
  refine ⟨?_, ?_, ?_, fun g member => absurd member (apart g), ?_, ?_⟩
  · rw [left, told]
    exact .ahead (by simp [state]) released (fun x member => by cases member) rfl
  · simp [left]
  · rw [left]
    trivial
  · rw [left]
    refine .held held ?_ List.not_mem_nil
    rw [creates.gone]
    exact unborn.gone
  · simp [closeRequested, creates.asked, unborn.asked]

theorem Sound.called (sound : a.Sound id l) (idle : a.left id = []) (holds : l.held = true) (c : Call) :
    Sound { a with left := Function.update a.left id c.steps } id l := by
  have begun : Function.update a.left id c.steps id = c.steps := Function.update_self ..
  obtain ⟨phase, -, -, placed, holding, asked⟩ := sound
  rw [idle] at phase placed
  refine ⟨?_, ?_, ?_, ?_, ?_, asked⟩ <;> simp only [begun]
  · exact phase.begin (CallStep.clean_steps c)
  · exact CallStep.known_steps c
  · exact lined_of_plain (CallStep.plain_steps c)
  · exact placed.begin
  · exact .held holds (holding.there_of_held holds) (CallStep.vanish_not_mem_steps c)

theorem Sound.dropped (sound : a.Sound id l) (idle : a.left id = []) (holds : l.held = true) :
    Sound { a with
      hub := a.hub.letGo id
      left := Function.update a.left id (Call.dispose.steps ++ [.vanish]) } id { l with held := false } := by
  have begun : Function.update a.left id (Call.dispose.steps ++ [.vanish]) id =
      Call.dispose.steps ++ [.vanish] := Function.update_self ..
  obtain ⟨phase, -, -, placed, holding, asked⟩ := sound
  rw [idle] at phase placed
  have loose : Phase { l with held := false } [] (a.hub.announced id) := phase.congr rfl rfl rfl
  refine ⟨?_, ?_, ?_, ?_, ?_, asked⟩ <;> simp only [begun]
  · refine loose.begin ?_
    exact List.forall_mem_append.mpr ⟨CallStep.clean_steps .dispose, by simp [CallStep.ends]⟩
  · exact List.forall_mem_append.mpr ⟨CallStep.known_steps .dispose, by simp [CallStep.Known]⟩
  · exact lined_of_plain (List.forall_mem_append.mpr
      ⟨CallStep.plain_steps .dispose, by simp [CallStep.isRegroup]⟩)
  · exact Placed.begin placed
  · exact .drop (holding.there_of_held holds) rfl

theorem Sound.went (sound : a.Sound id l) (does : Does id l x rest a b) :
    b.Sound id (x.marks l ((x.asks id a.hub).contains id)) := by
  obtain ⟨phase, known, lined, placed, holding, asked⟩ := sound
  rw [does.had] at phase known lined placed holding
  have own := known x List.mem_cons_self
  refine ⟨?_, ?_, ?_, ?_, ?_, ?_⟩
  · rw [does.left, does.told]
    exact phase.step own
  · rw [does.left]
    exact CallStep.known_next known
  · rw [does.left]
    exact lined.step
  · rw [does.left]
    exact placed.step lined does.joins does.leaves
  · rw [does.left]
    exact holding.step own does.gone
  · simp [CallStep.marks, does.asked, asked]

theorem Unborn.aside (unborn : a.Unborn id) (absent : a.hub.lifecycle? id = none) (aside : Aside id asks a b) :
    b.Unborn id where
  left := aside.left.trans unborn.left
  told := aside.told.trans unborn.told
  members g member := unborn.members g (aside.members g member)
  asked member := by
    rcases aside.asked.mp member with before | asks
    · exact unborn.asked before
    · obtain ⟨l, present, -⟩ := Hub.isHeld_iff.mp (aside.held asks)
      rw [absent] at present
      cases present
  gone member := unborn.gone (aside.gone.mp member)

/-- Every move keeps all lifecycles sound. -/
theorem Regular.step (regular : a.Regular) (m : Move) : (a.step m).Regular := by
  refine ⟨fun {id} absent => ?_, fun {id l'} present => ?_⟩
  · cases happens id (fun absent => (regular.unborn absent).left) m with
    | aside asks aside =>
      have before : a.hub.lifecycle? id = none := by simpa [aside.lifecycle] using absent
      exact (regular.unborn before).aside before aside
    | created l creates => cases creates.present.symm.trans absent
    | called c held idle same =>
      obtain ⟨l, present, -⟩ := Hub.isHeld_iff.mp held
      rw [same] at absent
      cases present.symm.trans absent
    | dropped held idle same =>
      obtain ⟨l, present, -⟩ := Hub.isHeld_iff.mp held
      rw [same] at absent
      simp [Hub.lifecycle?_letGo, present] at absent
    | went l x rest does => cases does.lifecycle.symm.trans absent
  · cases happens id (fun absent => (regular.unborn absent).left) m with
    | aside asks aside =>
      obtain ⟨l, before, rfl⟩ := Option.map_eq_some_iff.mp (aside.lifecycle.symm.trans present)
      exact (regular.sound before).aside aside
    | created l creates =>
      obtain rfl := Option.some.inj (creates.present.symm.trans present)
      exact .created (regular.unborn creates.absent) creates
    | called c held idle same =>
      rw [same] at present ⊢
      obtain ⟨l, before, holds⟩ := Hub.isHeld_iff.mp held
      obtain rfl := Option.some.inj (before.symm.trans present)
      exact (regular.sound before).called idle holds c
    | dropped held idle same =>
      rw [same] at present ⊢
      obtain ⟨l, before, holds⟩ := Hub.isHeld_iff.mp held
      simp only [Hub.lifecycle?_letGo, if_true, before, Option.map_some, Option.some.injEq] at present
      subst present
      exact (regular.sound before).dropped idle holds
    | went l x rest does =>
      obtain rfl := Option.some.inj (does.lifecycle.symm.trans present)
      exact (regular.sound does.present).went does

theorem regular_empty : Regular {} where
  unborn _ := ⟨rfl, rfl, fun g member => by simp [Hub.members] at member, List.not_mem_nil, List.not_mem_nil⟩
  sound present := by simp [Hub.lifecycle?] at present

/-- Whatever happens, in whatever order: all lifecycles are sound. -/
theorem Regular.run (regular : a.Regular) (moves : List Move) : (a.run moves).Regular :=
  List.foldlRecOn (motive := Regular) moves PendingCalls.step regular fun _ before m _ => before.step m

end PendingCalls

end StreamHost.Connection
