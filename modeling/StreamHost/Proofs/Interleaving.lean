import StreamHost.Proofs.StateCourse

/-!
Several tasks at work on one lifecycle. An operation is made of steps: the lifecycle moves, it joins or
leaves its group, and each observer is told on its own. Between two steps of one task others may do theirs.

Whatever the order of the steps, states are entered in their order, and each state is told once to each
observer, by the one task that entered it. But that a state was entered does not mean that it was told: a
later state may be entered, and told, before the work for an earlier one is done. Where this does not happen
observers hear of states in their order, and a connection at its end is not in its group.
-/

namespace StreamHost.Connection

/-- One step of an operation on a lifecycle. -/
inductive AtomicStep where
  /-- The lifecycle moves to a state, if that state may follow. Whoever moved it has to do what comes
  after. -/
  | move (s : State)
  /-- It joins or leaves its group, as a state asks. -/
  | regroup (s : State)
  | tell (o : Observer) (s : State)
  /-- Those who wait for the end are released. -/
  | release
  | askToClose

/-- What has to be done when a state was entered. -/
def State.aftermath (os : List Observer) (s : State) : List AtomicStep :=
  .regroup s :: ((os.map fun o => .tell o s) ++ if s = .disposed then [.release] else [])

/-- The steps of an operation. -/
def Call.atomicSteps : Call → List AtomicStep
  | .connected => [.move .connected]
  | .configured => [.move .configured]
  | .disconnecting => [.move .disconnecting]
  | .dispose => [.move .disconnecting, .move .disposed]
  | .requestClose => [.askToClose]

namespace AtomicStep

/-- What one step does to the lifecycle `id`, and what has to be done next. -/
def run (id : Nat) (h : Hub) : AtomicStep → Hub × List AtomicStep
  | move s =>
    match h.lifecycle? id with
    | none => (h, [])
    | some l =>
      if State.mayFollow l.state s then
        (h.modify id fun l => { l with state := some s }, s.aftermath l.observers)
      else (h, [])
  | regroup s => (h.regroup id ((h.lifecycle? id).bind Lifecycle.group) s, [])
  | tell o s => (h.emit (o.stateEvent id s), [])
  | release => (h.release id, [])
  | askToClose => (h.requestClose id, [])

/-- Whether a step is part of what has to be done for a state that was entered. -/
def concerns (s : State) : AtomicStep → Bool
  | regroup t | tell _ t => t == s
  | _ => false

/-- The state that a step enters. -/
def enters (last : Option State) : AtomicStep → Option State
  | move s => if State.mayFollow last s then some s else none
  | _ => none

/-- Who is told of which state. -/
def notices : AtomicStep → List (String × State)
  | tell o s => [(o.name, s)]
  | _ => []

end AtomicStep

/-- Tasks at work on one lifecycle, with the steps that each has to do. -/
structure CallTasks where
  hub : Hub
  tasks : List (List AtomicStep)

namespace CallTasks

/-- Tasks that are about to make their calls, one after the other. -/
def start (h : Hub) (calls : List (List Call)) : CallTasks := ⟨h, calls.map fun cs => cs.flatMap Call.atomicSteps⟩

/-- A task does its next step. -/
def step (id : Nat) (c : CallTasks) (i : Nat) : CallTasks :=
  match c.tasks[i]? with
  | some (x :: rest) =>
    let (hub, next) := x.run id c.hub
    ⟨hub, c.tasks.set i (next ++ rest)⟩
  | _ => c

/-- Tasks take turns as a schedule says. -/
def run (id : Nat) (c : CallTasks) (schedule : List Nat) : CallTasks := schedule.foldl (step id) c

/-- All calls have returned. -/
def IsIdle (c : CallTasks) : Prop := ∀ w ∈ c.tasks, w = []

instance (c : CallTasks) : Decidable c.IsIdle := inferInstanceAs (Decidable (∀ w ∈ c.tasks, w = []))

/-- Whether something is left to do for a state. -/
def owes (s : State) (c : CallTasks) : Bool := c.tasks.any fun w => w.any (AtomicStep.concerns s)

/-- Whether somewhere in a schedule `t` is entered while something is left to do for `s`. -/
def overtakes (id : Nat) (s t : State) : CallTasks → List Nat → Bool
  | _, [] => false
  | c, i :: rest =>
    (c.hub.state? id != some t && (c.step id i).hub.state? id == some t && c.owes s) ||
      overtakes id s t (c.step id i) rest

end CallTasks

/-- Who was told of a state, in order. -/
def hearers (s : State) (told : List (String × State)) : List String :=
  (told.filter fun n => n.2 == s).map Prod.fst

/-! ## One step -/

section

variable {h past : Hub} {id i : Nat} {os : List Observer} {group : Option Nat} {s t : State} {x : AtomicStep}
  {rest : List AtomicStep} {c c' : CallTasks}

@[simp] theorem hearers_append (told more : List (String × State)) :
    hearers s (told ++ more) = hearers s told ++ hearers s more := by
  simp [hearers]

theorem hearers_of_unheard {told : List (String × State)} (unheard : ∀ n ∈ told, n.2 ≠ s) :
    hearers s told = [] := by
  simp only [hearers, List.map_eq_nil_iff]
  exact List.filter_eq_nil_iff.mpr fun n member => by simpa using unheard n member

/-- A step for another state tells nobody of this one. -/
theorem AtomicStep.unheard (other : x.concerns s = false) : ∀ n ∈ x.notices, n.2 ≠ s := by
  intro n member
  cases x with
  | tell o u =>
    obtain rfl := List.mem_singleton.mp member
    simpa [AtomicStep.concerns] using other
  | move | regroup | release | askToClose => cases member

theorem hearers_of_not_concerns {w : List AtomicStep} (other : ∀ x ∈ w, x.concerns s = false) :
    hearers s (w.flatMap AtomicStep.notices) = [] := by
  refine hearers_of_unheard fun n member => ?_
  obtain ⟨x, inside, told⟩ := List.mem_flatMap.mp member
  exact AtomicStep.unheard (other x inside) n told

theorem AtomicStep.enters_eq_some {last : Option State} :
    x.enters last = some t ↔ x = .move t ∧ State.mayFollow last t = true := by
  cases x with
  | move u =>
    simp only [enters, AtomicStep.move.injEq]
    split
    · rename_i follows
      simp only [Option.some.injEq]
      constructor
      · rintro rfl
        exact ⟨rfl, follows⟩
      · exact fun same => same.1
    · rename_i blocked
      simp only [reduceCtorEq, false_iff, not_and]
      rintro rfl
      exact blocked
  | regroup | tell | release | askToClose => simp [enters]

theorem concerns_of_mem_aftermath (member : x ∈ t.aftermath os) (other : t ≠ s) :
    x.concerns s = false := by
  rcases List.mem_cons.mp member with rfl | member
  · simpa [AtomicStep.concerns] using other
  · rcases List.mem_append.mp member with told | ends
    · obtain ⟨o, -, rfl⟩ := List.mem_map.mp told
      simpa [AtomicStep.concerns] using other
    · split at ends
      · obtain rfl := List.mem_singleton.mp ends
        rfl
      · cases ends

/-- For a state that was entered all observers are to be told, in order. -/
theorem hearers_aftermath (s : State) (os : List Observer) :
    hearers s ((s.aftermath os).flatMap AtomicStep.notices) = os.map Observer.name := by
  have told : hearers s ((os.map fun o => AtomicStep.tell o s).flatMap AtomicStep.notices) =
      os.map Observer.name := by
    induction os with
    | nil => rfl
    | cons o os ih =>
      rw [List.map_cons, List.flatMap_cons, hearers_append, ih]
      simp [AtomicStep.notices, hearers]
  have ends : hearers s ((if s = .disposed then [AtomicStep.release] else []).flatMap AtomicStep.notices) = [] :=
    hearers_of_not_concerns fun x member => by
      split at member
      · obtain rfl := List.mem_singleton.mp member
        rfl
      · cases member
  rw [State.aftermath, List.flatMap_cons, List.flatMap_append, hearers_append, hearers_append, told, ends]
  simp [AtomicStep.notices, hearers]

/-- The lifecycle with its observers and its group, and the events since some past. -/
structure CallTasks.Attends (past : Hub) (id : Nat) (os : List Observer) (group : Option Nat) (c : CallTasks) :
    Prop where
  lifecycle : ∃ l, c.hub.lifecycle? id = some l ∧ l.observers = os ∧ l.group = group
  events : past.events <+: c.hub.events

/-- What one step does when it is the turn of task `i`, which has `x` to do. -/
structure CallTasks.Does (past : Hub) (id : Nat) (os : List Observer) (group : Option Nat) (i : Nat)
    (x : AtomicStep) (rest : List AtomicStep) (c c' : CallTasks) : Prop where
  attends : c'.Attends past id os group
  had : c.tasks[i]? = some (x :: rest)
  tasks : c'.tasks = c.tasks.set i ((x.enters (c.hub.state? id)).elim [] (State.aftermath os) ++ rest)
  state : c'.hub.state? id = (x.enters (c.hub.state? id)).or (c.hub.state? id)
  told : past.toldSince c'.hub id = past.toldSince c.hub id ++ x.notices
  joins : ∀ g, id ∈ c'.hub.members g → id ∈ c.hub.members g ∨ x = .regroup .connected
  leaves : ∀ g, group = some g → x = .regroup .disposed → id ∉ c'.hub.members g

theorem toldSince_of_append {h' : Hub} (since : past.events <+: h.events) {es : List Event}
    (shown : h'.events = h.events ++ es) (id : Nat) :
    past.toldSince h' id = past.toldSince h id ++ es.filterMap (stateNotice? id) := by
  simp only [Hub.toldSince, shown, List.drop_append_of_le_length since.length_le, List.filterMap_append]

/-- The tasks when number `i` has done `x` and has `rest` left. -/
def CallTasks.after (id : Nat) (c : CallTasks) (i : Nat) (x : AtomicStep) (rest : List AtomicStep) : CallTasks :=
  ⟨(x.run id c.hub).1, c.tasks.set i ((x.run id c.hub).2 ++ rest)⟩

section

variable (attends : c.Attends past id os group) (had : c.tasks[i]? = some (x :: rest))
include attends had

/-- A step that marks the lifecycle at most, where neither its state nor who belongs to it is at stake. -/
theorem CallTasks.does_mark {f : Lifecycle → Lifecycle} (run : x.run id c.hub = (c.hub.modify id f, []))
    (same : ∀ l, (f l).observers = l.observers ∧ (f l).group = l.group ∧ (f l).state = l.state)
    (enters : x.enters (c.hub.state? id) = none) (notices : x.notices = [])
    (elsewhere : ∀ s, x ≠ .regroup s) : c.Does past id os group i x rest (c.after id i x rest) := by
  obtain ⟨⟨l, found, observers, own⟩, since⟩ := attends
  have marked : (c.hub.modify id f).lifecycle? id = some (f l) := by
    rw [Hub.lifecycle?_modify, if_pos rfl, found]
    rfl
  unfold after
  rw [run]
  refine ⟨⟨⟨f l, marked, (same l).1.trans observers, (same l).2.1.trans own⟩, since⟩, had, ?_, ?_, ?_,
    fun g => .inl, fun g _ regroups => absurd regroups (elsewhere _)⟩
  · rw [enters]
    rfl
  · rw [enters]
    simp [Hub.state?, marked, found, (same l).2.2]
  · rw [notices]
    exact (List.append_nil _).symm

/-- A move to a state that may follow. -/
theorem CallTasks.does_enter (move : x = .move s) (follows : State.mayFollow (c.hub.state? id) s = true) :
    c.Does past id os group i x rest (c.after id i x rest) := by
  subst move
  obtain ⟨⟨l, found, rfl, rfl⟩, since⟩ := attends
  have state : c.hub.state? id = l.state := by simp [Hub.state?, found]
  have run : (AtomicStep.move s).run id c.hub =
      (c.hub.modify id fun l => { l with state := some s }, s.aftermath l.observers) := by
    simp [AtomicStep.run, found, ← state, follows]
  have enters : (AtomicStep.move s).enters (c.hub.state? id) = some s := if_pos follows
  unfold after
  rw [run]
  refine ⟨⟨⟨{ l with state := some s }, ?_, rfl, rfl⟩, since⟩, had, ?_, ?_, ?_, fun g => .inl,
    fun g _ same => by cases same⟩
  · simp [Hub.lifecycle?_modify, found]
  · rw [enters]
    rfl
  · rw [enters]
    simp [Hub.state?, Hub.lifecycle?_modify, found]
  · exact (List.append_nil _).symm

/-- A move to another state changes nothing. -/
theorem CallTasks.does_nothing (move : x = .move s) (blocked : State.mayFollow (c.hub.state? id) s = false) :
    c.Does past id os group i x rest (c.after id i x rest) := by
  subst move
  have still : (AtomicStep.move s).enters (c.hub.state? id) = none := by simp [AtomicStep.enters, blocked]
  obtain ⟨⟨l, found, rfl, rfl⟩, since⟩ := attends
  have state : c.hub.state? id = l.state := by simp [Hub.state?, found]
  have run : (AtomicStep.move s).run id c.hub = (c.hub, []) := by
    simp [AtomicStep.run, found, ← state, blocked]
  unfold after
  rw [run]
  refine ⟨⟨⟨l, found, rfl, rfl⟩, since⟩, had, ?_, ?_, (List.append_nil _).symm, fun g => .inl,
    fun g _ same => by cases same⟩
  · rw [still]
    rfl
  · rw [still]
    rfl

theorem CallTasks.does_regroup (regroups : x = .regroup s) :
    c.Does past id os group i x rest (c.after id i x rest) := by
  subst regroups
  obtain ⟨⟨l, found, rfl, rfl⟩, since⟩ := attends
  have group : (c.hub.lifecycle? id).bind Lifecycle.group = l.group := by simp [found]
  unfold after
  simp only [AtomicStep.run, group]
  refine ⟨⟨⟨l, by simpa using found, rfl, rfl⟩, by simpa using since⟩, had, rfl, ?_, ?_, ?_, ?_⟩
  · simp [Hub.state?, AtomicStep.enters]
  · simp [Hub.toldSince, AtomicStep.notices]
  · intro g member
    cases s with
    | connected => exact .inr rfl
    | disposed => exact .inl (Hub.mem_members_leave.mp member).1
    | configured | disconnecting => exact .inl member
  · rintro g joined same
    obtain rfl : s = .disposed := AtomicStep.regroup.inj same
    exact fun member => (Hub.mem_members_leave.mp member).2 ⟨rfl, joined⟩

theorem CallTasks.does_tell {o : Observer} (tells : x = .tell o s) :
    c.Does past id os group i x rest (c.after id i x rest) := by
  subst tells
  obtain ⟨⟨l, found, rfl, rfl⟩, since⟩ := attends
  refine ⟨⟨⟨l, found, rfl, rfl⟩, since.trans (List.prefix_append _ _)⟩, had, rfl, rfl, ?_, fun g => .inl,
    fun g _ same => by cases same⟩
  have shown : (c.hub.emit (o.stateEvent id s)).events = c.hub.events ++ [o.stateEvent id s] := rfl
  have told := toldSince_of_append since shown id
  have heard := Hub.filterMap_stateEvent id s [o]
  exact told.trans (congrArg _ heard)

end

/-- It is a task's turn: it has nothing to do, or does its next step. -/
theorem CallTasks.step_cases (attends : c.Attends past id os group) (i : Nat) :
    c.step id i = c ∨ ∃ x rest, c.Does past id os group i x rest (c.step id i) := by
  unfold CallTasks.step
  split
  · rename_i x rest had
    refine .inr ⟨x, rest, ?_⟩
    cases x with
    | move s =>
      cases follows : State.mayFollow (c.hub.state? id) s with
      | true => exact does_enter attends had rfl follows
      | false => exact does_nothing attends had rfl follows
    | regroup s => exact does_regroup attends had rfl
    | tell o s => exact does_tell attends had rfl
    | release | askToClose =>
      exact does_mark attends had rfl (fun _ => ⟨rfl, rfl, rfl⟩) rfl rfl (by simp)
  · exact .inl rfl

namespace CallTasks

/-! ## Each state is told once -/

/-- What task `j` has to do. -/
def work (c : CallTasks) (j : Nat) : List AtomicStep := c.tasks.getD j []

theorem Does.work_before (does : c.Does past id os group i x rest c') : c.work i = x :: rest := by
  simp [work, does.had]

theorem Does.work_after (does : c.Does past id os group i x rest c') (j : Nat) :
    c'.work j =
      if j = i then (x.enters (c.hub.state? id)).elim [] (State.aftermath os) ++ rest else c.work j := by
  have inside : i < c.tasks.length := (List.getElem?_eq_some_iff.mp does.had).1
  simp only [work, does.tasks, List.getD_eq_getElem?_getD, List.getElem?_set]
  by_cases same : i = j
  · subst same
    simp [inside]
  · rw [if_neg same, if_neg fun eq => same eq.symm]

/-- No step of a list is for a state. -/
def Spared (s : State) (w : List AtomicStep) : Prop := ∀ x ∈ w, x.concerns s = false

/-- A task gets something to do for a state only when it enters that state. -/
theorem Does.spared (does : c.Does past id os group i x rest c')
    (other : x.enters (c.hub.state? id) ≠ some s) {j : Nat} (free : Spared s (c.work j)) :
    Spared s (c'.work j) := by
  rw [does.work_after]
  split
  · rename_i same
    rw [same, does.work_before] at free
    intro y member
    rcases List.mem_append.mp member with new | old
    · cases entering : x.enters (c.hub.state? id) with
      | none =>
        rw [entering] at new
        cases new
      | some u =>
        rw [entering] at new
        exact concerns_of_mem_aftermath new fun same => other (by rw [entering, same])
    · exact free y (List.mem_cons_of_mem _ old)
  · exact free

/-- What a step tells of a state is told by a task that has that state to tell. -/
theorem Does.unheard (does : c.Does past id os group i x rest c') (free : Spared s (c.work i)) :
    ∀ n ∈ x.notices, n.2 ≠ s := by
  rw [does.work_before] at free
  exact AtomicStep.unheard (free x List.mem_cons_self)

/-- The states that were entered are `states`. Nothing was told of any other state, and nobody has anything
to do for one; of each state that was entered some task has told the first observers and has the others
still to tell. -/
structure Told (names : List String) (states : List State) (told : List (String × State)) (c : CallTasks) :
    Prop where
  rising : states.Pairwise (· < ·)
  unentered : ∀ s, s ∉ states → hearers s told = [] ∧ ∀ j, Spared s (c.work j)
  entered : ∀ s ∈ states, ∃ i, (∀ j, j ≠ i → Spared s (c.work j)) ∧
    hearers s (told ++ (c.work i).flatMap AtomicStep.notices) = names

/-- A state that may follow comes after all that were entered. -/
theorem rising_concat {states : List State} (rising : states.Pairwise (· < ·))
    (follows : State.mayFollow states.getLast? s = true) : (states ++ [s]).Pairwise (· < ·) := by
  refine List.pairwise_append.mpr ⟨rising, List.pairwise_singleton _ _, ?_⟩
  intro t member u last
  obtain rfl := List.mem_singleton.mp last
  cases ending : states.getLast? with
  | none =>
    rw [List.getLast?_eq_none_iff.mp ending] at member
    cases member
  | some final =>
    have late : final < u := State.mayFollow_some.mp (ending ▸ follows)
    obtain ⟨early, rfl⟩ := List.getLast?_eq_some_iff.mp ending
    rcases List.mem_append.mp member with before | now
    · have lower : t < final := (List.pairwise_append.mp rising).2.2 t before final (by simp)
      exact Nat.lt_trans lower late
    · obtain rfl := List.mem_singleton.mp now
      exact late

/-- A step that enters nothing takes over what it tells from what was still to be told. -/
theorem Told.stay {names : List String} {states : List State} {told : List (String × State)}
    (kept : c.Told names states told) (does : c.Does past id os group i x rest c')
    (stays : x.enters (c.hub.state? id) = none) : c'.Told names states (told ++ x.notices) := by
  have after : ∀ j, c'.work j = if j = i then rest else c.work j := by
    intro j
    rw [does.work_after, stays]
    rfl
  have spared : ∀ s j, Spared s (c.work j) → Spared s (c'.work j) := fun s j free =>
    does.spared (by simp [stays]) free
  have quiet : ∀ s, Spared s (c.work i) → hearers s x.notices = [] := fun s free =>
    hearers_of_unheard (does.unheard free)
  refine ⟨kept.rising, fun s absent => ?_, fun s present => ?_⟩
  · obtain ⟨none, free⟩ := kept.unentered s absent
    refine ⟨?_, fun j => spared s j (free j)⟩
    rw [hearers_append, none, quiet s (free i)]
    rfl
  · obtain ⟨k, others, all⟩ := kept.entered s present
    refine ⟨k, fun j away => spared s j (others j away), ?_⟩
    rw [after]
    by_cases own : k = i
    · rw [own, does.work_before] at all
      rw [if_pos own]
      simpa using all
    · rw [if_neg own, hearers_append, hearers_append, quiet s (others i fun eq => own eq.symm)]
      simpa using all

/-- A task that enters a state has all observers to tell of it. -/
theorem Told.enter {states : List State} {told : List (String × State)}
    (kept : c.Told (os.map Observer.name) states told) (does : c.Does past id os group i x rest c')
    (enters : x.enters (c.hub.state? id) = some t)
    (follows : State.mayFollow states.getLast? t = true) :
    c'.Told (os.map Observer.name) (states ++ [t]) told := by
  have rising := rising_concat kept.rising follows
  have fresh : t ∉ states := fun member =>
    Nat.lt_irrefl _ ((List.pairwise_append.mp rising).2.2 t member t (by simp))
  have after : ∀ j, c'.work j = if j = i then t.aftermath os ++ rest else c.work j := by
    intro j
    rw [does.work_after, enters]
    rfl
  have remains : ∀ s, Spared s (c.work i) → Spared s rest := by
    intro s free
    rw [does.work_before] at free
    exact fun y member => free y (List.mem_cons_of_mem _ member)
  have spared : ∀ s j, t ≠ s → Spared s (c.work j) → Spared s (c'.work j) := fun s j other free =>
    does.spared (by simpa [enters] using other) free
  have silent : x.notices = [] := by
    cases x with
    | move => rfl
    | regroup | tell | release | askToClose => cases enters
  refine ⟨rising, fun s absent => ?_, fun s present => ?_⟩
  · obtain ⟨none, free⟩ := kept.unentered s fun member => absent (List.mem_append_left _ member)
    have other : t ≠ s := fun same => absent (by simp [same])
    exact ⟨none, fun j => spared s j other (free j)⟩
  · rcases List.mem_append.mp present with before | now
    · obtain ⟨k, others, all⟩ := kept.entered s before
      have other : t ≠ s := fun same => fresh (same ▸ before)
      refine ⟨k, fun j away => spared s j other (others j away), ?_⟩
      rw [after]
      by_cases own : k = i
      · rw [own, does.work_before, List.flatMap_cons, silent] at all
        have none := hearers_of_not_concerns (s := s) (w := t.aftermath os)
          fun y member => concerns_of_mem_aftermath member other
        rw [if_pos own, List.flatMap_append, hearers_append, hearers_append, none]
        simpa using all
      · rw [if_neg own]
        exact all
    · obtain rfl := List.mem_singleton.mp now
      obtain ⟨none, free⟩ := kept.unentered s fresh
      refine ⟨i, fun j away => ?_, ?_⟩
      · rw [after, if_neg away]
        exact free j
      · rw [after, if_pos rfl, hearers_append, none, List.flatMap_append, hearers_append,
          hearers_aftermath, hearers_of_not_concerns (remains s (free i))]
        simp

/-- Tasks at work: the states `states` were entered, and the last of them is the state of the lifecycle. -/
structure Sound (past : Hub) (id : Nat) (os : List Observer) (group : Option Nat) (states : List State)
    (c : CallTasks) : Prop where
  attends : c.Attends past id os group
  told : c.Told (os.map Observer.name) states (past.toldSince c.hub id)
  state : states.getLast? = c.hub.state? id

theorem Sound.step {states : List State} (sound : c.Sound past id os group states) (i : Nat) :
    ∃ states', (c.step id i).Sound past id os group states' := by
  rcases step_cases sound.attends i with same | ⟨x, rest, does⟩
  · exact ⟨states, same.symm ▸ sound⟩
  · have told := does.told
    have state := does.state
    cases entering : x.enters (c.hub.state? id) with
    | none =>
      have kept := sound.told.stay does entering
      rw [entering, Option.none_or] at state
      exact ⟨states, does.attends, told ▸ kept, sound.state.trans state.symm⟩
    | some t =>
      obtain ⟨rfl, follows⟩ := AtomicStep.enters_eq_some.mp entering
      have kept := sound.told.enter does entering (sound.state.symm ▸ follows)
      rw [entering, Option.some_or] at state
      have told : past.toldSince (c.step id i).hub id = past.toldSince c.hub id :=
        told.trans (List.append_nil _)
      exact ⟨states ++ [t], does.attends, told ▸ kept, by rw [List.getLast?_concat, state]⟩

theorem Sound.run {states : List State} (sound : c.Sound past id os group states)
    (schedule : List Nat) : ∃ states', (c.run id schedule).Sound past id os group states' := by
  induction schedule generalizing c states with
  | nil => exact ⟨states, sound⟩
  | cons i rest ih =>
    obtain ⟨states', stepped⟩ := sound.step i
    exact ih stepped

/-! ## States that are not overtaken -/

theorem owes_eq_false : c.owes s = false ↔ ∀ j, Spared s (c.work j) := by
  simp only [owes, List.any_eq_false, Bool.not_eq_true]
  constructor
  · intro free j x member
    by_cases inside : j < c.tasks.length
    · simp only [work, List.getD_eq_getElem?_getD, List.getElem?_eq_getElem inside,
        Option.getD_some] at member
      exact free _ (List.getElem_mem inside) x member
    · have none : c.tasks[j]? = none := List.getElem?_eq_none (Nat.le_of_not_lt inside)
      simp [work, none] at member
  · intro free w present x member
    obtain ⟨j, inside, rfl⟩ := List.getElem_of_mem present
    exact free j x (by simpa [work, inside] using member)

/-- Nobody is told of `t` before somebody is told of `s`. -/
def InOrder (s t : State) (told : List (String × State)) : Prop :=
  told.Pairwise fun a b => ¬ (a.2 = t ∧ b.2 = s)

theorem InOrder.append {told more : List (String × State)} (inOrder : InOrder s t told)
    (unheard : (∀ n ∈ more, n.2 ≠ s) ∨ ((∀ n ∈ told, n.2 ≠ t) ∧ ∀ n ∈ more, n.2 ≠ t)) :
    InOrder s t (told ++ more) := by
  refine List.pairwise_append.mpr ⟨inOrder, List.pairwise_iff_getElem.mpr ?_, ?_⟩
  · rintro i j inside within - ⟨late, early⟩
    rcases unheard with free | ⟨-, free⟩
    · exact free _ (List.getElem_mem within) early
    · exact free _ (List.getElem_mem inside) late
  · rintro a before b after ⟨late, early⟩
    rcases unheard with free | ⟨free, -⟩
    · exact free b after early
    · exact free a before late

/-- The later of two states was not entered, or nothing is left to do for the earlier one. -/
structure Ordered (id : Nat) (s t : State) (told : List (String × State)) (c : CallTasks) : Prop where
  inOrder : InOrder s t told
  either : ((∀ n ∈ told, n.2 ≠ t) ∧ ∀ j, Spared t (c.work j)) ∨
    (∀ j, Spared s (c.work j)) ∧ ∃ u, c.hub.state? id = some u ∧ t.rank ≤ u.rank

/-- A step that does not overtake keeps the order. -/
theorem Ordered.step (ordered : c.Ordered id s t (past.toldSince c.hub id)) (earlier : s < t)
    (does : c.Does past id os group i x rest c')
    (clear : c.hub.state? id ≠ some t → c'.hub.state? id = some t → c.owes s = false) :
    c'.Ordered id s t (past.toldSince c'.hub id) := by
  rw [does.told]
  rcases ordered.either with ⟨absent, free⟩ | ⟨free, u, last, late⟩
  · have unheard := does.unheard (free i)
    refine ⟨ordered.inOrder.append (.inr ⟨absent, unheard⟩), ?_⟩
    by_cases entering : x.enters (c.hub.state? id) = some t
    · have now : c'.hub.state? id = some t := by
        rw [does.state, entering, Option.some_or]
      have before : c.hub.state? id ≠ some t := by
        intro same
        have follows := (AtomicStep.enters_eq_some.mp entering).2
        rw [same] at follows
        exact Nat.lt_irrefl _ (State.mayFollow_some.mp follows)
      have done := owes_eq_false.mp (clear before now)
      have other : x.enters (c.hub.state? id) ≠ some s := by
        rw [entering]
        rintro same
        exact Nat.ne_of_gt earlier (congrArg State.rank (Option.some.inj same))
      exact .inr ⟨fun j => does.spared other (done j), t, now, Nat.le_refl _⟩
    · refine .inl ⟨fun n member => ?_, fun j => does.spared entering (free j)⟩
      rcases List.mem_append.mp member with before | now
      · exact absent n before
      · exact unheard n now
  · refine ⟨ordered.inOrder.append (.inl (does.unheard (free i))), .inr ?_⟩
    have later : ∀ v, x.enters (c.hub.state? id) = some v → u.rank < v.rank := by
      intro v entering
      have follows := (AtomicStep.enters_eq_some.mp entering).2
      rw [last] at follows
      exact State.mayFollow_some.mp follows
    have other : x.enters (c.hub.state? id) ≠ some s := by
      intro entering
      have below : s.rank < t.rank := earlier
      have above := later s entering
      omega
    refine ⟨fun j => does.spared other (free j), ?_⟩
    rw [does.state, last]
    cases entering : x.enters (c.hub.state? id) with
    | none => exact ⟨u, by rw [← last, entering]; rfl, late⟩
    | some v => exact ⟨v, by rw [← last, entering]; rfl, by have above := later v entering; omega⟩

/-- If nothing is overtaken in a schedule, nothing is in its first step, nor later. -/
theorem overtakes_cons {schedule : List Nat} (clear : overtakes id s t c (i :: schedule) = false) :
    (c.hub.state? id ≠ some t → (c.step id i).hub.state? id = some t → c.owes s = false) ∧
      overtakes id s t (c.step id i) schedule = false := by
  simp only [overtakes, Bool.or_eq_false_iff] at clear
  refine ⟨fun before now => ?_, clear.2⟩
  simpa [before, now] using clear.1

theorem Ordered.run (ordered : c.Ordered id s t (past.toldSince c.hub id)) (earlier : s < t)
    (attends : c.Attends past id os group) (schedule : List Nat)
    (clear : overtakes id s t c schedule = false) :
    (c.run id schedule).Ordered id s t (past.toldSince (c.run id schedule).hub id) := by
  induction schedule generalizing c with
  | nil => exact ordered
  | cons i rest ih =>
    obtain ⟨first, later⟩ := overtakes_cons clear
    rcases step_cases attends i with same | ⟨x, left, does⟩
    · have still : (c.step id i).Ordered id s t (past.toldSince (c.step id i).hub id) :=
        same.symm ▸ ordered
      exact ih still (same.symm ▸ attends) later
    · exact ih (ordered.step earlier does first) does.attends later

/-! ## Out of the group -/

/-- A lifecycle that came to its end has left its group or is about to leave it, and nobody is about to
join. -/
def Departs (id g : Nat) (c : CallTasks) : Prop :=
  c.hub.state? id ≠ some .disposed ∨
    (∀ j, Spared .connected (c.work j)) ∧ c.hub.state? id = some .disposed ∧
      (id ∉ c.hub.members g ∨ ∃ j, .regroup .disposed ∈ c.work j)

theorem Departs.step {g : Nat} (departs : c.Departs id g) (own : group = some g)
    (does : c.Does past id os group i x rest c')
    (clear : c.hub.state? id ≠ some .disposed → c'.hub.state? id = some .disposed →
      c.owes .connected = false) : c'.Departs id g := by
  have nothing : ∀ v, x.enters (some .disposed) ≠ some v := by
    intro v entering
    have follows := State.mayFollow_some.mp (AtomicStep.enters_eq_some.mp entering).2
    cases v <;> exact absurd follows (by decide)
  rcases departs with alive | ⟨free, ended, leaves⟩
  · by_cases ends : c'.hub.state? id = some .disposed
    · have done := owes_eq_false.mp (clear alive ends)
      have entering : x.enters (c.hub.state? id) = some .disposed := by
        have state := does.state
        cases entering : x.enters (c.hub.state? id) with
        | none =>
          rw [entering, Option.none_or, ends] at state
          exact absurd state.symm alive
        | some v =>
          rw [entering, Option.some_or, ends] at state
          exact state.symm
      refine .inr ⟨fun j => does.spared (by simp [entering]) (done j), ends, .inr ⟨i, ?_⟩⟩
      rw [does.work_after, if_pos rfl, entering]
      exact List.mem_cons_self
    · exact .inl ends
  · have still : x.enters (c.hub.state? id) = none := by
      rw [ended]
      cases entering : x.enters (some .disposed) with
      | none => rfl
      | some v => exact absurd entering (nothing v)
    have state : c'.hub.state? id = some .disposed := by
      rw [does.state, still, Option.none_or, ended]
    refine .inr ⟨fun j => does.spared (by simp [still]) (free j), state, ?_⟩
    by_cases leaving : x = .regroup .disposed
    · exact .inl (does.leaves g own leaving)
    · rcases leaves with out | ⟨j, member⟩
      · refine .inl fun inside => ?_
        rcases does.joins g inside with before | joining
        · exact out before
        · have away := free i
          rw [does.work_before, joining] at away
          exact nomatch away _ List.mem_cons_self
      · refine .inr ⟨j, ?_⟩
        rw [does.work_after, still]
        by_cases same : j = i
        · rw [same, does.work_before] at member
          rw [if_pos same]
          rcases List.mem_cons.mp member with first | rest
          · exact absurd first.symm leaving
          · exact rest
        · rw [if_neg same]
          exact member

theorem Departs.run {g : Nat} (departs : c.Departs id g) (own : group = some g)
    (attends : c.Attends past id os group) (schedule : List Nat)
    (clear : overtakes id .connected .disposed c schedule = false) : (c.run id schedule).Departs id g := by
  induction schedule generalizing c with
  | nil => exact departs
  | cons i rest ih =>
    obtain ⟨first, later⟩ := overtakes_cons clear
    rcases step_cases attends i with same | ⟨x, left, does⟩
    · have still : (c.step id i).Departs id g := same.symm ▸ departs
      exact ih still (same.symm ▸ attends) later
    · exact ih (departs.step own does first) does.attends later

/-! ## Any schedule -/

theorem spared_start (h : Hub) (calls : List (List Call)) (s : State) (j : Nat) :
    Spared s ((start h calls).work j) := by
  intro x member
  simp only [work, start, List.getD_eq_getElem?_getD, List.getElem?_map] at member
  cases own : calls[j]? with
  | none => simp [own] at member
  | some cs =>
    simp only [own, Option.map_some, Option.getD_some] at member
    obtain ⟨k, -, step⟩ := List.mem_flatMap.mp member
    cases k with
    | connected | configured | disconnecting | requestClose =>
      obtain rfl := List.mem_singleton.mp step
      rfl
    | dispose =>
      rcases List.mem_cons.mp step with rfl | last
      · rfl
      · obtain rfl := List.mem_singleton.mp last
        rfl

theorem sound_start (h : Hub) (localEnd remoteEnd : Address.Endpoint) (os : List Observer)
    (group : Option Nat) (calls : List (List Call)) :
    (start (h.create localEnd remoteEnd os group).1 calls).Sound h h.lifecycles.length os group [] := by
  have fresh : (h.create localEnd remoteEnd os group).1.lifecycle? h.lifecycles.length =
      some { identity := ⟨h.lifecycles.length + 1, localEnd, remoteEnd⟩, observers := os, group } :=
    Hub.lifecycle?_create.trans (if_pos rfl)
  have none : h.toldSince (h.create localEnd remoteEnd os group).1 h.lifecycles.length = [] := by
    simp [Hub.toldSince, Hub.create]
  refine ⟨⟨⟨_, fresh, rfl, rfl⟩, List.prefix_refl _⟩, ⟨List.Pairwise.nil, fun s _ => ?_,
    fun s member => absurd member List.not_mem_nil⟩, ?_⟩
  · exact ⟨by rw [start, none]; rfl, spared_start _ calls s⟩
  · simp [start, Hub.state?, fresh]

theorem work_of_isIdle (idle : c.IsIdle) (j : Nat) : c.work j = [] := by
  cases own : c.tasks[j]? with
  | none => simp [work, own]
  | some w =>
    have done := idle w (List.mem_of_getElem? own)
    simp [work, own, done]

/-- Whoever hears of states in order and of none twice hears of later and later states. -/
theorem rising_of_inOrder {told : List (String × State)}
    (inOrder : ∀ s t, s < t → InOrder s t told) (once : ∀ s, (hearers s told).Nodup) (name : String) :
    ((told.filter fun n => n.1 == name).map Prod.snd).Pairwise (· < ·) := by
  have apart : ∀ s, told.Pairwise fun a b => a.2 = s → b.2 = s → a.1 ≠ b.1 := by
    intro s
    have distinct := List.pairwise_filter.mp (List.pairwise_map.mp (once s))
    exact distinct.imp fun differ first second => differ (by simp [first]) (by simp [second])
  refine List.pairwise_map.mpr (List.pairwise_filter.mpr (List.pairwise_iff_getElem.mpr ?_))
  intro i j inside within before first second
  have same : told[i].1 = told[j].1 := (beq_iff_eq.mp first).trans (beq_iff_eq.mp second).symm
  rcases Nat.lt_trichotomy told[i].2.rank told[j].2.rank with lower | equal | higher
  · exact lower
  · have alike : told[i].2 = told[j].2 := by
      revert equal
      cases told[i].2 <;> cases told[j].2 <;> simp [State.rank]
    exact absurd same (List.pairwise_iff_getElem.mp (apart told[j].2) i j inside within before alike rfl)
  · exact absurd ⟨rfl, rfl⟩
      (List.pairwise_iff_getElem.mp (inOrder told[j].2 told[i].2 higher) i j inside within before)

end CallTasks

end

/-! ## A call that nobody interrupts -/

namespace CallTasks

variable {id i : Nat} {c c' c'' : CallTasks} {rest : List AtomicStep} {s : State} {os : List Observer}

theorem run_append (c : CallTasks) (schedule later : List Nat) :
    c.run id (schedule ++ later) = (c.run id schedule).run id later :=
  List.foldl_append

/-- What task `i` comes to while the others wait. -/
def Alone (id i : Nat) (c c' : CallTasks) : Prop := ∃ n, c.run id (List.replicate n i) = c'

theorem Alone.trans (first : Alone id i c c') (second : Alone id i c' c'') : Alone id i c c'' := by
  obtain ⟨m, rfl⟩ := first
  obtain ⟨n, rfl⟩ := second
  exact ⟨m + n, by rw [← List.replicate_append_replicate, run_append]⟩

theorem alone_step (id : Nat) {x : AtomicStep} (had : c.tasks[i]? = some (x :: rest)) :
    Alone id i c ⟨(x.run id c.hub).1, c.tasks.set i ((x.run id c.hub).2 ++ rest)⟩ := by
  refine ⟨1, ?_⟩
  simp [run, step, had]

/-- What is to be done next, when it is done by one step that leaves nothing new to do. -/
theorem Alone.next {hub : Hub} {tasks : List (List AtomicStep)} {x : AtomicStep} {w : List AtomicStep}
    (before : Alone id i c ⟨hub, tasks.set i (x :: w)⟩) (inside : i < tasks.length)
    (plain : (x.run id hub).2 = []) : Alone id i c ⟨(x.run id hub).1, tasks.set i w⟩ := by
  let waiting : CallTasks := ⟨hub, tasks.set i (x :: w)⟩
  have had : waiting.tasks[i]? = some (x :: w) := by simp [waiting, inside]
  have stepped := alone_step id had
  rw [plain, List.nil_append, List.set_set] at stepped
  exact before.trans stepped

theorem Alone.tells {hub : Hub} {tasks : List (List AtomicStep)}
    (before : Alone id i c ⟨hub, tasks.set i ((os.map fun o => .tell o s) ++ rest)⟩)
    (inside : i < tasks.length) :
    Alone id i c ⟨hub.emitAll (os.map fun o => o.stateEvent id s), tasks.set i rest⟩ := by
  induction os generalizing hub with
  | nil => simpa [Hub.emitAll] using before
  | cons o os ih =>
    have first : Alone id i c
        ⟨hub.emit (o.stateEvent id s), tasks.set i ((os.map fun o => .tell o s) ++ rest)⟩ :=
      before.next inside rfl
    simpa [Hub.emit, Hub.emitAll] using ih first

/-- A move that nobody interrupts is a move of the hub. -/
theorem alone_move {l : Lifecycle} (running : c.hub.failing = false)
    (found : c.hub.lifecycle? id = some l) (quiet : ∀ o ∈ l.observers, o.IsQuiet)
    (had : c.tasks[i]? = some (.move s :: rest)) :
    Alone id i c ⟨c.hub.advance id s, c.tasks.set i rest⟩ := by
  have inside : i < c.tasks.length := (List.getElem?_eq_some_iff.mp had).1
  by_cases follows : State.mayFollow l.state s = true
  · let moved : Hub := c.hub.modify id fun l => { l with state := some s }
    have moves : (AtomicStep.move s).run id c.hub = (moved, s.aftermath l.observers) := by
      simp [AtomicStep.run, found, follows, moved]
    have entered : Alone id i c ⟨moved, c.tasks.set i (.regroup s ::
        ((l.observers.map fun o => .tell o s) ++
          ((if s = .disposed then [.release] else []) ++ rest)))⟩ := by
      have stepped := alone_step id had
      rwa [moves, State.aftermath, List.cons_append, List.append_assoc] at stepped
    have regroups : (AtomicStep.regroup s).run id moved = (c.hub.enter id l.group s, []) := by
      simp [AtomicStep.run, moved, Hub.lifecycle?_modify, found, Hub.enter]
    have grouped := entered.next inside (by rw [regroups])
    rw [regroups] at grouped
    have told := grouped.tells inside
    rw [Hub.advance_of_mayFollow running found quiet follows]
    split
    · rename_i ends
      rw [if_pos ends] at told
      exact told.next inside rfl
    · rename_i onward
      rw [if_neg onward] at told
      exact told
  · have stays : (AtomicStep.move s).run id c.hub = (c.hub, []) := by
      simp [AtomicStep.run, found, follows]
    have stepped := alone_step id had
    rw [Hub.advance_of_not_mayFollow found (Bool.eq_false_iff.mpr follows)]
    rwa [stays] at stepped

theorem failing_advance {h : Hub} {l : Lifecycle} (running : h.failing = false)
    (found : h.lifecycle? id = some l) (quiet : ∀ o ∈ l.observers, o.IsQuiet) :
    (h.advance id s).failing = false := by
  by_cases follows : State.mayFollow l.state s = true
  · have entered : (h.enter id l.group s).failing = false := Hub.failing_enter.trans running
    rw [Hub.advance_of_mayFollow running found quiet follows]
    split
    · exact entered
    · exact entered
  · rw [Hub.advance_of_not_mayFollow found (Bool.eq_false_iff.mpr follows)]
    exact running

/-- A call that nobody interrupts is a call of the hub: the steps are those of the operation. -/
theorem alone_call {l : Lifecycle} (running : c.hub.failing = false)
    (found : c.hub.lifecycle? id = some l) (quiet : ∀ o ∈ l.observers, o.IsQuiet) (k : Call)
    (had : c.tasks[i]? = some (k.atomicSteps ++ rest)) :
    Alone id i c ⟨c.hub.call id k, c.tasks.set i rest⟩ := by
  cases k with
  | connected | configured | disconnecting => exact alone_move running found quiet had
  | dispose =>
    have inside : i < c.tasks.length := (List.getElem?_eq_some_iff.mp had).1
    have closing := alone_move running found quiet had
    obtain ⟨l', later, goes⟩ := (Hub.advance_evolves c.hub id .disconnecting).some_of_lifecycle found
    have still : (c.hub.advance id .disconnecting).failing = false :=
      failing_advance running found quiet
    let middle : CallTasks := ⟨c.hub.advance id .disconnecting, c.tasks.set i (.move .disposed :: rest)⟩
    have left : middle.tasks[i]? = some (.move .disposed :: rest) := by simp [middle, inside]
    have ended := alone_move (c := middle) still later (goes.observers ▸ quiet) left
    rw [List.set_set] at ended
    exact closing.trans ended
  | requestClose => exact alone_step id had

/-! ## Any number of tasks -/

/-- However the steps of any calls of any tasks come: the states are entered in their order; each state
that was entered is told to the observers one after the other, to none twice, and to all of them when all
calls have returned; and no other state is told. Of two states the later one is told first only if it was
entered while something was left to do for the earlier one. If that never happens each observer hears of
states in their order; and if it does not happen to the first and the last state, a connection at its end
is not in its group when all calls have returned. -/
theorem each_state_is_told_once (h : Hub) (localEnd remoteEnd : Address.Endpoint) (os : List Observer)
    (group : Option Nat) (calls : List (List Call)) (schedule : List Nat) :
    let id := h.lifecycles.length
    let first := start (h.create localEnd remoteEnd os group).1 calls
    let now := first.run id schedule
    let told := h.toldSince now.hub id
    (∃ states : List State, states.Pairwise (· < ·) ∧ states.getLast? = now.hub.state? id ∧
      ∀ s, hearers s told <+: os.map Observer.name ∧ (s ∉ states → hearers s told = []) ∧
        (s ∈ states → now.IsIdle → hearers s told = os.map Observer.name)) ∧
    (∀ s t, s < t → overtakes id s t first schedule = false → InOrder s t told) ∧
    ((∀ s t, s < t → overtakes id s t first schedule = false) → (os.map Observer.name).Nodup →
      ∀ o ∈ os, (h.heardSince now.hub id o).Pairwise (· < ·)) ∧
    (∀ g, group = some g → overtakes id .connected .disposed first schedule = false → now.IsIdle →
      now.hub.state? id = some .disposed → id ∉ now.hub.members g) := by
  intro id first now told
  have begins : first.Sound h id os group [] := sound_start h localEnd remoteEnd os group calls
  have fresh : h.toldSince first.hub id = [] := by
    simp [first, start, Hub.toldSince, Hub.create]
  obtain ⟨states, sound⟩ := begins.run schedule
  have once : ∀ s, hearers s told <+: os.map Observer.name := by
    intro s
    by_cases present : s ∈ states
    · obtain ⟨i, -, all⟩ := sound.told.entered s present
      rw [← all, hearers_append]
      exact List.prefix_append _ _
    · have none : hearers s told = [] := (sound.told.unentered s present).1
      rw [none]
      exact List.nil_prefix
  have inOrder : ∀ s t, s < t → overtakes id s t first schedule = false → InOrder s t told := by
    intro s t earlier clear
    have ordered : first.Ordered id s t (h.toldSince first.hub id) := by
      rw [fresh]
      exact ⟨List.Pairwise.nil, .inl ⟨by simp, spared_start _ calls t⟩⟩
    exact (ordered.run earlier begins.attends schedule clear).inOrder
  refine ⟨⟨states, sound.told.rising, sound.state, fun s => ⟨once s, ?_, ?_⟩⟩, inOrder, ?_, ?_⟩
  · exact fun absent => (sound.told.unentered s absent).1
  · intro present idle
    obtain ⟨i, -, all⟩ := sound.told.entered s present
    rw [work_of_isIdle idle i] at all
    simpa using all
  · intro clear unique o member
    refine rising_of_inOrder (fun s t earlier => inOrder s t earlier (clear s t earlier)) ?_ o.name
    exact fun s => unique.sublist (once s).sublist
  · intro g own clear idle ended inside
    have departs : first.Departs id g := .inl (by rw [← begins.state]; simp)
    rcases departs.run own begins.attends schedule clear with alive | ⟨-, -, out | ⟨j, left⟩⟩
    · exact alive ended
    · exact out inside
    · rw [work_of_isIdle idle j] at left
      cases left

/-- Two tasks at work on the first connection of a group. -/
def pairAtWork (calls : List (List Call)) : CallTasks :=
  start (({} : Hub).newGroup.1.create (.unix none) (.unix none) [{ name := "a" }, { name := "b" }]
    (some 0)).1 calls

/-- One task connects, and when it is done the other one disposes. -/
theorem told_when_taking_turns :
    let schedule := List.replicate 4 0 ++ List.replicate 9 1
    let now := (pairAtWork [[.connected], [.dispose]]).run 0 schedule
    now.IsIdle ∧ now.hub.state? 0 = some .disposed ∧
    (({} : Hub).heardSince now.hub 0 { name := "b" }).Pairwise (· < ·) ∧ 0 ∉ now.hub.members 0 := by
  intro schedule now
  have clear : ∀ s t, s < t → overtakes 0 s t (pairAtWork [[.connected], [.dispose]]) schedule = false := by
    intro s t _
    cases s <;> cases t <;> decide
  have idle : now.IsIdle := by decide
  have ended : now.hub.state? 0 = some .disposed := by decide
  obtain ⟨-, -, heard, out⟩ := each_state_is_told_once ({} : Hub).newGroup.1 (.unix none) (.unix none)
    [{ name := "a" }, { name := "b" }] (some 0) [[.connected], [.dispose]] schedule
  exact ⟨idle, ended, heard clear (by decide) { name := "b" } (by simp),
    out 0 rfl (clear .connected .disposed (by decide)) idle ended⟩

/-- A second task overtakes the one that connects: an observer hears of a later state first, and a
connection stays in its group after its end. -/
theorem connected_is_overtaken :
    (let now := (pairAtWork [[.connected], [.configured]]).run 0
      (List.replicate 3 0 ++ List.replicate 4 1 ++ List.replicate 1 0)
    now.IsIdle ∧ ({} : Hub).toldSince now.hub 0 =
      [("a", .connected), ("a", .configured), ("b", .configured), ("b", .connected)]) ∧
    (let now := (pairAtWork [[.connected], [.dispose]]).run 0
      (List.replicate 1 0 ++ List.replicate 9 1 ++ List.replicate 3 0)
    now.IsIdle ∧ now.hub.state? 0 = some .disposed ∧ 0 ∈ now.hub.members 0) := by
  decide

end CallTasks

end StreamHost.Connection
