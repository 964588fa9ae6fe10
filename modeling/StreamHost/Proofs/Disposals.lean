import StreamHost.Proofs.CallSteps

/-!
The end of a lifecycle, step by step. A lifecycle that is disposed leaves its group, tells its observers,
and releases those who wait, in this order, whatever the observers do meanwhile and whoever disposes it: a
call, an observer, or the drop of the lifecycle. It is gone only when all that is done. An observer that
fails is the one thing that can cut this short, and then nobody is released.

Each invariant is about one lifecycle and what is left to do for it. What a step does to these is `marks`
and `next`; the invariants are kept by every step, one lemma for each.
-/

namespace StreamHost.Connection

namespace CallStep

/-- The state that observers are told of, or react to. -/
def about? : CallStep → Option State
  | atomic (.tell _ s) | react _ s _ => some s
  | _ => none

/-- Whether a step is part of what has to be done at the end. -/
def ends : CallStep → Bool
  | atomic .release => true
  | atomic x => x.concerns .disposed
  | _ => false

/-- The state that a step enters. -/
def enters (last : Option State) : CallStep → Option State
  | atomic x => x.enters last
  | _ => none

/-- Who is told of which state. -/
def notices : CallStep → List (String × State)
  | atomic x => x.notices
  | _ => []

def isRegroup : CallStep → Bool
  | atomic (.regroup _) => true
  | _ => false

/-- An observer fails. -/
def fails : CallStep → Bool
  | react _ _ .fail => true
  | _ => false

/-- Only observers among `os` are told or react, and they react as they do to that state. -/
def Known (os : List Observer) : CallStep → Prop
  | atomic (.tell o _) => o ∈ os
  | react o s r => o ∈ os ∧ r ∈ o.reactionsTo s
  | _ => True

/-- The lifecycle after a step, which may ask it to close. -/
def marks (l : Lifecycle) (asks : Bool) (x : CallStep) : Lifecycle :=
  { l with
    state := (x.enters l.state).or l.state
    released := l.released || x matches .atomic .release
    closeRequested := l.closeRequested || asks }

/-- What has to be done because of a step of the lifecycle `l`. -/
def brought (l : Lifecycle) : CallStep → List CallStep
  | atomic (.move s) => if State.mayFollow l.state s then (s.aftermath l.observers).map atomic else []
  | atomic (.tell o s) => (o.reactionsTo s).map (react o s)
  | react _ _ (.call c) => if l.held then c.steps else []
  | _ => []

/-- What is left to do after a step of the lifecycle `l`. -/
def next (l : Lifecycle) (rest : List CallStep) (x : CallStep) : List CallStep :=
  if x.fails then rest.filter isVanish else x.brought l ++ rest

variable {l : Lifecycle} {x y : CallStep} {rest w v : List CallStep} {os : List Observer} {o : Observer}
  {s : State} {asks : Bool}

theorem leaves_eq {h : Hub} {id : Nat} (found : h.lifecycle? id = some l) (x : CallStep)
    (rest : List CallStep) : x.leaves id h rest = x.next l rest := by
  cases x with
  | atomic x =>
    cases x with
    | move s =>
      simp only [leaves, brings, next, fails, brought, AtomicStep.run, found]
      split <;> rfl
    | regroup | tell | release | askToClose => rfl
  | react o s r =>
    cases r with
    | call k =>
      have holds : h.isHeld id = l.held := by simp [Hub.isHeld, found]
      simp only [leaves, brings, next, fails, brought, holds]
      rfl
    | closeAll | count | fail => rfl
  | vanish => rfl

theorem mem_aftermath {z : AtomicStep} (member : z ∈ s.aftermath os) :
    z = .regroup s ∨ (∃ o ∈ os, z = .tell o s) ∨ (z = .release ∧ s = .disposed) := by
  rcases List.mem_cons.mp member with rfl | member
  · exact .inl rfl
  · rcases List.mem_append.mp member with told | ends
    · obtain ⟨o, inside, rfl⟩ := List.mem_map.mp told
      exact .inr (.inl ⟨o, inside, rfl⟩)
    · split at ends
      · next last => exact .inr (.inr ⟨List.mem_singleton.mp ends, last⟩)
      · cases ends

/-- A call moves the lifecycle, or asks it to close. -/
theorem mem_steps {c : Call} (member : y ∈ c.steps) :
    (∃ s, y = .atomic (.move s)) ∨ y = .atomic .askToClose := by
  obtain ⟨z, inside, rfl⟩ := List.mem_map.mp member
  cases c with
  | requestClose => exact .inr (congrArg atomic (List.mem_singleton.mp inside))
  | connected | configured | disconnecting => exact .inl ⟨_, congrArg atomic (List.mem_singleton.mp inside)⟩
  | dispose =>
    rcases List.mem_cons.mp inside with rfl | inside
    · exact .inl ⟨_, rfl⟩
    · exact .inl ⟨_, congrArg atomic (List.mem_singleton.mp inside)⟩

/-- What has to be done comes of a state that was entered, of an observer that was told, or of a call. -/
inductive Comes (l : Lifecycle) (y : CallStep) : CallStep → Prop where
  | regroup (s : State) (follows : State.mayFollow l.state s = true) (same : y = .atomic (.regroup s)) :
      Comes l y (.atomic (.move s))
  | tell (s : State) (follows : State.mayFollow l.state s = true) (o : Observer) (own : o ∈ l.observers)
      (same : y = .atomic (.tell o s)) : Comes l y (.atomic (.move s))
  | release (follows : State.mayFollow l.state .disposed = true) (same : y = .atomic .release) :
      Comes l y (.atomic (.move .disposed))
  | reacts (o : Observer) (s : State) (r : Reaction) (own : r ∈ o.reactionsTo s) (same : y = .react o s r) :
      Comes l y (.atomic (.tell o s))
  | move (o : Observer) (s : State) (c : Call) (holds : l.held = true) (t : State)
      (same : y = .atomic (.move t)) : Comes l y (.react o s (.call c))
  | ask (o : Observer) (s : State) (c : Call) (holds : l.held = true) (same : y = .atomic .askToClose) :
      Comes l y (.react o s (.call c))

theorem comes_of_mem_brought (member : y ∈ x.brought l) : Comes l y x := by
  cases x with
  | atomic x =>
    cases x with
    | move s =>
      simp only [brought] at member
      split at member
      · next follows =>
        obtain ⟨z, inside, rfl⟩ := List.mem_map.mp member
        rcases mem_aftermath inside with rfl | ⟨o, own, rfl⟩ | ⟨rfl, rfl⟩
        · exact .regroup s follows rfl
        · exact .tell s follows o own rfl
        · exact .release follows rfl
      · cases member
    | tell o s =>
      obtain ⟨r, inside, rfl⟩ := List.mem_map.mp member
      exact .reacts o s r inside rfl
    | regroup | release | askToClose => cases member
  | react o s r =>
    cases r with
    | call c =>
      simp only [brought] at member
      split at member
      · next holds =>
        rcases mem_steps member with ⟨t, rfl⟩ | rfl
        · exact .move o s c holds t rfl
        · exact .ask o s c holds rfl
      · cases member
    | closeAll | count | fail => cases member
  | vanish => cases member

theorem next_of_not_fails (onward : x.fails = false) : x.next l rest = x.brought l ++ rest := by
  rw [next, if_neg (by simp [onward])]

theorem next_of_move (follows : State.mayFollow l.state s = true) :
    (atomic (.move s)).next l rest = (s.aftermath l.observers).map atomic ++ rest := by
  rw [next_of_not_fails rfl, brought, if_pos follows]

theorem next_of_fails (fails : x.fails = true) : x.next l rest = rest.filter isVanish := if_pos fails

theorem mem_next (member : y ∈ x.next l rest) : y ∈ x.brought l ∨ y ∈ rest := by
  cases fails : x.fails with
  | true =>
    rw [next_of_fails fails] at member
    exact .inr (List.mem_filter.mp member).1
  | false =>
    rw [next_of_not_fails fails] at member
    exact List.mem_append.mp member

theorem eq_of_fails (fails : x.fails = true) : ∃ o s, x = .react o s .fail := by
  cases x with
  | react o s r =>
    cases r with
    | fail => exact ⟨o, s, rfl⟩
    | _ => cases fails
  | _ => cases fails

theorem vanish_not_brought : .vanish ∉ x.brought l := by
  intro member
  cases comes_of_mem_brought member <;> next same => cases same

/-! ## Who is told -/

/-- A step of which only the observers of the lifecycle know brings steps of the same kind. -/
theorem known_next (known : ∀ y ∈ x :: rest, y.Known l.observers) :
    ∀ y ∈ x.next l rest, y.Known l.observers := by
  intro y member
  rcases mem_next member with brought | later
  · cases comes_of_mem_brought brought with
    | tell s follows o own same => exact same ▸ own
    | reacts o s r reacts same => exact same ▸ ⟨known _ List.mem_cons_self, reacts⟩
    | regroup s follows same | release follows same | move o s c holds t same | ask o s c holds same =>
      exact same ▸ trivial
  · exact known y (List.mem_cons_of_mem _ later)

theorem notices_eq_nil (quiet : ∀ o s, x ≠ .atomic (.tell o s)) : x.notices = [] := by
  cases x with
  | atomic y =>
    cases y with
    | tell o s => exact absurd rfl (quiet o s)
    | _ => rfl
  | react | vanish => rfl

/-- A step that is no part of the end tells nobody of it. -/
theorem unheard_of_not_ends (apart : x.ends = false) : hearers .disposed x.notices = [] := by
  cases x with
  | atomic y =>
    refine hearers_of_unheard (AtomicStep.unheard ?_)
    cases y with
    | release => rfl
    | _ => exact apart
  | react | vanish => rfl

/-! ## Steps that are no part of the end -/

/-- No step of a list is part of the end. -/
def Clean (w : List CallStep) : Prop := ∀ x ∈ w, x.ends = false

theorem clean_cons : Clean (x :: w) ↔ x.ends = false ∧ Clean w := List.forall_mem_cons

/-- Nothing that is part of the end comes of a step that is not, unless it enters the last state. -/
theorem clean_next (clean : Clean (x :: rest)) (onward : x.enters l.state ≠ some .disposed) :
    Clean (x.next l rest) := by
  intro y member
  rcases mem_next member with brought | later
  · cases comes_of_mem_brought brought with
    | regroup s follows same | tell s follows o own same =>
      have other : s ≠ .disposed := fun last => onward (last ▸ if_pos (last ▸ follows))
      subst same
      simpa [ends, AtomicStep.concerns] using other
    | release follows same => exact absurd (if_pos follows) onward
    | reacts o s r own same | move o s c holds t same | ask o s c holds same => exact same ▸ rfl
  · exact clean y (List.mem_cons_of_mem _ later)

/-! ## Steps between the last state and the release -/

/-- A step that releases nobody, and that tells of no state but the last or reacts to no other. -/
def Closes (x : CallStep) : Prop := x ≠ .atomic .release ∧ ∀ s, x.about? = some s → s = .disposed

theorem not_mayFollow_disposed (state : l.state = some .disposed) : State.mayFollow l.state s ≠ true := by
  rw [state]
  cases s <;> decide

/-- What comes of such a step, when the last state was entered, is of the same kind. -/
theorem closes_brought (state : l.state = some .disposed) (closes : x.Closes) :
    ∀ y ∈ x.brought l, y.Closes := by
  intro y member
  cases comes_of_mem_brought member with
  | regroup s follows same | tell s follows o own same | release follows same =>
    exact absurd follows (not_mayFollow_disposed state)
  | reacts o s r own same => exact same ▸ ⟨by simp, fun t about => closes.2 t about⟩
  | move o s c holds t same | ask o s c holds same => exact same ▸ ⟨by simp, fun t about => by cases about⟩

/-- Nobody is to be told of anything new when the last state was entered. -/
theorem silent_brought (state : l.state = some .disposed) : (x.brought l).flatMap notices = [] := by
  refine List.flatMap_eq_nil_iff.mpr fun z brought => notices_eq_nil fun o s same => ?_
  subst same
  cases comes_of_mem_brought brought with
  | tell s follows o own same => exact not_mayFollow_disposed state follows
  | regroup s follows same | release follows same | reacts o s r own same | move o s c holds t same
  | ask o s c holds same => cases same

/-! ## Calls -/

theorem clean_steps (c : Call) : Clean c.steps := by
  intro y member
  obtain ⟨s, rfl⟩ | rfl := mem_steps member <;> rfl

theorem plain_steps (c : Call) : ∀ y ∈ c.steps, y.isRegroup = false := by
  intro y member
  obtain ⟨s, rfl⟩ | rfl := mem_steps member <;> rfl

theorem known_steps (c : Call) : ∀ y ∈ c.steps, y.Known os := by
  intro y member
  obtain ⟨s, rfl⟩ | rfl := mem_steps member <;> trivial

theorem vanish_not_mem_steps (c : Call) : .vanish ∉ c.steps := by
  intro member
  obtain ⟨s, same⟩ | same := mem_steps member <;> cases same

/-! ## What a step marks -/

theorem enters_eq_some {last : Option State} :
    x.enters last = some s ↔ x = .atomic (.move s) ∧ State.mayFollow last s = true := by
  cases x with
  | atomic y => simp [enters, AtomicStep.enters_eq_some]
  | react | vanish => simp [enters]

theorem enters_disposed (x : CallStep) : x.enters (some .disposed) = none := by
  cases x with
  | atomic x =>
    cases x with
    | move s => cases s <;> rfl
    | _ => rfl
  | _ => rfl

theorem marks_state (stays : x.enters l.state = none) : (x.marks l asks).state = l.state := by
  simp [marks, stays]

theorem marks_state_of_enters (enters : x.enters l.state = some s) : (x.marks l asks).state = some s := by
  simp [marks, enters]

theorem marks_disposed (state : l.state = some .disposed) : (x.marks l asks).state = some .disposed := by
  rw [marks_state, state]
  rw [state, enters_disposed]

theorem marks_released (other : x ≠ .atomic .release) : (x.marks l asks).released = l.released := by
  unfold marks
  cases x with
  | atomic y =>
    cases y with
    | release => exact absurd rfl other
    | _ => exact Bool.or_false _
  | _ => exact Bool.or_false _

end CallStep

section

variable {l : Lifecycle} {x : CallStep} {rest w : List CallStep} {told : List (String × State)} {asks : Bool}

/-! ## How far the end has come -/

open CallStep

/-- The end of the lifecycle `l`, with `w` left to do and `told` told so far: it has not been entered; or it
is under way, with the release behind all that come before it; or it is over; or an observer failed. -/
inductive Phase (l : Lifecycle) (w : List CallStep) (told : List (String × State)) : Prop where
  | ahead (state : l.state ≠ some .disposed) (waiting : l.released = false) (clean : Clean w)
      (unheard : hearers .disposed told = [])
  | underWay (front back : List CallStep) (state : l.state = some .disposed) (waiting : l.released = false)
      (split : w = front ++ .atomic .release :: back) (clean : Clean back)
      (closes : ∀ x ∈ front, x.Closes)
      (heard : hearers .disposed (told ++ front.flatMap CallStep.notices) = l.observers.map Observer.name)
  | done (state : l.state = some .disposed) (released : l.released = true) (clean : Clean w)
      (heard : hearers .disposed told = l.observers.map Observer.name)
  | abandoned (state : l.state = some .disposed) (waiting : l.released = false) (clean : Clean w)
      (fails : ∃ o ∈ l.observers, .fail ∈ o.reactionsTo .disposed)

namespace Phase

/-- What is done between the last state and the release. -/
def farewell (os : List Observer) : List CallStep :=
  .atomic (.regroup .disposed) :: os.map fun o => .atomic (.tell o .disposed)

theorem aftermath_eq_farewell (os : List Observer) :
    (State.disposed.aftermath os).map CallStep.atomic = farewell os ++ [.atomic .release] := by
  simp [State.aftermath, farewell]

theorem hearers_farewell (os : List Observer) :
    hearers .disposed ((farewell os).flatMap CallStep.notices) = os.map Observer.name := by
  have all := hearers_aftermath .disposed os
  have same : (State.disposed.aftermath os).flatMap AtomicStep.notices =
      ((State.disposed.aftermath os).map CallStep.atomic).flatMap CallStep.notices :=
    (List.flatMap_map CallStep.atomic CallStep.notices _).symm
  rw [same, aftermath_eq_farewell, List.flatMap_append, hearers_append] at all
  simpa [CallStep.notices, AtomicStep.notices, hearers] using all

/-- A step before the end. The end begins when the last state is entered. -/
theorem step_ahead (state : l.state ≠ some .disposed) (waiting : l.released = false)
    (clean : Clean (x :: rest)) (unheard : hearers .disposed told = []) :
    Phase (x.marks l asks) (x.next l rest) (told ++ x.notices) := by
  obtain ⟨apart, later⟩ := clean_cons.mp clean
  have silent : hearers .disposed (told ++ x.notices) = [] := by
    rw [hearers_append, unheard, unheard_of_not_ends apart]
    rfl
  have kept : (x.marks l asks).released = false := by
    rw [marks_released, waiting]
    rintro rfl
    cases apart
  by_cases enters : x.enters l.state = some .disposed
  · obtain ⟨rfl, follows⟩ := enters_eq_some.mp enters
    refine underWay (farewell l.observers) rest (marks_state_of_enters enters) kept ?_ later ?_ ?_
    · rw [next_of_move follows, aftermath_eq_farewell, List.append_assoc, List.singleton_append]
    · intro z member
      rcases List.mem_cons.mp member with rfl | tells
      · exact ⟨by simp, fun s about => by cases about⟩
      · obtain ⟨o, -, rfl⟩ := List.mem_map.mp tells
        exact ⟨by simp, fun s about => (Option.some.inj about).symm⟩
    · rw [hearers_append, silent]
      exact hearers_farewell l.observers
  · refine ahead ?_ kept (clean_next clean enters) silent
    cases entered : x.enters l.state with
    | none => rwa [marks_state entered]
    | some s =>
      rw [marks_state_of_enters entered]
      rwa [entered] at enters

/-- Nothing that comes of a step is part of the end when that has begun. -/
theorem clean_next_of_disposed (state : l.state = some .disposed) (clean : Clean (x :: rest)) :
    Clean (x.next l rest) :=
  clean_next clean (by simp [state, enters_disposed])

/-- A step on the way to the release: the release itself, or one before it. -/
theorem step_underWay (front back : List CallStep) (state : l.state = some .disposed)
    (waiting : l.released = false) (split : x :: rest = front ++ .atomic .release :: back)
    (clean : Clean back)
    (closes : ∀ x ∈ front, x.Closes)
    (heard : hearers .disposed (told ++ front.flatMap CallStep.notices) = l.observers.map Observer.name)
    (known : x.Known l.observers) : Phase (x.marks l asks) (x.next l rest) (told ++ x.notices) := by
  have ended : (x.marks l asks).state = some .disposed := marks_disposed state
  -- The step is the release itself, or one of those before it.
  cases front with
  | nil =>
    obtain ⟨rfl, rfl⟩ := List.cons.inj split
    refine done ended (Bool.or_true _) clean ?_
    rw [notices_eq_nil (by simp)]
    exact heard
  | cons y front =>
    rw [List.cons_append] at split
    obtain ⟨rfl, rfl⟩ := List.cons.inj split
    have own := closes x List.mem_cons_self
    have still : (x.marks l asks).released = false := (marks_released own.1).trans waiting
    cases fails : x.fails with
    | true =>
      obtain ⟨o, s, rfl⟩ := eq_of_fails fails
      obtain rfl := own.2 s rfl
      refine abandoned ended still (fun z member => ?_) ⟨o, known⟩
      rw [next_of_fails fails] at member
      obtain ⟨-, vanishes⟩ := List.mem_filter.mp member
      cases z with
      | vanish => rfl
      | _ => cases vanishes
    | false =>
      refine underWay (x.brought l ++ front) back ended still ?_ clean (List.forall_mem_append.mpr ⟨?_, ?_⟩) ?_
      · rw [next_of_not_fails fails, List.append_assoc]
      · exact closes_brought state own
      · exact fun z later => closes z (List.mem_cons_of_mem _ later)
      · rw [List.flatMap_append, silent_brought state, List.nil_append, List.append_assoc, ← List.flatMap_cons]
        exact heard

/-- What is left to do is part of no end any more. -/
theorem step_clean (told : List (String × State)) (asks : Bool) (state : l.state = some .disposed)
    (clean : Clean (x :: rest)) :
    (x.marks l asks).state = some .disposed ∧ (x.marks l asks).released = l.released ∧
      Clean (x.next l rest) ∧ hearers .disposed (told ++ x.notices) = hearers .disposed told := by
  obtain ⟨apart, -⟩ := clean_cons.mp clean
  refine ⟨marks_disposed state, marks_released ?_, clean_next_of_disposed state clean, ?_⟩
  · rintro rfl
    cases apart
  · rw [hearers_append, unheard_of_not_ends apart, List.append_nil]

/-- The end goes on step by step, and nothing else of it happens. -/
theorem step (phase : Phase l (x :: rest) told) (known : x.Known l.observers) :
    Phase (x.marks l asks) (x.next l rest) (told ++ x.notices) := by
  cases phase with
  | ahead state waiting clean unheard => exact step_ahead state waiting clean unheard
  | underWay front back state waiting split clean closes heard =>
    exact step_underWay front back state waiting split clean closes heard known
  | done state released clean heard =>
    obtain ⟨ended, same, clean', told'⟩ := step_clean told asks state clean
    exact done ended (same.trans released) clean' (told'.trans heard)
  | abandoned state waiting clean fails =>
    obtain ⟨ended, same, clean', -⟩ := step_clean told asks state clean
    exact abandoned ended (same.trans waiting) clean' fails

/-- Nothing of the end depends on anything else of the lifecycle. -/
theorem congr {l' : Lifecycle} (phase : Phase l w told) (state : l'.state = l.state)
    (released : l'.released = l.released) (observers : l'.observers = l.observers) : Phase l' w told := by
  cases phase with
  | ahead last waiting clean unheard => exact .ahead (state ▸ last) (released ▸ waiting) clean unheard
  | underWay front back last waiting split clean closes heard =>
    exact .underWay front back (state ▸ last) (released ▸ waiting) split clean closes (observers ▸ heard)
  | done last ready clean heard => exact .done (state ▸ last) (released ▸ ready) clean (observers ▸ heard)
  | abandoned last waiting clean fails =>
    exact .abandoned (state ▸ last) (released ▸ waiting) clean (observers ▸ fails)

/-- A call begins when the one before has returned. -/
theorem begin (phase : Phase l [] told) (clean : Clean w) : Phase l w told := by
  cases phase with
  | ahead state waiting _ unheard => exact .ahead state waiting clean unheard
  | underWay front back _ _ split => exact absurd split.symm (by simp)
  | done state released _ heard => exact .done state released clean heard
  | abandoned state waiting _ fails => exact .abandoned state waiting clean fails

end Phase

/-! ## Groups -/

/-- A lifecycle joins or leaves its group right after it entered a state, before anything else that has to be
done for that state. -/
def Lined (l : Lifecycle) : List CallStep → Prop
  | [] => True
  | x :: rest => (∀ s, x = .atomic (.regroup s) → l.state = some s) ∧ ∀ y ∈ rest, y.isRegroup = false

theorem lined_of_plain (plain : ∀ y ∈ w, y.isRegroup = false) : Lined l w := by
  cases w with
  | nil => trivial
  | cons x rest =>
    refine ⟨fun s same => ?_, fun y member => plain y (List.mem_cons_of_mem _ member)⟩
    have other := plain x List.mem_cons_self
    rw [same] at other
    cases other

theorem Lined.congr {l' : Lifecycle} (lined : Lined l w) (state : l'.state = l.state) : Lined l' w := by
  cases w with
  | nil => trivial
  | cons x rest => exact ⟨fun s same => state.trans (lined.1 s same), lined.2⟩

theorem Lined.step (lined : Lined l (x :: rest)) : Lined (x.marks l asks) (x.next l rest) := by
  obtain ⟨-, later⟩ := lined
  cases enters : x.enters l.state with
  | some s =>
    obtain ⟨rfl, follows⟩ := enters_eq_some.mp enters
    rw [next_of_move follows]
    refine ⟨fun t same => ?_, fun z member => ?_⟩
    · cases same
      exact marks_state_of_enters enters
    · rcases List.mem_append.mp member with brought | after
      · simp only [List.mem_map, List.mem_append] at brought
        obtain ⟨u, ⟨o, -, rfl⟩ | last, rfl⟩ := brought
        · rfl
        · split at last
          · rw [List.mem_singleton.mp last]
            rfl
          · cases last
      · exact later z after
  | none =>
    refine lined_of_plain fun z member => ?_
    rcases mem_next member with brought | after
    · cases comes_of_mem_brought brought with
      | regroup s follows same =>
        rw [enters_eq_some.mpr ⟨rfl, follows⟩] at enters
        cases enters
      | tell s follows o own same | release follows same | reacts o s r own same | move o s c holds t same
      | ask o s c holds same => exact same ▸ rfl
    · exact later z after

/-- A connection is in no group but its own, and when it has come to its end it is just about to leave. -/
def Placed (l : Lifecycle) (w : List CallStep) (inside : Nat → Prop) : Prop :=
  ∀ g, inside g → l.group = some g ∧
    (l.state = some .disposed → w.head? = some (.atomic (.regroup .disposed)))

theorem Placed.step {inside inside' : Nat → Prop} (placed : Placed l (x :: rest) inside)
    (lined : Lined l (x :: rest))
    (joins : ∀ g, inside' g → inside g ∨ (x = .atomic (.regroup .connected) ∧ l.group = some g))
    (leaves : ∀ g, x = .atomic (.regroup .disposed) → l.group = some g → ¬ inside' g) :
    Placed (x.marks l asks) (x.next l rest) inside' := by
  intro g member
  rcases joins g member with before | ⟨rfl, own⟩
  · obtain ⟨own, departs⟩ := placed g before
    refine ⟨own, fun ended => ?_⟩
    cases enters : x.enters l.state with
    | none =>
      rw [marks_state enters] at ended
      have leaving : x = .atomic (.regroup .disposed) := Option.some.inj (departs ended)
      exact absurd member (leaves g leaving own)
    | some s =>
      rw [marks_state_of_enters enters] at ended
      obtain rfl := Option.some.inj ended
      obtain ⟨rfl, follows⟩ := enters_eq_some.mp enters
      rw [next_of_move follows]
      rfl
  · refine ⟨own, fun ended => ?_⟩
    have state : l.state = some .connected := lined.1 .connected rfl
    rw [marks_state rfl, state] at ended
    cases ended

/-- When a call has returned, a connection that has come to its end is in no group. -/
theorem Placed.begin {inside : Nat → Prop} (placed : Placed l [] inside) : Placed l w inside := by
  intro g member
  obtain ⟨own, departs⟩ := placed g member
  exact ⟨own, fun ended => by cases departs ended⟩

/-! ## Being dropped -/

/-- Whether a state belongs to the end of a connection. -/
def State.isLate (s : State) : Bool := decide (State.disconnecting.rank ≤ s.rank)

/-- The observers of a lifecycle fail at none of its last states. -/
def Lifecycle.SeesOut (l : Lifecycle) : Prop :=
  ∀ o ∈ l.observers, ∀ s, s.isLate = true → .fail ∉ o.reactionsTo s

/-- A lifecycle at its end: it was never connected, or is disposed, or an observer failed. -/
def Lifecycle.Ended (l : Lifecycle) : Prop :=
  l.state = none ∨ l.state = some .disposed ∨ ¬ l.SeesOut

/-- A step that has to do with the last states only. -/
def CallStep.IsLate (x : CallStep) : Prop :=
  (∀ s, x = .atomic (.move s) → s.isLate = true) ∧ ∀ s, x.about? = some s → s.isLate = true

/-- Whether a lifecycle is held, is being dropped, or is gone. -/
inductive Holding (l : Lifecycle) (w : List CallStep) (gone : Prop) : Prop where
  | held (holds : l.held = true) (there : ¬ gone) (stays : .vanish ∉ w)
  | leaving (front : List CallStep) (loose : l.held = false) (there : ¬ gone) (split : w = front ++ [.vanish])
      (stays : .vanish ∉ front) (late : ∀ x ∈ front, x.IsLate)
      (ends : l.Ended ∨ .atomic (.move .disposed) ∈ front)
  | gone (loose : l.held = false) (left : gone) (done : w = []) (ended : l.Ended)

namespace Holding

variable {gone gone' : Prop}

theorem ended_marks (late : x.IsLate) (ended : l.Ended) : (x.marks l asks).Ended := by
  rcases ended with fresh | last | cut
  · refine .inl ?_
    rw [marks_state, fresh]
    cases x with
    | atomic y =>
      cases y with
      | move s =>
        have later := late.1 s rfl
        rw [fresh]
        cases s <;> first | rfl | cases later
      | _ => rfl
    | _ => rfl
  · exact .inr (.inl (marks_disposed last))
  · exact .inr (.inr cut)

/-- A lifecycle that tries to move to its last state is at its end, unless it was never connected. -/
theorem ended_of_move : ((CallStep.atomic (.move .disposed)).marks l asks).Ended := by
  cases enters : (CallStep.atomic (.move .disposed)).enters l.state with
  | some s =>
    obtain ⟨same, -⟩ := enters_eq_some.mp enters
    cases same
    exact .inr (.inl (marks_state_of_enters enters))
  | none =>
    have state : ((CallStep.atomic (.move .disposed)).marks l asks).state = l.state := marks_state enters
    cases last : l.state with
    | none => exact .inl (state.trans last)
    | some s =>
      rw [last] at enters
      cases s with
      | disposed => exact .inr (.inl (state.trans last))
      | _ => cases enters

theorem late_brought (loose : l.held = false) (late : x.IsLate) : ∀ y ∈ x.brought l, y.IsLate := by
  intro y member
  cases comes_of_mem_brought member with
  | regroup s follows same | release follows same =>
    exact same ▸ ⟨fun t moves => (by cases moves), fun t about => by cases about⟩
  | tell s follows o own same =>
    exact same ▸ ⟨fun t moves => (by cases moves), fun t about => Option.some.inj about ▸ late.1 s rfl⟩
  | reacts o s r own same => exact same ▸ ⟨fun t moves => (by cases moves), fun t about => late.2 t about⟩
  | move o s c holds t same | ask o s c holds same =>
    rw [loose] at holds
    cases holds

/-- A step of a lifecycle that is held, or of the drop. The lifecycle is freed by the last step of its drop. -/
theorem step (holding : Holding l (x :: rest) gone) (known : x.Known l.observers)
    (freed : gone' ↔ gone ∨ x = .vanish) : Holding (x.marks l asks) (x.next l rest) gone' := by
  cases holding with
  | held holds there stays =>
    have other : x ≠ .vanish := fun same => stays (same ▸ List.mem_cons_self)
    refine held holds (by simp [freed, there, other]) fun member => ?_
    rcases mem_next member with brought | later
    · exact vanish_not_brought brought
    · exact stays (List.mem_cons_of_mem _ later)
  | leaving front loose there split stays late ends =>
    cases front with
    | nil =>
      -- Nothing is left of the disposal, so what it came to is what the lifecycle is gone with.
      obtain ⟨rfl, rfl⟩ := List.cons.inj split
      exact .gone loose (freed.mpr (.inr rfl)) rfl (ends.resolve_right List.not_mem_nil)
    | cons y front =>
      rw [List.cons_append] at split
      obtain ⟨rfl, rfl⟩ := List.cons.inj split
      have before : .vanish ∉ front := fun member => stays (List.mem_cons_of_mem _ member)
      have own := late x List.mem_cons_self
      have other : x ≠ .vanish := fun same => stays (same ▸ List.mem_cons_self)
      have there' : ¬ gone' := by simp [freed, there, other]
      cases fails : x.fails with
      | true =>
        refine leaving [] loose there' ?_ List.not_mem_nil (fun z member => absurd member List.not_mem_nil)
          (.inl ?_)
        · have none : front.filter isVanish = [] :=
            List.filter_eq_nil_iff.mpr fun z member => by
              cases z with
              | vanish => exact absurd member before
              | _ => simp [isVanish]
          rw [next_of_fails fails, List.filter_append, none]
          rfl
        · obtain ⟨o, s, rfl⟩ := eq_of_fails fails
          exact .inr (.inr fun sees => sees o known.1 s (own.2 s rfl) known.2)
      | false =>
        refine leaving (x.brought l ++ front) loose there' ?_ ?_ (fun z member => ?_) ?_
        · rw [next_of_not_fails fails, List.append_assoc]
        · exact fun member => (List.mem_append.mp member).elim vanish_not_brought before
        · rcases List.mem_append.mp member with brought | later
          · exact late_brought loose own z brought
          · exact late z (List.mem_cons_of_mem _ later)
        · rcases ends with ended | moves
          · exact .inl (ended_marks own ended)
          · rcases List.mem_cons.mp moves with rfl | later
            · exact .inl ended_of_move
            · exact .inr (List.mem_append_right _ later)
  | gone loose left done ended => cases done

theorem congr {l' : Lifecycle} (holding : Holding l w gone) (same : gone' ↔ gone) (held : l'.held = l.held)
    (state : l'.state = l.state) (observers : l'.observers = l.observers) : Holding l' w gone' := by
  have ended : l.Ended → l'.Ended := by
    unfold Lifecycle.Ended Lifecycle.SeesOut
    rw [state, observers]
    exact id
  cases holding with
  | held holds there stays => exact .held (held ▸ holds) (fun left => there (same.mp left)) stays
  | leaving front loose there split stays late ends =>
    exact .leaving front (held ▸ loose) (fun left => there (same.mp left)) split stays late (ends.imp_left ended)
  | gone loose left done last => exact .gone (held ▸ loose) (same.mpr left) done (ended last)

/-- Nobody frees a lifecycle that somebody holds. -/
theorem there_of_held (holding : Holding l w gone) (holds : l.held = true) : ¬ gone := by
  cases holding with
  | held _ there _ => exact there
  | leaving _ loose | gone loose =>
    rw [loose] at holds
    cases holds

/-- The last holder gives a lifecycle up: what is left to do is to dispose it, and then to free it. -/
theorem drop {l' : Lifecycle} (there : ¬ gone) (loose : l'.held = false) :
    Holding l' (Call.dispose.steps ++ [.vanish]) gone := by
  refine .leaving Call.dispose.steps loose there rfl (vanish_not_mem_steps .dispose) (fun x member => ?_)
    (.inr (by simp [Call.steps, Call.atomicSteps]))
  obtain ⟨y, inside, rfl⟩ := List.mem_map.mp member
  simp only [Call.atomicSteps, List.mem_cons, List.not_mem_nil, or_false] at inside
  rcases inside with rfl | rfl
  · exact ⟨fun t moves => (by cases moves; rfl), fun t about => by cases about⟩
  · exact ⟨fun t moves => (by cases moves; rfl), fun t about => by cases about⟩

end Holding

end

end StreamHost.Connection
