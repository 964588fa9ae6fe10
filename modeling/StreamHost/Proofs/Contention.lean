import Mathlib.Data.List.Induction
import StreamHost.Proofs.Interleaving
import StreamHost.Proofs.Requests
import StreamHost.Proofs.Tellings

/-!
Calls that move one lifecycle at the same time. A call looks at the state, decides whether its target may
follow, and if so tries to exchange the one for the other. The exchange fails if another call has moved the
lifecycle since; then the call decides again on the state that is there now. Looking and trying are steps of
their own, and the steps of different calls may come in any order.

States only go forward, so a failed exchange means progress: no call tries more often than there are states
to pass, and no two calls move the lifecycle to the same state. To the others a call looks as if it had done
all at once, in the step in which it returns.
-/

namespace StreamHost.Connection

namespace State

/-- How far a lifecycle has come whose last state is `last`. -/
def placeOf (last : Option State) : Nat := (last.map rank).getD 0

variable {last : Option State} {s : State}

/-- A state is refused that was reached before, and before the first state every other one. -/
theorem mayFollow_eq_false_iff :
    mayFollow last s = false ↔ s.rank ≤ placeOf last ∨ placeOf last = 0 ∧ s ≠ connected := by
  cases last with
  | none => cases s <;> decide
  | some t => cases t <;> cases s <;> decide

theorem placeOf_lt_of_mayFollow (follows : mayFollow last s = true) : placeOf last < s.rank := by
  refine Nat.lt_of_not_le fun reached => ?_
  rw [mayFollow_eq_false_iff.mpr (.inl reached)] at follows
  cases follows

/-- From a state to one that may follow there are at most three steps. -/
theorem rank_le_placeOf_add (follows : mayFollow last s = true) : s.rank ≤ placeOf last + 3 := by
  cases last with
  | none =>
    obtain rfl := mayFollow_none.mp follows
    decide
  | some t => cases t <;> cases s <;> decide

theorem placeOf_eq_zero : placeOf last = 0 ↔ last = none := by
  cases last with
  | none => decide
  | some t => cases t <;> decide

theorem placeOf_injective : Function.Injective placeOf := by
  intro a b same
  cases a with
  | none => exact (placeOf_eq_zero.mp same.symm).symm
  | some s => cases b with
    | none => exact placeOf_eq_zero.mp same
    | some t => cases s <;> cases t <;> simp_all [placeOf, rank]

theorem eq_connected_of_placeOf (unstarted : placeOf last = 0) (follows : mayFollow last s = true) :
    s = connected := by
  rw [placeOf_eq_zero.mp unstarted] at follows
  exact mayFollow_none.mp follows

end State

theorem Hub.place_eq_placeOf (h : Hub) (id : Nat) : h.place id = State.placeOf (h.state? id) :=
  Hub.place_eq

/-! ## One call -/

/-- Where a call stands that is to move a lifecycle. -/
inductive Mover.Stage where
  /-- It has not looked at the state. -/
  | outset
  /-- It saw a state that its target may follow, and is about to exchange the one for the other. -/
  | poised (seen : Option State)
  | returned (moved : Bool)
  deriving DecidableEq, Repr

/-- A call that is to move a lifecycle to a state. -/
structure Mover where
  target : State
  stage : Mover.Stage := .outset
  deriving DecidableEq, Repr

namespace Mover

/-- It decides on the state that it finds. -/
def weigh (m : Mover) (found : Option State) : Mover :=
  { m with stage := if State.mayFollow found m.target then .poised found else .returned false }

/-- One step of a call. An exchange succeeds if the state is still the one that was seen. -/
def step (id : Nat) (h : Hub) (m : Mover) : Hub × Mover :=
  match m.stage with
  | .outset => (h, m.weigh (h.state? id))
  | .poised seen =>
    if h.state? id = seen then
      (h.modify id fun l => { l with state := some m.target }, { m with stage := .returned true })
    else (h, m.weigh (h.state? id))
  | .returned _ => (h, m)

/-- It has come to its end. -/
def IsOver (m : Mover) : Prop := ∃ moved, m.stage = .returned moved

/-- What one step of a call does. -/
inductive Steps (id : Nat) (h : Hub) (m : Mover) : Hub → Mover → Prop where
  /-- It learns of a state, by looking or because its exchange failed. -/
  | weighs (going : ¬ m.IsOver) (changed : m.stage ≠ .poised (h.state? id)) :
      Steps id h m h (m.weigh (h.state? id))
  | moves (unchanged : m.stage = .poised (h.state? id)) :
      Steps id h m (h.modify id fun l => { l with state := some m.target }) { m with stage := .returned true }
  | rests (done : m.IsOver) : Steps id h m h m

variable {id : Nat} {h h' : Hub} {m m' : Mover} {current next : Option State}

theorem steps (id : Nat) (h : Hub) (m : Mover) : m.Steps id h (m.step id h).1 (m.step id h).2 := by
  unfold step
  split
  · rename_i outset
    exact .weighs (by simp [IsOver, outset]) (by simp [outset])
  · rename_i seen poised
    split
    · rename_i same
      exact .moves (same ▸ poised)
    · rename_i changed
      refine .weighs (by simp [IsOver, poised]) ?_
      rw [poised]
      exact fun same => changed (Stage.poised.inj same).symm
  · rename_i moved returned
    exact .rests ⟨moved, returned⟩

/-- What a call knows: its target may follow what it saw, the lifecycle has not gone back since, and where
the call moved it to, it has come. -/
def Knows (m : Mover) (current : Option State) : Prop :=
  match m.stage with
  | .poised seen => State.mayFollow seen m.target = true ∧ State.placeOf seen ≤ State.placeOf current
  | .returned true => m.target.rank ≤ State.placeOf current
  | .outset | .returned false => True

/-- What it knows stays true while the lifecycle goes on. -/
theorem Knows.mono (knows : m.Knows current) (onward : State.placeOf current ≤ State.placeOf next) :
    m.Knows next := by
  unfold Knows at knows ⊢
  split
  · rename_i poised
    simp only [poised] at knows
    exact ⟨knows.1, Nat.le_trans knows.2 onward⟩
  · rename_i returned
    simp only [returned] at knows
    exact Nat.le_trans knows onward
  · trivial
  · trivial

theorem knows_weigh (m : Mover) (found : Option State) : (m.weigh found).Knows found := by
  unfold Knows weigh
  cases follows : State.mayFollow found m.target with
  | true => exact ⟨follows, Nat.le_refl _⟩
  | false => trivial

/-- The target of a call that is about to move the lifecycle may follow. -/
theorem Knows.follows {seen : Option State} (knows : m.Knows current) (poised : m.stage = .poised seen) :
    State.mayFollow seen m.target = true := by
  simp only [Knows, poised] at knows
  exact knows.1

/-- An exchange that fails shows that the lifecycle has gone on. -/
theorem Knows.lt_of_ne {seen : Option State} (knows : m.Knows current) (poised : m.stage = .poised seen)
    (changed : current ≠ seen) : State.placeOf seen < State.placeOf current := by
  simp only [Knows, poised] at knows
  exact Nat.lt_of_le_of_ne knows.2 fun same => changed (State.placeOf_injective same).symm

theorem Steps.target (steps : m.Steps id h h' m') : m'.target = m.target := by
  cases steps <;> rfl

/-- A call that is about to move the lifecycle has just seen the state that it is in. -/
theorem Steps.seen {seen : Option State} (steps : m.Steps id h h' m') (poised : m'.stage = .poised seen) :
    h' = h ∧ h.state? id = seen := by
  cases steps with
  | weighs =>
    unfold weigh at poised
    split at poised
    · exact ⟨rfl, Stage.poised.inj poised⟩
    · cases poised
  | moves => cases poised
  | rests done =>
    obtain ⟨moved, returned⟩ := done
    rw [returned] at poised
    cases poised

/-- A call refuses in the step in which it finds that its target may not follow. -/
theorem Steps.refused (steps : m.Steps id h h' m') (refused : m'.stage = .returned false) :
    m' = m ∨ ¬ m.IsOver ∧ h' = h ∧ State.mayFollow (h.state? id) m.target = false := by
  cases steps with
  | weighs going =>
    unfold weigh at refused
    split at refused
    · cases refused
    · rename_i blocked
      exact .inr ⟨going, rfl, Bool.eq_false_iff.mpr blocked⟩
  | moves => cases refused
  | rests => exact .inl rfl

/-- How many steps a call has left at most: one look, and one exchange for each state that it may be
overtaken by. -/
def stepsLeft (m : Mover) : Nat :=
  match m.stage with
  | .outset => 4
  | .poised seen => m.target.rank - State.placeOf seen
  | .returned _ => 0

theorem isOver_of_stepsLeft (knows : m.Knows current) (none : m.stepsLeft = 0) : m.IsOver := by
  cases stage : m.stage with
  | outset => simp [stepsLeft, stage] at none
  | poised seen =>
    have ahead := State.placeOf_lt_of_mayFollow (knows.follows stage)
    simp only [stepsLeft, stage] at none
    omega
  | returned moved => exact ⟨moved, stage⟩

theorem stepsLeft_weigh (m : Mover) (found : Option State) :
    (m.weigh found).stepsLeft ≤ m.target.rank - State.placeOf found ∧ (m.weigh found).stepsLeft ≤ 3 := by
  unfold stepsLeft weigh
  cases follows : State.mayFollow found m.target with
  | true =>
    have near := State.rank_le_placeOf_add follows
    simp only [↓reduceIte]
    omega
  | false => simp

/-- Each step of a call that is not over takes one of those that were left. -/
theorem Steps.stepsLeft_lt (steps : m.Steps id h h' m') (knows : m.Knows (h.state? id)) :
    m'.stepsLeft < m.stepsLeft ∨ m'.stepsLeft = 0 := by
  cases steps with
  | weighs going changed =>
    obtain ⟨near, few⟩ := stepsLeft_weigh m (h.state? id)
    cases stage : m.stage with
    | outset =>
      left
      simp only [stepsLeft, stage] at few ⊢
      omega
    | poised seen =>
      have onward := knows.lt_of_ne stage fun same => changed (same ▸ stage)
      have ahead := State.placeOf_lt_of_mayFollow (knows.follows stage)
      left
      have before : m.stepsLeft = m.target.rank - State.placeOf seen := by simp [stepsLeft, stage]
      omega
    | returned moved => exact absurd ⟨moved, stage⟩ going
  | moves => exact .inr rfl
  | rests done =>
    obtain ⟨moved, returned⟩ := done
    exact .inr (by simp [stepsLeft, returned])

/-- To the others a call looks as if it did all in one step, the one in which it returns: that step does
what a move does that nobody can interrupt. No other step changes anything. -/
theorem Steps.like_move (steps : m.Steps id h h' m') {l : Lifecycle} (found : h.lifecycle? id = some l)
    (going : ¬ m.IsOver) (knows : m.Knows (h.state? id)) :
    (∀ moved, m'.stage = .returned moved →
      (AtomicStep.move m.target).run id h = (h', if moved then m.target.aftermath l.observers else [])) ∧
    (¬ m'.IsOver → h' = h) := by
  have state : h.state? id = l.state := by simp [Hub.state?, found]
  cases steps with
  | weighs =>
    refine ⟨fun moved returned => ?_, fun _ => rfl⟩
    unfold weigh at returned
    split at returned
    · cases returned
    · rename_i refused
      obtain rfl : false = moved := Stage.returned.inj returned
      rw [state] at refused
      simp [AtomicStep.run, found, refused]
  | moves unchanged =>
    refine ⟨fun moved returned => ?_, fun going => absurd ⟨true, rfl⟩ going⟩
    obtain rfl : true = moved := Stage.returned.inj returned
    have follows := knows.follows unchanged
    rw [state] at follows
    simp [AtomicStep.run, found, follows]
  | rests done => exact absurd done going

end Mover

/-! ## Any number of calls -/

/-- A lifecycle among all lifecycles, and the calls that are to move it. -/
structure ExchangeRace where
  hub : Hub
  movers : List Mover

namespace ExchangeRace

/-- Calls that are about to begin. -/
def start (h : Hub) (targets : List State) : ExchangeRace := ⟨h, targets.map fun s => { target := s }⟩

/-- A call does its next step. -/
def step (id : Nat) (c : ExchangeRace) (i : Nat) : ExchangeRace :=
  match c.movers[i]? with
  | some m => ⟨(m.step id c.hub).1, c.movers.set i (m.step id c.hub).2⟩
  | none => c

/-- Calls take turns as a schedule says. -/
def run (id : Nat) (c : ExchangeRace) (schedule : List Nat) : ExchangeRace := schedule.foldl (step id) c

/-- How far the lifecycle has come. -/
def place (id : Nat) (c : ExchangeRace) : Nat := c.hub.place id

/-- Call number `i`, which was to move the lifecycle to `s`, is over, and this is what it returned. -/
def Returned (c : ExchangeRace) (i : Nat) (s : State) (moved : Bool) : Prop :=
  c.movers[i]? = some ⟨s, .returned moved⟩

instance (c : ExchangeRace) (i : Nat) (s : State) (moved : Bool) : Decidable (c.Returned i s moved) :=
  inferInstanceAs (Decidable (_ = _))

variable {id i : Nat} {h : Hub} {c : ExchangeRace} {l : Lifecycle} {targets : List State}

theorem run_append (c : ExchangeRace) (schedule later : List Nat) :
    c.run id (schedule ++ later) = (c.run id schedule).run id later :=
  List.foldl_append

theorem run_concat (c : ExchangeRace) (schedule : List Nat) (i : Nat) :
    c.run id (schedule ++ [i]) = (c.run id schedule).step id i :=
  run_append c schedule [i]

/-- It is a call's turn: there is no such call, or it does a step. -/
theorem step_cases (id : Nat) (c : ExchangeRace) (i : Nat) :
    (c.movers[i]? = none ∧ c.step id i = c) ∨ ∃ m hub m', c.movers[i]? = some m ∧
      m.Steps id c.hub hub m' ∧ c.step id i = ⟨hub, c.movers.set i m'⟩ := by
  unfold step
  cases own : c.movers[i]? with
  | none => exact .inl ⟨rfl, rfl⟩
  | some m => exact .inr ⟨m, _, _, rfl, m.steps id c.hub, rfl⟩

/-- What holds of all calls and the lifecycle between any two steps. -/
structure Sound (id : Nat) (c : ExchangeRace) : Prop where
  present : ∃ l, c.hub.lifecycle? id = some l
  knows : ∀ m ∈ c.movers, m.Knows (c.hub.state? id)
  /-- Of the calls for one state at most one has moved the lifecycle. -/
  apart : ∀ i j s, c.Returned i s true → c.Returned j s true → i = j

theorem Sound.knows_of_get (sound : c.Sound id) {m : Mover} (own : c.movers[i]? = some m) :
    m.Knows (c.hub.state? id) :=
  sound.knows m (List.mem_of_getElem? own)

theorem sound_start (found : h.lifecycle? id = some l) (targets : List State) :
    (start h targets).Sound id := by
  have fresh : ∀ m ∈ (start h targets).movers, m.stage = .outset := by
    intro m member
    obtain ⟨s, -, rfl⟩ := List.mem_map.mp member
    rfl
  refine ⟨⟨l, found⟩, fun m member => ?_, fun i j s first _ => ?_⟩
  · simp [Mover.Knows, fresh m member]
  · cases fresh _ (List.mem_of_getElem? first)

/-- One step: the lifecycle goes on or stays where it is, and whoever moved it had it in front of the
target. -/
theorem Sound.steps {m m' : Mover} {hub : Hub} (sound : c.Sound id) (own : c.movers[i]? = some m)
    (steps : m.Steps id c.hub hub m') :
    (∃ l, hub.lifecycle? id = some l) ∧ m'.target = m.target ∧ m'.Knows (hub.state? id) ∧
      State.placeOf (c.hub.state? id) ≤ State.placeOf (hub.state? id) ∧
      (m' = m ∨ m'.stage ≠ .returned true ∨ State.placeOf (c.hub.state? id) < m.target.rank) := by
  have knows := sound.knows_of_get own
  cases steps with
  | weighs =>
    refine ⟨sound.present, rfl, m.knows_weigh _, Nat.le_refl _, .inr (.inl ?_)⟩
    unfold Mover.weigh
    split <;> simp
  | moves unchanged =>
    obtain ⟨l, found⟩ := sound.present
    have ahead := State.placeOf_lt_of_mayFollow (knows.follows unchanged)
    have state : (c.hub.modify id fun l => { l with state := some m.target }).state? id = some m.target := by
      simp [Hub.state?, Hub.lifecycle?_modify, found]
    have reached : State.placeOf (some m.target) = m.target.rank := rfl
    refine ⟨⟨{ l with state := some m.target }, by simp [Hub.lifecycle?_modify, found]⟩, rfl, ?_, ?_,
      .inr (.inr ahead)⟩
    · rw [state]
      exact Nat.le_refl _
    · rw [state, reached]
      exact Nat.le_of_lt ahead
  | rests => exact ⟨sound.present, rfl, knows, Nat.le_refl _, .inl rfl⟩

theorem Sound.step (sound : c.Sound id) (i : Nat) : (c.step id i).Sound id := by
  rcases step_cases id c i with ⟨-, same⟩ | ⟨m, hub, m', own, steps, stepped⟩
  · rw [same]
    exact sound
  · obtain ⟨present, target, knows, onward, moved⟩ := sound.steps own steps
    have inside : i < c.movers.length := (List.getElem?_eq_some_iff.mp own).1
    -- A call that moves the lifecycle to a state that another one moved it to would move it back.
    have alone : ∀ k s, m' = ⟨s, .returned true⟩ → c.Returned k s true → i = k := by
      intro k s now before
      rcases moved with same | other | ahead
      · exact sound.apart i k s (own.trans (congrArg some (same.symm.trans now))) before
      · exact absurd (congrArg Mover.stage now) other
      · have reached : s.rank ≤ State.placeOf (c.hub.state? id) := sound.knows_of_get before
        rw [← target, now] at ahead
        exact absurd ahead (Nat.not_lt.mpr reached)
    rw [stepped]
    refine ⟨present, fun k member => ?_, fun j k s first second => ?_⟩
    · rcases List.mem_or_eq_of_mem_set member with old | rfl
      · exact (sound.knows k old).mono onward
      · exact knows
    · simp only [Returned, List.getElem?_set] at first second
      split at first <;> split at second
      · rename_i here there
        exact here.symm.trans there
      · rename_i here away
        exact here.symm.trans (alone k s (Option.some.inj first) second)
      · rename_i away here
        exact ((alone j s (Option.some.inj second) first).symm).trans here
      · exact sound.apart j k s first second

theorem Sound.run (sound : c.Sound id) (schedule : List Nat) : (c.run id schedule).Sound id := by
  unfold ExchangeRace.run
  exact List.foldlRecOn (motive := Sound id) schedule _ sound fun _ before i _ => before.step i

/-! ## What a whole run shows -/

/-- The lifecycle never goes back. -/
theorem Sound.place_le_run (sound : c.Sound id) (schedule : List Nat) :
    c.hub.place id ≤ (c.run id schedule).hub.place id := by
  induction schedule generalizing c with
  | nil => exact Nat.le_refl _
  | cons i rest ih =>
    refine Nat.le_trans ?_ (ih (sound.step i))
    rw [Hub.place_eq_placeOf, Hub.place_eq_placeOf]
    rcases step_cases id c i with ⟨-, same⟩ | ⟨m, hub, m', own, steps, stepped⟩
    · exact Nat.le_of_eq (by rw [same])
    · obtain ⟨-, -, -, onward, -⟩ := sound.steps own steps
      rw [stepped]
      exact onward

/-- From nowhere it goes to the first state only. -/
theorem Sound.begins (sound : c.Sound id) (unstarted : c.hub.place id = 0) (i : Nat) :
    (c.step id i).hub.place id = 0 ∨ (c.step id i).hub.state? id = some .connected := by
  rw [Hub.place_eq_placeOf] at unstarted ⊢
  rcases step_cases id c i with ⟨-, same⟩ | ⟨m, hub, m', own, steps, stepped⟩
  · rw [same]
    exact .inl unstarted
  · have knows := sound.knows_of_get own
    rw [stepped]
    cases steps with
    | weighs | rests => exact .inl unstarted
    | moves unchanged =>
      obtain ⟨l, found⟩ := sound.present
      have first := State.eq_connected_of_placeOf unstarted (knows.follows unchanged)
      right
      simp [Hub.state?, Hub.lifecycle?_modify, found, first]

/-- What call `j` is after a step of call `i`. -/
theorem movers_step (id : Nat) (c : ExchangeRace) (i j : Nat) : (c.step id i).movers[j]? =
    if i = j then (c.movers[i]?).map fun m => (m.step id c.hub).2 else c.movers[j]? := by
  unfold step
  cases own : c.movers[i]? with
  | none =>
    simp only [Option.map_none]
    split
    · rename_i same
      rw [← same, own]
    · rfl
  | some m =>
    have inside : i < c.movers.length := (List.getElem?_eq_some_iff.mp own).1
    simp [List.getElem?_set, inside]

/-- An exchange succeeds if nothing has changed. -/
theorem returned_of_unchanged {s : State} {seen : Option State} (poised : c.movers[i]? = some ⟨s, .poised seen⟩)
    (unchanged : c.hub.state? id = seen) : (c.step id i).Returned i s true := by
  rw [Returned, movers_step, if_pos rfl, poised]
  simp [Mover.step, unchanged]

/-- The step that made a call what it is now, if it was something else before. -/
theorem step_before {schedule : List Nat} {m : Mover} (own : (c.run id schedule).movers[i]? = some m) :
    c.movers[i]? = some m ∨ ∃ earlier later k, schedule = earlier ++ i :: later ∧ i ∉ later ∧
      (c.run id earlier).movers[i]? = some k ∧ m = (k.step id (c.run id earlier).hub).2 := by
  induction schedule using List.reverseRecOn with
  | nil => exact .inl own
  | append_singleton before j ih =>
    rw [run_concat, movers_step] at own
    split at own
    · rename_i same
      subst same
      obtain ⟨k, present, now⟩ := Option.map_eq_some_iff.mp own
      exact .inr ⟨before, [], k, rfl, List.not_mem_nil, present, now.symm⟩
    · rename_i other
      rcases ih own with first | ⟨earlier, later, k, split, apart, present, now⟩
      · exact .inl first
      · refine .inr ⟨earlier, later ++ [j], k, ?_, ?_, present, now⟩
        · rw [split, List.append_assoc, List.cons_append]
        · simpa [apart] using fun same : i = j => other same.symm

/-- A call that is about to move the lifecycle saw its state in its last step. -/
theorem seen_before (fresh : ∀ m, c.movers[i]? = some m → m.stage = .outset) {schedule : List Nat}
    {s : State} {seen : Option State} (poised : (c.run id schedule).movers[i]? = some ⟨s, .poised seen⟩) :
    ∃ earlier later, schedule = earlier ++ i :: later ∧ i ∉ later ∧
      (c.run id earlier).hub.state? id = seen := by
  rcases step_before poised with first | ⟨earlier, later, k, split, apart, -, now⟩
  · cases fresh _ first
  · have steps := k.steps id (c.run id earlier).hub
    exact ⟨earlier, later, split, apart, (steps.seen (now ▸ rfl)).2⟩

/-- A call that refused found at one of its steps that its target may not follow. -/
theorem refused_before (fresh : ∀ m, c.movers[i]? = some m → m.stage = .outset) {schedule : List Nat}
    {s : State} (refused : (c.run id schedule).Returned i s false) :
    ∃ earlier later, schedule = earlier ++ i :: later ∧
      (∃ k, (c.run id earlier).movers[i]? = some k ∧ k.target = s ∧ ¬ k.IsOver) ∧
      State.mayFollow ((c.run id earlier).hub.state? id) s = false := by
  -- Its last step may have been a rest, so the induction goes back to shorter and shorter schedules.
  induction length : schedule.length using Nat.strongRecOn generalizing schedule with
  | ind n ih =>
    rcases step_before refused with first | ⟨earlier, later, k, split, -, present, now⟩
    · cases fresh _ first
    · have steps := k.steps id (c.run id earlier).hub
      have target : k.target = s := steps.target.symm.trans (now ▸ rfl)
      rcases steps.refused (now ▸ rfl) with rest | ⟨going, -, blocked⟩
      · have shorter : earlier.length < n := by
          rw [← length, split]
          simp
        have already : (c.run id earlier).Returned i s false := by
          rw [Returned, present, now, rest]
        obtain ⟨earliest, middle, before, found⟩ := ih _ shorter already rfl
        refine ⟨earliest, middle ++ i :: later, ?_, found⟩
        rw [split, before, List.append_assoc, List.cons_append]
      · exact ⟨earlier, later, split, ⟨k, present, target, going⟩, target ▸ blocked⟩

/-- Every turn takes one of the steps that a call has left. -/
theorem Sound.stepsLeft_run (sound : c.Sound id) (schedule : List Nat) {m k : Mover}
    (own : c.movers[i]? = some m) (later : (c.run id schedule).movers[i]? = some k) :
    k.stepsLeft + schedule.count i ≤ m.stepsLeft ∨ k.stepsLeft = 0 := by
  induction schedule generalizing c m with
  | nil =>
    obtain rfl : m = k := Option.some.inj (own.symm.trans later)
    exact .inl (Nat.le_refl _)
  | cons j rest ih =>
    have after := movers_step id c j i
    split at after
    · rename_i same
      subst same
      rw [own, Option.map_some] at after
      have fewer := (m.steps id c.hub).stepsLeft_lt (sound.knows_of_get own)
      have onward := ih (sound.step j) after later
      rw [List.count_cons_self]
      omega
    · rename_i other
      have onward := ih (sound.step j) (after.trans own) later
      rwa [List.count_cons_of_ne other]

theorem target_run (schedule : List Nat) :
    ((c.run id schedule).movers[i]?).map Mover.target = (c.movers[i]?).map Mover.target := by
  induction schedule generalizing c with
  | nil => rfl
  | cons j rest ih =>
    refine ih.trans ?_
    rw [movers_step]
    split
    · rename_i same
      subst same
      rw [Option.map_map]
      exact Option.map_congr fun m _ => (m.steps id c.hub).target
    · rfl

theorem movers_start (h : Hub) (targets : List State) (i : Nat) :
    (start h targets).movers[i]? = (targets[i]?).map fun s => { target := s } :=
  List.getElem?_map

theorem Returned.run {s : State} {moved : Bool} (returned : c.Returned i s moved) (schedule : List Nat) :
    (c.run id schedule).Returned i s moved := by
  unfold ExchangeRace.run
  refine List.foldlRecOn (motive := fun (c : ExchangeRace) => c.Returned i s moved) schedule _ returned
    fun c before j _ => ?_
  rw [Returned, movers_step]
  split
  · rename_i same
    rw [same, before]
    rfl
  · exact before

/-! ## Calls as moves in one step -/

/-- A move that nobody can interrupt, and whether it took place. -/
def moveAtOnce (id : Nat) (h : Hub) (s : State) : Hub × Bool :=
  let done := (AtomicStep.move s).run id h
  (done.1, !done.2.isEmpty)

/-- What a call returns in its next step, if that is its last one. -/
def lastWord? (id : Nat) (h : Hub) (m : Mover) : Option (State × Bool) :=
  match (m.step id h).2.stage with
  | .returned moved => if (m.step id h).2 = m then none else some (m.target, moved)
  | _ => none

/-- What is returned when it is the turn of call `i`. -/
def returnOf? (id : Nat) (c : ExchangeRace) (i : Nat) : Option (State × Bool) :=
  (c.movers[i]?).bind (lastWord? id c.hub)

/-- The calls that return in the course of a schedule, in the order in which they do: what each of them was
for, and what it returned. -/
def returns (id : Nat) : ExchangeRace → List Nat → List (State × Bool)
  | _, [] => []
  | c, i :: rest => (returnOf? id c i).toList ++ returns id (c.step id i) rest

theorem Sound.returnOf?_cases (sound : c.Sound id) (i : Nat) :
    (returnOf? id c i = none ∧ (c.step id i).hub = c.hub) ∨ ∃ s moved,
      returnOf? id c i = some (s, moved) ∧ moveAtOnce id c.hub s = ((c.step id i).hub, moved) := by
  obtain ⟨l, found⟩ := sound.present
  unfold returnOf? ExchangeRace.step
  cases own : c.movers[i]? with
  | none => exact .inl ⟨rfl, rfl⟩
  | some m =>
    by_cases done : m.IsOver
    · obtain ⟨moved, returned⟩ := done
      have rests : m.step id c.hub = (c.hub, m) := by simp [Mover.step, returned]
      exact .inl ⟨by simp [lastWord?, rests, returned], by simp [rests]⟩
    · obtain ⟨last, still⟩ := (m.steps id c.hub).like_move found done (sound.knows_of_get own)
      cases ends : (m.step id c.hub).2.stage with
      | outset | poised seen =>
        have going : ¬ (m.step id c.hub).2.IsOver := by simp [Mover.IsOver, ends]
        exact .inl ⟨by simp [lastWord?, ends], still going⟩
      | returned moved =>
        have changed : (m.step id c.hub).2 ≠ m := fun same => done ⟨moved, same ▸ ends⟩
        refine .inr ⟨m.target, moved, by simp [lastWord?, ends, changed], ?_⟩
        rw [moveAtOnce, last moved ends]
        cases moved <;> rfl

/-- Whatever the order of the steps, the lifecycle comes to where moves in one step would bring it, one for
each call that has returned, in the order in which they did; and each returned what its move would. -/
theorem returns_like_moves (sound : c.Sound id) (schedule : List Nat) :
    inTurn (moveAtOnce id) c.hub ((returns id c schedule).map Prod.fst) =
      ((c.run id schedule).hub, (returns id c schedule).map Prod.snd) := by
  induction schedule generalizing c with
  | nil => rfl
  | cons i rest ih =>
    have onward := ih (sound.step i)
    have run : c.run id (i :: rest) = (c.step id i).run id rest := rfl
    rw [returns, run]
    rcases sound.returnOf?_cases i with ⟨nothing, still⟩ | ⟨s, moved, last, atOnce⟩
    · rw [nothing]
      rwa [still] at onward
    · simp [last, inTurn, atOnce, onward]

/-! ## Any order of steps -/

/-- However the steps of any number of calls come, each of which is to move the lifecycle to some state: the
lifecycle never goes back, and from nowhere it goes to the first state only. What a call returned stays, and
of the calls for one state at most one ever moves the lifecycle. A call refuses only if at one of its own
steps the lifecycle had reached its target, or had not begun and the target was not the first state. An
exchange that fails shows that the lifecycle has gone on since the call's step before. So a call has
returned when it has had four turns: one look, and three exchanges. -/
theorem one_call_wins_and_all_return (found : h.lifecycle? id = some l) (targets : List State) :
    let race := (start h targets).run id
    (∀ earlier later, (race earlier).hub.place id ≤ (race (earlier ++ later)).hub.place id) ∧
    (∀ schedule i, (race schedule).hub.place id = 0 →
      (race (schedule ++ [i])).hub.place id = 0 ∨ (race (schedule ++ [i])).hub.state? id = some .connected) ∧
    (∀ earlier later i s moved, (race earlier).Returned i s moved →
      (race (earlier ++ later)).Returned i s moved) ∧
    (∀ schedule i j s, (race schedule).Returned i s true → (race schedule).Returned j s true → i = j) ∧
    (∀ schedule i s, (race schedule).Returned i s false → ∃ earlier later, schedule = earlier ++ i :: later ∧
      (∃ m, (race earlier).movers[i]? = some m ∧ m.target = s ∧ ¬ m.IsOver) ∧
      (s.rank ≤ (race earlier).hub.place id ∨ (race earlier).hub.place id = 0 ∧ s ≠ .connected)) ∧
    (∀ schedule i s seen, (race schedule).movers[i]? = some ⟨s, .poised seen⟩ →
      ¬ (race (schedule ++ [i])).Returned i s true →
      ∃ earlier later, schedule = earlier ++ i :: later ∧ i ∉ later ∧
        (race earlier).hub.state? id = seen ∧ (race earlier).hub.place id < (race schedule).hub.place id) ∧
    ∀ schedule i s, targets[i]? = some s → 1 + 3 ≤ schedule.count i →
      ∃ moved, (race schedule).Returned i s moved := by
  intro race
  have begun : (start h targets).Sound id := sound_start found targets
  have fresh : ∀ (i : Nat) (m : Mover), (start h targets).movers[i]? = some m → m.stage = .outset := by
    intro i m own
    rw [movers_start] at own
    obtain ⟨s, -, rfl⟩ := Option.map_eq_some_iff.mp own
    rfl
  refine ⟨fun earlier later => ?_, fun schedule i unstarted => ?_, fun earlier later i s moved returned => ?_,
    fun schedule => (begun.run schedule).apart, fun schedule i s refused => ?_,
    fun schedule i s seen poised failed => ?_, fun schedule i s asked turns => ?_⟩
  · rw [show race (earlier ++ later) = (race earlier).run id later from run_append ..]
    exact (begun.run earlier).place_le_run later
  · rw [show race (schedule ++ [i]) = (race schedule).step id i from run_concat ..]
    exact (begun.run schedule).begins unstarted i
  · rw [show race (earlier ++ later) = (race earlier).run id later from run_append ..]
    exact returned.run later
  · obtain ⟨earlier, later, split, going, blocked⟩ := refused_before (fresh i) refused
    rw [State.mayFollow_eq_false_iff, ← Hub.place_eq_placeOf] at blocked
    exact ⟨earlier, later, split, going, blocked⟩
  · obtain ⟨earlier, later, split, apart, saw⟩ := seen_before (fresh i) poised
    refine ⟨earlier, later, split, apart, saw, ?_⟩
    have knows := (begun.run schedule).knows_of_get poised
    rw [Hub.place_eq_placeOf, Hub.place_eq_placeOf, saw]
    refine knows.lt_of_ne rfl fun unchanged => failed ?_
    rw [show race (schedule ++ [i]) = (race schedule).step id i from run_concat ..]
    exact returned_of_unchanged poised unchanged
  · have first : (start h targets).movers[i]? = some { target := s } := by
      rw [movers_start, asked]
      rfl
    obtain ⟨m, own, target⟩ := Option.map_eq_some_iff.mp ((target_run schedule).trans (congrArg _ first))
    have none : m.stepsLeft = 0 := by
      rcases begun.stepsLeft_run schedule first own with few | none
      · have all : Mover.stepsLeft { target := s } = 4 := rfl
        omega
      · exact none
    obtain ⟨moved, returned⟩ := Mover.isOver_of_stepsLeft ((begun.run schedule).knows_of_get own) none
    have target : m.target = s := target
    have whole : m = ⟨s, .returned moved⟩ := by rw [← target, ← returned]
    exact ⟨moved, own.trans (congrArg some whole)⟩

/-- Four calls, one for each state, on a lifecycle that has not begun. -/
def oneForEachState : ExchangeRace :=
  start (Hub.create {} (.unix none) (.unix none) [] none).1 [.connected, .configured, .disconnecting, .disposed]

/-- The last of four calls is overtaken twice, and is the one that moves the lifecycle in the end. -/
theorem last_call_is_overtaken_twice :
    let race := oneForEachState.run 0
    let schedule := [0, 0, 3, 1, 1, 3, 2, 2, 3, 3]
    (race schedule).Returned 3 .disposed true ∧ (∃ moved, (race schedule).Returned 3 .disposed moved) ∧
      (∀ j, (race schedule).Returned j .disposed true → j = 3) ∧
      State.connected.rank < (race [0, 0, 3, 1, 1]).hub.place 0 := by
  intro race schedule
  obtain ⟨l, found⟩ : ∃ l, (Hub.create {} (.unix none) (.unix none) [] none).1.lifecycle? 0 = some l := ⟨_, rfl⟩
  obtain ⟨-, -, -, alone, -, overtaken, ends⟩ :=
    one_call_wins_and_all_return found [.connected, .configured, .disconnecting, .disposed]
  have won : (race schedule).Returned 3 .disposed true := by decide
  obtain ⟨earlier, later, -, -, saw, onward⟩ :=
    overtaken [0, 0, 3, 1, 1] 3 .disposed (some .connected) (by decide) (by decide)
  refine ⟨won, ends schedule 3 .disposed rfl (by decide), fun j also => alone schedule j 3 .disposed also won, ?_⟩
  rw [Hub.place_eq_placeOf, saw] at onward
  exact onward

/-- It takes all of its turns: after three of them it is still about to move the lifecycle. -/
example : (oneForEachState.run 0 [0, 0, 3, 1, 1, 3, 2, 2, 3]).movers[3]? =
    some ⟨.disposed, .poised (some .disconnecting)⟩ := by decide

end ExchangeRace

end StreamHost.Connection
