import Mathlib.Logic.Function.Iterate
import StreamHost.Connection.Waiter
import StreamHost.Proofs.HubSteps

/-!
Waiting for a group to be empty, while connections join and leave it.

A removal takes a member out, looks whether the group is empty now, and announces it if so. A wait first
listens for announcements, then looks whether the group is empty, and if it is not it parks until an
announcement was made since it began to listen; then it starts over. All of these are steps of their own,
and between any two of them others may do theirs: members may join between a removal and its look, and a
wait may begin to listen between a look and the announcement.

No wake-up is lost all the same. A wait that heard nothing since it listened has seen a member, and the
last member to go leaves a removal behind that has not announced anything yet. So once a group is empty
and its removals are done, no wait is parked for good; and what a wait gives is what `Waiter.poll` says.
-/

namespace StreamHost.Connection

/-- What is left to do of a removal that took its member out. -/
inductive Removal where
  | looking
  /-- It found the group empty, and is about to announce that. -/
  | announcing
  deriving DecidableEq, Repr

/-- How far a wait for a group to be empty has got. From the moment it listens an announcement wakes it,
even if it is not parked yet. -/
inductive Wait where
  | called
  | listening (woken : Bool)
  /-- It saw a member, and is about to park. -/
  | deciding (woken : Bool)
  | parked (woken : Bool)
  | returned
  | givenUp
  deriving DecidableEq, Repr

namespace Wait

/-- An announcement reaches a wait. -/
def wake : Wait → Wait
  | listening _ => listening true
  | deciding _ => deciding true
  | parked _ => parked true
  | x => x

/-- The next step of a wait, where `empty` tells whether the group is empty now. -/
def go (empty : Bool) : Wait → Wait
  | called => listening false
  | listening woken => if empty then returned else deciding woken
  | deciding woken => parked woken
  | parked true => called
  | x => x

/-- Whether a wait saw a member and heard no announcement since it listened. -/
def IsDeaf (x : Wait) : Prop := x = deciding false ∨ x = parked false

end Wait

/-- A group, with the removals and the waits that are under way. -/
structure Watch where
  hub : Hub
  removals : List Removal := []
  waits : List Wait := []

namespace Watch

inductive Step where
  | join (id : Nat)
  /-- A member is taken out. Who is not a member is not taken out, and nothing is left to do. -/
  | remove (id : Nat)
  /-- The next step of a removal. -/
  | settle (i : Nat)
  /-- Somebody begins to wait. -/
  | call
  /-- The next step of a wait. -/
  | go (i : Nat)
  | giveUp (i : Nat)

/-- Whether the group is empty, as a removal or a wait sees it. -/
def isEmpty (g : Nat) (w : Watch) : Bool := (w.hub.members g).isEmpty

/-- One step. -/
def step (g : Nat) (w : Watch) : Step → Watch
  | .join id => { w with hub := w.hub.join id (some g) }
  | .remove id =>
    if (w.hub.members g).contains id then
      { w with hub := w.hub.leave id (some g), removals := w.removals ++ [.looking] }
    else w
  | .settle i =>
    match w.removals[i]? with
    | some .looking =>
      if w.isEmpty g then { w with removals := w.removals.set i .announcing }
      else { w with removals := w.removals.eraseIdx i }
    | some .announcing => { w with removals := w.removals.eraseIdx i, waits := w.waits.map Wait.wake }
    | none => w
  | .call => { w with waits := w.waits ++ [.called] }
  | .go i => { w with waits := w.waits.modify i (Wait.go (w.isEmpty g)) }
  | .giveUp i => { w with waits := w.waits.modify i fun _ => .givenUp }

/-- Steps one after the other. -/
def run (g : Nat) (w : Watch) (steps : List Step) : Watch := steps.foldl (step g) w

/-- Nobody waits yet, and nothing is left to do of any removal. -/
def start (h : Hub) : Watch := { hub := h }

section

variable {g i : Nat} {w : Watch} {x : Wait} {s : Step} {steps : List Step}

theorem run_append (g : Nat) (w : Watch) (steps later : List Step) :
    w.run g (steps ++ later) = (w.run g steps).run g later :=
  List.foldl_append

theorem isEmpty_eq_true_iff : w.isEmpty g = true ↔ w.hub.members g = [] := by
  simp [isEmpty]

/-! ## Who has not been woken -/

/-- A wait that saw a member and heard nothing since still has somebody to hear from: a member that is to
be removed, or a removal that is not done. -/
def Sound (g : Nat) (w : Watch) : Prop :=
  ∀ x ∈ w.waits, x.IsDeaf → w.hub.members g ≠ [] ∨ w.removals ≠ []

theorem sound_start (g : Nat) (h : Hub) : (start h).Sound g := by
  intro x member
  cases member

/-- Nobody stays deaf when an announcement is made. -/
theorem not_isDeaf_wake (x : Wait) : ¬ x.wake.IsDeaf := by
  intro deaf
  cases x <;> rcases deaf with same | same <;> cases same

/-- A wait becomes deaf only by seeing a member. -/
theorem isDeaf_of_go {empty : Bool} (deaf : (x.go empty).IsDeaf) : empty = false ∨ x.IsDeaf := by
  cases x with
  | called => rcases deaf with same | same <;> cases same
  | listening woken =>
    cases empty with
    | false => exact .inl rfl
    | true => rcases deaf with same | same <;> cases same
  | deciding woken =>
    right
    rcases deaf with same | same
    · cases same
    · left
      simpa [Wait.go] using same
  | parked woken =>
    right
    cases woken with
    | false => exact .inr rfl
    | true => rcases deaf with same | same <;> cases same
  | returned => rcases deaf with same | same <;> cases same
  | givenUp => rcases deaf with same | same <;> cases same

/-- The waits that a change at one place leaves. -/
theorem mem_modify {f : Wait → Wait} (member : x ∈ w.waits.modify i f) :
    x ∈ w.waits ∨ ∃ y ∈ w.waits, x = f y := by
  obtain ⟨j, found⟩ := List.mem_iff_getElem?.mp member
  rw [List.getElem?_modify] at found
  obtain ⟨y, there, result⟩ := Option.map_eq_some_iff.mp found
  have old : y ∈ w.waits := List.mem_iff_getElem?.mpr ⟨j, there⟩
  by_cases here : i = j
  · rw [if_pos here] at result
    exact .inr ⟨y, old, result.symm⟩
  · rw [if_neg here] at result
    have same : y = x := result
    exact .inl (same ▸ old)

theorem Sound.join (sound : w.Sound g) (id : Nat) : (w.step g (.join id)).Sound g := by
  intro x member deaf
  cases sound x member deaf with
  | inl occupied =>
    left
    obtain ⟨j, inside⟩ := List.exists_mem_of_ne_nil _ occupied
    exact List.ne_nil_of_mem (Hub.mem_members_join.mpr (.inl inside))
  | inr pending => exact .inr pending

theorem Sound.remove (sound : w.Sound g) (id : Nat) : (w.step g (.remove id)).Sound g := by
  simp only [step]
  split
  · intro x member deaf
    right
    simp
  · exact sound

/-- A look that finds the group empty leaves the removal to announce it, one that finds a member is not
needed, and an announcement wakes everybody. -/
theorem Sound.settle (sound : w.Sound g) (i : Nat) : (w.step g (.settle i)).Sound g := by
  simp only [step]
  split
  · rename_i found
    by_cases empty : w.isEmpty g = true
    · rw [if_pos empty]
      intro x member deaf
      right
      have present : i < w.removals.length := (List.getElem?_eq_some_iff.mp found).1
      intro none
      have length := congrArg List.length none
      simp only [List.length_set, List.length_nil] at length
      omega
    · rw [if_neg empty]
      intro x member deaf
      exact .inl (mt isEmpty_eq_true_iff.mpr empty)
  · intro x member deaf
    obtain ⟨y, old, rfl⟩ := List.mem_map.mp member
    exact absurd deaf (not_isDeaf_wake y)
  · exact sound

theorem Sound.call (sound : w.Sound g) : (w.step g .call).Sound g := by
  intro x member deaf
  cases List.mem_append.mp member with
  | inl old => exact sound x old deaf
  | inr new =>
    obtain rfl := List.mem_singleton.mp new
    rcases deaf with same | same <;> cases same

theorem Sound.go (sound : w.Sound g) (i : Nat) : (w.step g (.go i)).Sound g := by
  intro x member deaf
  cases mem_modify member with
  | inl old => exact sound x old deaf
  | inr changed =>
    obtain ⟨y, old, rfl⟩ := changed
    cases isDeaf_of_go deaf with
    | inl occupied =>
      left
      intro empty
      have empty : w.isEmpty g = true := isEmpty_eq_true_iff.mpr empty
      rw [empty] at occupied
      cases occupied
    | inr before => exact sound y old before

theorem Sound.giveUp (sound : w.Sound g) (i : Nat) : (w.step g (.giveUp i)).Sound g := by
  intro x member deaf
  cases mem_modify member with
  | inl old => exact sound x old deaf
  | inr changed =>
    obtain ⟨y, old, rfl⟩ := changed
    rcases deaf with same | same <;> cases same

theorem Sound.step (sound : w.Sound g) (s : Step) : (w.step g s).Sound g := by
  cases s with
  | join id => exact sound.join id
  | remove id => exact sound.remove id
  | settle i => exact sound.settle i
  | call => exact sound.call
  | go i => exact sound.go i
  | giveUp i => exact sound.giveUp i

theorem Sound.run (sound : w.Sound g) (steps : List Step) : (w.run g steps).Sound g := by
  induction steps generalizing w with
  | nil => exact sound
  | cons s rest ih => exact ih (sound.step s)

/-! ## What a wait gives -/

/-- The one way to return is to look and see that the group is empty. -/
theorem returned_of_go {empty : Bool} (ends : x.go empty = .returned) :
    x = .returned ∨ empty = true := by
  cases x with
  | listening woken =>
    cases empty with
    | false => cases ends
    | true => exact .inr rfl
  | parked woken => cases woken <;> cases ends
  | returned => exact .inl rfl
  | called | deciding | givenUp => cases ends

theorem wake_eq_returned (ends : x.wake = .returned) : x = .returned := by
  cases x <;> first | rfl | cases ends

/-- A step after which a wait has returned found it returned, or found the group empty. -/
theorem returned_of_step (ends : (w.step g s).waits[i]? = some .returned) :
    w.waits[i]? = some .returned ∨ w.hub.members g = [] := by
  cases s with
  | join id => exact .inl ends
  | remove id =>
    left
    simp only [step] at ends
    split at ends <;> exact ends
  | settle j =>
    left
    simp only [step] at ends
    split at ends
    · split at ends <;> exact ends
    · simp only [List.getElem?_map] at ends
      obtain ⟨y, found, woken⟩ := Option.map_eq_some_iff.mp ends
      rw [found, wake_eq_returned woken]
    · exact ends
  | call =>
    left
    simp only [step, List.getElem?_append] at ends
    split at ends
    · exact ends
    · have new := List.mem_of_getElem? ends
      cases List.mem_singleton.mp new
  | go j =>
    simp only [step, List.getElem?_modify] at ends
    obtain ⟨y, found, result⟩ := Option.map_eq_some_iff.mp ends
    by_cases own : j = i
    · rw [if_pos own] at result
      cases returned_of_go result with
      | inl before => exact .inl (before ▸ found)
      | inr empty => exact .inr (isEmpty_eq_true_iff.mp empty)
    · rw [if_neg own] at result
      have same : y = .returned := result
      exact .inl (same ▸ found)
  | giveUp j =>
    left
    simp only [step, List.getElem?_modify] at ends
    obtain ⟨y, found, result⟩ := Option.map_eq_some_iff.mp ends
    by_cases own : j = i
    · rw [if_pos own] at result
      cases result
    · rw [if_neg own] at result
      have same : y = .returned := result
      exact same ▸ found

/-- A wait that has returned by the end of a run, and not at its start, was there when the group was
empty. -/
theorem empty_of_returned (unended : w.waits[i]? ≠ some .returned)
    (ends : (w.run g steps).waits[i]? = some .returned) :
    ∃ past, past <+: steps ∧ (w.run g past).hub.members g = [] := by
  induction steps generalizing w with
  | nil => exact absurd ends unended
  | cons s rest ih =>
    by_cases early : (w.step g s).waits[i]? = some .returned
    · cases returned_of_step early with
      | inl before => exact absurd before unended
      | inr empty => exact ⟨[], List.nil_prefix, empty⟩
    · obtain ⟨past, initial, empty⟩ := ih early ends
      exact ⟨s :: past, List.cons_prefix_cons.mpr ⟨rfl, initial⟩, empty⟩

/-- The steps of one wait, while nothing else happens. -/
theorem run_go (g i n : Nat) (w : Watch) : w.run g (List.replicate n (.go i)) =
    { w with waits := w.waits.modify i (Wait.go (w.isEmpty g))^[n] } := by
  induction n generalizing w with
  | zero => simp [run, List.modify_id]
  | succ n ih =>
    have same : (w.step g (.go i)).isEmpty g = w.isEmpty g := rfl
    rw [List.replicate_succ]
    show (w.step g (.go i)).run g (List.replicate n (.go i)) = _
    rw [ih, same]
    simp [step, Function.iterate_succ, List.modify_modify_eq]

/-- Four steps of its own take a wait to its end if the group is empty and it is not deaf: back from where
it was parked, then once around. -/
theorem go_four_of_empty (wakes : ¬ x.IsDeaf) (kept : x ≠ .givenUp) :
    (Wait.go true)^[4] x = .returned := by
  cases x with
  | called | listening | returned => rfl
  | deciding woken =>
    cases woken with
    | true => rfl
    | false => exact absurd (.inl rfl) wakes
  | parked woken =>
    cases woken with
    | true => rfl
    | false => exact absurd (.inr rfl) wakes
  | givenUp => exact absurd rfl kept

/-- While the group has a member no number of steps takes a wait to its end. -/
theorem go_iterate_of_occupied (n : Nat) (unended : x ≠ .returned) :
    (Wait.go false)^[n] x ≠ .returned := by
  induction n with
  | zero => exact unended
  | succ n ih =>
    rw [Function.iterate_succ_apply']
    intro ends
    cases returned_of_go ends with
    | inl before => exact ih before
    | inr empty => cases empty

/-- Where no removal is under way, a wait that goes on alone returns if and only if `Waiter.poll` says that
the wait is over. -/
theorem returns_iff_poll (sound : w.Sound g) (settled : w.removals = []) (found : w.waits[i]? = some x)
    (unended : x ≠ .returned) (kept : x ≠ .givenUp) (now : Nat) :
    (w.run g (List.replicate 4 (.go i))).waits[i]? = some .returned ↔
      (Waiter.poll now w.hub (.empty g)).2 = .ended (.ok ()) := by
  have gone : (w.run g (List.replicate 4 (.go i))).waits[i]? = some ((Wait.go (w.isEmpty g))^[4] x) := by
    rw [run_go]
    simp [found]
  rw [gone, Option.some.injEq, Waiter.poll, Waiter.plain]
  by_cases empty : w.isEmpty g = true
  · have silent : ¬ x.IsDeaf := by
      intro deaf
      cases sound x (List.mem_of_getElem? found) deaf with
      | inl occupied => exact occupied (isEmpty_eq_true_iff.mp empty)
      | inr pending => exact pending settled
    rw [empty, go_four_of_empty silent kept]
    simp [isEmpty_eq_true_iff.mp empty]
  · have occupied : w.isEmpty g = false := Bool.eq_false_iff.mpr empty
    have members : (w.hub.members g).isEmpty = false := occupied
    rw [occupied, members]
    constructor
    · intro ends
      exact absurd ends (go_iterate_of_occupied 4 unended)
    · intro ends
      cases ends

/-! ## The steps and the operations -/

/-- The steps of a removal that nobody comes between are what leaving a group is. Whoever waits has been
woken if that took the last member out. -/
theorem run_removal (settled : w.removals = []) {id : Nat} (member : id ∈ w.hub.members g) :
    let left := w.hub.leave id (some g)
    w.run g [.remove id, .settle 0, .settle 0] =
      { hub := left, waits := if (left.members g).isEmpty then w.waits.map Wait.wake else w.waits } := by
  intro left
  have taken : w.step g (.remove id) = { w with hub := left, removals := [.looking] } := by
    simp [step, member, settled, left]
  show ((w.step g (.remove id)).step g (.settle 0)).step g (.settle 0) = _
  rw [taken]
  by_cases empty : (left.members g).isEmpty = true
  · have looked : ({ w with hub := left, removals := [.looking] } : Watch).step g (.settle 0) =
        { w with hub := left, removals := [.announcing] } := by
      simp only [step, List.getElem?_cons_zero, isEmpty, empty, ↓reduceIte, List.set_cons_zero]
    rw [looked, if_pos empty]
    rfl
  · have looked : ({ w with hub := left, removals := [.looking] } : Watch).step g (.settle 0) =
        { w with hub := left, removals := [] } := by
      simp only [step, List.getElem?_cons_zero, isEmpty, empty, Bool.false_eq_true, ↓reduceIte,
        List.eraseIdx_cons_zero]
    rw [looked, if_neg empty]
    rfl

theorem run_removal_of_stranger {id : Nat} (settled : w.removals = []) (stranger : id ∉ w.hub.members g) :
    w.run g [.remove id, .settle 0, .settle 0] = w := by
  have unchanged : w.step g (.remove id) = w := by
    simp [step, stranger]
  have idle : w.step g (.settle 0) = w := by
    simp [step, settled]
  show ((w.step g (.remove id)).step g (.settle 0)).step g (.settle 0) = w
  rw [unchanged, idle, idle]

end

/-- However members join and leave, and waits begin, go on and are given up, step by step and in any
order: where a group is empty and none of its removals is under way, nobody is parked unwoken, and every
wait that was not given up returns by steps of its own. And a wait that returned was there when the group
was empty. -/
theorem no_wakeup_is_lost (h : Hub) (g : Nat) (steps : List Step) :
    let w := (start h).run g steps
    (w.hub.members g = [] → w.removals = [] →
      Wait.parked false ∉ w.waits ∧
      ∀ i x, w.waits[i]? = some x → x ≠ .givenUp →
        (w.run g (List.replicate 4 (.go i))).waits[i]? = some .returned) ∧
    ∀ past later, steps = past ++ .call :: later →
      w.waits[((start h).run g past).waits.length]? = some .returned →
      ∃ passed, passed <+: later ∧
        ((start h).run g (past ++ .call :: passed)).hub.members g = [] := by
  intro w
  have sound : w.Sound g := (sound_start g h).run steps
  constructor
  · intro empty settled
    have hears : ∀ x ∈ w.waits, ¬ x.IsDeaf := by
      intro x member deaf
      cases sound x member deaf with
      | inl occupied => exact occupied empty
      | inr pending => exact pending settled
    constructor
    · intro member
      exact hears _ member (.inr rfl)
    · intro i x found kept
      rw [run_go, isEmpty_eq_true_iff.mpr empty]
      simp only [List.getElem?_modify_eq, found]
      exact congrArg some (go_four_of_empty (hears x (List.mem_of_getElem? found)) kept)
  · intro past later split ends
    have begun : ((start h).run g (past ++ [.call])).waits[((start h).run g past).waits.length]? ≠
        some .returned := by
      rw [run_append]
      simp [run, step]
    have whole : w = ((start h).run g (past ++ [.call])).run g later := by
      rw [← run_append, List.append_assoc]
      exact congrArg _ split
    rw [whole] at ends
    obtain ⟨passed, initial, empty⟩ := empty_of_returned begun ends
    refine ⟨passed, initial, ?_⟩
    rw [← run_append, List.append_assoc] at empty
    exact empty

/-- One member, and somebody who waits: parked when the member is taken out, it returns once that was
announced. -/
def lastLeaves : List Step :=
  [.join 0, .call, .go 0, .go 0, .go 0, .remove 0, .settle 0, .settle 0]

theorem no_wakeup_is_lost_lastLeaves :
    let w := (start { groups := [[]] }).run 0 lastLeaves
    w.waits = [.parked true] ∧ Wait.parked false ∉ w.waits ∧
      (w.run 0 (List.replicate 4 (.go 0))).waits[0]? = some .returned ∧
      ∃ passed, passed <+: lastLeaves.drop 2 ++ List.replicate 3 (.go 0) ∧
        ((start { groups := [[]] }).run 0 ([.join 0] ++ .call :: passed)).hub.members 0 = [] := by
  have settled := (no_wakeup_is_lost { groups := [[]] } 0 lastLeaves).1 (by decide) (by decide)
  have ended := (no_wakeup_is_lost { groups := [[]] } 0 (lastLeaves ++ List.replicate 3 (.go 0))).2
    [.join 0] (lastLeaves.drop 2 ++ List.replicate 3 (.go 0)) rfl (by decide)
  exact ⟨by decide, settled.1, settled.2 0 (.parked true) (by decide) (by decide), ended⟩

end Watch

end StreamHost.Connection
