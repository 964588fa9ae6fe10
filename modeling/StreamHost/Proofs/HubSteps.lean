import StreamHost.Connection.Hub

/-!
What an operation on a lifecycle does to all lifecycles and groups. It is made of small changes: a
lifecycle enters a state and its group is kept, observers are told, a close is requested, those who wait
are released. Whatever withstands each of them withstands the operation, however its observers react.
Where an operation ends is said apart: a disposed lifecycle has reached the last state.
-/

namespace StreamHost.Connection

namespace Observer

/-- An observer that is told and does nothing. -/
def IsQuiet (o : Observer) : Prop := ∀ s, o.reactionsTo s = []

/-- An observer that may act on connections and groups but never fails. -/
def NeverFails (o : Observer) : Prop := ∀ r ∈ o.reactions, r.2 ≠ .fail

theorem mem_reactions_of_mem_reactionsTo {o : Observer} {s : State} {r : Reaction}
    (member : r ∈ o.reactionsTo s) : (s, r) ∈ o.reactions := by
  unfold reactionsTo at member
  split at member
  · cases member
  · obtain ⟨⟨t, q⟩, kept, rfl⟩ := List.mem_map.mp member
    obtain ⟨inside, same⟩ := List.mem_filter.mp kept
    have same : t = s := by simpa using same
    exact same ▸ inside

end Observer

/-- How far a connection has come: nowhere yet, or the rank of its last state. -/
def Lifecycle.place (l : Lifecycle) : Nat := (l.state.map State.rank).getD 0

namespace State

variable {l : Lifecycle} {s : State}

theorem place_lt_of_mayFollow (follows : mayFollow l.state s = true) : l.place < s.rank := by
  unfold Lifecycle.place
  cases last : l.state with
  | none => cases s <;> simp [rank]
  | some t => exact mayFollow_some.mp (last ▸ follows)

theorem rank_le_place (blocked : mayFollow l.state s = false)
    (asked : l.state ≠ none ∨ s = .connected) : s.rank ≤ l.place := by
  unfold Lifecycle.place
  cases last : l.state with
  | none =>
    rcases asked with started | rfl
    · exact absurd last started
    · exact absurd blocked (by simp [last, mayFollow])
  | some t =>
    have blocked : ¬ t < s := by simpa [last, mayFollow] using blocked
    exact Nat.le_of_not_lt blocked

theorem eq_disposed_of_place (reached : disposed.rank ≤ l.place) : l.state = some disposed := by
  unfold Lifecycle.place at reached
  cases last : l.state with
  | none => simp [last, rank] at reached
  | some t => cases t <;> simp_all [rank]

end State

/-- One lifecycle later on: who it is, who hears of it and its group are as before, and it has not gone
back. -/
structure Lifecycle.Descends (l l' : Lifecycle) : Prop where
  identity : l'.identity = l.identity
  observers : l'.observers = l.observers
  group : l'.group = l.group
  place : l.place ≤ l'.place

namespace Lifecycle.Descends

variable {l l' l'' : Lifecycle}

theorem refl (l : Lifecycle) : l.Descends l := ⟨rfl, rfl, rfl, Nat.le_refl _⟩

theorem trans (first : l.Descends l') (second : l'.Descends l'') : l.Descends l'' :=
  ⟨second.identity.trans first.identity, second.observers.trans first.observers,
    second.group.trans first.group, Nat.le_trans first.place second.place⟩

theorem started (goes : l.Descends l') (started : l.state ≠ none) : l'.state ≠ none := by
  intro lost
  have place := goes.place
  obtain ⟨t, last⟩ := Option.ne_none_iff_exists'.mp started
  simp only [Lifecycle.place, last, lost, Option.map_some, Option.map_none, Option.getD] at place
  cases t <;> simp [State.rank] at place

end Lifecycle.Descends

/-- One lifecycle later on, held by whoever held it. -/
structure Lifecycle.Continues (l l' : Lifecycle) : Prop extends l.Descends l' where
  held : l'.held = l.held

namespace Lifecycle.Continues

variable {l l' l'' : Lifecycle}

theorem refl (l : Lifecycle) : l.Continues l := ⟨.refl l, rfl⟩

theorem trans (first : l.Continues l') (second : l'.Continues l'') : l.Continues l'' :=
  ⟨first.toDescends.trans second.toDescends, second.held.trans first.held⟩

end Lifecycle.Continues

/-- What observers show while a connection moves. -/
def Event.isNews : Event → Bool
  | .notified .. | .heard .. | .closedAll .. | .counted .. => true
  | _ => false

namespace Hub

variable {h : Hub} {id j g : Nat} {group : Option Nat} {s : State}

/-- Whether somebody holds a connection. -/
def isHeld (h : Hub) (id : Nat) : Bool := ((h.lifecycle? id).map Lifecycle.held).getD false

theorem isHeld_iff : h.isHeld id = true ↔ ∃ l, h.lifecycle? id = some l ∧ l.held = true := by
  unfold isHeld
  cases h.lifecycle? id <;> simp

/-! ## Small changes, field by field -/

@[simp] theorem lifecycle?_emit (e : Event) : (h.emit e).lifecycle? j = h.lifecycle? j := rfl

@[simp] theorem lifecycle?_emitAll (es : List Event) :
    (h.emitAll es).lifecycle? j = h.lifecycle? j := rfl

@[simp] theorem members_emit (e : Event) : (h.emit e).members g = h.members g := rfl

@[simp] theorem members_emitAll (es : List Event) : (h.emitAll es).members g = h.members g := rfl

@[simp] theorem members_modify (f : Lifecycle → Lifecycle) :
    (h.modify id f).members g = h.members g := rfl

theorem lifecycle?_modify (f : Lifecycle → Lifecycle) :
    (h.modify id f).lifecycle? j = if id = j then (h.lifecycle? j).map f else h.lifecycle? j := by
  simp only [lifecycle?, modify, List.getElem?_modify]
  split <;> cases h.lifecycles[j]? <;> rfl

@[simp] theorem length_lifecycles_modify (f : Lifecycle → Lifecycle) :
    (h.modify id f).lifecycles.length = h.lifecycles.length := by
  simp [modify]

@[simp] theorem lifecycles_regroup : (h.regroup id group s).lifecycles = h.lifecycles := by
  cases s <;> cases group <;> rfl

@[simp] theorem lifecycle?_regroup : (h.regroup id group s).lifecycle? j = h.lifecycle? j := by
  simp [lifecycle?]

@[simp] theorem events_regroup : (h.regroup id group s).events = h.events := by
  cases s <;> cases group <;> rfl

@[simp] theorem failing_regroup : (h.regroup id group s).failing = h.failing := by
  cases s <;> cases group <;> rfl

@[simp] theorem length_groups_regroup : (h.regroup id group s).groups.length = h.groups.length := by
  cases s <;> cases group <;> simp [regroup, join, leave]

@[simp] theorem events_enter : (h.enter id group s).events = h.events := by
  simp [enter, modify]

@[simp] theorem failing_enter : (h.enter id group s).failing = h.failing := by
  simp [enter, modify]

@[simp] theorem length_lifecycles_enter :
    (h.enter id group s).lifecycles.length = h.lifecycles.length := by
  simp [enter]

@[simp] theorem length_groups_enter : (h.enter id group s).groups.length = h.groups.length := by
  simp [enter, modify]

theorem lifecycle?_enter : (h.enter id group s).lifecycle? j =
    if id = j then (h.lifecycle? j).map fun l => { l with state := some s } else h.lifecycle? j := by
  simp [enter, lifecycle?_modify]

theorem lifecycle?_requestClose : (h.requestClose id).lifecycle? j =
    if id = j then (h.lifecycle? j).map fun l => { l with closeRequested := true }
    else h.lifecycle? j :=
  lifecycle?_modify _

theorem lifecycle?_create {localEnd remoteEnd : Address.Endpoint} {observers : List Observer}
    {group : Option Nat} : (h.create localEnd remoteEnd observers group).1.lifecycle? j =
      if j = h.lifecycles.length then
        some { identity := ⟨j + 1, localEnd, remoteEnd⟩, observers, group }
      else h.lifecycle? j := by
  simp only [Hub.create, lifecycle?, List.getElem?_append]
  split
  · rename_i inside
    rw [if_neg (Nat.ne_of_lt inside)]
  · rename_i outside
    by_cases last : j = h.lifecycles.length
    · simp [last]
    · have beyond : h.lifecycles.length < j := by omega
      rw [if_neg last, List.getElem?_eq_none (Nat.le_of_lt beyond), List.getElem?_eq_none]
      simp only [List.length_singleton]
      omega

/-! ## Groups -/

private theorem getD_modify (groups : List (List Nat)) (f : List Nat → List Nat) (i k : Nat) :
    (groups.modify i f).getD k [] =
      if i = k ∧ k < groups.length then f (groups.getD k []) else groups.getD k [] := by
  simp only [List.getD_eq_getElem?_getD, List.getElem?_modify]
  by_cases same : i = k
  · by_cases inside : k < groups.length
    · simp [same, inside]
    · simp [same, inside]
  · cases groups[k]? <;> simp [same]

theorem members_newGroup : h.newGroup.1.members g = h.members g := by
  simp only [newGroup, members, List.getD_eq_getElem?_getD, List.getElem?_append]
  split
  · rfl
  · rename_i outside
    rw [List.getElem?_eq_none (Nat.le_of_not_lt outside)]
    cases g - h.groups.length <;> rfl

/-- Joining adds one member to one group that exists. -/
theorem mem_members_join :
    j ∈ (h.join id group).members g ↔
      j ∈ h.members g ∨ (j = id ∧ group = some g ∧ g < h.groups.length) := by
  cases group with
  | none => simp [join]
  | some k =>
    simp only [join, members, getD_modify, Option.some.injEq]
    by_cases same : k = g ∧ g < h.groups.length
    · obtain ⟨rfl, inside⟩ := same
      simp only [inside, and_self, ↓reduceIte, and_true]
      split
      · rename_i present
        have present : id ∈ h.groups.getD k [] := by simpa using present
        constructor
        · exact Or.inl
        · rintro (member | rfl)
          · exact member
          · exact present
      · simp
    · rw [if_neg same]
      constructor
      · exact Or.inl
      · rintro (member | ⟨-, rfl, inside⟩)
        · exact member
        · exact absurd ⟨rfl, inside⟩ same

/-- Leaving takes one member out of one group. -/
theorem mem_members_leave :
    j ∈ (h.leave id group).members g ↔ j ∈ h.members g ∧ ¬ (j = id ∧ group = some g) := by
  cases group with
  | none => simp [leave]
  | some k =>
    simp only [leave, members, getD_modify, Option.some.injEq]
    by_cases same : k = g
    · subst same
      by_cases inside : k < h.groups.length
      · simp [inside]
      · simp [inside]
    · simp [same]

theorem nodup_members_join (once : (h.members g).Nodup) : ((h.join id group).members g).Nodup := by
  cases group with
  | none => exact once
  | some k =>
    simp only [join, members, getD_modify]
    split
    · split
      · exact once
      · rename_i absent
        have absent : id ∉ h.members g := by simpa [members] using absent
        exact List.nodup_append.mpr ⟨once, by simp, by
          intro a inside b last
          have last : b = id := by simpa using last
          exact fun same => absent (last ▸ same ▸ inside)⟩
    · exact once

theorem nodup_members_leave (once : (h.members g).Nodup) : ((h.leave id group).members g).Nodup := by
  cases group with
  | none => exact once
  | some k =>
    simp only [leave, members, getD_modify]
    split
    · exact once.filter _
    · exact once

/-- Who is in a group after a connection entered a state. -/
theorem mem_members_enter :
    j ∈ (h.enter id group s).members g ↔
      if j = id ∧ group = some g then
        (s = .connected ∧ g < h.groups.length) ∨ (s ≠ .disposed ∧ j ∈ h.members g)
      else j ∈ h.members g := by
  have change : (h.modify id fun l => { l with state := some s }).groups.length = h.groups.length := rfl
  cases s with
  | connected =>
    simp only [enter, regroup, mem_members_join, members_modify, change]
    by_cases own : j = id ∧ group = some g
    · simp [own, or_comm]
    · rw [if_neg own]
      constructor
      · rintro (member | ⟨same, joined, -⟩)
        · exact member
        · exact absurd ⟨same, joined⟩ own
      · exact Or.inl
  | disposed =>
    simp only [enter, regroup, mem_members_leave, members_modify]
    by_cases own : j = id ∧ group = some g
    · simp [own]
    · simp [own]
  | configured | disconnecting => simp [enter, regroup]

theorem nodup_members_enter (once : (h.members g).Nodup) :
    ((h.enter id group s).members g).Nodup := by
  cases s with
  | connected => exact nodup_members_join (h := h.modify id _) once
  | disposed => exact nodup_members_leave (h := h.modify id _) once
  | configured | disconnecting => exact once

/-- Asking many connections to close marks these and no others. -/
theorem lifecycle?_foldl_requestClose (ids : List Nat) :
    (ids.foldl requestClose h).lifecycle? j =
      (h.lifecycle? j).map fun l => if j ∈ ids then { l with closeRequested := true } else l := by
  induction ids generalizing h with
  | nil => simp
  | cons first rest ih =>
    rw [List.foldl_cons, ih, lifecycle?_requestClose]
    by_cases same : first = j
    · subst same
      cases h.lifecycle? first with
      | none => simp
      | some l => by_cases again : first ∈ rest <;> simp [again]
    · have other : j ≠ first := fun equal => same equal.symm
      simp [same, other]

/-! ## What a whole operation keeps -/

/-- `P` withstands every small change that an operation on the lifecycle `id` is made of, as long as the
observers of that lifecycle are such as `Q` says. -/
structure Withstands (Q : Observer → Prop) (id : Nat) (P : Hub → Prop) : Prop where
  observers : ∀ {h l}, P h → h.lifecycle? id = some l → ∀ o ∈ l.observers, Q o
  enter : ∀ {h l s}, P h → h.lifecycle? id = some l → State.mayFollow l.state s = true →
    P (h.enter id l.group s)
  emit : ∀ {h e}, P h → e.isNews = true → P (h.emit e)
  requestClose : ∀ {h} j, P h → P (h.requestClose j)
  release : ∀ {h}, P h → P (h.release id)
  fail : ∀ {h o s}, P h → Q o → (s, .fail) ∈ o.reactions → P { h with failing := true }

namespace Withstands

variable {Q : Observer → Prop} {P : Hub → Prop} {move : Hub → Nat → State → Hub} {o : Observer}

theorem callVia (keeps : Withstands Q id P) (moved : ∀ {h s}, P h → P (move h id s)) (c : Call)
    (before : P h) : P (Hub.callVia move h id c) := by
  cases c with
  | connected | configured | disconnecting => exact moved before
  | dispose => exact moved (moved before)
  | requestClose => exact keeps.requestClose id before

theorem closeAll (keeps : Withstands Q id P) (before : P h) : P (h.closeAll g).1 := by
  have folded : ∀ (ids : List Nat) {h : Hub}, P h → P (ids.foldl Hub.requestClose h) := by
    intro ids
    induction ids with
    | nil => exact fun before => before
    | cons first rest ih => exact fun before => ih (keeps.requestClose first before)
  exact folded _ before

theorem react (keeps : Withstands Q id P) (moved : ∀ {h s}, P h → P (move h id s)) (kind : Q o)
    {r : Reaction} (own : (s, r) ∈ o.reactions) (before : P h) :
    P (Hub.react move o.name id h r) := by
  unfold Hub.react
  split
  · exact before
  · cases r with
    | call c =>
      show P (if h.isHeld id then Hub.callVia move h id c else h)
      split
      · exact keeps.callVia moved c before
      · exact before
    | closeAll k => exact keeps.emit (keeps.closeAll before) rfl
    | count k => exact keeps.emit before rfl
    | fail => exact keeps.fail before kind own

theorem tell (keeps : Withstands Q id P) (moved : ∀ {h s}, P h → P (move h id s)) (kind : Q o)
    (before : P h) : P (Hub.tell move id s h o) := by
  have folded : ∀ (rs : List Reaction), (∀ r ∈ rs, (s, r) ∈ o.reactions) → ∀ {h : Hub}, P h →
      P (rs.foldl (Hub.react move o.name id) h) := by
    intro rs own
    induction rs with
    | nil => exact fun before => before
    | cons r rest ih =>
      exact fun before => ih (fun q member => own q (List.mem_cons_of_mem _ member))
        (keeps.react moved kind (own r List.mem_cons_self) before)
  unfold Hub.tell
  split
  · exact before
  · refine folded _ (fun r => Observer.mem_reactions_of_mem_reactionsTo) (keeps.emit before ?_)
    simp only [Observer.stateEvent]
    split <;> rfl

theorem tellAll (keeps : Withstands Q id P) (moved : ∀ {h s}, P h → P (move h id s))
    (os : List Observer) (kind : ∀ o ∈ os, Q o) (before : P h) :
    P (os.foldl (Hub.tell move id s) h) := by
  induction os generalizing h with
  | nil => exact before
  | cons o rest ih =>
    exact ih (fun q member => kind q (List.mem_cons_of_mem _ member))
      (keeps.tell moved (kind o List.mem_cons_self) before)

/-- The induction is on how deep reactions may still nest; observers one level further in only make
moves that are covered by the hypothesis. -/
theorem advanceWithin (keeps : Withstands Q id P) (depth : Nat) (before : P h) :
    P (Hub.advanceWithin depth h id s) := by
  induction depth generalizing h s with
  | zero => exact before
  | succ depth ih =>
    unfold Hub.advanceWithin
    split
    · exact before
    · rename_i l found
      split
      · exact before
      · rename_i allowed
        obtain ⟨-, follows⟩ := not_or.mp allowed
        have follows : State.mayFollow l.state s = true := by simpa using follows
        have told := keeps.tellAll ih l.observers (keeps.observers before found)
          (keeps.enter before found follows) (s := s)
        simp only
        split
        · exact keeps.release told
        · exact told

theorem call (keeps : Withstands Q id P) (c : Call) (before : P h) : P (h.call id c) :=
  keeps.callVia (keeps.advanceWithin 4) c before

end Withstands

/-! ## How far an operation goes -/

/-- What an operation on the lifecycle `id` changes at most: that lifecycle goes forward, and close
requests are marked. Nobody appears, disappears or is given up. -/
structure Evolves (id : Nat) (h h' : Hub) : Prop where
  count : h'.lifecycles.length = h.lifecycles.length
  groups : h'.groups.length = h.groups.length
  lifecycle : ∀ j, Option.Rel Lifecycle.Continues (h.lifecycle? j) (h'.lifecycle? j)
  others : ∀ j, j ≠ id → h'.state? j = h.state? j

namespace Evolves

theorem refl (id : Nat) (h : Hub) : Evolves id h h where
  count := rfl
  groups := rfl
  lifecycle j := by
    cases h.lifecycle? j with
    | none => exact .none
    | some l => exact .some (.refl l)
  others _ _ := rfl

theorem trans {h' h'' : Hub} (first : Evolves id h h') (second : Evolves id h' h'') :
    Evolves id h h'' where
  count := second.count.trans first.count
  groups := second.groups.trans first.groups
  lifecycle j := by
    have early := first.lifecycle j
    have late := second.lifecycle j
    revert early late
    cases h.lifecycle? j <;> cases h'.lifecycle? j <;> cases h''.lifecycle? j <;> intro early late <;>
      cases early <;> cases late
    · exact .none
    · rename_i early late
      exact .some (early.trans late)
  others j other := (second.others j other).trans (first.others j other)

/-- A change of single lifecycles that lets each go on, and the state of `id` alone move. -/
theorem of_map {h' : Hub} (f : Nat → Lifecycle → Lifecycle)
    (groups : h'.groups.length = h.groups.length)
    (count : h'.lifecycles.length = h.lifecycles.length)
    (mapped : ∀ j, h'.lifecycle? j = (h.lifecycle? j).map (f j))
    (onward : ∀ j l, h.lifecycle? j = some l → l.Continues (f j l))
    (still : ∀ j l, j ≠ id → (f j l).state = l.state) : Evolves id h h' where
  count := count
  groups := groups
  lifecycle j := by
    rw [mapped]
    cases found : h.lifecycle? j with
    | none => exact .none
    | some l => exact .some (onward j l found)
  others j other := by
    simp only [state?, mapped]
    cases h.lifecycle? j with
    | none => rfl
    | some l => exact still j l other

theorem enter {l : Lifecycle} (found : h.lifecycle? id = some l)
    (follows : State.mayFollow l.state s = true) : Evolves id h (h.enter id l.group s) := by
  refine of_map (fun j l => if id = j then { l with state := some s } else l) (by simp) (by simp)
    (fun j => ?_) (fun j k present => ?_) (fun j k other => ?_)
  · rw [lifecycle?_enter]
    split <;> simp
  · split
    · rename_i same
      subst same
      obtain rfl : l = k := by simpa [found] using present
      exact ⟨⟨rfl, rfl, rfl, Nat.le_of_lt (State.place_lt_of_mayFollow follows)⟩, rfl⟩
    · exact .refl k
  · simp [Ne.symm other]

theorem mark (f : Lifecycle → Lifecycle) (onward : ∀ l : Lifecycle, l.Continues (f l))
    (still : ∀ l, (f l).state = l.state) : Evolves id h (h.modify j f) := by
  refine of_map (fun k l => if j = k then f l else l) rfl (by simp) (fun k => ?_)
    (fun k l _ => ?_) (fun k l _ => ?_)
  · rw [lifecycle?_modify]
    split <;> simp
  · split
    · exact onward l
    · exact .refl l
  · split
    · exact still l
    · rfl

theorem events {e : List Event} {f : Bool} (before : Evolves id h h') :
    Evolves id h { h' with events := e, failing := f } :=
  ⟨before.count, before.groups, before.lifecycle, before.others⟩

/-- The lifecycle that was there before. -/
theorem lifecycle_of_some {h' : Hub} {l' : Lifecycle} (evolves : Evolves id h h')
    (found : h'.lifecycle? j = some l') : ∃ l, h.lifecycle? j = some l ∧ l.Continues l' := by
  have related := evolves.lifecycle j
  rw [found] at related
  revert related
  cases h.lifecycle? j with
  | none => intro related; cases related
  | some l => intro related; cases related with | some goes => exact ⟨l, rfl, goes⟩

/-- What has become of a lifecycle. -/
theorem some_of_lifecycle {h' : Hub} {l : Lifecycle} (evolves : Evolves id h h')
    (found : h.lifecycle? j = some l) : ∃ l', h'.lifecycle? j = some l' ∧ l.Continues l' := by
  have related := evolves.lifecycle j
  rw [found] at related
  revert related
  cases h'.lifecycle? j with
  | none => intro related; cases related
  | some l' => intro related; cases related with | some goes => exact ⟨l', rfl, goes⟩

theorem isHeld {h' : Hub} (evolves : Evolves id h h') : h'.isHeld j = h.isHeld j := by
  have related := evolves.lifecycle j
  simp only [Hub.isHeld]
  revert related
  cases h.lifecycle? j <;> cases h'.lifecycle? j <;> intro related <;> cases related
  · rfl
  · rename_i goes
    exact goes.held

end Evolves

/-- From any hub on, an operation only does what it may. -/
theorem evolves_withstands (start : Hub) (id : Nat) :
    Withstands (fun _ => True) id (Evolves id start) where
  observers _ _ _ _ := trivial
  enter before found follows := before.trans (.enter found follows)
  emit before _ := before.events
  requestClose _ before :=
    before.trans (.mark _ (fun _ => ⟨⟨rfl, rfl, rfl, Nat.le_refl _⟩, rfl⟩) fun _ => rfl)
  release before :=
    before.trans (.mark _ (fun _ => ⟨⟨rfl, rfl, rfl, Nat.le_refl _⟩, rfl⟩) fun _ => rfl)
  fail before _ _ := before.events

theorem advance_evolves (h : Hub) (id : Nat) (s : State) : Evolves id h (h.advance id s) :=
  (evolves_withstands h id).advanceWithin 4 (.refl id h)

theorem call_evolves (h : Hub) (id : Nat) (c : Call) : Evolves id h (h.call id c) :=
  (evolves_withstands h id).call c (.refl id h)

/-- A new connection that starts is held by its owner. -/
theorem isHeld_connected_create {localEnd remoteEnd : Address.Endpoint} {os : List Observer}
    {group : Option Nat} : ((h.create localEnd remoteEnd os group).1.connected h.lifecycles.length).isHeld
      h.lifecycles.length = true := by
  refine (call_evolves _ _ .connected).isHeld.trans ?_
  simp [isHeld, lifecycle?_create]

/-! ## Failing observers -/

private theorem failing_withstands (id : Nat) :
    Withstands (fun _ => True) id fun h => h.failing = true where
  observers _ _ _ _ := trivial
  enter before _ _ := failing_enter.trans before
  emit before _ := before
  requestClose _ before := before
  release before := before
  fail _ _ _ := rfl

/-- An operation that was not abandoned had nothing to recover from. -/
theorem running_of_advance (finished : (h.advance id s).failing = false) : h.failing = false := by
  cases before : h.failing with
  | false => rfl
  | true =>
    have failed : (h.advance id s).failing = true := (failing_withstands id).advanceWithin 4 before
    exact absurd failed (Bool.eq_false_iff.mp finished)

/-- No operation is being abandoned, and no observer will make one be. -/
structure Steady (h : Hub) : Prop where
  running : h.failing = false
  observers : ∀ {id l}, h.lifecycle? id = some l → ∀ o ∈ l.observers, o.NeverFails

theorem Steady.of_evolves {h' : Hub} (steady : h.Steady) (evolves : Evolves id h h')
    (running : h'.failing = false) : h'.Steady := by
  refine ⟨running, fun found => ?_⟩
  obtain ⟨l, present, goes⟩ := evolves.lifecycle_of_some found
  exact goes.observers ▸ steady.observers present

theorem steady_withstands (id : Nat) : Withstands Observer.NeverFails id Steady where
  observers before found := before.observers found
  enter before found follows :=
    before.of_evolves (.enter found follows) (failing_enter.trans before.running)
  emit before _ := ⟨before.running, before.observers⟩
  requestClose j before :=
    before.of_evolves ((evolves_withstands _ 0).requestClose j (.refl 0 _)) before.running
  release before :=
    before.of_evolves ((evolves_withstands _ _).release (.refl _ _)) before.running
  fail _ kind own := absurd rfl (kind _ own)

/-! ## Where an operation ends -/

/-- After a move was asked for, the lifecycle is at least there, unless it never started. -/
theorem place_le_of_advance {l : Lifecycle} (running : h.failing = false)
    (found : h.lifecycle? id = some l) (asked : l.state ≠ none ∨ s = .connected) :
    ∃ l', (h.advance id s).lifecycle? id = some l' ∧ s.rank ≤ l'.place := by
  simp only [advance, advanceWithin, found]
  split
  · rename_i blocked
    have blocked : State.mayFollow l.state s = false := by simpa [running] using blocked
    exact ⟨l, found, State.rank_le_place blocked asked⟩
  · rename_i allowed
    have follows : State.mayFollow l.state s = true := by
      simpa using (not_or.mp allowed).2
    have entered : (h.enter id l.group s).lifecycle? id = some { l with state := some s } := by
      simp [lifecycle?_enter, found]
    have keeps := evolves_withstands (h.enter id l.group s) id
    have told := keeps.tellAll (keeps.advanceWithin 3) l.observers (fun _ _ => trivial)
      (.refl id _) (s := s)
    have ended : Evolves id (h.enter id l.group s) (if s = .disposed ∧
        (l.observers.foldl (tell (advanceWithin 3) id s) (h.enter id l.group s)).failing = false
        then (l.observers.foldl (tell (advanceWithin 3) id s) (h.enter id l.group s)).release id
        else l.observers.foldl (tell (advanceWithin 3) id s) (h.enter id l.group s)) := by
      split
      · exact keeps.release told
      · exact told
    obtain ⟨l', present, goes⟩ := ended.some_of_lifecycle entered
    exact ⟨l', present, goes.place⟩

/-- A lifecycle that is called to start has started. -/
theorem connected_starts {l : Lifecycle} (running : h.failing = false)
    (found : h.lifecycle? id = some l) :
    ∃ l', (h.connected id).lifecycle? id = some l' ∧ l'.state ≠ none := by
  obtain ⟨l', present, reached⟩ := place_le_of_advance (s := .connected) running found (.inr rfl)
  refine ⟨l', present, fun unstarted => ?_⟩
  simp [Lifecycle.place, unstarted, State.rank] at reached

/-- A lifecycle that never started is left alone by a disposal. -/
theorem dispose_of_unstarted {l : Lifecycle} (found : h.lifecycle? id = some l)
    (unstarted : l.state = none) : h.dispose id = h := by
  have blocked : ∀ s, s ≠ .connected → h.advance id s = h := by
    intro s other
    have refused : State.mayFollow l.state s = false := by
      rw [unstarted, Bool.eq_false_iff]
      exact fun follows => other (State.mayFollow_none.mp follows)
    simp [advance, advanceWithin, found, refused]
  simp [dispose, call, callVia, blocked]

/-- A lifecycle that has started is disposed by a disposal, unless an observer fails. -/
theorem dispose_ends {l : Lifecycle} (finished : (h.dispose id).failing = false)
    (found : h.lifecycle? id = some l) (started : l.state ≠ none) :
    (h.dispose id).state? id = some .disposed := by
  obtain ⟨m, present, goes⟩ := (advance_evolves h id .disconnecting).some_of_lifecycle found
  have begun : m.state ≠ none := goes.started started
  have halfway : (h.advance id .disconnecting).failing = false := running_of_advance finished
  obtain ⟨l', last, reached⟩ := place_le_of_advance (s := .disposed) halfway present (.inl begun)
  have ended : l'.state = some .disposed := State.eq_disposed_of_place reached
  show (((h.advance id .disconnecting).advance id .disposed).lifecycle? id).bind _ = _
  rw [last]
  exact ended

/-! ## The end of a lifecycle that nobody holds -/

/-- A lifecycle before its last call: nobody holds it any more. -/
def letGo (h : Hub) (id : Nat) : Hub := h.modify id fun l => { l with held := false }

theorem drop_of_isHeld (held : h.isHeld id = true) : h.drop id = (h.letGo id).dispose id := by
  obtain ⟨l, found, holds⟩ := isHeld_iff.mp held
  simp [Hub.drop, found, holds, letGo]

theorem drop_of_not_isHeld (gone : h.isHeld id = false) : h.drop id = h := by
  unfold Hub.isHeld at gone
  cases found : h.lifecycle? id with
  | none => simp [Hub.drop, found]
  | some l =>
    have gone : l.held = false := by simpa [found] using gone
    simp [Hub.drop, found, gone]

theorem lifecycle?_letGo : (h.letGo id).lifecycle? j =
    if id = j then (h.lifecycle? j).map fun l => { l with held := false } else h.lifecycle? j :=
  lifecycle?_modify _

theorem isHeld_letGo : (h.letGo id).isHeld id = false := by
  simp only [isHeld, lifecycle?_letGo]
  cases h.lifecycle? id <;> simp

theorem isHeld_drop : (h.drop id).isHeld id = false := by
  cases held : h.isHeld id with
  | false =>
    rw [drop_of_not_isHeld held]
    exact held
  | true =>
    rw [drop_of_isHeld held]
    exact (call_evolves _ id .dispose).isHeld.trans isHeld_letGo

end Hub

end StreamHost.Connection
