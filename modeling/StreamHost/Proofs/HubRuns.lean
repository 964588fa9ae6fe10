import StreamHost.Proofs.HubSteps

/-!
Runs of operations on lifecycles and groups. They come in any order, one after the other; a lifecycle can
be acted on only while somebody holds it, and it joins only a group that exists. Whatever endures each
kind of operation endures any run.
-/

namespace StreamHost.Connection

namespace Hub

variable {h h' : Hub} {id j g : Nat}

/-! ## Runs -/

/-- An operation on lifecycles and groups. -/
inductive Op where
  | newGroup
  | create (localEnd remoteEnd : Address.Endpoint) (observers : List Observer) (group : Option Nat)
  | call (id : Nat) (c : Call)
  | reportError (id : Nat) (e : Error)
  | reportCompletion (id : Nat) (c : Completion)
  | closeAll (group : Nat)
  /-- The last holder of a lifecycle gives it up. -/
  | drop (id : Nat)

/-- The next operation starts afresh, even if an observer failed in the one before. -/
def recover (h : Hub) : Hub := { h with failing := false }

theorem recover_eq {h : Hub} (running : h.failing = false) : h.recover = h := by
  simp only [recover, ← running]

/-- One operation. Nothing happens if it is impossible: nobody can act on a lifecycle that is not held,
or make one in a group that does not exist. -/
def step (h : Hub) : Op → Hub
  | .newGroup => h.recover.newGroup.1
  | .create localEnd remoteEnd observers group =>
    if ∀ g ∈ group, g < h.groups.length then
      (h.recover.create localEnd remoteEnd observers group).1
    else h
  | .call id c => if h.isHeld id then h.recover.call id c else h
  | .reportError id e => if h.isHeld id then h.recover.reportError id e else h
  | .reportCompletion id c => if h.isHeld id then h.recover.reportCompletion id c else h
  | .closeAll g => (h.recover.closeAll g).1
  | .drop id => h.recover.drop id

/-- Operations one after the other. -/
def run (h : Hub) (ops : List Op) : Hub := ops.foldl step h

theorem run_append (h : Hub) (ops later : List Op) : h.run (ops ++ later) = (h.run ops).run later :=
  List.foldl_append

theorem run_concat (h : Hub) (ops : List Op) (op : Op) : h.run (ops ++ [op]) = (h.run ops).step op :=
  run_append h ops [op]

/-! ## What any run keeps -/

/-- Every observer that an operation brings along is such as `Q` says. -/
def Op.Brings (Q : Observer → Prop) : Op → Prop
  | .create _ _ observers _ => ∀ o ∈ observers, Q o
  | _ => True

/-- No observer that an operation brings along ever fails. -/
abbrev Op.NeverFails : Op → Prop := Op.Brings Observer.NeverFails

/-- `P` endures every operation that only brings observers such as `Q` says. -/
structure Endures (Q : Observer → Prop) (P : Hub → Prop) : Prop where
  recover : ∀ {h}, P h → P h.recover
  newGroup : ∀ {h}, P h → P h.newGroup.1
  create : ∀ {h} localEnd remoteEnd observers group, P h → (∀ o ∈ observers, Q o) →
    (∀ g ∈ group, g < h.groups.length) → P (h.create localEnd remoteEnd observers group).1
  letGo : ∀ {h} id, P h → P (h.letGo id)
  withstands : ∀ id, Withstands Q id P

namespace Endures

variable {Q : Observer → Prop} {P : Hub → Prop}

theorem emitAll (endures : Endures Q P) (es : List Event) (news : ∀ e ∈ es, e.isNews = true)
    (before : P h) : P (h.emitAll es) := by
  induction es generalizing h with
  | nil => simpa [Hub.emitAll] using before
  | cons e rest ih =>
    have next : P (h.emit e) := (endures.withstands 0).emit before (news e List.mem_cons_self)
    have later := ih (fun d member => news d (List.mem_cons_of_mem _ member)) next
    simpa [Hub.emit, Hub.emitAll] using later

theorem report (endures : Endures Q P) (id : Nat) (n : Notice) (before : P h) : P (h.report id n) := by
  unfold Hub.report
  split
  · exact before
  · refine endures.emitAll _ (fun e member => ?_) before
    obtain ⟨o, -, told⟩ := List.mem_flatMap.mp member
    unfold Observer.noticeEvents Observer.stateEvent at told
    split at told
    · split at told <;> (obtain rfl := List.mem_singleton.mp told; rfl)
    · split at told
      · cases told
      · obtain rfl := List.mem_singleton.mp told
        rfl

theorem drop (endures : Endures Q P) (id : Nat) (before : P h) : P (h.drop id) := by
  cases held : h.isHeld id with
  | false =>
    rw [drop_of_not_isHeld held]
    exact before
  | true =>
    rw [drop_of_isHeld held]
    exact (endures.withstands id).call .dispose (endures.letGo id before)

theorem step (endures : Endures Q P) {op : Op} (brings : op.Brings Q) (before : P h) :
    P (h.step op) := by
  have afresh : P h.recover := endures.recover before
  cases op with
  | newGroup => exact endures.newGroup afresh
  | create localEnd remoteEnd observers group =>
    simp only [Hub.step]
    split
    · rename_i known
      exact endures.create localEnd remoteEnd observers group afresh brings known
    · exact before
  | call id c =>
    simp only [Hub.step]
    split
    · exact (endures.withstands id).call c afresh
    · exact before
  | reportError id e =>
    simp only [Hub.step]
    split
    · exact endures.report id _ afresh
    · exact before
  | reportCompletion id c =>
    simp only [Hub.step]
    split
    · exact endures.report id _ afresh
    · exact before
  | closeAll g => exact (endures.withstands 0).closeAll afresh
  | drop id => exact endures.drop id afresh

theorem run (endures : Endures Q P) (ops : List Op) (brings : ∀ op ∈ ops, op.Brings Q) (before : P h) :
    P (h.run ops) := by
  induction ops generalizing h with
  | nil => exact before
  | cons op rest ih =>
    exact ih (fun later member => brings later (List.mem_cons_of_mem _ member))
      (endures.step (brings op List.mem_cons_self) before)

end Endures

theorem brings_anything (op : Op) : op.Brings fun _ => True := by
  cases op <;> simp [Op.Brings]

/-! ## Runs in which nobody fails -/

theorem Steady.recover_eq (steady : h.Steady) : h.recover = h := Hub.recover_eq steady.running

/-- Whoever never fails goes on so. -/
theorem steady_endures : Endures Observer.NeverFails Steady where
  recover before := ⟨rfl, before.observers⟩
  newGroup before := ⟨before.running, before.observers⟩
  create localEnd remoteEnd observers group before kind _ := by
    refine ⟨before.running, fun {id l} found => ?_⟩
    rw [lifecycle?_create] at found
    split at found
    · obtain rfl := Option.some.inj found
      exact kind
    · exact before.observers found
  letGo id before := by
    refine ⟨before.running, fun {j l'} found => ?_⟩
    rw [lifecycle?_letGo] at found
    split at found
    · obtain ⟨l, present, rfl⟩ := Option.map_eq_some_iff.mp found
      have known := before.observers present
      exact known
    · exact before.observers found
  withstands := steady_withstands

theorem Steady.step (steady : h.Steady) {op : Op} (kind : op.NeverFails) : (h.step op).Steady :=
  steady_endures.step kind steady

theorem Steady.run (steady : h.Steady) (ops : List Op) (kind : ∀ op ∈ ops, op.NeverFails) :
    (h.run ops).Steady :=
  steady_endures.run ops kind steady

theorem Steady.emitAll (steady : h.Steady) (es : List Event) : (h.emitAll es).Steady :=
  ⟨steady.running, steady.observers⟩

theorem steady_empty : Steady {} := ⟨rfl, fun found => by simp [lifecycle?] at found⟩

/-! ## Groups stay -/

theorem groups_endure (n : Nat) : Endures (fun _ => True) fun h => n ≤ h.groups.length where
  recover before := before
  newGroup before := Nat.le_trans before (by simp [Hub.newGroup])
  create _ _ _ _ before _ _ := before
  letGo _ before := before
  withstands id :=
    { observers := fun _ _ _ _ => trivial
      enter := fun before _ _ => by simpa using before
      emit := fun before _ => before
      requestClose := fun _ before => before
      release := fun before => before
      fail := fun before _ _ => before }

theorem length_groups_run (h : Hub) (ops : List Op) : h.groups.length ≤ (h.run ops).groups.length :=
  (groups_endure h.groups.length).run ops (fun op _ => brings_anything op) (Nat.le_refl _)

/-! ## What becomes of a lifecycle -/

theorem lifecycle?_report {n : Notice} : (h.report id n).lifecycle? j = h.lifecycle? j := by
  unfold report
  split <;> rfl

@[simp] theorem failing_report {n : Notice} : (h.report id n).failing = h.failing := by
  unfold Hub.report
  split <;> rfl

theorem members_report {n : Notice} : (h.report id n).members g = h.members g := by
  unfold report
  split <;> rfl

/-- A lifecycle before and after an operation: it goes on as it is, except that one that is dropped is
held no longer. -/
def Op.Leaves (op : Op) (id : Nat) (l l' : Lifecycle) : Prop :=
  l.Descends l' ∧ (op ≠ .drop id → l'.held = l.held)

private theorem leaves_still {op : Op} : Option.Rel (op.Leaves id) (h.lifecycle? id) (h.lifecycle? id) := by
  cases h.lifecycle? id with
  | none => exact .none
  | some l => exact .some ⟨.refl l, fun _ => rfl⟩

private theorem leaves_of_evolves {op : Op} (evolves : Evolves j h h') :
    Option.Rel (op.Leaves id) (h.lifecycle? id) (h'.lifecycle? id) := by
  have related := evolves.lifecycle id
  revert related
  cases h.lifecycle? id <;> cases h'.lifecycle? id <;> intro related <;> cases related
  · exact .none
  · rename_i goes
    exact .some ⟨goes.toDescends, fun _ => goes.held⟩

private theorem leaves_of_drop :
    Option.Rel ((Op.drop j).Leaves id) (h.lifecycle? id) ((h.drop j).lifecycle? id) := by
  cases held : h.isHeld j with
  | false =>
    rw [drop_of_not_isHeld held]
    exact leaves_still
  | true =>
    rw [drop_of_isHeld held]
    have ends := (call_evolves (h.letGo j) j .dispose).lifecycle id
    rw [lifecycle?_letGo] at ends
    show Option.Rel _ _ (((h.letGo j).call j .dispose).lifecycle? id)
    revert ends
    cases h.lifecycle? id <;> cases ((h.letGo j).call j .dispose).lifecycle? id <;> intro ends
    · exact .none
    · split at ends <;> cases ends
    · split at ends <;> cases ends
    · split at ends
      · cases ends with
        | some goes =>
          exact .some ⟨⟨goes.identity, goes.observers, goes.group, goes.place⟩,
            fun other => absurd (‹j = id› ▸ rfl) other⟩
      · cases ends with
        | some goes => exact .some ⟨goes.toDescends, fun _ => goes.held⟩

/-- What an operation does to lifecycles: it brings a new one, or each goes on. -/
theorem lifecycle?_step (h : Hub) (op : Op) (id : Nat) :
    Option.Rel (op.Leaves id) (h.lifecycle? id) ((h.step op).lifecycle? id) ∨
      ∃ localEnd remoteEnd observers group, op = .create localEnd remoteEnd observers group ∧
        id = h.lifecycles.length ∧ (∀ g ∈ group, g < h.groups.length) ∧
        (h.step op).lifecycle? id =
          some { identity := ⟨id + 1, localEnd, remoteEnd⟩, observers, group } := by
  cases op with
  | newGroup => exact .inl leaves_still
  | create localEnd remoteEnd observers group =>
    simp only [step]
    split
    · rename_i known
      rw [lifecycle?_create]
      split
      · rename_i last
        exact .inr ⟨localEnd, remoteEnd, observers, group, rfl, last, known, rfl⟩
      · exact .inl leaves_still
    · exact .inl leaves_still
  | call k c =>
    left
    simp only [step]
    split
    · exact leaves_of_evolves (h := h.recover) (call_evolves _ k c)
    · exact leaves_still
  | reportError k e =>
    left
    simp only [step, reportError]
    split
    · rw [lifecycle?_report]
      exact leaves_still
    · exact leaves_still
  | reportCompletion k c =>
    left
    simp only [step, reportCompletion]
    split
    · rw [lifecycle?_report]
      exact leaves_still
    · exact leaves_still
  | closeAll g =>
    exact .inl (leaves_of_evolves (h := h.recover) ((evolves_withstands _ 0).closeAll (.refl 0 _)))
  | drop k => exact .inl (leaves_of_drop (h := h.recover))

/-- Only what is done to a lifecycle itself moves it. -/
theorem state?_step {op : Op} (uncalled : ∀ c, op ≠ .call id c) (undropped : op ≠ .drop id) :
    (h.step op).state? id = h.state? id := by
  cases op with
  | newGroup => rfl
  | create localEnd remoteEnd observers group =>
    simp only [step]
    split
    · simp only [state?, lifecycle?_create]
      split
      · rename_i last
        rw [show h.lifecycle? id = none from List.getElem?_eq_none (Nat.le_of_eq last.symm)]
        rfl
      · rfl
    · rfl
  | call k c =>
    simp only [step]
    split
    · refine (call_evolves h.recover k c).others id ?_
      rintro rfl
      exact uncalled c rfl
    · rfl
  | reportError k e | reportCompletion k c =>
    simp only [step, reportError, reportCompletion]
    split
    · simp only [state?, lifecycle?_report]
      rfl
    · rfl
  | closeAll g =>
    have evolves : Evolves (id + 1) h.recover (h.recover.closeAll g).1 :=
      (evolves_withstands _ _).closeAll (.refl _ _)
    exact evolves.others id (Nat.ne_of_lt (Nat.lt_succ_self id))
  | drop k =>
    have other : id ≠ k := by
      rintro rfl
      exact undropped rfl
    show (h.recover.drop k).state? id = _
    cases held : h.recover.isHeld k with
    | false =>
      rw [drop_of_not_isHeld held]
      rfl
    | true =>
      rw [drop_of_isHeld held]
      refine ((call_evolves _ k .dispose).others id other).trans ?_
      simp only [state?, lifecycle?_letGo, if_neg (Ne.symm other)]
      rfl

/-- A lifecycle goes on through a run. -/
theorem descends_run {l : Lifecycle} (ops : List Op) (found : h.lifecycle? id = some l) :
    ∃ l', (h.run ops).lifecycle? id = some l' ∧ l.Descends l' := by
  induction ops generalizing h l with
  | nil => exact ⟨l, found, .refl l⟩
  | cons op rest ih =>
    rcases lifecycle?_step h op id with leaves | ⟨_, _, _, _, -, last, -⟩
    · rw [found] at leaves
      revert leaves
      cases present : (h.step op).lifecycle? id <;> intro leaves <;> cases leaves
      rename_i leaves
      obtain ⟨l', later, goes⟩ := ih present
      exact ⟨l', later, leaves.1.trans goes⟩
    · exact absurd last (Nat.ne_of_lt (List.getElem?_eq_some_iff.mp found).1)

/-- An operation that brings nothing into a group. -/
def Op.Spares (g : Nat) : Op → Prop
  | .create _ _ _ group => group ≠ some g
  | _ => True

/-- What is in a group after operations that bring nothing into it was there before. -/
theorem lifecycle_of_run {l' : Lifecycle} {ops : List Op} (spares : ∀ op ∈ ops, op.Spares g)
    (found : (h.run ops).lifecycle? id = some l') (joined : l'.group = some g) :
    ∃ l, h.lifecycle? id = some l ∧ l.group = some g := by
  induction ops generalizing h with
  | nil => exact ⟨l', found, joined⟩
  | cons op rest ih =>
    obtain ⟨m, middle, own⟩ := ih (fun later member => spares later (List.mem_cons_of_mem _ member)) found
    rcases lifecycle?_step h op id with leaves | ⟨_, _, _, _, rfl, -, -, fresh⟩
    · rw [middle] at leaves
      revert leaves
      cases present : h.lifecycle? id <;> intro leaves <;> cases leaves
      rename_i leaves
      exact ⟨_, rfl, leaves.1.group ▸ own⟩
    · obtain rfl := Option.some.inj (fresh.symm.trans middle)
      exact absurd own (spares _ List.mem_cons_self)

end Hub

end StreamHost.Connection
