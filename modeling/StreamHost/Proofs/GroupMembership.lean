import Mathlib.Data.List.Induction
import Mathlib.Data.List.Nodup
import StreamHost.Proofs.HubRuns

/-!
Who is in a group. After any run a group has exactly the live connections that were created with it, each
of them once and each of them held by somebody, so a request to close the group reaches them all. An
observer may fail at any time, but a lifecycle that is dropped while one fails stays where it is.
-/

namespace StreamHost.Connection

/-- Whether a connection has started and has not ended. -/
def Lifecycle.IsLive (l : Lifecycle) : Prop :=
  l.state = some .connected ∨ l.state = some .configured ∨ l.state = some .disconnecting

namespace Hub

variable {h h' : Hub} {id j g : Nat}

/-- The identities that a group shows. -/
def identities (h : Hub) (g : Nat) : List Identity :=
  (h.members g).filterMap fun id => (h.lifecycle? id).map Lifecycle.identity

/-! ## The invariant -/

/-- Every group has the live ones among its lifecycles, once each. -/
structure Kept (h : Hub) : Prop where
  grouped : ∀ {id l g}, h.lifecycle? id = some l → l.group = some g → g < h.groups.length
  numbered : ∀ {id l}, h.lifecycle? id = some l → l.identity.number = id + 1
  once : ∀ g, (h.members g).Nodup
  member_iff : ∀ {g id}, id ∈ h.members g ↔
    ∃ l, h.lifecycle? id = some l ∧ l.group = some g ∧ l.IsLive

/-- And no lifecycle is live that nobody holds. -/
structure Orderly (h : Hub) : Prop extends Kept h where
  ended : ∀ {id l}, h.lifecycle? id = some l → l.IsLive → l.held = true

/-- A change of lifecycles that leaves alone what the groups depend on. -/
theorem Kept.modify (kept : h.Kept) (f : Lifecycle → Lifecycle)
    (same : ∀ l, (f l).identity = l.identity ∧ (f l).group = l.group ∧ (f l).state = l.state) :
    (h.modify j f).Kept := by
  have origin : ∀ {id l'}, (h.modify j f).lifecycle? id = some l' → ∃ l, h.lifecycle? id = some l ∧
      l'.identity = l.identity ∧ l'.group = l.group ∧ l'.state = l.state := by
    intro id l' found
    rw [lifecycle?_modify] at found
    split at found
    · obtain ⟨l, present, rfl⟩ := Option.map_eq_some_iff.mp found
      exact ⟨l, present, same l⟩
    · exact ⟨l', found, rfl, rfl, rfl⟩
  have image : ∀ {id l}, h.lifecycle? id = some l → ∃ l', (h.modify j f).lifecycle? id = some l' ∧
      l'.group = l.group ∧ l'.state = l.state := by
    intro id l found
    rw [lifecycle?_modify, found]
    split
    · exact ⟨f l, rfl, (same l).2⟩
    · exact ⟨l, rfl, rfl, rfl⟩
  refine ⟨fun found joined => ?_, fun found => ?_, kept.once, ?_⟩
  · obtain ⟨l, present, -, group, -⟩ := origin found
    exact kept.grouped present (group ▸ joined)
  · obtain ⟨l, present, identity, -⟩ := origin found
    exact identity ▸ kept.numbered present
  · intro g id
    rw [members_modify, kept.member_iff]
    constructor
    · rintro ⟨l, present, joined, live⟩
      obtain ⟨l', found, group, state⟩ := image present
      exact ⟨l', found, group.trans joined, by simpa only [Lifecycle.IsLive, state] using live⟩
    · rintro ⟨l', found, joined, live⟩
      obtain ⟨l, present, -, group, state⟩ := origin found
      exact ⟨l, present, group ▸ joined, by simpa only [Lifecycle.IsLive, state] using live⟩

/-- A state other than the first follows only on a live one. -/
theorem isLive_of_mayFollow {l : Lifecycle} {s : State} (follows : State.mayFollow l.state s = true)
    (later : s ≠ .connected) : l.IsLive := by
  unfold Lifecycle.IsLive
  cases last : l.state with
  | none => exact absurd (State.mayFollow_none.mp (last ▸ follows)) later
  | some t =>
    have before := State.mayFollow_some.mp (last ▸ follows)
    cases t with
    | connected => exact .inl rfl
    | configured => exact .inr (.inl rfl)
    | disconnecting => exact .inr (.inr rfl)
    | disposed => cases s <;> simp [State.lt_def, State.rank] at before

/-- Entering a state keeps the groups: the first state brings a connection into its group, the last one
takes it out, and those in between follow only where it is a member already. -/
theorem Kept.enter {l : Lifecycle} {s : State} (kept : h.Kept) (found : h.lifecycle? id = some l)
    (follows : State.mayFollow l.state s = true) : (h.enter id l.group s).Kept := by
  have moved : (h.enter id l.group s).lifecycle? id = some { l with state := some s } := by
    simp [lifecycle?_enter, found]
  have evolves : Evolves id h (h.enter id l.group s) := .enter found follows
  refine ⟨fun present joined => ?_, fun present => ?_, fun g => nodup_members_enter (kept.once g), ?_⟩
  · obtain ⟨k, before, goes⟩ := evolves.lifecycle_of_some present
    exact evolves.groups ▸ kept.grouped before (goes.group ▸ joined)
  · obtain ⟨k, before, goes⟩ := evolves.lifecycle_of_some present
    exact goes.identity ▸ kept.numbered before
  · intro g j
    rw [mem_members_enter]
    by_cases own : j = id ∧ l.group = some g
    · obtain ⟨rfl, joined⟩ := own
      rw [if_pos ⟨rfl, joined⟩]
      constructor
      · intro inside
        refine ⟨_, moved, joined, ?_⟩
        rcases inside with ⟨rfl, -⟩ | ⟨lasting, -⟩
        · exact .inl rfl
        · cases s with
          | connected => exact .inl rfl
          | configured => exact .inr (.inl rfl)
          | disconnecting => exact .inr (.inr rfl)
          | disposed => exact absurd rfl lasting
      · rintro ⟨k, present, -, live⟩
        obtain rfl : { l with state := some s } = k := by simpa [moved] using present
        by_cases first : s = .connected
        · exact .inl ⟨first, kept.grouped found joined⟩
        · refine .inr ⟨?_, kept.member_iff.mpr ⟨l, found, joined, isLive_of_mayFollow follows first⟩⟩
          rintro rfl
          simp [Lifecycle.IsLive] at live
    · rw [if_neg own, kept.member_iff]
      by_cases same : j = id
      · subst same
        simp only [moved, found, Option.some.injEq, exists_eq_left']
        constructor
        · exact fun ⟨joined, _⟩ => absurd ⟨rfl, joined⟩ own
        · exact fun ⟨joined, _⟩ => absurd ⟨rfl, joined⟩ own
      · rw [lifecycle?_enter, if_neg (Ne.symm same)]

/-- Neither events nor failing observers matter. -/
theorem Kept.show (kept : h.Kept) (events : List Event) (failing : Bool) :
    Kept { h with events, failing } :=
  ⟨kept.grouped, kept.numbered, kept.once, kept.member_iff⟩

theorem kept_withstands (id : Nat) : Withstands (fun _ => True) id Kept where
  observers _ _ _ _ := trivial
  enter before found follows := before.enter found follows
  emit before _ := before.show _ _
  requestClose _ before := before.modify _ fun _ => ⟨rfl, rfl, rfl⟩
  release before := before.modify _ fun _ => ⟨rfl, rfl, rfl⟩
  fail before _ _ := before.show _ _

theorem Kept.newGroup (kept : h.Kept) : h.newGroup.1.Kept := by
  refine ⟨fun found joined => ?_, kept.numbered, fun g => ?_, fun {g id} => ?_⟩
  · have inside := kept.grouped found joined
    simp only [Hub.newGroup, List.length_append]
    omega
  · rw [members_newGroup]
    exact kept.once g
  · rw [members_newGroup]
    exact kept.member_iff

/-- A new lifecycle is in no group before it starts. -/
theorem Kept.create (kept : h.Kept) (localEnd remoteEnd : Address.Endpoint)
    (observers : List Observer) {group : Option Nat} (known : ∀ g ∈ group, g < h.groups.length) :
    (h.create localEnd remoteEnd observers group).1.Kept := by
  have fresh : h.lifecycle? h.lifecycles.length = none := List.getElem?_eq_none (Nat.le_refl _)
  refine ⟨fun {id l g} found joined => ?_, fun {id l} found => ?_, kept.once, fun {g id} => ?_⟩
  · rw [lifecycle?_create] at found
    split at found
    · obtain rfl := Option.some.inj found
      exact known g joined
    · exact kept.grouped found joined
  · rw [lifecycle?_create] at found
    split at found
    · obtain rfl := Option.some.inj found
      rfl
    · exact kept.numbered found
  · show id ∈ h.members g ↔ _
    rw [lifecycle?_create, kept.member_iff]
    split
    · rename_i last
      rw [last, fresh]
      simp [Lifecycle.IsLive]
    · rfl

theorem kept_endures : Endures (fun _ => True) Kept where
  recover before := before.show _ _
  newGroup before := before.newGroup
  create localEnd remoteEnd observers _ before _ known :=
    before.create localEnd remoteEnd observers known
  letGo _ before := before.modify _ fun _ => ⟨rfl, rfl, rfl⟩
  withstands := kept_withstands

/-- Whatever is done, the groups have the live ones. -/
theorem Kept.step (kept : h.Kept) (op : Op) : (h.step op).Kept :=
  kept_endures.step (brings_anything op) kept

/-! ## What is held -/

/-- A lifecycle that was dropped is not live any more. -/
theorem not_isLive_of_drop {l' : Lifecycle} (held : h.isHeld id = true)
    (completed : (h.drop id).failing = false) (found : (h.drop id).lifecycle? id = some l') :
    ¬ l'.IsLive := by
  rw [drop_of_isHeld held] at found completed
  obtain ⟨l, present, -⟩ := isHeld_iff.mp held
  have gone : (h.letGo id).lifecycle? id = some { l with held := false } := by
    simp [lifecycle?_letGo, present]
  cases begun : l.state with
  | none =>
    rw [dispose_of_unstarted gone begun, gone] at found
    obtain rfl := Option.some.inj found
    simp [Lifecycle.IsLive, begun]
  | some s =>
    have ended : ((h.letGo id).dispose id).state? id = some .disposed :=
      dispose_ends completed gone (by simp [begun])
    have ended : l'.state = some .disposed := by simpa [state?, found] using ended
    simp [Lifecycle.IsLive, ended]

/-- No lifecycle stays live that nobody holds, if the operation was not abandoned while it was dropped. -/
theorem Orderly.step (orderly : h.Orderly) {op : Op}
    (completed : ∀ id, op = .drop id → (h.step op).failing = false) : (h.step op).Orderly := by
  refine ⟨orderly.toKept.step op, fun {id l'} found live => ?_⟩
  rcases lifecycle?_step h op id with leaves | ⟨_, _, _, _, -, -, -, fresh⟩
  · rw [found] at leaves
    cases before : h.lifecycle? id with
    | none =>
      rw [before] at leaves
      cases leaves
    | some l =>
      rw [before] at leaves
      obtain ⟨-, held⟩ : op.Leaves id l l' := by
        cases leaves with
        | some leaves => exact leaves
      by_cases dropped : op = .drop id
      · subst dropped
        cases holds : h.recover.isHeld id with
        | true => exact absurd live (not_isLive_of_drop holds (completed id rfl) found)
        | false =>
          have found : (h.recover.drop id).lifecycle? id = some l' := found
          rw [drop_of_not_isHeld holds] at found
          exact orderly.ended found live
      · rw [held dropped]
        by_cases called : ∃ c, op = .call id c
        · obtain ⟨c, rfl⟩ := called
          cases holds : h.isHeld id with
          | true =>
            obtain ⟨k, present, holds⟩ := isHeld_iff.mp holds
            obtain rfl : l = k := Option.some.inj (before.symm.trans present)
            exact holds
          | false =>
            have found : h.lifecycle? id = some l' := by simpa [Hub.step, holds] using found
            obtain rfl : l = l' := Option.some.inj (before.symm.trans found)
            exact orderly.ended before live
        · have still := state?_step (h := h) (fun c same => called ⟨c, same⟩) dropped
          have still : l'.state = l.state := by simpa [state?, found, before] using still
          exact orderly.ended before (by simpa only [Lifecycle.IsLive, still] using live)
  · obtain rfl := Option.some.inj (fresh.symm.trans found)
    simp [Lifecycle.IsLive] at live

theorem Orderly.run (orderly : h.Orderly) (steady : h.Steady) (ops : List Op)
    (kind : ∀ op ∈ ops, op.NeverFails) : (h.run ops).Orderly := by
  induction ops generalizing h with
  | nil => exact orderly
  | cons op rest ih =>
    have next := steady.step (kind op List.mem_cons_self)
    exact ih (orderly.step fun _ _ => next.running) next
      fun later member => kind later (List.mem_cons_of_mem _ member)

/-- What is shown meanwhile makes no difference. -/
theorem Orderly.emitAll (orderly : h.Orderly) (es : List Event) : (h.emitAll es).Orderly :=
  ⟨orderly.toKept.show _ _, orderly.ended⟩

/-! ## Histories -/

/-- Every drop of a run came to its end: no observer failed in it. -/
def DropsComplete (ops : List Op) : Prop :=
  ∀ before id after, ops = before ++ .drop id :: after →
    (run {} (before ++ [.drop id])).failing = false

theorem dropsComplete_of_neverFails {ops : List Op} (kind : ∀ op ∈ ops, op.NeverFails) :
    DropsComplete ops := by
  rintro before id after rfl
  refine (steady_empty.run _ fun op member => kind op ?_).running
  rcases List.mem_append.mp member with member | member
  · exact List.mem_append_left _ member
  · exact List.mem_append_right _ (List.mem_cons.mpr (.inl (List.mem_singleton.mp member)))

/-- The run created the lifecycle `id` with the group `g`. -/
def CreatedWith (ops : List Op) (id g : Nat) : Prop :=
  ∃ before localEnd remoteEnd observers after,
    ops = before ++ .create localEnd remoteEnd observers (some g) :: after ∧
      (run {} before).lifecycles.length = id ∧ g < (run {} before).groups.length

theorem orderly_empty : Orderly {} where
  grouped found := by simp [lifecycle?] at found
  numbered found := by simp [lifecycle?] at found
  once g := by simp [members]
  member_iff := by simp [members, lifecycle?]
  ended found := by simp [lifecycle?] at found

/-- The induction is on the last operation, for whether a drop completed is read off the hub after it. -/
theorem run_orderly (ops : List Op) (completed : DropsComplete ops) : (run {} ops).Orderly := by
  induction ops using List.reverseRec with
  | nil => exact orderly_empty
  | append_singleton earlier op ih =>
    have earlierCompleted : DropsComplete earlier := fun before id after split =>
      completed before id (after ++ [op]) (by simp [split])
    rw [run_concat]
    refine (ih earlierCompleted).step fun id dropped => ?_
    have last := completed earlier id [] (by rw [dropped])
    rw [run_concat] at last
    exact dropped ▸ last

theorem createdWith_concat {ops : List Op} {op : Op} :
    CreatedWith (ops ++ [op]) id g ↔ CreatedWith ops id g ∨
      ∃ localEnd remoteEnd observers, op = .create localEnd remoteEnd observers (some g) ∧
        (run {} ops).lifecycles.length = id ∧ g < (run {} ops).groups.length := by
  constructor
  · rintro ⟨before, localEnd, remoteEnd, observers, after, split, number, known⟩
    rcases List.eq_nil_or_concat after with rfl | ⟨later, last, rfl⟩
    · obtain ⟨rfl, same⟩ := List.append_inj' split rfl
      exact .inr ⟨localEnd, remoteEnd, observers, List.cons.inj same |>.1, number, known⟩
    · have split : ops ++ [op] =
          (before ++ .create localEnd remoteEnd observers (some g) :: later) ++ [last] := by
        simpa using split
      obtain ⟨rfl, -⟩ := List.append_inj' split rfl
      exact .inl ⟨before, localEnd, remoteEnd, observers, later, rfl, number, known⟩
  · rintro (⟨before, localEnd, remoteEnd, observers, after, rfl, number, known⟩ |
      ⟨localEnd, remoteEnd, observers, rfl, number, known⟩)
    · exact ⟨before, localEnd, remoteEnd, observers, after ++ [op], by simp, number, known⟩
    · exact ⟨ops, localEnd, remoteEnd, observers, [], rfl, number, known⟩

/-- What was created with a group is there, and is still to be found in that group only. -/
theorem lifecycle_of_createdWith {ops : List Op} (created : CreatedWith ops id g) :
    ∃ l, (run {} ops).lifecycle? id = some l ∧ l.group = some g := by
  induction ops using List.reverseRec with
  | nil =>
    obtain ⟨before, _, _, _, after, split, -⟩ := created
    simp at split
  | append_singleton earlier op ih =>
    rw [run_concat]
    rcases createdWith_concat.mp created with before | ⟨a, b, observers, rfl, number, known⟩
    · obtain ⟨l, found, group⟩ := ih before
      rcases lifecycle?_step (run {} earlier) op id with leaves | ⟨_, _, _, _, -, last, -⟩
      · rw [found] at leaves
        revert leaves
        cases (run {} earlier).step op |>.lifecycle? id <;> intro leaves <;> cases leaves
        rename_i leaves
        exact ⟨_, rfl, leaves.1.group.trans group⟩
      · exact absurd last (Nat.ne_of_lt (List.getElem?_eq_some_iff.mp found).1)
    · refine ⟨{ identity := ⟨id + 1, a, b⟩, observers, group := some g }, ?_, rfl⟩
      have known : ∀ k ∈ some g, k < (run {} earlier).groups.length := by simpa using known
      simp only [step, if_pos known]
      exact lifecycle?_create.trans (if_pos number.symm)

/-- A lifecycle has the group that it was created with. -/
theorem group_eq_some_iff (ops : List Op) {l : Lifecycle} (found : (run {} ops).lifecycle? id = some l) :
    l.group = some g ↔ CreatedWith ops id g := by
  constructor
  · intro joined
    induction ops using List.reverseRec generalizing l with
    | nil => simp [run, lifecycle?] at found
    | append_singleton earlier op ih =>
      rw [run_concat] at found
      refine createdWith_concat.mpr ?_
      rcases lifecycle?_step (run {} earlier) op id with leaves | ⟨_, _, _, _, rfl, last, known, fresh⟩
      · rw [found] at leaves
        revert leaves
        cases before : (run {} earlier).lifecycle? id <;> intro leaves <;> cases leaves
        rename_i leaves
        exact .inl (ih before (leaves.1.group ▸ joined))
      · obtain rfl := Option.some.inj (fresh.symm.trans found)
        cases joined
        exact .inr ⟨_, _, _, rfl, last.symm, known g rfl⟩
  · intro created
    obtain ⟨k, present, joined⟩ := lifecycle_of_createdWith created
    obtain rfl : l = k := Option.some.inj (found.symm.trans present)
    exact joined

/-! ## What a group shows and asks -/

variable {i : Identity}

theorem mem_identities : i ∈ h.identities g ↔
    ∃ id ∈ h.members g, ∃ l, h.lifecycle? id = some l ∧ l.identity = i := by
  simp only [identities, List.mem_filterMap, Option.map_eq_some_iff]

/-- The identities are numbered as the members are, one for each. -/
theorem map_number_identities (kept : h.Kept) (g : Nat) :
    (h.identities g).map Identity.number = (h.members g).map (· + 1) := by
  have listed : ∀ ids : List Nat, (∀ id ∈ ids, id ∈ h.members g) →
      (ids.filterMap fun id => (h.lifecycle? id).map Lifecycle.identity).map Identity.number =
        ids.map (· + 1) := by
    intro ids inside
    induction ids with
    | nil => rfl
    | cons first rest ih =>
      obtain ⟨l, found, -⟩ := kept.member_iff.mp (inside first List.mem_cons_self)
      have rest := ih fun id member => inside id (List.mem_cons_of_mem _ member)
      rw [List.filterMap_cons_some (b := l.identity) (by simp [found])]
      simp only [List.map_cons, kept.numbered found, rest]
  exact listed _ fun _ member => member

theorem length_identities (kept : h.Kept) (g : Nat) :
    (h.identities g).length = (h.members g).length := by
  simpa using congrArg List.length (map_number_identities kept g)

theorem nodup_identities (kept : h.Kept) (g : Nat) : (h.identities g).Nodup := by
  refine List.Nodup.of_map Identity.number ?_
  rw [map_number_identities kept]
  exact (kept.once g).map fun _ _ => Nat.succ.inj

/-- A member is held by somebody, so it can be asked to close. -/
theorem isHeld_of_mem (orderly : h.Orderly) (member : id ∈ h.members g) : h.isHeld id = true := by
  obtain ⟨l, found, -, live⟩ := orderly.member_iff.mp member
  exact isHeld_iff.mpr ⟨l, found, orderly.ended found live⟩

theorem reachable_eq (orderly : h.Orderly) (g : Nat) : h.reachable g = h.members g :=
  List.filter_eq_self.mpr fun _ member => isHeld_of_mem orderly member

theorem closeAll_eq (orderly : h.Orderly) (g : Nat) :
    h.closeAll g = ((h.members g).foldl requestClose h, (h.members g).length) := by
  simp only [closeAll, reachable_eq orderly]

/-- After any run in which every drop completed, a group has exactly the live connections that were
created with it. What it shows lists them once each, and a request to close it reaches and marks them and
no others. -/
theorem group_lists_live_connections (ops : List Op) (completed : DropsComplete ops) (g : Nat) :
    (∀ id, id ∈ (run {} ops).members g ↔ CreatedWith ops id g ∧ (run {} ops).isHeld id = true ∧
      ∃ s ∈ [State.connected, .configured, .disconnecting], (run {} ops).state? id = some s) ∧
    ((run {} ops).members g).Nodup ∧
    ((run {} ops).identities g).Nodup ∧
    ((run {} ops).identities g).length = ((run {} ops).members g).length ∧
    (∀ i, i ∈ (run {} ops).identities g ↔ ∃ id ∈ (run {} ops).members g,
      ∃ l, (run {} ops).lifecycle? id = some l ∧ l.identity = i) ∧
    (((run {} ops).members g).isEmpty = true ↔ ((run {} ops).members g).length = 0) ∧
    (run {} ops).reachable g = (run {} ops).members g ∧
    ((run {} ops).closeAll g).2 = ((run {} ops).members g).length ∧
    (∀ id, ((run {} ops).closeAll g).1.lifecycle? id = ((run {} ops).lifecycle? id).map fun l =>
      if id ∈ (run {} ops).members g then { l with closeRequested := true } else l) := by
  have orderly := run_orderly ops completed
  refine ⟨fun id => ⟨fun member => ?_, ?_⟩, orderly.once g, nodup_identities orderly.toKept g,
    length_identities orderly.toKept g, fun _ => mem_identities, by simp, reachable_eq orderly g, ?_,
    fun id => ?_⟩
  · obtain ⟨l, found, joined, live⟩ := orderly.member_iff.mp member
    refine ⟨(group_eq_some_iff ops found).mp joined, isHeld_of_mem orderly member, ?_⟩
    simpa [state?, found, Lifecycle.IsLive] using live
  · rintro ⟨created, -, s, started, last⟩
    obtain ⟨l, found, joined⟩ := lifecycle_of_createdWith created
    refine orderly.member_iff.mpr ⟨l, found, joined, ?_⟩
    have last : l.state = some s := by simpa [state?, found] using last
    simpa [Lifecycle.IsLive, last] using started
  · rw [closeAll_eq orderly]
  · rw [closeAll_eq orderly]
    exact lifecycle?_foldl_requestClose _

/-- Two connections of one group, of which the second is dropped while it is live. -/
def twoConnections : List Op :=
  [.newGroup, .create (.unix (some "a")) (.unix (some "b")) [{ name := "o" }] (some 0),
    .create (.unix (some "a")) (.unix none) [{ name := "o" }] (some 0), .call 1 .connected, .call 0 .connected,
    .call 0 .disconnecting, .drop 1]

theorem group_lists_first_of_two :
    DropsComplete twoConnections ∧ (run {} twoConnections).members 0 = [0] ∧
      (run {} twoConnections).isHeld 0 = true ∧ ((run {} twoConnections).closeAll 0).2 = 1 := by
  have completed : DropsComplete twoConnections := dropsComplete_of_neverFails (by
    simp [twoConnections, Op.Brings, Observer.NeverFails])
  have listed := group_lists_live_connections twoConnections completed 0
  have alone : (run {} twoConnections).members 0 = [0] := by decide
  refine ⟨completed, alone, ((listed.1 0).mp (by simp [alone])).2.1, ?_⟩
  rw [listed.2.2.2.2.2.2.2.1, alone]
  rfl

end Hub

end StreamHost.Connection
