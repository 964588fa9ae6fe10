import StreamHost.Proofs.Effects

/-!
What one observer is told of all connections together. A move of a connection may lead to more moves, for
those who are told of it may act on it at once: then they hear of the later state first, and some hear of it
before the one that led to it. Yet when the operation is over, each state that was entered has been told once.

An observer that fails keeps a state from those who are told after it. So whoever wants to hear of each state
must be among observers that never fail, or those before it must stand aside; whoever comes after it may do
anything.
-/

namespace StreamHost.Connection

/-! ## Who was told of what -/

/-- The error that a notice is about. -/
def Notice.error? : Notice → Option Error
  | .error e => some e
  | _ => none

/-- The connections that an observer was told of as being in a state, in the order of telling. -/
def tellings (name : String) (s : State) (es : List Event) : List Nat :=
  es.filterMap fun
    | .notified o id (.state t) => if o = name ∧ t = s then some id else none
    | _ => none

/-- The errors that an observer was told of. -/
def complaints (name : String) (es : List Event) : List Error :=
  es.filterMap fun
    | .notified o _ n => if o = name then n.error? else none
    | _ => none

section

variable {name : String} {s t : State} {es fs : List Event} {id k : Nat}

@[simp] theorem tellings_nil : tellings name s [] = [] := rfl

@[simp] theorem tellings_append : tellings name s (es ++ fs) = tellings name s es ++ tellings name s fs :=
  List.filterMap_append

@[simp] theorem complaints_append : complaints name (es ++ fs) = complaints name es ++ complaints name fs :=
  List.filterMap_append

theorem mem_tellings : id ∈ tellings name s es ↔ .notified name id (.state s) ∈ es := by
  unfold tellings
  rw [List.mem_filterMap]
  constructor
  · rintro ⟨e, member, found⟩
    split at found
    · split at found
      · rename_i same
        obtain ⟨rfl, rfl⟩ := same
        cases found
        exact member
      · cases found
    · cases found
  · intro member
    exact ⟨_, member, by simp⟩

/-- Events that tell of no state. -/
def Stateless (es : List Event) : Prop := ∀ e ∈ es, ∀ k, stateNotice? k e = none

theorem Stateless.tellings_eq (stateless : Stateless es) : tellings name s es = [] := by
  refine List.eq_nil_iff_forall_not_mem.mpr fun id member => ?_
  have silent := stateless _ (mem_tellings.mp member) id
  simp [stateNotice?] at silent

end

/-! ## Who hears of everything -/

/-- One of the observers goes by that name. It listens to everything and only listens, and none before it
keeps anything from it: nobody fails, or those before it stand aside. -/
def Hears (name : String) (os : List Observer) : Prop :=
  ∃ before o after, os = before ++ o :: after ∧ o.name = name ∧ o.statesOnly = false ∧ o.IsQuiet ∧
    (∀ p ∈ before ++ after, p.name ≠ name) ∧
    ((∀ p ∈ os, p.NeverFails) ∨ ∀ p ∈ before, p.IsBystander)

namespace Hub

variable {h h' h'' : Hub} {name : String} {id j : Nat} {os : List Observer} {told : Bool}
  {last : Option State} {s : State} {states later : List State}

/-- Who hears of a connection. -/
def observers? (h : Hub) (id : Nat) : Option (List Observer) := (h.lifecycle? id).map Lifecycle.observers

theorem Evolves.observers? (evolves : Evolves id h h') : h'.observers? j = h.observers? j := by
  have related := evolves.lifecycle j
  unfold Hub.observers?
  revert related
  cases h.lifecycle? j <;> cases h'.lifecycle? j <;> intro related <;> cases related
  · rfl
  · rename_i goes
    exact congrArg some goes.observers

/-- How far a connection has come. -/
def place (h : Hub) (id : Nat) : Nat := ((h.lifecycle? id).map Lifecycle.place).getD 0

theorem place_eq : h.place id = ((h.state? id).map State.rank).getD 0 := by
  unfold place state?
  cases h.lifecycle? id <;> rfl

theorem Evolves.place_le (evolves : Evolves id h h') : h.place j ≤ h'.place j := by
  unfold place
  cases found : h.lifecycle? j with
  | none => exact Nat.zero_le _
  | some l =>
    obtain ⟨l', found', goes⟩ := evolves.some_of_lifecycle found
    simpa [found'] using goes.place

/-! ## The states that an operation enters -/

/-- From one time to another only the connection `id` moved, and these are the states that it entered. -/
structure Enters (id : Nat) (states : List State) (h h' : Hub) : Prop where
  evolves : Evolves id h h'
  between : ∀ s ∈ states, h.place id < s.rank ∧ s.rank ≤ h'.place id
  current : ∀ s, h'.state? id = some s → s ∈ states ∨ h.state? id = some s
  begins : h.state? id = none → h'.state? id ≠ none → .connected ∈ states

namespace Enters

/-- What leaves the states alone enters none. -/
theorem still (evolves : Evolves id h h') (same : h'.state? id = h.state? id) : Enters id [] h h' where
  evolves := evolves
  between s member := by cases member
  current s found := .inr (same ▸ found)
  begins unstarted started := absurd (same.trans unstarted) started

theorem refl (id : Nat) (h : Hub) : Enters id [] h h := .still (.refl id h) rfl

theorem trans (first : Enters id states h h') (second : Enters id later h' h'') :
    Enters id (states ++ later) h h'' where
  evolves := first.evolves.trans second.evolves
  between s member := by
    rcases List.mem_append.mp member with early | late
    · obtain ⟨above, below⟩ := first.between s early
      exact ⟨above, Nat.le_trans below second.evolves.place_le⟩
    · obtain ⟨above, below⟩ := second.between s late
      exact ⟨Nat.lt_of_le_of_lt first.evolves.place_le above, below⟩
  current s found := by
    rcases second.current s found with late | found
    · exact .inl (List.mem_append_right _ late)
    · exact (first.current s found).imp_left fun early => List.mem_append_left _ early
  begins unstarted started := by
    by_cases halfway : h'.state? id = none
    · exact List.mem_append_right _ (second.begins halfway started)
    · exact List.mem_append_left _ (first.begins unstarted halfway)

/-- Nothing that was entered earlier is entered again. -/
theorem disjoint (first : Enters id states h h') (second : Enters id later h' h'') :
    ∀ s ∈ states, s ∉ later := by
  intro s early late
  have below := (first.between s early).2
  have above := (second.between s late).1
  omega

theorem enter {l : Lifecycle} (found : h.lifecycle? id = some l)
    (follows : State.mayFollow l.state s = true) : Enters id [s] h (h.enter id l.group s) := by
  have entered : (h.enter id l.group s).lifecycle? id = some { l with state := some s } := by
    simp [lifecycle?_enter, found]
  have state : (h.enter id l.group s).state? id = some s := by simp [state?, entered]
  refine ⟨.enter found follows, fun t member => ?_, fun t last => ?_, fun unstarted _ => ?_⟩
  · obtain rfl := List.mem_singleton.mp member
    refine ⟨?_, by simp [place_eq, state]⟩
    simpa [place, found] using State.place_lt_of_mayFollow follows
  · obtain rfl := Option.some.inj (state.symm.trans last)
    exact .inl (List.mem_singleton.mpr rfl)
  · have unstarted : l.state = none := by simpa [state?, found] using unstarted
    rw [unstarted] at follows
    simp [State.mayFollow_none.mp follows]

end Enters

end Hub

/-! ## What is told of them -/

/-- The events tell an observer, if it is to be told, of each of the states of a connection once, and of
nothing else. The others may hear of the state `last` as well. -/
structure Tells (name : String) (id : Nat) (told : Bool) (last : Option State) (states : List State)
    (es : List Event) : Prop where
  tellings : ∀ s, tellings name s es = if told = true ∧ s ∈ states then [id] else []
  complaints : complaints name es = []
  about : ∀ e ∈ es, ∀ k o s, stateNotice? k e = some (o, s) → k = id ∧ (s ∈ states ∨ last = some s)

namespace Tells

variable {name : String} {id : Nat} {told : Bool} {last : Option State} {s : State}
  {states later : List State} {es fs : List Event}

theorem append (first : Tells name id told last states es) (second : Tells name id told last later fs)
    (disjoint : ∀ s ∈ states, s ∉ later) :
    Tells name id told last (states ++ later) (es ++ fs) where
  tellings s := by
    rw [tellings_append, first.tellings, second.tellings]
    by_cases early : s ∈ states
    · simp [early, disjoint s early]
    · simp [early]
  complaints := by rw [complaints_append, first.complaints, second.complaints, List.append_nil]
  about e member k o s seen := by
    rcases List.mem_append.mp member with early | late
    · obtain ⟨same, among | equal⟩ := first.about e early k o s seen
      · exact ⟨same, .inl (List.mem_append_left _ among)⟩
      · exact ⟨same, .inr equal⟩
    · obtain ⟨same, among | equal⟩ := second.about e late k o s seen
      · exact ⟨same, .inl (List.mem_append_right _ among)⟩
      · exact ⟨same, .inr equal⟩

theorem nil : Tells name id told last [] [] where
  tellings s := by simp
  complaints := rfl
  about e member := by cases member

/-- What tells of no state and of no error. -/
theorem silent {e : Event} (stateless : ∀ k, stateNotice? k e = none)
    (peaceful : StreamHost.Connection.complaints name [e] = []) : Tells name id told last [] [e] where
  tellings s := by
    have silent : Stateless [e] := fun d member => List.mem_singleton.mp member ▸ stateless
    simp [silent.tellings_eq]
  complaints := peaceful
  about d member k o s seen := by
    obtain rfl := List.mem_singleton.mp member
    rw [stateless] at seen
    cases seen

/-- Somebody else is told. -/
theorem other {p : Observer} (other : p.name ≠ name) :
    Tells name id told (some s) [] [p.stateEvent id s] := by
  have about : ∀ k o t, stateNotice? k (p.stateEvent id s) = some (o, t) → id = k ∧ s = t := by
    intro k o t seen
    unfold Observer.stateEvent at seen
    split at seen
    all_goals
      simp only [stateNotice?, Option.ite_none_right_eq_some, Option.some.injEq, Prod.mk.injEq] at seen
      exact ⟨seen.1, seen.2.2⟩
  refine ⟨fun t => ?_, ?_, fun e member k o t seen => ?_⟩
  · unfold Observer.stateEvent
    split <;> simp [StreamHost.Connection.tellings, other]
  · unfold Observer.stateEvent
    split <;> simp [StreamHost.Connection.complaints, other]
  · obtain rfl := List.mem_singleton.mp member
    obtain ⟨rfl, rfl⟩ := about k o t seen
    exact ⟨rfl, .inr rfl⟩

/-- The observer itself is told. -/
theorem own : Tells name id true last [s] [.notified name id (.state s)] where
  tellings t := by
    by_cases same : s = t
    · simp [StreamHost.Connection.tellings, same]
    · simp [StreamHost.Connection.tellings, same, Ne.symm same]
  complaints := by simp [StreamHost.Connection.complaints, Notice.error?]
  about e member k o t seen := by
    obtain rfl := List.mem_singleton.mp member
    simp only [stateNotice?, Option.ite_none_right_eq_some, Option.some.injEq, Prod.mk.injEq] at seen
    exact ⟨seen.1.symm, .inl (List.mem_singleton.mpr seen.2.2.symm)⟩

/-- The order of the states does not matter. -/
theorem congr (tells : Tells name id told last states es) (same : ∀ s, s ∈ states ↔ s ∈ later) :
    Tells name id told last later es where
  tellings s := by simp only [tells.tellings, same]
  complaints := tells.complaints
  about e member k o s seen := by
    obtain ⟨own, known⟩ := tells.about e member k o s seen
    exact ⟨own, known.imp_left (same s).mp⟩

/-- What the others may hear of as well is one of the states. -/
theorem settle (tells : Tells name id told (some s) states es) (entered : s ∈ states) :
    Tells name id told last states es where
  tellings := tells.tellings
  complaints := tells.complaints
  about e member k o t seen := by
    obtain ⟨own, among | equal⟩ := tells.about e member k o t seen
    · exact ⟨own, .inl among⟩
    · exact ⟨own, .inl (Option.some.inj equal ▸ entered)⟩

theorem weaken (tells : Tells name id told none states es) : Tells name id told last states es where
  tellings := tells.tellings
  complaints := tells.complaints
  about e member k o t seen := by
    obtain ⟨own, among | equal⟩ := tells.about e member k o t seen
    · exact ⟨own, .inl among⟩
    · cases equal

/-- Whoever is not to be told may miss any state. -/
theorem miss (tells : Tells name id false last states es) : Tells name id false last (s :: states) es where
  tellings t := by simp [tells.tellings]
  complaints := tells.complaints
  about e member k o t seen := by
    obtain ⟨own, known⟩ := tells.about e member k o t seen
    exact ⟨own, known.imp_left fun among => List.mem_cons_of_mem _ among⟩

end Tells

namespace Hub

variable {h h' h'' : Hub} {name : String} {id j : Nat} {os : List Observer} {told : Bool}
  {last : Option State} {s : State} {states later : List State}

/-- A connection moved, and what was told meanwhile is what it entered. -/
def Moves (name : String) (id : Nat) (told : Bool) (last : Option State) (h h' : Hub) : Prop :=
  ∃ states es, Enters id states h h' ∧ h'.events = h.events ++ es ∧ Tells name id told last states es

namespace Moves

theorem refl (name : String) (id : Nat) (told : Bool) (last : Option State) (h : Hub) :
    Moves name id told last h h :=
  ⟨[], [], .refl id h, by simp, .nil⟩

theorem evolves (moves : Moves name id told last h h') : Evolves id h h' := by
  obtain ⟨states, es, enters, -⟩ := moves
  exact enters.evolves

theorem trans (first : Moves name id told last h h') (second : Moves name id told last h' h'') :
    Moves name id told last h h'' := by
  obtain ⟨states, es, early, happened, tells⟩ := first
  obtain ⟨more, fs, late, happened', tells'⟩ := second
  refine ⟨states ++ more, es ++ fs, early.trans late, ?_, tells.append tells' (early.disjoint late)⟩
  rw [happened', happened, List.append_assoc]

theorem weaken (moves : Moves name id told none h h') : Moves name id told last h h' := by
  obtain ⟨states, es, enters, happened, tells⟩ := moves
  exact ⟨states, es, enters, happened, tells.weaken⟩

/-- A mark on a lifecycle is not seen. -/
theorem mark (f : Lifecycle → Lifecycle) (onward : ∀ l : Lifecycle, l.Continues (f l))
    (still : ∀ l, (f l).state = l.state) : Moves name id told last h (h.modify j f) := by
  refine ⟨[], [], .still (.mark f onward still) ?_, by simp [modify], .nil⟩
  simp only [state?, lifecycle?_modify]
  split
  · cases h.lifecycle? id with
    | none => rfl
    | some l => exact still l
  · rfl

theorem requestClose : Moves name id told last h (h.requestClose j) :=
  mark _ (fun _ => ⟨⟨rfl, rfl, rfl, Nat.le_refl _⟩, rfl⟩) fun _ => rfl

theorem release : Moves name id told last h (h.release id) :=
  mark _ (fun _ => ⟨⟨rfl, rfl, rfl, Nat.le_refl _⟩, rfl⟩) fun _ => rfl

theorem closeAll (g : Nat) : Moves name id told last h (h.closeAll g).1 :=
  List.foldlRecOn (motive := fun after => Moves name id told last h after) (h.reachable g) Hub.requestClose
    (refl name id told last h) fun _ before _ _ => before.trans requestClose

theorem fail (failing : Bool) : Moves name id told last h { h with failing } :=
  ⟨[], [], .still (.events (.refl id h)) rfl, by simp, .nil⟩

/-- Something is seen. -/
theorem emit {e : Event} (tells : Tells name id told last [] [e]) :
    Moves name id told last h (h.emit e) :=
  ⟨[], [e], .still (.events (.refl id h)) rfl, rfl, tells⟩

end Moves

/-- As long as these observers hear of the connection, entering a state is a move of it. -/
def Advances (name : String) (id : Nat) (told : Bool) (watchers : Option (List Observer))
    (move : Hub → Nat → State → Hub) : Prop :=
  ∀ h s, h.observers? id = watchers → Moves name id told none h (move h id s)

namespace Moves

/-! ### Reactions -/

variable {watchers : Option (List Observer)} {move : Hub → Nat → State → Hub}
  (advances : Advances name id told watchers move)
include advances

theorem callVia (watched : h.observers? id = watchers) (c : Call) :
    Moves name id told none h (Hub.callVia move h id c) := by
  cases c with
  | connected => exact advances h .connected watched
  | configured => exact advances h .configured watched
  | disconnecting => exact advances h .disconnecting watched
  | dispose =>
    have first := advances h .disconnecting watched
    exact first.trans (advances _ .disposed (first.evolves.observers?.trans watched))
  | requestClose => exact requestClose

theorem react (watched : h.observers? id = watchers) (observer : String) (r : Reaction) :
    Moves name id told last h (Hub.react move observer id h r) := by
  unfold Hub.react
  split
  · exact refl name id told last h
  · cases r with
    | call c =>
      dsimp only
      split
      · exact (callVia advances watched c).weaken
      · exact refl name id told last h
    | closeAll g => exact (closeAll g).trans (emit (.silent (fun _ => rfl) rfl))
    | count g => exact emit (.silent (fun _ => rfl) rfl)
    | fail => exact fail true

/-- Another observer is told, and does what it does. -/
theorem tell {p : Observer} (watched : h.observers? id = watchers) (other : p.name ≠ name) (s : State) :
    Moves name id told (some s) h (Hub.tell move id s h p) := by
  unfold Hub.tell
  split
  · exact refl name id told _ h
  · refine List.foldlRecOn (motive := fun after => Moves name id told (some s) h after) _ _
      (emit (.other other)) fun after before r _ => ?_
    exact before.trans (react advances (before.evolves.observers?.trans watched) p.name r)

theorem tellAll {ps : List Observer} (watched : h.observers? id = watchers)
    (others : ∀ p ∈ ps, p.name ≠ name) (s : State) :
    Moves name id told (some s) h (ps.foldl (Hub.tell move id s) h) :=
  List.foldlRecOn (motive := fun after => Moves name id told (some s) h after) ps _
    (refl name id told _ h) fun _ before p member =>
      before.trans (tell advances (before.evolves.observers?.trans watched) (others p member) s)

end Moves

/-! ## Whole moves -/

/-- No operation is being abandoned, and nobody who hears of the connection will make one be. -/
structure Calm (id : Nat) (h : Hub) : Prop where
  running : h.failing = false
  observers : ∀ l, h.lifecycle? id = some l → ∀ o ∈ l.observers, o.NeverFails

theorem Calm.of_evolves (calm : h.Calm id) (evolves : Evolves j h h') (running : h'.failing = false) :
    h'.Calm id := by
  refine ⟨running, fun l' found => ?_⟩
  obtain ⟨l, present, goes⟩ := evolves.lifecycle_of_some found
  exact goes.observers ▸ calm.observers l present

theorem calm_withstands (id : Nat) : Withstands Observer.NeverFails id (Calm id) where
  observers before found := before.observers _ found
  enter before found follows := before.of_evolves (.enter found follows) (failing_enter.trans before.running)
  emit before _ := before.of_evolves (.events (.refl 0 _)) before.running
  requestClose j before :=
    before.of_evolves ((evolves_withstands _ 0).requestClose j (.refl 0 _)) before.running
  release before := before.of_evolves ((evolves_withstands _ _).release (.refl _ _)) before.running
  fail _ kind own := absurd rfl (kind _ own)

/-- Whoever is told before the one that hears of everything does not keep the state from it. -/
theorem running_tellAll {before : List Observer} {depth : Nat} (running : h.failing = false)
    (watched : h.observers? id = some os) (entered : h.state? id = some s) (among : ∀ p ∈ before, p ∈ os)
    (harmless : (∀ p ∈ os, p.NeverFails) ∨ ∀ p ∈ before, p.IsBystander) :
    (before.foldl (Hub.tell (advanceWithin depth) id s) h).failing = false := by
  obtain ⟨l, found, observers⟩ := Option.map_eq_some_iff.mp watched
  rcases harmless with kind | aside
  · have calm : h.Calm id := by
      refine ⟨running, fun k present => ?_⟩
      obtain rfl : l = k := Option.some.inj (found.symm.trans present)
      exact observers ▸ kind
    exact ((calm_withstands id).tellAll ((calm_withstands id).advanceWithin depth) before
      (fun p member => kind p (among p member)) calm).running
  · have shows : h.Shows h.events id os (some s) [] := by
      refine ⟨running, ⟨l, found, observers, ?_⟩, [], by simp, rfl⟩
      simpa [state?, found] using entered
    exact (shows.tellAll (advanceWithin depth) s aside).running

/-- The observers of a connection that has just entered a state are told, and the one that is to hear of
everything is among them. -/
theorem tellAll_moves {depth : Nat} (hears : Hears name os) (entered : Enters id [s] h h')
    (silent : h'.events = h.events) (running : h'.failing = false) (watched : h'.observers? id = some os)
    (state : h'.state? id = some s)
    (advances : Advances name id true (some os) (advanceWithin depth)) :
    Moves name id true none h (os.foldl (Hub.tell (advanceWithin depth) id s) h') := by
  obtain ⟨before, o, after, rfl, rfl, listens, quiet, others, harmless⟩ := hears
  have calm : (before.foldl (Hub.tell (advanceWithin depth) id s) h').failing = false :=
    running_tellAll running watched state (fun p member => List.mem_append_left _ member) harmless
  obtain ⟨states, es, enters, happened, tells⟩ := Moves.tellAll advances watched
    (fun p member => others p (List.mem_append_left _ member)) s
  rw [List.foldl_append, List.foldl_cons]
  generalize before.foldl (Hub.tell (advanceWithin depth) id s) h' = mid at calm enters happened ⊢
  have heard : Hub.tell (advanceWithin depth) id s mid o = mid.emit (.notified o.name id (.state s)) := by
    simp [Hub.tell, calm, quiet s, Observer.stateEvent, listens]
  have still : Enters id [] mid (mid.emit (.notified o.name id (.state s))) :=
    .still (.events (.refl id mid)) rfl
  obtain ⟨more, fs, enters', happened', tells'⟩ := Moves.tellAll advances
    ((enters.trans still).evolves.observers?.trans watched)
    (fun p member => others p (List.mem_append_right _ member)) s
  rw [heard]
  -- The state itself is told between those that the others, before and after, led to.
  have early : ∀ t ∈ states, t ∉ [s] := fun t member same => entered.disjoint enters t same member
  have late : ∀ t ∈ states ++ [s], t ∉ more := by
    intro t member again
    rcases List.mem_append.mp member with member | same
    · exact (enters.trans still).disjoint enters' t (by simpa using member) again
    · exact (entered.trans (enters.trans still)).disjoint enters' t (List.mem_append_left _ same) again
  refine ⟨[s] ++ (states ++ [] ++ more), es ++ [.notified o.name id (.state s)] ++ fs,
    entered.trans ((enters.trans still).trans enters'), ?_, ?_⟩
  · rw [happened']
    show (mid.events ++ [_]) ++ fs = _
    rw [happened, silent]
    simp
  · refine (((tells.append .own early).append tells' late).settle (by simp)).congr fun t => ?_
    simp [or_left_comm]

/-- The same if it is not among them. -/
theorem tellAll_moves_of_deaf {depth : Nat} (others : ∀ p ∈ os, p.name ≠ name) (entered : Enters id [s] h h')
    (silent : h'.events = h.events) (watched : h'.observers? id = some os)
    (advances : Advances name id false (some os) (advanceWithin depth)) :
    Moves name id false none h (os.foldl (Hub.tell (advanceWithin depth) id s) h') := by
  obtain ⟨states, es, enters, happened, tells⟩ := Moves.tellAll advances watched others s
  exact ⟨s :: states, es, entered.trans enters, silent ▸ happened, tells.miss.settle List.mem_cons_self⟩

/-- A move enters states, each of which is told once. The induction is on how deep reactions may still
nest. -/
theorem advanceWithin_moves (depth : Nat) {watchers : Option (List Observer)}
    (watched : h.observers? id = watchers)
    (hears : ∀ os ∈ watchers, if told then Hears name os else ∀ p ∈ os, p.name ≠ name) (s : State) :
    Moves name id told none h (advanceWithin depth h id s) := by
  induction depth generalizing h s with
  | zero => exact .refl name id told none h
  | succ depth ih =>
    unfold advanceWithin
    split
    · exact .refl name id told none h
    · rename_i l found
      split
      · exact .refl name id told none h
      · rename_i allowed
        obtain ⟨running, follows⟩ := not_or.mp allowed
        have running : h.failing = false := by simpa using running
        have follows : State.mayFollow l.state s = true := by simpa using follows
        have enters : Enters id [s] h (h.enter id l.group s) := .enter found follows
        obtain rfl : some l.observers = watchers := by simpa [observers?, found] using watched
        have watched : (h.enter id l.group s).observers? id = some l.observers :=
          enters.evolves.observers?.trans watched
        have hears := hears l.observers rfl
        have state : (h.enter id l.group s).state? id = some s := by
          simp [state?, lifecycle?_enter, found]
        have moves : Moves name id told none h
            (l.observers.foldl (Hub.tell (advanceWithin depth) id s) (h.enter id l.group s)) := by
          cases told with
          | true =>
            exact tellAll_moves hears enters events_enter (failing_enter.trans running) watched state
              fun _ t watched => ih watched t
          | false =>
            exact tellAll_moves_of_deaf hears enters events_enter watched fun _ t watched => ih watched t
        dsimp only
        split
        · exact moves.trans .release
        · exact moves

/-- What comes of a call enters states, each of which is told once. -/
theorem call_moves (hears : ∀ os ∈ h.observers? id, if told then Hears name os else ∀ p ∈ os, p.name ≠ name)
    (c : Call) : Moves name id told none h (h.call id c) :=
  Moves.callVia (fun _ s watched => advanceWithin_moves 4 watched hears s) rfl c

end Hub

end StreamHost.Connection
