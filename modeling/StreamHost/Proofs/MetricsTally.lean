import StreamHost.Metrics
import StreamHost.Proofs.GroupMembership
import StreamHost.Proofs.RuntimeState

/-!
What the numbers mean that an observer keeps of all connections together. Each connection that reports to it
is told of once in each state that it enters, whatever its observers do when they are told. So between two
updates the counters count connections, and the gauge counts the live ones: what is added at the start of a
connection is taken off at its end. A reported error is counted once, in one of two numbers.
-/

namespace StreamHost

open Connection (Event Notice State Hub Observer Call Hears tellings complaints stateNotice?)

/-! ## The numbers and the notices -/

namespace Metrics

/-- How often a state was counted. -/
def total (m : Metrics) : State → Nat
  | .connected => m.connected
  | .configured => m.configured
  | .disconnecting => m.disconnecting
  | .disposed => m.disposed

/-- Whether an error counts as the failure of a handshake. -/
def isHandshake : Error → Bool
  | .handshake _ => true
  | _ => false

variable {m : Metrics} {ns : List Notice} {n : Notice} {s : State}

theorem total_record : (m.record n).total s = m.total s + if n = .state s then 1 else 0 := by
  cases n with
  | state t => cases t <;> cases s <;> rfl
  | error e => cases e <;> cases s <;> rfl
  | completion c =>
    obtain ⟨_, matched⟩ := c
    cases matched <;> cases s <;> rfl

theorem total_foldl : (ns.foldl record m).total s = m.total s + ns.count (.state s) := by
  induction ns generalizing m with
  | nil => rfl
  | cons n rest ih =>
    rw [List.foldl_cons, ih, total_record, List.count_cons]
    simp only [beq_iff_eq]
    omega

/-- The gauge is the difference of two counters. -/
theorem active_record : (m.record n).active.getD 0 - ((m.record n).connected - (m.record n).disposed : Int) =
    m.active.getD 0 - (m.connected - m.disposed : Int) := by
  cases n with
  | state t =>
    cases t with
    | connected | disposed =>
      simp only [record, recordState, shift, Option.getD_some, Int.natCast_add]
      omega
    | configured | disconnecting => rfl
  | error e => cases e <;> rfl
  | completion c =>
    obtain ⟨_, matched⟩ := c
    cases matched <;> rfl

theorem active_foldl : (ns.foldl record {}).active.getD 0 =
    ((ns.foldl record {}).connected - (ns.foldl record {}).disposed : Int) := by
  have kept : ∀ m : Metrics, (ns.foldl record m).active.getD 0 -
      ((ns.foldl record m).connected - (ns.foldl record m).disposed : Int) =
        m.active.getD 0 - (m.connected - m.disposed : Int) := by
    induction ns with
    | nil => exact fun _ => rfl
    | cons n rest ih => exact fun m => (ih (m.record n)).trans active_record
  exact Int.sub_eq_zero.mp (kept {})

theorem errors_record : (m.record n).handshakeFailures =
      m.handshakeFailures + n.error?.toList.countP isHandshake ∧
    (m.record n).connectionErrors = m.connectionErrors + n.error?.toList.countP fun e => !isHandshake e := by
  cases n with
  | state t => cases t <;> exact ⟨rfl, rfl⟩
  | error e => cases e <;> exact ⟨rfl, rfl⟩
  | completion c =>
    obtain ⟨_, matched⟩ := c
    cases matched <;> exact ⟨rfl, rfl⟩

/-- Every error is counted in one of two numbers. -/
theorem errors_foldl : (ns.foldl record m).handshakeFailures =
      m.handshakeFailures + (ns.filterMap Notice.error?).countP isHandshake ∧
    (ns.foldl record m).connectionErrors =
      m.connectionErrors + (ns.filterMap Notice.error?).countP fun e => !isHandshake e := by
  induction ns generalizing m with
  | nil => exact ⟨rfl, rfl⟩
  | cons n rest ih =>
    obtain ⟨failures, others⟩ := ih (m := m.record n)
    obtain ⟨first, second⟩ := @errors_record m n
    have split : (n :: rest).filterMap Notice.error? = n.error?.toList ++ rest.filterMap Notice.error? := by
      cases error : n.error? <;> simp [error]
    rw [List.foldl_cons, split, List.countP_append, List.countP_append]
    omega

/-! ### The notices of one observer -/

variable {name : String} {es : List Event}

theorem length_tellings : (tellings name s es).length = (noticesOf name es).count (.state s) := by
  induction es with
  | nil => rfl
  | cons e rest ih =>
    unfold tellings noticesOf at ih ⊢
    cases e with
    | notified o id n =>
      by_cases own : o = name
      · cases n with
        | state t => by_cases same : t = s <;> simp [own, same, ih]
        | error | completion => simp [own, ih]
      · cases n <;> simp [own, ih]
    | _ => simp [ih]

theorem complaints_eq : complaints name es = (noticesOf name es).filterMap Notice.error? := by
  unfold complaints noticesOf
  rw [List.filterMap_filterMap]
  refine List.filterMap_congr fun e _ => ?_
  cases e with
  | notified o id n => by_cases own : o = name <;> simp [own]
  | _ => rfl

/-- The numbers after some events, in terms of what the observer was told. -/
theorem ofEvents_eq (name : String) (es : List Event) :
    (∀ s, (ofEvents name es).total s = (tellings name s es).length) ∧
    (ofEvents name es).active.getD 0 =
      ((tellings name .connected es).length : Int) - (tellings name .disposed es).length ∧
    (ofEvents name es).handshakeFailures = (complaints name es).countP isHandshake ∧
    (ofEvents name es).connectionErrors = (complaints name es).countP fun e => !isHandshake e := by
  have totals : ∀ s, (ofEvents name es).total s = (tellings name s es).length := by
    intro s
    rw [ofEvents, total_foldl, length_tellings]
    cases s <;> exact Nat.zero_add _
  obtain ⟨failures, others⟩ := @errors_foldl {} (noticesOf name es)
  refine ⟨totals, ?_, ?_, ?_⟩
  · rw [← totals, ← totals]
    exact active_foldl
  · rw [complaints_eq]
    exact failures.trans (Nat.zero_add _)
  · rw [complaints_eq]
    exact others.trans (Nat.zero_add _)

end Metrics

end StreamHost

namespace StreamHost.Connection.Hub

variable {h h' : Hub} {name : String} {id j : Nat} {s : State}

/-! ## What was delivered -/

/-- Whether somebody was told of a connection in a state. -/
def delivered (h : Hub) (id : Nat) (s : State) : Bool :=
  h.events.any fun e => (stateNotice? id e).any fun told => told.2 == s

/-- Whether a connection has started and has not ended. -/
def isLive (h : Hub) (id : Nat) : Bool := (h.state? id).any State.isLive

/-- Whether an observer hears of a connection. -/
def feeds (h : Hub) (name : String) (id : Nat) : Bool :=
  (h.observers? id).any fun os => os.any (·.name == name)

theorem delivered_iff : h.delivered id s = true ↔ ∃ e ∈ h.events, ∃ o, stateNotice? id e = some (o, s) := by
  simp [delivered, Option.any_eq_true]

theorem feeds_iff : h.feeds name id = true ↔ ∃ os, h.observers? id = some os ∧ ∃ p ∈ os, p.name = name := by
  simp [feeds, Option.any_eq_true]

/-- What was delivered in the end was delivered before or by what happened since. -/
theorem delivered_append {es : List Event} (happened : h'.events = h.events ++ es) :
    h'.delivered id s = true ↔
      h.delivered id s = true ∨ ∃ e ∈ es, ∃ o, stateNotice? id e = some (o, s) := by
  simp only [delivered_iff, happened, List.mem_append, or_and_right, exists_or]

/-! ### A connection that is new -/

section

variable {localEnd remoteEnd : Address.Endpoint} {os : List Observer} {group : Option Nat}

theorem lifecycle?_next : h.lifecycle? h.lifecycles.length = none :=
  List.getElem?_eq_none (Nat.le_refl _)

/-- A connection that was only created has not started. -/
theorem state?_create : (h.create localEnd remoteEnd os group).1.state? j = h.state? j := by
  unfold state?
  rw [lifecycle?_create]
  split
  · rename_i last
    rw [last, lifecycle?_next]
    rfl
  · rfl

theorem feeds_create (other : j ≠ h.lifecycles.length) :
    (h.create localEnd remoteEnd os group).1.feeds name j = h.feeds name j := by
  simp only [Hub.feeds, Hub.observers?, lifecycle?_create, if_neg other]

end

/-! ### A connection that moves -/

section

variable {states : List State} {es : List Event}

theorem Evolves.feeds (evolves : Evolves id h h') : h'.feeds name j = h.feeds name j := by
  rw [Hub.feeds, evolves.observers?]
  rfl

theorem tellings_of_tells {told : Bool} {last : Option State} (tells : Tells name id told last states es)
    (happened : h'.events = h.events ++ es) : tellings name s h'.events =
      tellings name s h.events ++ if told = true ∧ s ∈ states then [id] else [] := by
  rw [happened, tellings_append, tells.tellings]

/-- A move delivers nothing but the states that it enters. -/
theorem delivered_cases {told : Bool} (tells : Tells name id told none states es)
    (happened : h'.events = h.events ++ es) (seen : h'.delivered j s = true) :
    h.delivered j s = true ∨ (j = id ∧ s ∈ states) := by
  rcases (delivered_append happened).mp seen with early | ⟨e, member, o, told⟩
  · exact .inl early
  · obtain ⟨own, entered | absent⟩ := tells.about e member j o s told
    · exact .inr ⟨own, entered⟩
    · cases absent

/-- If it is told to the observer, it delivers all of them. -/
theorem delivered_of_tells {last : Option State} (tells : Tells name id true last states es)
    (happened : h'.events = h.events ++ es) (entered : s ∈ states) : h'.delivered id s = true := by
  have listed : id ∈ tellings name s es := by simp [tells.tellings, entered]
  exact (delivered_append happened).mpr
    (.inr ⟨.notified name id (.state s), mem_tellings.mp listed, name, by simp [stateNotice?]⟩)

/-- What was delivered of a connection that the observer hears of. -/
theorem delivered_iff_of_tells (tells : Tells name id (h.feeds name id) none states es)
    (happened : h'.events = h.events ++ es) (hears : h.feeds name j = true) :
    h'.delivered j s = true ↔ h.delivered j s = true ∨ (j = id ∧ s ∈ states) := by
  constructor
  · exact delivered_cases tells happened
  · rintro (early | ⟨rfl, entered⟩)
    · exact (delivered_append happened).mpr (.inl early)
    · rw [hears] at tells
      exact delivered_of_tells tells happened entered

end

/-! ## The invariant -/

/-- Each state that a connection entered was told once to the observer that goes by the name, if it hears of
that connection at all. -/
structure Tallied (name : String) (h : Hub) : Prop where
  registered : ∀ {id os}, h.observers? id = some os → Registers name os
  once : ∀ s, (tellings name s h.events).Nodup
  told_iff : ∀ {s id}, id ∈ tellings name s h.events ↔ h.feeds name id = true ∧ h.delivered id s = true
  reached : ∀ {s id}, h.delivered id s = true → s.rank ≤ h.place id
  current : ∀ {s id}, h.feeds name id = true → h.state? id = some s → h.delivered id s = true
  begun : ∀ {id}, h.feeds name id = true → h.state? id ≠ none → h.delivered id .connected = true

namespace Tallied

/-- Whatever leaves observers and states alone, and tells of no state, keeps the tally. -/
theorem still (tallied : h.Tallied name) {es : List Event} (happened : h'.events = h.events ++ es)
    (stateless : Stateless es) (observers : ∀ id, h'.observers? id = h.observers? id)
    (states : ∀ id, h'.state? id = h.state? id) : h'.Tallied name := by
  have feeds : ∀ id, h'.feeds name id = h.feeds name id := by
    intro id
    rw [Hub.feeds, observers]
    rfl
  have tellings_eq : ∀ s, tellings name s h'.events = tellings name s h.events := by
    intro s
    rw [happened, tellings_append, stateless.tellings_eq, List.append_nil]
  have delivered_eq : ∀ id s, h'.delivered id s = h.delivered id s := by
    intro id s
    refine Bool.eq_iff_iff.mpr ((delivered_append happened).trans (or_iff_left ?_))
    rintro ⟨e, member, o, seen⟩
    rw [stateless e member id] at seen
    cases seen
  refine ⟨fun found => tallied.registered ((observers _).symm.trans found), fun s => ?_, fun {s id} => ?_,
    fun {s id} seen => ?_, fun {s id} hears last => ?_, fun {id} hears started => ?_⟩
  · rw [tellings_eq]
    exact tallied.once s
  · rw [tellings_eq, feeds, delivered_eq]
    exact tallied.told_iff
  · rw [place_eq, states, ← place_eq]
    exact tallied.reached (delivered_eq id s ▸ seen)
  · rw [delivered_eq]
    exact tallied.current (feeds id ▸ hears) (states id ▸ last)
  · rw [delivered_eq]
    exact tallied.begun (feeds id ▸ hears) (states id ▸ started)

/-- What is seen and tells of no state does not count. -/
theorem emitAll (tallied : h.Tallied name) {es : List Event} (stateless : Stateless es) :
    (h.emitAll es).Tallied name :=
  tallied.still rfl stateless (fun _ => rfl) fun _ => rfl

/-- A report is about something else. -/
theorem report (tallied : h.Tallied name) (id : Nat) {n : Notice} (other : ∀ s, n ≠ .state s) :
    (h.report id n).Tallied name := by
  unfold Hub.report
  split
  · exact tallied
  · rename_i l _
    refine tallied.emitAll fun e member k => Option.eq_none_iff_forall_not_mem.mpr fun told seen => ?_
    obtain ⟨name, rfl | ⟨s, same, -⟩⟩ := mem_told member
    · cases n with
      | state s => exact other s rfl
      | error | completion => cases seen
    · exact other s same

/-- Who holds a lifecycle makes no difference. -/
theorem letGo (tallied : h.Tallied name) (id : Nat) : (h.letGo id).Tallied name := by
  refine tallied.still (List.append_nil h.events).symm (fun e member => by cases member) (fun j => ?_)
    fun j => ?_
  · unfold Hub.observers?
    rw [lifecycle?_letGo]
    split <;> simp [Function.comp_def]
  · unfold state?
    rw [lifecycle?_letGo]
    split
    · cases h.lifecycle? j <;> rfl
    · rfl

/-- What has not started was not told of. -/
theorem undelivered (tallied : h.Tallied name) (unstarted : h.state? id = none) :
    h.delivered id s = false := by
  refine Bool.eq_false_iff.mpr fun seen => ?_
  have reached := tallied.reached seen
  rw [place_eq, unstarted] at reached
  cases s <;> simp [State.rank] at reached

/-- A new connection has not been told of. -/
theorem create (tallied : h.Tallied name) (localEnd remoteEnd : Address.Endpoint) {os : List Observer}
    (registers : Registers name os) (group : Option Nat) :
    (h.create localEnd remoteEnd os group).1.Tallied name := by
  have unstarted : h.state? h.lifecycles.length = none := by simp [state?, lifecycle?_next]
  refine ⟨fun {id known} found => ?_, tallied.once, fun {s id} => ?_, fun {s id} seen => ?_,
    fun {s id} hears last => ?_, fun {id} hears started => ?_⟩
  · unfold Hub.observers? at found
    rw [lifecycle?_create] at found
    split at found
    · obtain rfl := Option.some.inj found
      exact registers
    · exact tallied.registered found
  · refine tallied.told_iff.trans ?_
    by_cases new : id = h.lifecycles.length
    · have silent : ¬ h.delivered id s = true := by simp [new, tallied.undelivered unstarted]
      exact iff_of_false (fun both => silent both.2) fun both => silent both.2
    · rw [feeds_create new]
      rfl
  · rw [place_eq, state?_create, ← place_eq]
    exact tallied.reached seen
  · rw [state?_create] at last
    by_cases new : id = h.lifecycles.length
    · simp [new, unstarted] at last
    · exact tallied.current (feeds_create new ▸ hears) last
  · rw [state?_create] at started
    by_cases new : id = h.lifecycles.length
    · exact absurd (new ▸ unstarted) started
    · exact tallied.begun (feeds_create new ▸ hears) started

/-- What a connection enters it was not told of before. -/
theorem fresh (tallied : h.Tallied name) {states : List State} (enters : Enters id states h h')
    (entered : s ∈ states) : id ∉ tellings name s h.events := by
  intro early
  have reached := tallied.reached (tallied.told_iff.mp early).2
  have above := (enters.between s entered).1
  omega

/-- A move is told as it should be. -/
theorem moves (tallied : h.Tallied name) (moves : Moves name id (h.feeds name id) none h h') :
    h'.Tallied name := by
  obtain ⟨states, es, enters, happened, tells⟩ := moves
  have feeds : ∀ j, h'.feeds name j = h.feeds name j := fun j => enters.evolves.feeds
  refine ⟨fun found => tallied.registered (enters.evolves.observers?.symm.trans found), fun s => ?_,
    fun {s j} => ?_, fun {s j} seen => ?_, fun {s j} hears last => ?_, fun {j} hears started => ?_⟩
  · rw [tellings_of_tells tells happened]
    split
    · rename_i new
      refine List.nodup_append.mpr ⟨tallied.once s, List.nodup_singleton id, fun a early b late same => ?_⟩
      obtain rfl := List.mem_singleton.mp late
      exact tallied.fresh enters new.2 (same ▸ early)
    · rw [List.append_nil]
      exact tallied.once s
  · rw [tellings_of_tells tells happened, List.mem_append, tallied.told_iff, feeds]
    by_cases hears : h.feeds name j = true
    · rw [delivered_iff_of_tells tells happened hears]
      by_cases own : j = id
      · subst own
        by_cases entered : s ∈ states <;> simp [hears, entered]
      · simp only [hears, own, true_and, false_and, or_false]
        exact or_iff_left (by split <;> simp [own])
    · refine iff_of_false ?_ fun both => hears both.1
      rintro (both | late)
      · exact hears both.1
      · split at late
        · rename_i new
          exact hears (List.mem_singleton.mp late ▸ new.1)
        · cases late
  · rcases delivered_cases tells happened seen with early | ⟨rfl, entered⟩
    · exact Nat.le_trans (tallied.reached early) enters.evolves.place_le
    · exact (enters.between s entered).2
  · rw [feeds] at hears
    rw [delivered_iff_of_tells tells happened hears]
    by_cases own : j = id
    · subst own
      exact (enters.current s last).symm.imp (tallied.current hears) fun entered => ⟨rfl, entered⟩
    · exact .inl (tallied.current hears (enters.evolves.others j own ▸ last))
  · rw [feeds] at hears
    rw [delivered_iff_of_tells tells happened hears]
    by_cases own : j = id
    · subst own
      by_cases unstarted : h.state? j = none
      · exact .inr ⟨rfl, enters.begins unstarted started⟩
      · exact .inl (tallied.begun hears unstarted)
    · exact .inl (tallied.begun hears (enters.evolves.others j own ▸ started))

/-- Whatever is called, what comes of it is told to whoever hears of the connection. -/
theorem called (tallied : h.Tallied name) (id : Nat) (c : Call) :
    Moves name id (h.feeds name id) none h (h.call id c) := by
  refine call_moves (fun os found => ?_) c
  split
  · rename_i hears
    obtain ⟨ps, same, present⟩ := feeds_iff.mp hears
    obtain rfl := Option.some.inj (found.symm.trans same)
    exact tallied.registered found present
  · rename_i deaf
    exact fun p member same => deaf (feeds_iff.mpr ⟨os, found, p, member, same⟩)

/-- Whatever is done, the tally is kept. -/
theorem perform (tallied : h.Tallied name) {update : HubUpdate} (plain : update.IsPlain name) :
    (h.perform update).Tallied name := by
  have unseen : ∀ {h' : Hub}, h'.events = h.events → h'.lifecycles = h.lifecycles → h'.Tallied name := by
    intro h' same lifecycles
    refine tallied.still (same.trans (List.append_nil _).symm) (fun e member => by cases member) ?_ ?_
    · intro id
      simp [Hub.observers?, lifecycle?, lifecycles]
    · intro id
      simp [state?, lifecycle?, lifecycles]
  cases update with
  | newGroup | fail failing => exact unseen rfl rfl
  | create localEnd remoteEnd os group =>
    simp only [Hub.perform]
    split
    · exact tallied.create localEnd remoteEnd plain group
    · exact tallied
  | call id c => exact tallied.moves (tallied.called id c)
  | reportError id e => exact tallied.report id (by simp)
  | reportCompletion id c => exact tallied.report id (by simp)
  | closeAll g =>
    have moved : Moves name 0 (h.feeds name 0) none h (h.closeAll g).1 := .closeAll g
    exact tallied.moves moved
  | letGo id => exact tallied.letGo id
  | shown es =>
    refine tallied.emitAll fun e member k => ?_
    have silent := plain e member
    cases e <;> first | rfl | cases silent

end Tallied

theorem tallied_empty : Tallied name {} where
  registered found := by simp [Hub.observers?, lifecycle?] at found
  once _ := .nil
  told_iff := by simp [feeds, Hub.observers?, lifecycle?]
  reached seen := by simp [delivered] at seen
  current hears := by simp [feeds, Hub.observers?, lifecycle?] at hears
  begun hears := by simp [feeds, Hub.observers?, lifecycle?] at hears

theorem Tallied.performAll (tallied : h.Tallied name) {updates : List HubUpdate}
    (plain : ∀ update ∈ updates, update.IsPlain name) : (h.performAll updates).Tallied name := by
  induction updates generalizing h with
  | nil => exact tallied
  | cons update rest ih =>
    exact ih (tallied.perform (plain update List.mem_cons_self))
      fun later member => plain later (List.mem_cons_of_mem _ member)

/-! ## Errors -/

/-- The errors that an observer is told of by an update. -/
def reported (name : String) (h : Hub) : HubUpdate → List Error
  | .reportError id e => if h.feeds name id then [e] else []
  | _ => []

/-- The errors that an observer is told of by updates. -/
def reportedAll (name : String) (h : Hub) : List HubUpdate → List Error
  | [] => []
  | update :: rest => h.reported name update ++ (h.perform update).reportedAll name rest

theorem complaints_told_of_others {os : List Observer} {n : Notice} (others : ∀ p ∈ os, p.name ≠ name) :
    complaints name (told os id n) = [] := by
  induction os with
  | nil => rfl
  | cons p rest ih =>
    have other := others p List.mem_cons_self
    have first : complaints name (p.noticeEvents id n) = [] := by
      unfold Observer.noticeEvents Observer.stateEvent
      split
      · split <;> simp [complaints, other]
      · split <;> simp [complaints, other]
    have later := ih fun q member => others q (List.mem_cons_of_mem _ member)
    have split : told (p :: rest) id n = p.noticeEvents id n ++ told rest id n := List.flatMap_cons
    rw [split, complaints_append, first, later]
    rfl

/-- Whoever hears of everything is told of an error once. -/
theorem complaints_told {os : List Observer} {n : Notice} (hears : Hears name os)
    (other : ∀ s, n ≠ .state s) : complaints name (told os id n) = n.error?.toList := by
  obtain ⟨before, o, after, rfl, rfl, listens, -, others, -⟩ := hears
  have own : complaints o.name (o.noticeEvents id n) = n.error?.toList := by
    cases n with
    | state s => exact absurd rfl (other s)
    | error | completion => simp [Observer.noticeEvents, listens, complaints, Notice.error?]
  have split : told (before ++ o :: after) id n =
      told before id n ++ (o.noticeEvents id n ++ told after id n) := by
    simp [told]
  rw [split, complaints_append, complaints_append, own,
    complaints_told_of_others fun p member => others p (List.mem_append_left _ member),
    complaints_told_of_others fun p member => others p (List.mem_append_right _ member)]
  simp

/-- A report reaches the observer if it hears of the connection. -/
theorem complaints_report (tallied : h.Tallied name) {n : Notice} (other : ∀ s, n ≠ .state s) :
    complaints name (h.report id n).events =
      complaints name h.events ++ if h.feeds name id then n.error?.toList else [] := by
  unfold Hub.report
  cases found : h.lifecycle? id with
  | none => simp [feeds, Hub.observers?, found]
  | some l =>
    have observers : h.observers? id = some l.observers := by simp [Hub.observers?, found]
    show complaints name (h.events ++ told l.observers id n) = _
    rw [complaints_append]
    split
    · rename_i hears
      obtain ⟨os, same, present⟩ := feeds_iff.mp hears
      obtain rfl := Option.some.inj (observers.symm.trans same)
      rw [complaints_told (tallied.registered observers present) other]
    · rename_i deaf
      rw [complaints_told_of_others fun p member same => deaf (feeds_iff.mpr ⟨_, observers, p, member, same⟩)]

theorem Moves.complaints_eq {told : Bool} {last : Option State} (moves : Moves name id told last h h') :
    complaints name h'.events = complaints name h.events := by
  obtain ⟨states, es, -, happened, tells⟩ := moves
  rw [happened, complaints_append, tells.complaints, List.append_nil]

theorem complaints_perform (tallied : h.Tallied name) {update : HubUpdate} (plain : update.IsPlain name) :
    complaints name (h.perform update).events = complaints name h.events ++ h.reported name update := by
  cases update with
  | newGroup | letGo | fail => exact (List.append_nil _).symm
  | create localEnd remoteEnd os group =>
    simp only [perform]
    split <;> exact (List.append_nil _).symm
  | call id c => exact (tallied.called id c).complaints_eq.trans (List.append_nil _).symm
  | reportError id e => exact complaints_report tallied (by simp)
  | reportCompletion id c =>
    refine (complaints_report tallied (by simp)).trans ?_
    simp [reported, Notice.error?]
  | closeAll g =>
    have moved : Moves name 0 (h.feeds name 0) none h (h.closeAll g).1 := .closeAll g
    exact moved.complaints_eq.trans (List.append_nil _).symm
  | shown es =>
    have silent : complaints name es = [] := by
      refine List.filterMap_eq_nil_iff.mpr fun e member => ?_
      have silent := plain e member
      cases e <;> first | rfl | cases silent
    show complaints name (h.events ++ es) = _
    rw [complaints_append, silent]
    rfl

/-- After updates the observer was told of what was reported, error by error. -/
theorem complaints_performAll (tallied : h.Tallied name) {updates : List HubUpdate}
    (plain : ∀ update ∈ updates, update.IsPlain name) :
    complaints name (h.performAll updates).events = complaints name h.events ++ h.reportedAll name updates := by
  induction updates generalizing h with
  | nil => exact (List.append_nil _).symm
  | cons update rest ih =>
    have first := plain update List.mem_cons_self
    have later := ih (tallied.perform first) fun d member => plain d (List.mem_cons_of_mem _ member)
    show complaints name ((h.perform update).performAll rest).events = _
    rw [later, complaints_perform tallied first, List.append_assoc]
    rfl

/-! ## The groups -/

theorem Kept.perform (kept : h.Kept) (update : HubUpdate) : (h.perform update).Kept := by
  cases update with
  | newGroup => exact kept.newGroup
  | create localEnd remoteEnd os group =>
    simp only [Hub.perform]
    split
    · rename_i known
      exact kept.create localEnd remoteEnd os known
    · exact kept
  | call id c => exact (kept_withstands id).call c kept
  | reportError id e | reportCompletion id c => exact kept_endures.report id _ kept
  | closeAll g => exact (kept_withstands 0).closeAll kept
  | letGo id => exact kept_endures.letGo id kept
  | fail failing => exact kept.show _ _
  | shown es => exact kept.show _ _

theorem Kept.performAll (kept : h.Kept) (updates : List HubUpdate) : (h.performAll updates).Kept := by
  induction updates generalizing h with
  | nil => exact kept
  | cons update rest ih => exact ih (kept.perform update)

/-! ## Counting connections -/

theorem length_eq_countP {ids : List Nat} {n : Nat} {p : Nat → Bool} (once : ids.Nodup)
    (listed : ∀ id, id ∈ ids ↔ p id = true) (known : ∀ id, p id = true → id < n) :
    ids.length = (List.range n).countP p := by
  have same : ids.Perm ((List.range n).filter p) := by
    refine (List.perm_ext_iff_of_nodup once (List.nodup_range.filter p)).mpr fun id => ?_
    rw [listed, List.mem_filter, List.mem_range]
    exact ⟨fun holds => ⟨known id holds, holds⟩, And.right⟩
  rw [same.length_eq, List.countP_eq_length_filter]

/-- Two kinds that have nothing in common are counted together. -/
theorem countP_add {ids : List Nat} {p q r : Nat → Bool}
    (parts : ∀ id ∈ ids, p id = (q id || r id) ∧ (q id && r id) = false) :
    ids.countP p = ids.countP q + ids.countP r := by
  induction ids with
  | nil => rfl
  | cons id rest ih =>
    obtain ⟨either, apart⟩ := parts id List.mem_cons_self
    have later := ih fun j member => parts j (List.mem_cons_of_mem _ member)
    rw [List.countP_cons, List.countP_cons, List.countP_cons, later, either]
    cases left : q id <;> cases right : r id <;> simp_all <;> omega

theorem lt_of_feeds (hears : h.feeds name id = true) : id < h.lifecycles.length := by
  obtain ⟨os, found, -⟩ := feeds_iff.mp hears
  obtain ⟨l, present, -⟩ := Option.map_eq_some_iff.mp found
  exact (List.getElem?_eq_some_iff.mp present).1

/-- The connections that an observer hears of and that are such as `p` says. -/
def census (h : Hub) (name : String) (p : Nat → Bool) : Nat :=
  (List.range h.lifecycles.length).countP fun id => h.feeds name id && p id

namespace Tallied

theorem length_tellings (tallied : h.Tallied name) (s : State) :
    (tellings name s h.events).length = h.census name fun id => h.delivered id s := by
  refine length_eq_countP (tallied.once s) (fun id => ?_) fun id both => ?_
  · rw [tallied.told_iff, Bool.and_eq_true]
  · exact lt_of_feeds (Bool.and_eq_true_iff.mp both).1

/-- Whoever started was told of as connected. -/
theorem delivered_connected (tallied : h.Tallied name) (hears : h.feeds name id = true) :
    h.delivered id .connected = (h.state? id).isSome := by
  cases last : h.state? id with
  | none => exact tallied.undelivered last
  | some s => exact tallied.begun hears (by simp [last])

/-- Whoever ended was told of as disposed. -/
theorem delivered_disposed (tallied : h.Tallied name) (hears : h.feeds name id = true) :
    h.delivered id .disposed = h.isDisposed id := by
  refine Bool.eq_iff_iff.mpr ⟨fun seen => ?_, fun ended => ?_⟩
  · have reached := tallied.reached seen
    rw [place_eq] at reached
    unfold isDisposed
    cases last : h.state? id with
    | none => simp [last, State.rank] at reached
    | some s => cases s <;> simp_all [State.rank]
  · exact tallied.current hears (by simpa [isDisposed] using ended)

/-- Those who were told of as connected are live, or were told of as disposed. -/
theorem census_connected (tallied : h.Tallied name) :
    (h.census name fun id => h.delivered id .connected) =
      h.census name h.isLive + h.census name fun id => h.delivered id .disposed := by
  refine countP_add fun id _ => ?_
  cases hears : h.feeds name id with
  | false => exact ⟨rfl, rfl⟩
  | true =>
    simp only [Bool.true_and, tallied.delivered_connected hears, tallied.delivered_disposed hears, isLive,
      isDisposed]
    cases h.state? id with
    | none => exact ⟨rfl, rfl⟩
    | some s => cases s <;> exact ⟨rfl, rfl⟩

/-- If a group has those that the observer hears of and no others, it has the live ones of them. -/
theorem census_isLive (kept : h.Kept) {g : Nat}
    (tracked : ∀ id l, h.lifecycle? id = some l → (h.feeds name id = true ↔ l.group = some g)) :
    (h.members g).length = h.census name h.isLive := by
  refine length_eq_countP (kept.once g) (fun id => ?_) fun id both => ?_
  · rw [kept.member_iff, Bool.and_eq_true]
    constructor
    · rintro ⟨l, found, joined, live⟩
      refine ⟨(tracked id l found).mpr joined, ?_⟩
      rcases live with last | last | last <;> simp [isLive, state?, found, last, State.isLive]
    · rintro ⟨hears, live⟩
      obtain ⟨os, observers, -⟩ := feeds_iff.mp hears
      obtain ⟨l, found, -⟩ := Option.map_eq_some_iff.mp observers
      refine ⟨l, found, (tracked id l found).mp hears, ?_⟩
      simp only [isLive, state?, found, Option.bind_some, Option.any_eq_true] at live
      obtain ⟨s, last, alive⟩ := live
      cases s with
      | connected => exact .inl last
      | configured => exact .inr (.inl last)
      | disconnecting => exact .inr (.inr last)
      | disposed => cases alive
  · exact lt_of_feeds (Bool.and_eq_true_iff.mp both).1

end Tallied

/-- Reported errors are counted once each, as failures of handshakes or as others. -/
theorem errors_of_updates {updates : List HubUpdate} (plain : ∀ update ∈ updates, update.IsPlain name) :
    let m := Metrics.ofEvents name (performAll {} updates).events
    m.handshakeFailures = (reportedAll name {} updates).countP Metrics.isHandshake ∧
      m.connectionErrors = (reportedAll name {} updates).countP (fun e => !Metrics.isHandshake e) ∧
      m.handshakeFailures + m.connectionErrors = (reportedAll name {} updates).length := by
  intro m
  obtain ⟨-, -, failures, others⟩ := Metrics.ofEvents_eq name (performAll {} updates).events
  have reported : complaints name (performAll {} updates).events = reportedAll name {} updates :=
    complaints_performAll tallied_empty plain
  rw [reported] at failures others
  refine ⟨failures, others, ?_⟩
  rw [failures, others, List.length_eq_countP_add_countP Metrics.isHandshake]
  simp

end StreamHost.Connection.Hub

/-! ## Any number of servers and clients -/

namespace StreamHost.RuntimeState

open Connection (Hub HubUpdate)

/-- The numbers of an observer that connections of servers and of clients share, at any time. The gauge is how
many of these connections are live, so it is never negative; if a group has these connections and no others,
it is the length of that group. Each counter is how many of them were told of in its state, which some skip.
And whatever updates made things as they are, each error reported in them is counted once, as the failure of a
handshake or as another. -/
theorem numbers_count_connections (name : String) (moves : List Move)
    (plain : ∀ move ∈ moves, move.IsPlain name) :
    let h := (run {} moves).shared.hub
    let m := Metrics.ofEvents name h.events
    m.active.getD 0 = h.census name h.isLive ∧ 0 ≤ m.active.getD 0 ∧
    (∀ g, (∀ id l, h.lifecycle? id = some l → (h.feeds name id = true ↔ l.group = some g)) →
      m.active.getD 0 = (h.members g).length) ∧
    (∀ s, m.total s = h.census name fun id => h.delivered id s) ∧
    (∃ updates : List HubUpdate, (∀ update ∈ updates, update.IsPlain name) ∧ Hub.performAll {} updates = h) ∧
    ∀ updates : List HubUpdate, (∀ update ∈ updates, update.IsPlain name) → Hub.performAll {} updates = h →
      let errors := Hub.reportedAll name {} updates
      m.handshakeFailures = errors.countP Metrics.isHandshake ∧
      m.connectionErrors = errors.countP (fun e => !Metrics.isHandshake e) ∧
      m.handshakeFailures + m.connectionErrors = errors.length := by
  intro h m
  obtain ⟨updates, all, made⟩ := exists_updates moves plain
  have tallied : h.Tallied name := by
    rw [show h = Hub.performAll {} updates from made]
    exact Hub.tallied_empty.performAll all
  have kept : h.Kept := by
    rw [show h = Hub.performAll {} updates from made]
    exact Hub.orderly_empty.toKept.performAll updates
  obtain ⟨totals, gauge, -, -⟩ := Metrics.ofEvents_eq name h.events
  have live : m.active.getD 0 = h.census name h.isLive := by
    rw [gauge, tallied.length_tellings, tallied.length_tellings, tallied.census_connected]
    omega
  refine ⟨live, ?_, fun g tracked => ?_, fun s => ?_, ⟨updates, all, made.symm⟩, fun others plain same => ?_⟩
  · rw [live]
    exact Int.natCast_nonneg _
  · rw [live, Hub.Tallied.census_isLive kept tracked]
  · rw [totals, tallied.length_tellings]
  · have counted := Hub.errors_of_updates plain
    rwa [same] at counted

/-- A service that keeps its clients. -/
def market : Server.Blueprint where
  address := { unixPath := some "s.sock" }
  pipeline := { observers := [Server.Blueprint.metricsObserver] }
  tracked := true
  handler := .hold

def customer : Client.Blueprint where
  remote := { unixPath := some "s.sock" }
  pipeline := { observers := [Server.Blueprint.metricsObserver] }
  group := some 0

/-- The service has one client and another connection is dialed, both in the group of the service; its owner
finds it at its end. A third one is made by hand and dropped before it is configured. Two errors are
reported. -/
def day : List Move :=
  [.bind market (Duration.ofSecs 1) fun _ =>
      some ((({} : Network).listen (.unix (some "s.sock"))).1, .ok 0),
    .server 0 (.arrive {} 0), .server 0 (.session 0 (.goOn {})),
    .dial customer (Duration.ofSecs 1) fun _ => some ({}, .ok 1), .use 0 (.read 8),
    .around (.create (.unix none) (.unix none) [Server.Blueprint.metricsObserver] (some 0)),
    .around (.call 2 .connected), .around (.reportError 1 (.handshake "late")),
    .around (.reportError 2 (.timeout "read" (Duration.ofSecs 1))), .around (.drop 2)]

theorem day_counts_two_live_connections :
    (∀ move ∈ day, move.IsPlain "metrics") ∧
    let h := (run {} day).shared.hub
    let m := Metrics.ofEvents "metrics" h.events
    (∀ id l, h.lifecycle? id = some l → (h.feeds "metrics" id = true ↔ l.group = some 0)) ∧
    m.active.getD 0 = 2 ∧ (h.members 0).length = 2 ∧
    [.connected, .configured, .disconnecting, .disposed].map m.total = [3, 2, 2, 1] ∧
    m.handshakeFailures = 1 ∧ m.connectionErrors = 1 := by
  have registers : Connection.Registers "metrics" [Server.Blueprint.metricsObserver] := fun _ =>
    ⟨[], Server.Blueprint.metricsObserver, [], rfl, rfl, rfl, fun _ => rfl, by simp, .inr (by simp)⟩
  have plain : ∀ move ∈ day, move.IsPlain "metrics" := by
    simp [day, Move.IsPlain, RunningServer.Move.IsPlain, market, customer, registers]
  obtain ⟨-, -, grouped, totals, -, -⟩ := numbers_count_connections "metrics" day plain
  have everyone : ∀ l ∈ (run {} day).shared.hub.lifecycles,
      l.observers = [Server.Blueprint.metricsObserver] ∧ l.group = some 0 := by decide +kernel
  have tracked : ∀ id l, (run {} day).shared.hub.lifecycle? id = some l →
      ((run {} day).shared.hub.feeds "metrics" id = true ↔ l.group = some 0) := by
    intro id l found
    obtain ⟨observers, group⟩ := everyone l (List.mem_of_getElem? found)
    have hears : (run {} day).shared.hub.feeds "metrics" id = true :=
      Hub.feeds_iff.mpr ⟨l.observers, by simp [Hub.observers?, found],
        by simp [observers, Server.Blueprint.metricsObserver]⟩
    exact iff_of_true hears group
  have two : ((run {} day).shared.hub.members 0).length = 2 := by decide +kernel
  refine ⟨plain, tracked, (grouped 0 tracked).trans (congrArg Nat.cast two), two, ?_, ?_, ?_⟩
  · simp only [List.map_cons, List.map_nil, totals]
    decide +kernel
  · decide +kernel
  · decide +kernel

end StreamHost.RuntimeState
