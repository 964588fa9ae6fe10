import StreamHost.Proofs.Effects

/-!
When notices about a connection come. The first is that it is connected, and all observers get it before
any other; the last is that it is disposed. Whatever is done with a lifecycle keeps this order, except a
report that comes after the end.
-/

namespace StreamHost.Connection

/-- Whether an event is a notice about a connection. -/
def Event.isNotice (id : Nat) : Event → Bool
  | .notified _ k _ | .heard _ k _ => k == id
  | _ => false

/-- Notices about a connection whose state is `last`: the start comes first, to all observers, and the end
comes last. -/
def Bounded (os : List Observer) (id : Nat) (last : State) (notices : List Event) : Prop :=
  ∃ between, notices = told os id (.state .connected) ++ between ++
      (if last = .disposed then told os id (.state .disposed) else []) ∧
    ∀ e ∈ between, ∀ o, stateNotice? id e ≠ some (o, .connected) ∧
      stateNotice? id e ≠ some (o, .disposed)

section

variable {os : List Observer} {id : Nat} {last next : State} {notices : List Event} {n : Notice}

theorem filter_notice_told :
    (told os id n).filter (Event.isNotice id) = told os id n := by
  refine List.filter_eq_self.mpr fun e member => ?_
  obtain ⟨name, rfl | ⟨s, -, rfl⟩⟩ := mem_told member
  · simp [Event.isNotice]
  · simp [Event.isNotice]

/-- Nobody who is told something else is told of that state. -/
theorem stateNotice?_of_mem_told {e : Event} (member : e ∈ told os id n) {o : String} {s : State}
    (other : n ≠ .state s) : stateNotice? id e ≠ some (o, s) := by
  obtain ⟨name, rfl | ⟨t, rfl, rfl⟩⟩ := mem_told member
  · cases n with
    | state t =>
      have different : t ≠ s := fun same => other (same ▸ rfl)
      simp [stateNotice?, different]
    | error | completion => simp [stateNotice?]
  · have different : t ≠ s := fun same => other (same ▸ rfl)
    simp [stateNotice?, different]

theorem bounded_start : Bounded os id .connected (told os id (.state .connected)) :=
  ⟨[], by simp, by simp⟩

/-- One more notice before the end. -/
theorem Bounded.add (bounded : Bounded os id last notices) (alive : last ≠ .disposed)
    (started : n ≠ .state .connected) (still : n ≠ .state .disposed) (goes : next ≠ .disposed) :
    Bounded os id next (notices ++ told os id n) := by
  obtain ⟨between, rfl, inside⟩ := bounded
  refine ⟨between ++ told os id n, by simp [alive, goes], fun e member o => ?_⟩
  rcases List.mem_append.mp member with early | late
  · exact inside e early o
  · exact ⟨stateNotice?_of_mem_told late started, stateNotice?_of_mem_told late still⟩

theorem Bounded.finish (bounded : Bounded os id last notices) (alive : last ≠ .disposed) :
    Bounded os id .disposed (notices ++ told os id (.state .disposed)) := by
  obtain ⟨between, rfl, inside⟩ := bounded
  exact ⟨between, by simp [alive], inside⟩

end

/-- Notices are effects. -/
theorem filter_notice_concerns (id : Nat) (es : List Event) :
    (es.filter (Event.concerns id)).filter (Event.isNotice id) = es.filter (Event.isNotice id) := by
  rw [List.filter_filter]
  congr 1
  funext e
  cases e <;> simp [Event.isNotice, Event.concerns]

namespace Hub

variable {h h' : Hub} {past : List Event} {id : Nat} {os : List Observer} {last s : State}
  {shown : List Event}

/-- The notices about a connection since another time. -/
def noticesSince (start now : Hub) (id : Nat) : List Event :=
  (now.events.drop start.events.length).filter (Event.isNotice id)

theorem Shows.noticesSince (shows : h'.Shows h.events id os (some last) shown) :
    h.noticesSince h' id = shown.filter (Event.isNotice id) := by
  obtain ⟨news, happened, seen⟩ := shows.effects
  rw [Hub.noticesSince, happened, List.drop_left, ← seen, filter_notice_concerns]

/-- What a connection shows, with its notices in order. -/
structure Ordered (past : List Event) (id : Nat) (os : List Observer) (last : State)
    (shown : List Event) (h : Hub) : Prop where
  shows : h.Shows past id os (some last) shown
  bounded : Bounded os id last (shown.filter (Event.isNotice id))

/-- The same some time later. -/
def OrderedFrom (past : List Event) (id : Nat) (os : List Observer) (shown : List Event) (h : Hub) :
    Prop :=
  ∃ last more, h.Ordered past id os last (shown ++ more)

theorem Ordered.onward (ordered : h.Ordered past id os last shown) :
    h.OrderedFrom past id os shown :=
  ⟨last, [], by simpa using ordered⟩

theorem Ordered.emitAll (ordered : h.Ordered past id os last shown) (es : List Event)
    (silent : ∀ e ∈ es.filter (Event.concerns id), e.isNotice id = false) :
    (h.emitAll es).Ordered past id os last (shown ++ es.filter (Event.concerns id)) := by
  refine ⟨ordered.shows.emitAll es, ?_⟩
  have none : (es.filter (Event.concerns id)).filter (Event.isNotice id) = [] :=
    List.filter_eq_nil_iff.mpr fun e member => by simp [silent e member]
  rw [List.filter_append, none, List.append_nil]
  exact ordered.bounded

theorem Ordered.aside (ordered : h.Ordered past id os last shown) {es : List Event}
    (other : es.filter (Event.concerns id) = []) : (h.emitAll es).Ordered past id os last shown :=
  ⟨ordered.shows.aside other, ordered.bounded⟩

/-- Marks on lifecycles change nothing. -/
theorem Ordered.letGo (ordered : h.Ordered past id os last shown) :
    (h.letGo id).Ordered past id os last shown :=
  ⟨ordered.shows.modify _ fun _ => ⟨rfl, rfl⟩, ordered.bounded⟩

theorem Ordered.elsewhere (ordered : h.Ordered past id os last shown) (spares : Spares id h h')
    (running : h'.failing = false) : h'.Ordered past id os last shown :=
  ⟨ordered.shows.elsewhere spares running, ordered.bounded⟩

theorem Ordered.report (ordered : h.Ordered past id os last shown) (alive : last ≠ .disposed)
    {n : Notice} (unmoved : ∀ s, n ≠ .state s) :
    (h.report id n).Ordered past id os last (shown ++ told os id n) := by
  refine ⟨ordered.shows.report n, ?_⟩
  rw [List.filter_append, filter_notice_told]
  exact ordered.bounded.add alive (unmoved _) (unmoved _) alive

theorem Ordered.advance (ordered : h.Ordered past id os last shown)
    (bystanders : ∀ o ∈ os, o.IsBystander) (s : State) :
    ∃ last' more, (h.advance id s).Ordered past id os last' (shown ++ more) ∧ s.rank ≤ last'.rank := by
  cases follows : State.mayFollow (some last) s with
  | false =>
    have blocked : ¬ last < s := by simpa [State.mayFollow] using follows
    refine ⟨last, [], ?_, Nat.le_of_not_lt blocked⟩
    rw [ordered.shows.advance_blocked follows, List.append_nil]
    exact ordered
  | true =>
    have above : last.rank < s.rank := State.mayFollow_some.mp follows
    have alive : last ≠ .disposed := by
      rintro rfl
      cases s <;> simp [State.rank] at above
    have started : s ≠ .connected := by
      rintro rfl
      cases last <;> simp [State.rank] at above
    refine ⟨s, told os id (.state s), ⟨ordered.shows.advance bystanders follows, ?_⟩, Nat.le_refl _⟩
    rw [List.filter_append, filter_notice_told]
    by_cases ends : s = .disposed
    · subst ends
      exact ordered.bounded.finish alive
    · exact ordered.bounded.add alive (by simpa using started) (by simpa using ends) ends

namespace OrderedFrom

theorem running (ordered : h.OrderedFrom past id os shown) : h.failing = false := by
  obtain ⟨_, _, later⟩ := ordered
  exact later.shows.running

theorem emitAll (ordered : h.OrderedFrom past id os shown) (es : List Event)
    (silent : ∀ e ∈ es.filter (Event.concerns id), e.isNotice id = false) :
    (h.emitAll es).OrderedFrom past id os shown := by
  obtain ⟨last, more, later⟩ := ordered
  have next := later.emitAll es silent
  rw [List.append_assoc] at next
  exact ⟨last, _, next⟩

theorem advance (ordered : h.OrderedFrom past id os shown) (bystanders : ∀ o ∈ os, o.IsBystander)
    (s : State) : (h.advance id s).OrderedFrom past id os shown := by
  obtain ⟨_, _, later⟩ := ordered
  obtain ⟨last, more, next, -⟩ := later.advance bystanders s
  rw [List.append_assoc] at next
  exact ⟨last, _, next⟩

theorem call (ordered : h.OrderedFrom past id os shown) (bystanders : ∀ o ∈ os, o.IsBystander)
    (c : Call) : (h.call id c).OrderedFrom past id os shown := by
  cases c with
  | connected | configured | disconnecting => exact ordered.advance bystanders _
  | dispose => exact (ordered.advance bystanders _).advance bystanders _
  | requestClose =>
    obtain ⟨last, more, later⟩ := ordered
    exact ⟨last, more, later.shows.requestClose, later.bounded⟩

/-- A disposal comes to the end. -/
theorem dispose (ordered : h.OrderedFrom past id os shown) (bystanders : ∀ o ∈ os, o.IsBystander) :
    ∃ more, (h.dispose id).Ordered past id os .disposed (shown ++ more) := by
  obtain ⟨_, _, later⟩ := ordered.advance bystanders .disconnecting
  obtain ⟨last, more, ended, reached⟩ := later.advance bystanders .disposed
  obtain rfl : last = .disposed := by
    cases last <;> simp [State.rank] at reached ⊢
  rw [List.append_assoc] at ended
  exact ⟨_, ended⟩

theorem elsewhere (ordered : h.OrderedFrom past id os shown) (spares : Spares id h h')
    (running : h'.failing = false) : h'.OrderedFrom past id os shown := by
  obtain ⟨last, more, later⟩ := ordered
  exact ⟨last, more, later.elsewhere spares running⟩

end OrderedFrom

/-- What is left to do when nobody holds a connection any more. -/
theorem Ordered.drop (ordered : h.Ordered past id os last shown)
    (bystanders : ∀ o ∈ os, o.IsBystander) (held : last = .disposed ∨ h.isHeld id = true) :
    ∃ more, (h.drop id).Ordered past id os .disposed (shown ++ more) := by
  rcases held with rfl | held
  · refine ⟨[], ?_⟩
    rw [List.append_nil]
    rcases ordered.shows.drop_ended with same | same
    · exact same.symm ▸ ordered
    · exact same.symm ▸ ordered.letGo
  · rw [drop_of_isHeld held]
    exact ordered.letGo.onward.dispose bystanders

/-- Whatever is done with a connection keeps the notices in order. -/
theorem orderedFrom_bears (bystanders : ∀ o ∈ os, o.IsBystander) :
    Bears id (OrderedFrom past id os shown) where
  traffic _ ordered traffic := ordered.emitAll _ (by simp [filter_traffic traffic])
  call c ordered := ordered.call bystanders c
  wrapped name ordered := ordered.emitAll [.wrapped name id] fun e member => by
    obtain rfl := List.mem_singleton.mp (List.mem_filter.mp member).1
    rfl

end Hub

namespace Pipeline

variable {σ : Type} {past : List Event} {id : Nat} {os : List Observer} {shown : List Event} {f : Flow σ}

theorem runHook_ordered (bystanders : ∀ o ∈ os, o.IsBystander)
    (ordered : f.hub.OrderedFrom past f.channel.id os shown) (k : Hook) :
    (runHook f k).hub.OrderedFrom past f.channel.id os shown ∧
      (runHook f k).channel.id = f.channel.id := by
  have ran : (f.hub.emit (.hooked k.name f.channel.id (f.hub.state? f.channel.id)
      f.channel.session.isSome)).OrderedFrom past f.channel.id os shown := by
    refine ordered.emitAll [_] fun e member => ?_
    obtain rfl := List.mem_singleton.mp (List.mem_filter.mp member).1
    rfl
  unfold runHook
  cases k.effect with
  | nothing | layer => exact ⟨ran, rfl⟩
  | dispose => exact ⟨ran.call bystanders .dispose, rfl⟩

/-- Hooks keep the notices in order, even those that dispose the connection. -/
theorem apply_ordered (p : Pipeline) (bystanders : ∀ o ∈ os, o.IsBystander)
    (ordered : f.hub.OrderedFrom past id os shown) (own : f.channel.id = id) :
    (p.apply f).hub.OrderedFrom past id os shown ∧ (p.apply f).channel.id = id := by
  obtain ⟨hub, same, -⟩ := p.tap_eq f
  have tapped : (p.tap f).hub.OrderedFrom past id os shown ∧ (p.tap f).channel.id = id :=
    ⟨hub.symm ▸ ordered, same.trans own⟩
  unfold apply
  refine List.foldlRecOn (motive := fun g : Flow σ =>
    g.hub.OrderedFrom past id os shown ∧ g.channel.id = id) p.hooks runHook tapped ?_
  rintro g ⟨before, rfl⟩ k -
  exact runHook_ordered bystanders before k

/-- The last steps before a connection is in use. -/
theorem attach_ordered (p : Pipeline) {s : Shared} {c : Channel (Carrier Wire)}
    (bystanders : ∀ o ∈ os, o.IsBystander) (ordered : s.hub.OrderedFrom past id os shown)
    (own : c.id = id) :
    let attached := p.apply { hub := s.hub, channel := c.map (·.map fun w => (s.network, w)) }
    (attached.hub.configured attached.channel.id).OrderedFrom past id os shown ∧
      attached.channel.id = id := by
  intro attached
  obtain ⟨applied, still⟩ : attached.hub.OrderedFrom past id os shown ∧ attached.channel.id = id :=
    p.apply_ordered bystanders ordered own
  rw [still]
  exact ⟨applied.call bystanders .configured, rfl⟩

/-- The stages show nothing that is a notice. -/
theorem isNotice_of_mem_staging {p : Pipeline} {k : Nat} {e : Event} (member : e ∈ p.staging id) :
    e.isNotice k = false := by
  obtain ⟨⟨stage, place⟩, -, seen⟩ := List.mem_flatMap.mp member
  cases stage with
  | announce name =>
    obtain rfl | last := List.mem_cons.mp seen
    · rfl
    · obtain rfl := List.mem_singleton.mp last
      rfl
  | layer | replace =>
    obtain rfl := List.mem_singleton.mp seen
    rfl

theorem wrapTransport_ordered (p : Pipeline) {s : Shared} {last : State}
    (ordered : s.hub.Ordered past id os last shown) (w : Wire) :
    (p.wrapTransport s id w).1.hub.Ordered past id os last (shown ++ p.staging id) := by
  obtain ⟨es, staged, own⟩ := p.wrapTransport_hub s id w
  have own : es.filter (Event.concerns id) = p.staging id := by
    rw [own, filter_staging, if_pos rfl]
  rw [staged, ← own]
  refine ordered.emitAll es fun e member => ?_
  rw [own] at member
  exact isNotice_of_mem_staging member

end Pipeline

variable {s : Shared} {c : Channel (Carrier Wire)} {past : List Event} {id : Nat} {os : List Observer}
  {shown : List Event}

/-- A connection that is given up comes to its end. -/
theorem Shared.dropChannel_ordered (bystanders : ∀ o ∈ os, o.IsBystander)
    (ordered : s.hub.OrderedFrom past c.id os shown) :
    ∃ more, (s.dropChannel c).hub.Ordered past c.id os .disposed (shown ++ more) := by
  obtain ⟨es, gone⟩ := s.dropChannel_hub c
  rw [gone]
  exact (ordered.emitAll _ (by simp)).dispose bystanders

end StreamHost.Connection
