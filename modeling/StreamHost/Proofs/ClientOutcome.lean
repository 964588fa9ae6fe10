import StreamHost.Proofs.ClientNotices
import StreamHost.Proofs.ConfigurationErrors
import StreamHost.Proofs.GroupMembership
import StreamHost.Proofs.Isolation

/-!
What is left of an attempt to connect. It may fail before there is a connection, and then there is nothing to
undo. From then on there is a lifecycle that has joined its group, and each way out of the attempt ends it: a
name that is missing, a handshake that fails, a deadline that cuts the handshake off, an owner who gives up.
So the group is left as others have made it meanwhile, whatever the observers do, as long as they do not
fail. What the observers hear is told for those that stand aside.
-/

namespace StreamHost.Connection

theorem Observer.IsBystander.neverFails {o : Observer} (bystander : o.IsBystander) : o.NeverFails := by
  intro r reacts failing
  have aside := bystander r reacts
  rw [failing] at aside
  exact aside

namespace Hub

variable {h h' : Hub} {id j g : Nat} {group : Option Nat} {os : List Observer} {rest : List Nat}

/-- Nothing is seen of it when a connection is dropped that has ended. -/
theorem Shows.drop_again {past shown : List Event} (shows : h.Shows past id os (some .disposed) shown) :
    (h.drop id).Shows past id os (some .disposed) shown := by
  rcases shows.drop_ended with same | same
  · rw [same]
    exact shows
  · rw [same]
    exact shows.modify _ fun _ => ⟨rfl, rfl⟩

/-! ## The rest of a group -/

/-- Joining does not move the other members. -/
theorem others_join : ((h.join id group).members g).filter (· != id) = (h.members g).filter (· != id) := by
  cases group with
  | none => rfl
  | some k =>
    simp only [join, members, List.getD_eq_getElem?_getD, List.getElem?_modify]
    cases h.groups[g]? with
    | none => rfl
    | some ms =>
      by_cases same : k = g
      · by_cases inside : id ∈ ms
        · simp [same, inside]
        · simp [same, inside]
      · simp [same]

theorem others_leave : ((h.leave id group).members g).filter (· != id) = (h.members g).filter (· != id) := by
  cases group with
  | none => rfl
  | some k =>
    simp only [leave, members, List.getD_eq_getElem?_getD, List.getElem?_modify]
    cases h.groups[g]? with
    | none => rfl
    | some ms =>
      by_cases same : k = g
      · simp [same]
      · simp [same]

theorem others_enter {s : State} :
    ((h.enter id group s).members g).filter (· != id) = (h.members g).filter (· != id) := by
  cases s with
  | connected => exact others_join (h := h.modify id _)
  | disposed => exact others_leave (h := h.modify id _)
  | configured | disconnecting => rfl

/-- A connection that has started, with the observers `os` and the group `group`. Apart from it the group
`g` has the members `rest`, and no operation is being abandoned. -/
structure Lodges (id g : Nat) (os : List Observer) (group : Option Nat) (rest : List Nat) (h : Hub) :
    Prop where
  running : h.failing = false
  kept : h.Kept
  present : ∃ l, h.lifecycle? id = some l ∧ l.observers = os ∧ l.group = group ∧ l.state ≠ none
  others : (h.members g).filter (· != id) = rest

namespace Lodges

/-- Marks on lifecycles make no difference. -/
theorem modify (lodges : h.Lodges id g os group rest) (f : Lifecycle → Lifecycle)
    (same : ∀ l : Lifecycle, (f l).identity = l.identity ∧ (f l).group = l.group ∧ (f l).state = l.state ∧
      (f l).observers = l.observers) : (h.modify j f).Lodges id g os group rest := by
  obtain ⟨l, found, observers, joined, started⟩ := lodges.present
  refine ⟨lodges.running, lodges.kept.modify f fun l => ?_, ?_, lodges.others⟩
  · obtain ⟨identity, joined, state, -⟩ := same l
    exact ⟨identity, joined, state⟩
  · rw [lifecycle?_modify, found]
    split
    · obtain ⟨-, still, state, watched⟩ := same l
      exact ⟨f l, rfl, watched.trans observers, still.trans joined, state ▸ started⟩
    · exact ⟨l, rfl, observers, joined, started⟩

theorem emitAll (lodges : h.Lodges id g os group rest) (es : List Event) :
    (h.emitAll es).Lodges id g os group rest :=
  ⟨lodges.running, lodges.kept.show _ _, lodges.present, lodges.others⟩

theorem report (lodges : h.Lodges id g os group rest) (n : Notice) :
    (h.report id n).Lodges id g os group rest := by
  unfold Hub.report
  split
  · exact lodges
  · exact lodges.emitAll _

/-- Whatever an operation on the connection does, its observers included. -/
theorem withstands (kind : ∀ o ∈ os, o.NeverFails) :
    Withstands Observer.NeverFails id (Lodges id g os group rest) where
  observers {h l} lodges found := by
    obtain ⟨k, present, rfl, -⟩ := lodges.present
    obtain rfl := Option.some.inj (found.symm.trans present)
    exact kind
  enter {h l s} lodges found follows := by
    obtain ⟨k, present, observers, joined, -⟩ := lodges.present
    obtain rfl := Option.some.inj (found.symm.trans present)
    refine ⟨failing_enter.trans lodges.running, lodges.kept.enter found follows,
      ⟨{ l with state := some s }, ?_, observers, joined, by simp⟩, others_enter.trans lodges.others⟩
    simp [lifecycle?_enter, found]
  emit lodges _ := lodges.emitAll [_]
  requestClose j lodges := lodges.modify _ fun _ => ⟨rfl, rfl, rfl, rfl⟩
  release lodges := lodges.modify _ fun _ => ⟨rfl, rfl, rfl, rfl⟩
  fail _ kind reacts := absurd rfl (kind _ reacts)

/-- A new connection that starts. -/
theorem of_create (running : h.failing = false) (kept : h.Kept) (kind : ∀ o ∈ os, o.NeverFails)
    (known : ∀ k ∈ group, k < h.groups.length) (localEnd remoteEnd : Address.Endpoint) :
    ((h.create localEnd remoteEnd os group).1.connected h.lifecycles.length).Lodges h.lifecycles.length g os
      group (h.members g) := by
  let id := h.lifecycles.length
  let made : Hub := (h.create localEnd remoteEnd os group).1
  have found : made.lifecycle? id = _ := lifecycle?_create.trans (if_pos rfl)
  have absent : id ∉ h.members g := by
    intro member
    obtain ⟨l, there, -⟩ := kept.member_iff.mp member
    exact absurd (List.getElem?_eq_some_iff.mp there).1 (Nat.lt_irrefl _)
  have others : (made.members g).filter (· != id) = h.members g :=
    List.filter_eq_self.mpr fun k member => by
      simpa using fun same : k = id => absent (same ▸ member)
  have entered : (made.enter id group .connected).Lodges id g os group (h.members g) := by
    refine ⟨failing_enter.trans running, (kept.create localEnd remoteEnd os known).enter found rfl,
      ⟨_, lifecycle?_enter.trans ((if_pos rfl).trans (congrArg _ found)), rfl, rfl, by simp⟩,
      others_enter.trans others⟩
  have keeps : Withstands Observer.NeverFails id (Lodges id g os group (h.members g)) := withstands kind
  have told := keeps.tellAll (keeps.advanceWithin 3) os kind entered (s := .connected)
  change (advanceWithin (3 + 1) made id .connected).Lodges _ _ _ _ _
  have running : made.failing = false := running
  rw [advanceWithin]
  simpa [found, running, State.mayFollow] using told

theorem call (lodges : h.Lodges id g os group rest) (kind : ∀ o ∈ os, o.NeverFails) (c : Call) :
    (h.call id c).Lodges id g os group rest :=
  (withstands kind).call c lodges

/-- A connection that is disposed has left its group. -/
theorem dispose (lodges : h.Lodges id g os group rest) (kind : ∀ o ∈ os, o.NeverFails) :
    (h.dispose id).Lodges id g os group rest ∧ (h.dispose id).state? id = some .disposed := by
  have ended := lodges.call kind .dispose
  obtain ⟨l, found, -, -, started⟩ := lodges.present
  exact ⟨ended, dispose_ends ended.running found started⟩

theorem drop (lodges : h.Lodges id g os group rest) (kind : ∀ o ∈ os, o.NeverFails)
    (ends : h.state? id = some .disposed ∨ h.isHeld id = true) :
    (h.drop id).Lodges id g os group rest ∧ (h.drop id).state? id = some .disposed := by
  cases held : h.isHeld id with
  | true =>
    rw [drop_of_isHeld held]
    have left : (h.letGo id).Lodges id g os group rest := lodges.modify _ fun _ => ⟨rfl, rfl, rfl, rfl⟩
    exact left.dispose kind
  | false =>
    rw [drop_of_not_isHeld held]
    refine ⟨lodges, ends.resolve_right ?_⟩
    simp [held]

theorem restored (lodges : h.Lodges id g os group rest) (ended : h.state? id = some .disposed) :
    h.members g = rest := by
  refine (List.filter_eq_self.mpr fun k member => ?_).symm.trans lodges.others
  have other : k ≠ id := by
    rintro rfl
    obtain ⟨l, found, -, live⟩ := lodges.kept.member_iff.mp member
    have ended : l.state = some .disposed := by simpa [state?, found] using ended
    simp [Lifecycle.IsLive, ended] at live
  simpa using other

/-- A connection that has not ended is a member of its group and of no other. -/
theorem member_iff {s : State} (lodges : h.Lodges id g os group rest) (state : h.state? id = some s)
    (goesOn : s ≠ .disposed) : id ∈ h.members g ↔ group = some g := by
  obtain ⟨l, found, -, rfl, -⟩ := lodges.present
  have last : l.state = some s := by simpa [state?, found] using state
  rw [lodges.kept.member_iff]
  constructor
  · rintro ⟨k, there, joined, -⟩
    obtain rfl := Option.some.inj (found.symm.trans there)
    exact joined
  · intro joined
    refine ⟨l, found, joined, ?_⟩
    cases s with
    | connected => exact .inl last
    | configured => exact .inr (.inl last)
    | disconnecting => exact .inr (.inr last)
    | disposed => exact absurd rfl goesOn

end Lodges

/-! ## What others do -/

/-- Something goes on that is not done with the connection `id`. Others may come into its group and leave
it. -/
structure Apart (id : Nat) (h h' : Hub) : Prop where
  spares : Spares id h h'
  same : ∀ l, h.lifecycle? id = some l →
    ∃ l', h'.lifecycle? id = some l' ∧ l'.group = l.group ∧ l'.held = l.held
  running : h'.failing = false
  kept : h'.Kept

/-- The one lifecycle that an operation is done with. -/
def Op.target? : Op → Option Nat
  | .call j _ | .reportError j _ | .reportCompletion j _ | .drop j => some j
  | .newGroup | .create .. | .closeAll _ => none

theorem Spares.step {op : Op} (other : op.target? ≠ some id) : Spares id h (h.step op) := by
  have afresh : Spares id h h.recover := (Spares.refl id h).fail false
  cases op with
  | newGroup => exact ⟨afresh.lifecycle, afresh.events⟩
  | create localEnd remoteEnd observers group =>
    simp only [Hub.step]
    split
    · exact afresh.create localEnd remoteEnd observers group
    · exact .refl id h
  | call j c =>
    have other : j ≠ id := fun same => other (congrArg some same)
    simp only [Hub.step]
    split
    · exact afresh.call other c
    · exact .refl id h
  | reportError j e =>
    have other : j ≠ id := fun same => other (congrArg some same)
    simp only [Hub.step]
    split
    · exact afresh.report other _
    · exact .refl id h
  | reportCompletion j c =>
    have other : j ≠ id := fun same => other (congrArg some same)
    simp only [Hub.step]
    split
    · exact afresh.report other _
    · exact .refl id h
  | closeAll k => exact afresh.closeAll k
  | drop j =>
    have other : j ≠ id := fun same => other (congrArg some same)
    exact afresh.drop other

/-- Whatever is done with another connection, or with none, goes on apart from this one. -/
theorem Apart.step {op : Op} (there : id < h.lifecycles.length) (other : op.target? ≠ some id)
    (kept : h.Kept) (finished : (h.step op).failing = false) : Apart id h (h.step op) where
  spares := .step other
  same l found := by
    rcases lifecycle?_step h op id with leaves | ⟨_, _, _, _, -, last, -⟩
    · rw [found] at leaves
      cases later : (h.step op).lifecycle? id with
      | none =>
        rw [later] at leaves
        cases leaves
      | some l' =>
        rw [later] at leaves
        obtain ⟨goes, held⟩ : op.Leaves id l l' := by
          cases leaves with
          | some leaves => exact leaves
        refine ⟨l', rfl, goes.group, held ?_⟩
        rintro rfl
        exact other rfl
    · exact absurd last (Nat.ne_of_lt there)
  running := finished
  kept := kept.step op

theorem Lodges.apart (lodges : h.Lodges id g os group rest) (apart : Apart id h h') :
    h'.Lodges id g os group ((h'.members g).filter (· != id)) := by
  obtain ⟨l, found, observers, joined, started⟩ := lodges.present
  obtain ⟨l', later, watched, state, -⟩ := apart.spares.lifecycle l found
  obtain ⟨k, again, still, -⟩ := apart.same l found
  obtain rfl := Option.some.inj (later.symm.trans again)
  exact ⟨apart.running, apart.kept,
    ⟨l', later, watched.trans observers, still.trans joined, state ▸ started⟩, rfl⟩

theorem Apart.isHeld (apart : Apart id h h') (held : h.isHeld id = true) : h'.isHeld id = true := by
  obtain ⟨l, found, holds⟩ := isHeld_iff.mp held
  obtain ⟨l', later, -, still⟩ := apart.same l found
  exact isHeld_iff.mpr ⟨l', later, still.trans holds⟩

end Hub

/-! ## The pipeline -/

/-- Hooks may end the connection; its group is kept then too. -/
theorem Pipeline.apply_lodges {σ : Type} (p : Pipeline) {f : Flow σ} {g : Nat} {os : List Observer}
    {group : Option Nat} {rest : List Nat} (kind : ∀ o ∈ os, o.NeverFails)
    (lodges : f.hub.Lodges f.channel.id g os group rest) :
    (p.apply f).hub.Lodges f.channel.id g os group rest ∧ (p.apply f).channel.id = f.channel.id := by
  obtain ⟨hub, same, -⟩ := p.tap_eq f
  have tapped : (p.tap f).hub.Lodges f.channel.id g os group rest ∧ (p.tap f).channel.id = f.channel.id :=
    ⟨hub.symm ▸ lodges, same⟩
  unfold apply
  refine List.foldlRecOn (motive := fun k : Flow σ => k.hub.Lodges f.channel.id g os group rest ∧
    k.channel.id = f.channel.id) p.hooks runHook tapped ?_
  rintro k ⟨before, own⟩ hook -
  have ran := before.emitAll [.hooked hook.name k.channel.id (k.hub.state? k.channel.id)
    k.channel.session.isSome]
  unfold runHook
  cases hook.effect with
  | nothing => exact ⟨ran, own⟩
  | layer => exact ⟨ran, own⟩
  | dispose =>
    refine ⟨?_, own⟩
    rw [own] at ran ⊢
    exact (ran.dispose kind).1

section Hooks

variable {σ : Type} {past shown : List Event} {os : List Observer} {id : Nat}

/-- A hook shows that it ran, which is no notice. -/
theorem filter_notice_hooked {name : String} {state : Option State} {secured : Bool} :
    (shown ++ [Event.hooked name id state secured].filter (Event.concerns id)).filter (Event.isNotice id) =
      shown.filter (Event.isNotice id) := by
  rw [List.filter_append, filter_notice_concerns]
  exact List.append_nil _

theorem Pipeline.runHook_dispose {k : Hook} (ends : k.effect = .dispose) (f : Flow σ) :
    (runHook f k).hub = (f.hub.emitAll [.hooked k.name f.channel.id (f.hub.state? f.channel.id)
      f.channel.session.isSome]).dispose f.channel.id ∧ (runHook f k).channel.id = f.channel.id := by
  unfold runHook
  rw [ends]
  exact ⟨rfl, rfl⟩

/-- Hooks after the end of a connection change nothing about it. -/
theorem Pipeline.runHooks_ended (ks : List Hook) {f : Flow σ} (own : f.channel.id = id)
    (shows : f.hub.Shows past id os (some .disposed) shown) :
    (ks.foldl runHook f).channel.id = id ∧
      ∃ more, (ks.foldl runHook f).hub.Shows past id os (some .disposed) more ∧
        more.filter (Event.isNotice id) = shown.filter (Event.isNotice id) := by
  refine List.foldlRecOn (motive := fun f : Flow σ => f.channel.id = id ∧
    ∃ more, f.hub.Shows past id os (some .disposed) more ∧
      more.filter (Event.isNotice id) = shown.filter (Event.isNotice id))
    ks runHook ⟨own, shown, shows, rfl⟩ ?_
  rintro f ⟨rfl, more, before, notices⟩ k -
  have hooked := before.emitAll
    [.hooked k.name f.channel.id (f.hub.state? f.channel.id) f.channel.session.isSome]
  unfold runHook
  cases k.effect with
  | nothing => exact ⟨rfl, _, hooked, filter_notice_hooked.trans notices⟩
  | layer => exact ⟨rfl, _, hooked, filter_notice_hooked.trans notices⟩
  | dispose =>
    have still := hooked.dispose_again
    exact ⟨rfl, _, still.symm ▸ hooked, filter_notice_hooked.trans notices⟩

/-- If a hook ends the connection, observers hear of its end once, and of nothing else. -/
theorem Pipeline.apply_ends (p : Pipeline) (disposes : ∃ k ∈ p.hooks, k.effect = .dispose) {f : Flow σ}
    (own : f.channel.id = id) (shows : f.hub.Shows past id os (some .connected) shown)
    (bystanders : ∀ o ∈ os, o.IsBystander) :
    (p.apply f).channel.id = id ∧ ∃ more, (p.apply f).hub.Shows past id os (some .disposed) more ∧
      more.filter (Event.isNotice id) = shown.filter (Event.isNotice id) ++ farewell os id := by
  have folded : ∀ (ks : List Hook), (∃ k ∈ ks, k.effect = .dispose) → ∀ {f : Flow σ} {shown},
      f.channel.id = id → f.hub.Shows past id os (some .connected) shown →
      (ks.foldl runHook f).channel.id = id ∧
        ∃ more, (ks.foldl runHook f).hub.Shows past id os (some .disposed) more ∧
          more.filter (Event.isNotice id) = shown.filter (Event.isNotice id) ++ farewell os id := by
    intro ks disposes
    induction ks with
    | nil =>
      obtain ⟨_, member, -⟩ := disposes
      cases member
    | cons k later ih =>
      rintro f shown rfl shows
      have hooked := shows.emitAll
        [.hooked k.name f.channel.id (f.hub.state? f.channel.id) f.channel.session.isSome]
      rw [List.foldl_cons]
      by_cases ends : k.effect = .dispose
      · have ended := hooked.dispose bystanders (by decide)
        obtain ⟨hub, own⟩ := runHook_dispose ends f
        obtain ⟨still, more, after, same⟩ := runHooks_ended later own (hub.symm ▸ ended)
        refine ⟨still, more, after, ?_⟩
        rw [same, List.filter_append, filter_notice_hooked]
        simp [farewell, filter_notice_told]
      · obtain ⟨hub, own, -⟩ := runHook_eq ends f
        have left : ∃ k ∈ later, k.effect = .dispose := by
          obtain ⟨q, member, found⟩ := disposes
          rcases List.mem_cons.mp member with rfl | inside
          · exact absurd found ends
          · exact ⟨q, inside, found⟩
        obtain ⟨still, more, after, notices⟩ := ih left own (hub.symm ▸ hooked)
        exact ⟨still, more, after, by rw [notices, filter_notice_hooked]⟩
  obtain ⟨hub, same, -⟩ := p.tap_eq f
  exact folded p.hooks disposes (same.trans own) (hub.symm ▸ shows)

end Hooks

end StreamHost.Connection

/-! ## Clients -/

namespace StreamHost.Client.Dialing

open Connection (Shared Wire Carrier Channel Flow Event Hub told farewell)
open StreamHost.Stream (Layered)

variable {b : Blueprint} {id g : Nat} {alarm : Alarm} {rest : List Nat} {s : Shared}

/-- The group is kept by where the client stands; a handshake has the alarm that it got at the start. -/
def Lodged (b : Blueprint) (id g : Nat) (alarm : Alarm) (rest : List Nat) (s : Shared) : Dialing → Prop
  | .securing x => x.id = id ∧ x.alarm = alarm ∧ s.hub.isHeld id = true ∧
    s.hub.Lodges id g b.pipeline.observers b.group rest
  | .connected c => c.id = id ∧ s.hub.Lodges id g b.pipeline.observers b.group rest
  | .failed _ => s.hub.Lodges id g b.pipeline.observers b.group rest ∧
    s.hub.state? id = some .disposed

section

variable (kind : ∀ o ∈ b.pipeline.observers, o.NeverFails)
include kind

theorem configure_lodged {c : Channel (Carrier Wire)} (own : c.id = id)
    (lodges : s.hub.Lodges id g b.pipeline.observers b.group rest) :
    Lodged b id g alarm rest (configure b s c).1 (configure b s c).2 := by
  subst own
  let f : Flow (Carrier (Network × Wire)) :=
    { hub := s.hub, channel := c.map (·.map fun w => (s.network, w)) }
  obtain ⟨attached, same⟩ : (b.pipeline.apply f).hub.Lodges c.id g b.pipeline.observers b.group rest ∧
      (b.pipeline.apply f).channel.id = c.id := b.pipeline.apply_lodges (f := f) kind lodges
  have configured := attached.call kind .configured
  rw [← same] at configured
  refine ⟨same, ?_⟩
  rw [← same]
  exact configured

theorem giveUp_lodged (held : s.hub.isHeld id = true)
    (lodges : s.hub.Lodges id g b.pipeline.observers b.group rest) (w : Wire) (report : Option Error) :
    (giveUp s id w report).hub.Lodges id g b.pipeline.observers b.group rest ∧
      (giveUp s id w report).hub.state? id = some .disposed := by
  obtain ⟨es, gone⟩ := s.dropWire_hub w
  have lost : (s.dropWire w).hub.Lodges id g b.pipeline.observers b.group rest := gone ▸ lodges.emitAll _
  have kept : (s.dropWire w).hub.isHeld id = true := gone ▸ held
  cases report with
  | none => exact lost.drop kind (.inr kept)
  | some e =>
    refine (lost.report (.error e)).drop kind (.inr ?_)
    rw [Hub.isHeld, Hub.lifecycle?_report]
    exact kept

theorem secure_lodged {x : Securing} (own : x.id = id) (ends : x.alarm = alarm)
    (held : s.hub.isHeld id = true) (lodges : s.hub.Lodges id g b.pipeline.observers b.group rest) :
    Lodged b id g alarm rest (secure b s x).1 (secure b s x).2 := by
  subst own
  unfold secure
  dsimp only
  generalize Tls.Secured.handshake (Layered.medium Wire.medium)
    { x.stream with inner := x.stream.inner.map fun w => (s.network, w) } = t
  let polled : Shared :=
    { s with network := t.state.inner.inner.1, hub := s.hub.emitAll (t.events.map .stream) }
  have later : polled.hub.Lodges x.id g b.pipeline.observers b.group rest := lodges.emitAll _
  have kept : polled.hub.isHeld x.id = true := held
  split
  · exact configure_lodged kind rfl later
  · exact giveUp_lodged kind kept later _ _
  · split
    · exact giveUp_lodged kind kept later _ _
    · exact ⟨rfl, ends, kept, later⟩

theorem establish_lodged (running : s.hub.failing = false) (ready : s.hub.Kept)
    (known : ∀ k ∈ b.group, k < s.hub.groups.length) (target : Address.Target) (socket : Nat)
    (limit : Duration) :
    let start := establish b s target socket limit alarm
    Lodged b s.hub.lifecycles.length g alarm (s.hub.members g) start.1 start.2 := by
  let id := s.hub.lifecycles.length
  let made : Hub := (s.hub.create (.unix none) (remoteEnd target) b.pipeline.observers b.group).1
  have connected : (made.connected id).Lodges id g b.pipeline.observers b.group (s.hub.members g) :=
    Hub.Lodges.of_create running ready kind known (.unix none) (remoteEnd target)
  have held : (made.connected id).isHeld id = true := Hub.isHeld_connected_create
  let opened : Shared × Layered Wire :=
    b.pipeline.wrapTransport { s with hub := made.connected id } id (.socket socket)
  obtain ⟨es, wrapped, -⟩ := b.pipeline.wrapTransport_hub { s with hub := made.connected id } id
    (.socket socket)
  have staged : opened.1.hub.Lodges id g b.pipeline.observers b.group (s.hub.members g) :=
    wrapped ▸ connected.emitAll es
  have kept : opened.1.hub.isHeld id = true := wrapped ▸ held
  unfold establish
  dsimp only
  split
  · exact configure_lodged kind rfl staged
  · split
    · exact giveUp_lodged kind kept staged _ _
    · exact secure_lodged kind rfl rfl kept staged

theorem poll_lodged {d : Dialing} (lodged : Lodged b id g alarm rest s d) :
    Lodged b id g alarm rest (poll b s d).1 (poll b s d).2 := by
  cases d with
  | securing x =>
    obtain ⟨own, ends, held, lodges⟩ := lodged
    exact secure_lodged kind own ends held lodges
  | failed | connected => exact lodged

/-- Whoever gives an attempt up, or the connection that came of it, leaves the group as it is without it. -/
theorem letGo_lodged {d : Dialing} (lodged : Lodged b id g alarm rest s d) :
    (d.letGo s).hub.state? id = some .disposed ∧ (d.letGo s).hub.members g = rest := by
  have ended : (d.letGo s).hub.Lodges id g b.pipeline.observers b.group rest ∧
      (d.letGo s).hub.state? id = some .disposed := by
    cases d with
    | securing x =>
      obtain ⟨rfl, -, held, lodges⟩ := lodged
      exact giveUp_lodged kind held lodges _ _
    | connected c =>
      obtain ⟨rfl, lodges⟩ := lodged
      obtain ⟨es, gone⟩ := s.dropChannel_hub c
      have disposed := (lodges.emitAll (es.map .stream)).dispose kind
      rw [← gone] at disposed
      exact disposed.1.drop kind (.inl disposed.2)
    | failed => exact lodged
  exact ⟨ended.2, ended.1.restored ended.2⟩

end

theorem Lodged.apart {s' : Shared} {d : Dialing} (lodged : Lodged b id g alarm rest s d)
    (apart : Hub.Apart id s.hub s'.hub) :
    Lodged b id g alarm ((s'.hub.members g).filter (· != id)) s' d := by
  cases d with
  | securing x =>
    obtain ⟨own, ends, held, lodges⟩ := lodged
    exact ⟨own, ends, apart.isHeld held, lodges.apart apart⟩
  | connected c => exact ⟨lodged.1, lodged.2.apart apart⟩
  | failed e =>
    obtain ⟨lodges, ended⟩ := lodged
    refine ⟨lodges.apart apart, ?_⟩
    obtain ⟨l, found, -⟩ := lodges.present
    obtain ⟨l', later, -, state, -⟩ := apart.spares.lifecycle l found
    have ended : l.state = some .disposed := by simpa [Hub.state?, found] using ended
    simp [Hub.state?, later, state, ended]

/-! ## What observers hear -/

/-- What is seen of a connection by where its client stands. A handshake that the deadline cut off is not
reported as an error. -/
def Shown (b : Blueprint) (past : List Event) (id : Nat) (limit : Duration) (s : Shared) : Dialing → Prop
  | .securing x => x.limit = limit ∧ b.security.isSome = true ∧
    s.hub.Shows past id b.pipeline.observers (some .connected)
      (told b.pipeline.observers id (.state .connected) ++ b.pipeline.staging id)
  | .failed e => s.hub.Shows past id b.pipeline.observers (some .disposed)
      (told b.pipeline.observers id (.state .connected) ++ b.pipeline.staging id ++
        (if e = .timeout "connect" limit then [] else told b.pipeline.observers id (.error e)) ++
        farewell b.pipeline.observers id)
  | .connected _ =>
    ((∀ k ∈ b.pipeline.hooks, k.effect ≠ .dispose) →
      s.hub.Shows past id b.pipeline.observers (some .configured)
        (told b.pipeline.observers id (.state .connected) ++ b.pipeline.staging id ++
          b.pipeline.hooking id (some .connected) b.security.isSome ++
          told b.pipeline.observers id (.state .configured))) ∧
    ((∃ k ∈ b.pipeline.hooks, k.effect = .dispose) →
      ∃ shown, s.hub.Shows past id b.pipeline.observers (some .disposed) shown ∧
        shown.filter (Event.isNotice id) =
          told b.pipeline.observers id (.state .connected) ++ farewell b.pipeline.observers id)

section

variable {past : List Event} {limit : Duration}

theorem filter_notice_staging : (b.pipeline.staging id).filter (Event.isNotice id) = [] :=
  List.filter_eq_nil_iff.mpr fun _ member => by simp [Connection.Pipeline.isNotice_of_mem_staging member]

theorem filter_notice_staged :
    (told b.pipeline.observers id (.state .connected) ++ b.pipeline.staging id).filter (Event.isNotice id) =
      told b.pipeline.observers id (.state .connected) := by
  rw [List.filter_append, filter_notice_staging, List.append_nil, Connection.filter_notice_told]

variable (bystanders : ∀ o ∈ b.pipeline.observers, o.IsBystander)
include bystanders

theorem configure_shown {c : Channel (Carrier Wire)} (own : c.id = id)
    (secured : c.session.isSome = b.security.isSome)
    (shows : s.hub.Shows past id b.pipeline.observers (some .connected)
      (told b.pipeline.observers id (.state .connected) ++ b.pipeline.staging id)) :
    Shown b past id limit (configure b s c).1 (configure b s c).2 := by
  subst own
  let f : Flow (Carrier (Network × Wire)) :=
    { hub := s.hub, channel := c.map (·.map fun w => (s.network, w)) }
  constructor
  · intro harmless
    obtain ⟨hub, same⟩ := b.pipeline.apply_eq harmless f
    have hooked := shows.emitAll (b.pipeline.hooking c.id (f.hub.state? c.id) f.channel.session.isSome)
    rw [Connection.Pipeline.filter_hooking] at hooked
    have configured := hooked.advance bystanders (s := .configured) rfl
    have state : f.hub.state? c.id = some .connected := shows.state?
    have flag : f.channel.session.isSome = b.security.isSome := secured
    change ((b.pipeline.apply f).hub.configured (b.pipeline.apply f).channel.id).Shows _ _ _ _ _
    rw [same, hub, ← flag, ← state]
    exact configured
  · intro disposes
    have own : f.channel.id = c.id := rfl
    obtain ⟨same, more, ended, notices⟩ := b.pipeline.apply_ends disposes own shows bystanders
    have still :
        (b.pipeline.apply f).hub.configured (b.pipeline.apply f).channel.id = (b.pipeline.apply f).hub := by
      rw [same]
      exact ended.advance_blocked (s := .configured) rfl
    refine ⟨more, ?_, by rw [notices, filter_notice_staged]⟩
    change ((b.pipeline.apply f).hub.configured (b.pipeline.apply f).channel.id).Shows _ _ _ _ _
    rw [still]
    exact ended

/-- An attempt that the deadline cuts off. -/
theorem giveUp_shown (held : s.hub.isHeld id = true)
    (shows : s.hub.Shows past id b.pipeline.observers (some .connected)
      (told b.pipeline.observers id (.state .connected) ++ b.pipeline.staging id)) (w : Wire) :
    Shown b past id limit (giveUp s id w none) (.failed (.timeout "connect" limit)) := by
  obtain ⟨es, gone⟩ := s.dropWire_hub w
  have lost := shows.aside (Connection.filter_stream es)
  rw [← gone] at lost
  have still : (s.dropWire w).hub.isHeld id = true := gone ▸ held
  have kept := lost.modify (j := id) (fun l => { l with held := false }) fun _ => ⟨rfl, rfl⟩
  have ended := kept.dispose bystanders (by decide)
  change ((s.dropWire w).hub.drop id).Shows _ _ _ _ _
  rw [Hub.drop_of_isHeld still, if_pos rfl, List.append_nil]
  exact ended

/-- An attempt that fails for another reason. -/
theorem giveUp_failed_shown (held : s.hub.isHeld id = true)
    (shows : s.hub.Shows past id b.pipeline.observers (some .connected)
      (told b.pipeline.observers id (.state .connected) ++ b.pipeline.staging id)) (w : Wire) {e : Error}
    (other : e ≠ .timeout "connect" limit) :
    Shown b past id limit (giveUp s id w (some e)) (.failed e) := by
  have ended := giveUp_shows shows held bystanders w e
  rw [Shown, if_neg other]
  exact ended

theorem secure_shown {x : Securing} (own : x.id = id) (held : s.hub.isHeld id = true)
    (shown : Shown b past id limit s (.securing x)) :
    Shown b past id limit (secure b s x).1 (secure b s x).2 := by
  subst own
  obtain ⟨rfl, secured, shows⟩ := shown
  unfold secure
  dsimp only
  generalize Tls.Secured.handshake (Layered.medium Wire.medium)
    { x.stream with inner := x.stream.inner.map fun w => (s.network, w) } = t
  let polled : Shared :=
    { s with network := t.state.inner.inner.1, hub := s.hub.emitAll (t.events.map .stream) }
  have later : polled.hub.Shows past x.id b.pipeline.observers (some .connected) _ :=
    shows.aside (Connection.filter_stream _)
  have kept : polled.hub.isHeld x.id = true := held
  split
  · exact configure_shown bystanders rfl secured.symm later
  · exact giveUp_failed_shown bystanders kept later _ (by simp)
  · split
    · exact giveUp_shown bystanders kept later _
    · exact ⟨rfl, secured, later⟩

theorem establish_shown (running : s.hub.failing = false) (target : Address.Target) (socket : Nat) :
    let start := establish b s target socket limit alarm
    Shown b s.hub.events s.hub.lifecycles.length limit start.1 start.2 := by
  let id := s.hub.lifecycles.length
  let made : Hub := (s.hub.create (.unix none) (remoteEnd target) b.pipeline.observers b.group).1
  have connected : (made.connected id).Shows s.hub.events id b.pipeline.observers (some .connected)
      (told b.pipeline.observers id (.state .connected)) :=
    Hub.Shows.of_create running bystanders (.unix none) (remoteEnd target) b.group
  have held : (made.connected id).isHeld id = true := Hub.isHeld_connected_create
  let opened : Shared × Layered Wire :=
    b.pipeline.wrapTransport { s with hub := made.connected id } id (.socket socket)
  obtain ⟨es, wrapped, own⟩ := b.pipeline.wrapTransport_hub { s with hub := made.connected id } id
    (.socket socket)
  have staged : opened.1.hub.Shows s.hub.events id b.pipeline.observers (some .connected)
      (told b.pipeline.observers id (.state .connected) ++ b.pipeline.staging id) := by
    have shown := connected.emitAll es
    rw [own, b.pipeline.filter_staging, if_pos rfl] at shown
    exact wrapped ▸ shown
  have kept : opened.1.hub.isHeld id = true := wrapped ▸ held
  unfold establish
  dsimp only
  split
  · rename_i plain
    exact configure_shown bystanders rfl (by simp [plain]) staged
  · rename_i security secured
    split
    · rename_i named
      obtain ⟨reason, rfl⟩ := Security.configuration_of_serverNameFor named
      exact giveUp_failed_shown bystanders kept staged _ (by simp)
    · exact secure_shown bystanders rfl kept ⟨rfl, by simp [secured], staged⟩

theorem poll_shown {d : Dialing} (lodged : Lodged b id g alarm rest s d) (shown : Shown b past id limit s d) :
    Shown b past id limit (poll b s d).1 (poll b s d).2 := by
  cases d with
  | securing x => exact secure_shown bystanders lodged.1 lodged.2.2.1 shown
  | failed | connected => exact shown

/-- An owner who gives an open connection up. -/
theorem letGo_shows {c : Channel (Carrier Wire)} (own : c.id = id) {shown : List Event}
    (shows : s.hub.Shows past id b.pipeline.observers (some .configured) shown) :
    (letGo s (.connected c)).hub.Shows past id b.pipeline.observers (some .disposed)
      (shown ++ farewell b.pipeline.observers id) := by
  subst own
  have gone := Shared.dropChannel_shows shows bystanders (by decide)
  exact gone.drop_again

end

section

variable {past : List Event} {limit : Duration}

/-- An owner who gives a connection up that has ended. -/
theorem letGo_ended {c : Channel (Carrier Wire)} (own : c.id = id) {os : List Connection.Observer}
    {shown : List Event} (shows : s.hub.Shows past id os (some .disposed) shown) :
    (letGo s (.connected c)).hub.Shows past id os (some .disposed) shown := by
  subst own
  obtain ⟨es, gone⟩ := s.dropChannel_hub c
  have lost := shows.aside (Connection.filter_stream es)
  rw [← lost.dispose_again, ← gone] at lost
  exact lost.drop_again

theorem Shown.apart {s' : Shared} {d : Dialing} (shown : Shown b past id limit s d)
    (apart : Hub.Apart id s.hub s'.hub) : Shown b past id limit s' d := by
  cases d with
  | securing x =>
    obtain ⟨same, secured, shows⟩ := shown
    exact ⟨same, secured, shows.elsewhere apart.spares apart.running⟩
  | failed e => exact Hub.Shows.elsewhere shown apart.spares apart.running
  | connected c =>
    refine ⟨fun harmless => (shown.1 harmless).elsewhere apart.spares apart.running, fun disposes => ?_⟩
    obtain ⟨more, shows, notices⟩ := shown.2 disposes
    exact ⟨more, shows.elsewhere apart.spares apart.running, notices⟩

end

/-! ## Attempts -/

/-- What may happen from the moment on at which there is a connection, as far as it is dialed: it is polled,
or something goes on that is not done with it. The group `g` had the members `members` then; `rest` is what
others have made of them. -/
inductive Dials (b : Blueprint) (id g : Nat) (start : Shared × Dialing) (members : List Nat) :
    (rest : List Nat) → Shared × Dialing → Prop where
  | start : Dials b id g start members members start
  | poll {rest : List Nat} {now : Shared × Dialing} (dials : Dials b id g start members rest now) :
    Dials b id g start members rest (poll b now.1 now.2)
  | apart {rest : List Nat} {now : Shared × Dialing} {s' : Shared}
      (dials : Dials b id g start members rest now) (apart : Hub.Apart id now.1.hub s'.hub) :
    Dials b id g start members ((s'.hub.members g).filter (· != id)) (s', now.2)

variable {start now : Shared × Dialing} {members : List Nat}

theorem Dials.lodged (dials : Dials b id g start members rest now)
    (kind : ∀ o ∈ b.pipeline.observers, o.NeverFails) (lodged : Lodged b id g alarm members start.1 start.2) :
    Lodged b id g alarm rest now.1 now.2 := by
  induction dials with
  | start => exact lodged
  | poll _ before => exact poll_lodged kind before
  | apart _ apart before => exact before.apart apart

theorem Dials.shown {past : List Event} {limit : Duration}
    (dials : Dials b id g start members rest now)
    (bystanders : ∀ o ∈ b.pipeline.observers, o.IsBystander)
    (lodged : Lodged b id g alarm members start.1 start.2)
    (shown : Shown b past id limit start.1 start.2) : Shown b past id limit now.1 now.2 := by
  induction dials with
  | start => exact shown
  | poll dials before =>
    have kind := fun o member => (bystanders o member).neverFails
    exact poll_shown bystanders (dials.lodged kind lodged) before
  | apart _ apart before => exact before.apart apart

/-! ## Outcomes -/

variable {limit : Duration} {answer : Address.Target → Option Shared.Answer}

/-- An attempt fails before there is a connection, or the connection is established. -/
theorem startWith_cases (b : Blueprint) (s : Shared) (limit : Duration)
    (answer : Address.Target → Option Shared.Answer) :
    (∃ e, (startWith b s limit answer).2 = .failed e ∧ ((startWith b s limit answer).1.hub = s.hub ∨
      ∃ target a, answer target = some a ∧ (startWith b s limit answer).1.hub = a.shared.hub)) ∨
    ∃ target t socket, b.target = .ok target ∧ answer target = some ⟨t, .ok socket⟩ ∧
      startWith b s limit answer = establish b t target socket limit ⟨s.now + limit.nanos⟩ := by
  unfold startWith
  cases fits : Deadline.check s.now limit with
  | error e => exact .inl ⟨e, rfl, .inl rfl⟩
  | ok deadline =>
    obtain ⟨-, rfl⟩ := Deadline.check_eq_ok_iff.mp fits
    cases aimed : b.target with
    | error e => exact .inl ⟨e, rfl, .inl rfl⟩
    | ok target =>
      dsimp only
      cases said : answer target with
      | none => exact .inl ⟨_, rfl, .inl rfl⟩
      | some a =>
        obtain ⟨t, refusal | socket⟩ := a
        · exact .inl ⟨_, rfl, .inr ⟨target, _, said, rfl⟩⟩
        · dsimp only
          by_cases elapsed : (⟨s.now + limit.nanos⟩ : Alarm).isOver s.now = true
          · rw [if_pos elapsed]
            refine .inl ⟨_, rfl, .inr ⟨target, _, said, ?_⟩⟩
            simp [Shared.dropWire, Wire.drop]
          · rw [if_neg elapsed]
            exact .inr ⟨target, t, socket, rfl, said, rfl⟩

/-- Once its alarm has gone off a handshake is not waited for. -/
theorem secure_over {x : Securing} (late : x.alarm.isOver s.now = true) (y : Securing) :
    (secure b s x).2 ≠ .securing y := by
  unfold secure
  dsimp only
  split
  · simp [configure]
  · simp
  · rw [if_pos late]
    simp

/-- What has come of an attempt that began to establish a connection when the lifecycles were `past`. The
number of the connection is `id`, and `rest` is what others have made of the group `g`. -/
structure Settled (b : Blueprint) (past : Hub) (id g : Nat) (limit : Duration) (ends : Alarm)
    (rest : List Nat) (u : Shared) (d : Dialing) : Prop where
  /-- Whoever gives up leaves the group without the connection. -/
  givenUp : (d.letGo u).hub.members g = rest
  /-- The deadline ends a handshake that is not over. -/
  timely : ∀ x, d = .securing x → ends.isOver u.now = true → ∀ y, (poll b u d).2 ≠ .securing y
  failed : ∀ e, d = .failed e → u.hub.members g = rest ∧
    ((∀ o ∈ b.pipeline.observers, o.IsBystander) → past.noticesSince u.hub id =
      told b.pipeline.observers id (.state .connected) ++
      (if e = .timeout "connect" limit then [] else told b.pipeline.observers id (.error e)) ++
      farewell b.pipeline.observers id)
  connected : ∀ c, d = .connected c → (u.hub.members g).filter (· != id) = rest ∧
    ((∀ o ∈ b.pipeline.observers, o.IsBystander) → (∀ k ∈ b.pipeline.hooks, k.effect ≠ .dispose) →
      u.hub.Shows past.events id b.pipeline.observers (some .configured)
        (told b.pipeline.observers id (.state .connected) ++ b.pipeline.staging id ++
          b.pipeline.hooking id (some .connected) b.security.isSome ++
          told b.pipeline.observers id (.state .configured)) ∧
      (id ∈ u.hub.members g ↔ b.group = some g) ∧
      past.noticesSince (d.letGo u).hub id = told b.pipeline.observers id (.state .connected) ++
        told b.pipeline.observers id (.state .configured) ++ farewell b.pipeline.observers id)
  /-- A hook may have ended the connection by the time it is handed over. -/
  ended : ∀ c, d = .connected c → (∀ o ∈ b.pipeline.observers, o.IsBystander) →
    (∃ k ∈ b.pipeline.hooks, k.effect = .dispose) → u.hub.members g = rest ∧
      past.noticesSince u.hub id =
        told b.pipeline.observers id (.state .connected) ++ farewell b.pipeline.observers id ∧
      past.noticesSince (d.letGo u).hub id = past.noticesSince u.hub id

theorem filter_notice_failed {os : List Connection.Observer} {n : Connection.Notice} {p : Prop}
    [Decidable p] :
    ((if p then [] else told os id n) ++ farewell os id).filter (Event.isNotice id) =
      (if p then [] else told os id n) ++ farewell os id := by
  split
  · simp [farewell, Connection.filter_notice_told]
  · simp [farewell, Connection.filter_notice_told]

theorem filter_notice_opened {secured : Bool} :
    (told b.pipeline.observers id (.state .connected) ++ b.pipeline.staging id ++
      b.pipeline.hooking id (some .connected) secured ++ told b.pipeline.observers id (.state .configured) ++
      farewell b.pipeline.observers id).filter (Event.isNotice id) =
    told b.pipeline.observers id (.state .connected) ++ told b.pipeline.observers id (.state .configured) ++
      farewell b.pipeline.observers id := by
  have silent : (b.pipeline.hooking id (some .connected) secured).filter (Event.isNotice id) = [] := by
    refine List.filter_eq_nil_iff.mpr fun e member => ?_
    obtain ⟨k, -, rfl⟩ := List.mem_map.mp member
    simp [Event.isNotice]
  simp only [List.filter_append, silent, filter_notice_staging, Connection.filter_notice_told, farewell,
    List.nil_append, List.append_assoc]

theorem Dials.settled {t : Shared} {limit : Duration}
    (dials : Dials b t.hub.lifecycles.length g start members rest now)
    (kind : ∀ o ∈ b.pipeline.observers, o.NeverFails)
    (lodged : Lodged b t.hub.lifecycles.length g alarm members start.1 start.2)
    (shown : (∀ o ∈ b.pipeline.observers, o.IsBystander) →
      Shown b t.hub.events t.hub.lifecycles.length limit start.1 start.2) :
    Settled b t.hub t.hub.lifecycles.length g limit alarm rest now.1 now.2 := by
  have stands := dials.lodged kind lodged
  have seen := fun bystanders => dials.shown bystanders lodged (shown bystanders)
  obtain ⟨u, d⟩ := now
  have left := letGo_lodged kind stands
  refine ⟨left.2, ?_, ?_, ?_, ?_⟩
  · rintro x rfl late
    obtain ⟨-, rfl, -⟩ := stands
    exact secure_over late
  · rintro e rfl
    refine ⟨left.2, fun bystanders => ?_⟩
    rw [Hub.Shows.noticesSince (seen bystanders), List.append_assoc, List.filter_append, filter_notice_staged,
      filter_notice_failed, List.append_assoc]
  · rintro c rfl
    obtain ⟨own, lodges⟩ := stands
    refine ⟨lodges.others, fun bystanders harmless => ?_⟩
    have shows := (seen bystanders).1 harmless
    refine ⟨shows, lodges.member_iff shows.state? (by simp), ?_⟩
    rw [Hub.Shows.noticesSince (letGo_shows bystanders own shows), filter_notice_opened]
  · rintro c rfl bystanders disposes
    obtain ⟨own, lodges⟩ := stands
    obtain ⟨more, shows, notices⟩ := (seen bystanders).2 disposes
    refine ⟨lodges.restored shows.state?, shows.noticesSince.trans notices, ?_⟩
    rw [Hub.Shows.noticesSince (letGo_ended own shows), shows.noticesSince]

/-- An attempt to connect either fails before there is a connection, and has not touched anything then; or
it establishes one, and then every outcome leaves the group with nobody else than others have brought there,
the connection apart while it is open. Observers that stand aside hear of a failed attempt that the
connection started, of the error if it is not the deadline, and of the end; and of one that succeeds that
the connection started, and after the hooks that it is configured. -/
theorem connecting_leaves_nothing_behind (b : Blueprint) (kind : ∀ o ∈ b.pipeline.observers, o.NeverFails)
    (s : Shared) (limit : Duration) (answer : Address.Target → Option Shared.Answer) (g : Nat)
    (sound : ∀ target t socket, answer target = some ⟨t, .ok socket⟩ →
      t.hub.failing = false ∧ t.hub.Kept ∧ ∀ k ∈ b.group, k < t.hub.groups.length) :
    (∃ e, (startWith b s limit answer).2 = .failed e ∧ ((startWith b s limit answer).1.hub = s.hub ∨
      ∃ target a, answer target = some a ∧ (startWith b s limit answer).1.hub = a.shared.hub)) ∨
    ∃ target t socket, answer target = some ⟨t, .ok socket⟩ ∧
      startWith b s limit answer = establish b t target socket limit ⟨s.now + limit.nanos⟩ ∧
      ∀ rest now, Dials b t.hub.lifecycles.length g (startWith b s limit answer) (t.hub.members g) rest now →
        Settled b t.hub t.hub.lifecycles.length g limit ⟨s.now + limit.nanos⟩ rest now.1 now.2 := by
  rcases startWith_cases b s limit answer with early | ⟨target, t, socket, -, said, established⟩
  · exact .inl early
  · obtain ⟨running, ready, known⟩ := sound target t socket said
    refine .inr ⟨target, t, socket, said, established, fun rest now dials => ?_⟩
    rw [established] at dials
    exact dials.settled kind (establish_lodged kind running ready known target socket limit)
      fun bystanders => establish_shown bystanders running target socket

/-- One connection in a group, over a network in which somebody listens. -/
def busyDoor : Shared where
  network := (({} : Network).listen (.unix (some "s.sock"))).1
  hub := Hub.run {} [.newGroup, .create (.unix none) (.unix none) [{ name := "log" }] (some 0),
    .call 0 .connected]

/-- A client that wants to be in that group, with one observer and one hook. -/
def groupedClient (reactions : List (Connection.State × Connection.Reaction))
    (effect : Connection.HookEffect) : Blueprint where
  remote := { unixPath := some "s.sock" }
  pipeline := { observers := [{ name := "log", reactions }], hooks := [{ name := "hook", effect }] }
  group := some 0

/-- It is let in. -/
def groupedGuest (reactions : List (Connection.State × Connection.Reaction))
    (effect : Connection.HookEffect) : Shared × Dialing :=
  startWith (groupedClient reactions effect) busyDoor (Duration.ofSecs 5) fun _ =>
    some (busyDoor.ask fun n => .ok (n.pair 0 none))

/-- It is in the group with the other one, and when it is given up the other one is left. -/
theorem guest_leaves_group_as_before :
    let guest := groupedGuest [] .nothing
    busyDoor.hub.members 0 = [0] ∧ guest.1.hub.members 0 = [0, 1] ∧
      (guest.2.letGo guest.1).hub.members 0 = [0] := by
  have kind : ∀ o ∈ (groupedClient [] .nothing).pipeline.observers, o.NeverFails := by
    simp [groupedClient, Connection.Observer.NeverFails]
  have ready : busyDoor.hub.Kept :=
    Hub.kept_endures.run _ (fun op _ => Hub.brings_anything op) Hub.orderly_empty.toKept
  have settled := connecting_leaves_nothing_behind (groupedClient [] .nothing) kind busyDoor
    (Duration.ofSecs 5) (fun _ => some (busyDoor.ask fun n => .ok (n.pair 0 none))) 0 (by
      intro target t socket said
      cases said
      exact ⟨by decide +kernel, ready, by decide +kernel⟩)
  have before : busyDoor.hub.members 0 = [0] := by decide
  refine ⟨before, by decide +kernel, ?_⟩
  rcases settled with ⟨e, failed, -⟩ | ⟨target, t, socket, said, -, outcomes⟩
  · cases failed
  · cases said
    exact (outcomes _ _ .start).givenUp.trans before

/-- The guest has a connection that has ended: it was never configured, and only the other one is in the
group. -/
def EndedAtHandover (guest : Shared × Dialing) : Prop :=
  (∃ c, guest.2 = .connected c) ∧
    busyDoor.hub.noticesSince guest.1.hub 1 = [.notified "log" 1 (.state .connected),
      .notified "log" 1 (.state .disconnecting), .notified "log" 1 (.state .disposed)] ∧
    guest.1.hub.members 0 = [0]

/-- That is so if its hook disposes the connection, and if its observer does. -/
theorem connection_may_end_before_handover :
    EndedAtHandover (groupedGuest [] .dispose) ∧
      EndedAtHandover (groupedGuest [(.connected, .call .dispose)] .nothing) :=
  ⟨⟨⟨_, rfl⟩, by decide +kernel, by decide +kernel⟩, ⟨_, rfl⟩, by decide +kernel, by decide +kernel⟩

end StreamHost.Client.Dialing
