import StreamHost.Connection.Pipeline
import StreamHost.Proofs.Devices
import StreamHost.Proofs.HalfClose

/-!
Taps let pass what they see. A connection with taps around its stream, however many and wherever among its
layers, does what the same connection does without them: its owner gets the same, the stream is asked the
same, the halves end at the same moments and the observers hear the same. What taps show is all that is
added. Two connections are compared by what is left of each when its taps, and what they showed, are taken
out.
-/

namespace StreamHost.Connection

open StreamHost.Stream (Buffer Device Layered Medium Outcome Poll untapped)

/-- Whether a tap shows it. -/
def Event.isTap : Event → Bool
  | .stream e => e.isTap
  | _ => false

namespace Hub

/-- All connections and groups, without what taps showed. -/
def untap (h : Hub) : Hub := { h with events := h.events.filter (!·.isTap) }

variable {h : Hub} {id : Nat} {group : Option Nat} {s : State}

@[simp] theorem lifecycle?_untap : h.untap.lifecycle? id = h.lifecycle? id := rfl

@[simp] theorem failing_untap : h.untap.failing = h.failing := rfl

theorem untap_emit {e : Event} (other : e.isTap = false) : (h.emit e).untap = h.untap.emit e := by
  simp [untap, emit, other]

theorem untap_emitAll (es : List Event) :
    (h.emitAll es).untap = h.untap.emitAll (es.filter (!·.isTap)) := by
  simp [untap, emitAll]

theorem untap_enter : (h.enter id group s).untap = h.untap.enter id group s := by
  cases s <;> cases group <;> rfl

theorem untap_closeAll (g : Nat) : (h.closeAll g).1.untap = (h.untap.closeAll g).1 :=
  (List.foldl_hom untap fun _ _ => rfl).symm

section

variable {move : Hub → Nat → State → Hub} (blind : ∀ h id s, (move h id s).untap = move h.untap id s)
include blind

theorem untap_callVia (c : Call) : (callVia move h id c).untap = callVia move h.untap id c := by
  cases c with
  | connected | configured | disconnecting => exact blind h id _
  | dispose => simp only [callVia, blind]
  | requestClose => rfl

theorem untap_react (observer : String) (r : Reaction) :
    (react move observer id h r).untap = react move observer id h.untap r := by
  unfold react
  rw [failing_untap]
  split
  · rfl
  · cases r with
    | call c =>
      show (if h.isHeld id then callVia move h id c else h).untap =
        if h.isHeld id then callVia move h.untap id c else h.untap
      split
      · exact untap_callVia blind c
      · rfl
    | closeAll g =>
      have asked : h.untap.closeAll g = ((h.closeAll g).1.untap, (h.closeAll g).2) :=
        Prod.ext (untap_closeAll g).symm rfl
      simp only [asked]
      exact untap_emit rfl
    | count g => exact untap_emit rfl
    | fail => rfl

theorem untap_tell (o : Observer) : (tell move id s h o).untap = tell move id s h.untap o := by
  have silent : (o.stateEvent id s).isTap = false := by
    unfold Observer.stateEvent
    split <;> rfl
  unfold tell
  rw [failing_untap]
  split
  · rfl
  · rw [← untap_emit silent]
    exact (List.foldl_hom untap fun _ r => (untap_react blind o.name r).symm).symm

end

/-- Moves take no notice of what taps showed. -/
theorem untap_advanceWithin (depth : Nat) (h : Hub) (id : Nat) (s : State) :
    (advanceWithin depth h id s).untap = advanceWithin depth h.untap id s := by
  induction depth generalizing h id s with
  | zero => rfl
  | succ depth ih =>
    have told : ∀ (os : List Observer) (group : Option Nat),
        (os.foldl (tell (advanceWithin depth) id s) (h.enter id group s)).untap =
          os.foldl (tell (advanceWithin depth) id s) (h.untap.enter id group s) := fun os group => by
      rw [← untap_enter]
      exact (List.foldl_hom untap fun _ o => (untap_tell ih o).symm).symm
    unfold advanceWithin
    rw [lifecycle?_untap, failing_untap]
    split
    · rfl
    · rename_i l found
      split
      · rfl
      · simp only [← told, failing_untap]
        split <;> rfl

theorem untap_call (c : Call) : (h.call id c).untap = h.untap.call id c :=
  untap_callVia (untap_advanceWithin 4) c

end Hub

/-! ## Connections over devices -/

namespace Flow

variable {σ : Type}

/-- The answer if there is no stream to ask. -/
def refusal : Device.Request → Device.Reply
  | .read buf => .read (.fail detached) buf
  | .write _ => .written (.fail detached)
  | .flush => .flushed (.fail detached)
  | .shutdown => .shutDown (.fail detached)

/-- Whether an answer shows the end of the inbound half: the buffer had room, and it holds no more than
before. -/
def inboundOver : Device.Request → Device.Reply → Bool
  | .read buf, .read (.ready (.ok _)) after =>
    decide (0 < buf.room) && after.filled.length == buf.filled.length
  | .read _, .read (.ready (.error _)) _ => true
  | _, _ => false

def outboundOver : Device.Reply → Bool
  | .written p => p.isFailure
  | .shutDown p => p.isReady
  | _ => false

/-- Looks for the end of a half in an answer. -/
def watch (f : Flow σ) (r : Device.Request) (reply : Device.Reply) : Flow σ :=
  if inboundOver r reply then f.closeInbound
  else if outboundOver reply then f.closeOutbound
  else f

/-- Notes what the stream did. -/
def note (f : Flow σ) (s : Layered σ) (o : Outcome σ Device.Reply) : Flow σ where
  hub := f.hub.emitAll (o.events.map .stream)
  channel := { f.channel with stream := some { s with inner := o.state } }

/-- A request to a connection over a device, which may break off. -/
def handle (d : Device σ) (f : Flow σ) (r : Device.Request) : Flow σ × Option Device.Reply :=
  match f.channel.stream with
  | none => (f, some (refusal r))
  | some s =>
    match (d.within s.layers).ask s.inner r with
    | none => (f, none)
    | some o => ((f.note s o).watch r o.reply, some o.reply)

/-- The same request to a connection over a medium. -/
def answer (m : Medium σ) (f : Flow σ) : Device.Request → Flow σ × Device.Reply
  | .read buf => let t := (medium m).read f buf.room; (t.state, .read t.poll.finished (buf.fill t.poll))
  | .write bytes => let t := (medium m).write f bytes; (t.state, .written t.poll)
  | .flush => let t := (medium m).flush f; (t.state, .flushed t.poll)
  | .shutdown => let t := (medium m).shutdown f; (t.state, .shutDown t.poll)

section

variable {m : Medium σ} {f f' : Flow σ} {s : Layered σ} {d : Device σ}

theorem inboundOver_fill (buf : Buffer) (p : Poll Bytes) :
    inboundOver (.read buf) (.read p.finished (buf.fill p)) = endsInbound buf.room p := by
  match p with
  | .pending => rfl
  | .ready (.error e) => rfl
  | .ready (.ok []) => simp [inboundOver, Poll.finished, Poll.done, Buffer.fill, endsInbound]
  | .ready (.ok (b :: bytes)) => simp [inboundOver, Poll.finished, Poll.done, Buffer.fill, endsInbound]

theorem watch_read (f : Flow σ) (buf : Buffer) (p : Poll Bytes) :
    f.watch (.read buf) (.read p.finished (buf.fill p)) =
      if endsInbound buf.room p then f.closeInbound else f := by
  rw [watch, inboundOver_fill]
  rfl

/-- An operation notes what the stream did. -/
theorem operate_eq_note {α : Type} (flows : f.channel.stream = some s)
    (op : Layered σ → Stream.Turn (Layered σ) α) {t : Stream.Turn σ α} (inside : op s = s.after t)
    (reply : Poll α → Device.Reply) : f.operate op = (f.note s (t.outcome reply), t.poll) := by
  unfold operate
  rw [flows]
  simp only [inside]
  rfl

/-- Over a medium that keeps its contract nothing breaks off, and the connection is the one that is
polled. -/
theorem handle_device (lawful : m.Lawful) (f : Flow σ) (r : Device.Request) :
    f.handle m.device r = ((f.answer m r).1, some (f.answer m r).2) := by
  unfold handle
  cases flows : f.channel.stream with
  | none =>
    cases r <;> simp [answer, medium, read, write, flush, shutdown, operate, flows, refusal, Poll.finished,
      Poll.fail, Buffer.fill]
  | some s =>
    simp only [Medium.within_device lawful]
    cases r with
    | read buf =>
      have operated := operate_eq_note flows ((Layered.medium m).read · buf.room) rfl
        fun p => .read p.finished (buf.fill p)
      simp only [answer, medium, read, operated, flows, Option.isSome_some, Bool.true_and]
      exact Prod.ext (watch_read _ buf _) rfl
    | write bytes =>
      have operated := operate_eq_note flows ((Layered.medium m).write · bytes) rfl .written
      simp only [answer, medium, write, operated, flows, Option.isSome_some, Bool.true_and]
      rfl
    | flush =>
      have operated := operate_eq_note flows (Layered.medium m).flush rfl .flushed
      simp only [answer, medium, flush, operated]
      rfl
    | shutdown =>
      have operated := operate_eq_note flows (Layered.medium m).shutdown rfl .shutDown
      simp only [answer, medium, shutdown, operated, flows, Option.isSome_some, Bool.true_and]
      rfl

end

/-! ## With taps and without -/

/-- A connection without its taps and what they showed. -/
def untap (f : Flow σ) : Flow σ where
  hub := f.hub.untap
  channel := f.channel.mapStream Layered.untap

section

variable {f f' : Flow σ} {s s' : Layered σ} {d : Device σ}

theorem untap_disconnecting {e : Event} (other : e.isTap = false) :
    ((f.hub.emit e).disconnecting f.channel.id).untap =
      (f.untap.hub.emit e).disconnecting f.channel.id := by
  rw [Hub.disconnecting, Hub.untap_call, Hub.untap_emit other]
  rfl

theorem untap_closeInbound : f.closeInbound.untap = f.untap.closeInbound := by
  have same : f.untap.channel.inboundClosed = f.channel.inboundClosed := rfl
  unfold closeInbound
  rw [same]
  split
  · rfl
  · rw [untap, untap_disconnecting rfl]
    rfl

theorem untap_closeOutbound : f.closeOutbound.untap = f.untap.closeOutbound := by
  have same : f.untap.channel.outboundClosed = f.channel.outboundClosed := rfl
  unfold closeOutbound
  rw [same]
  split
  · rfl
  · rw [untap, untap_disconnecting rfl]
    rfl

theorem untap_watch (r : Device.Request) (reply : Device.Reply) :
    (f.watch r reply).untap = f.untap.watch r reply := by
  unfold watch
  split
  · exact untap_closeInbound
  · split
    · exact untap_closeOutbound
    · rfl

theorem untap_note (o : Outcome σ Device.Reply) : (f.note s o).untap =
    { hub := f.untap.hub.emitAll ((untapped o.events).map .stream)
      channel := { f.untap.channel with stream := some ⟨o.state, s.untap.layers⟩ } } := by
  have shown : (o.events.map Event.stream).filter (!·.isTap) = (untapped o.events).map .stream :=
    List.filter_map
  simp only [note, untap, Hub.untap_emitAll, shown, Channel.mapStream, Option.map_some, Layered.untap]

/-- What is noted of streams that went on alike is alike. -/
theorem note_alike (alike : f.untap = f'.untap) (layers : s.untap.layers = s'.untap.layers)
    {o o' : Outcome σ Device.Reply} (same : o.Alike o') : (f.note s o).untap = (f'.note s' o').untap := by
  rw [untap_note, untap_note, alike, layers, same.state, same.events]

/-- A request to two connections that differ at most in their taps gives the same, and leaves them so. -/
theorem handle_alike (lawful : d.Lawful) (alike : f.untap = f'.untap) (r : Device.Request) :
    (f.handle d r).1.untap = (f'.handle d r).1.untap ∧
      ∃ reply, (f.handle d r).2 = some reply ∧ (f'.handle d r).2 = some reply := by
  have streams : f.channel.stream.map Layered.untap = f'.channel.stream.map Layered.untap :=
    congrArg (fun g : Flow σ => g.channel.stream) alike
  unfold handle
  cases flows : f.channel.stream with
  | none =>
    have flows' : f'.channel.stream = none := by simpa [flows] using streams.symm
    simp only [flows']
    exact ⟨alike, _, rfl, rfl⟩
  | some s =>
    obtain ⟨s', flows', same⟩ : ∃ s', f'.channel.stream = some s' ∧ s'.untap = s.untap := by
      simpa [flows] using streams.symm
    have inner : s'.untap.inner = s.untap.inner := congrArg Layered.inner same
    have inner : s'.inner = s.inner := inner
    have layers : s.untap.layers = s'.untap.layers := congrArg Layered.layers same.symm
    obtain ⟨o, o', ran, ran', outcomes⟩ := Device.within_alike lawful layers s.inner r
    simp only [flows', inner, ran, ran']
    refine ⟨?_, o.reply, rfl, by rw [outcomes.reply]⟩
    rw [untap_watch, untap_watch, note_alike alike layers outcomes, outcomes.reply]

end

end Flow

namespace Pipeline

variable {σ : Type}

theorem untap_tap (p : Pipeline) (f : Flow σ) : (p.tap f).untap = f.untap := by
  have gone : ∀ label, Layered.untap ∘ (fun s : Layered σ => s.wrap (.tap label)) = Layered.untap := by
    intro label
    funext s
    simp [Layered.untap, Layered.wrap, Stream.Layer.isTap]
  unfold tap
  split
  · simp only [Flow.untap, Channel.mapStream, Option.map_map, gone]
  · rfl

/-- A hook does the same to a connection without its taps. -/
theorem untap_runHook (f : Flow σ) (k : Hook) : (runHook f k).untap = runHook f.untap k := by
  have stays : ∀ name, Layered.untap ∘ (fun s : Layered σ => s.wrap (.named name)) =
      (fun s => s.wrap (.named name)) ∘ Layered.untap := by
    intro name
    funext s
    simp [Layered.untap, Layered.wrap, Stream.Layer.isTap]
  have shown : ∀ state secured, (f.hub.emit (.hooked k.name f.channel.id state secured)).untap =
      f.hub.untap.emit (.hooked k.name f.channel.id state secured) := fun _ _ => Hub.untap_emit rfl
  unfold runHook
  cases k.effect with
  | nothing =>
    simp only [Flow.untap, shown]
    rfl
  | layer =>
    simp only [Flow.untap, shown, Channel.mapStream, Option.map_map, stays]
    rfl
  | dispose =>
    simp only [Flow.untap, Hub.dispose, Hub.untap_call, shown]
    rfl

theorem untap_apply (p : Pipeline) (f : Flow σ) : (p.apply f).untap = p.hooks.foldl runHook f.untap := by
  have hooks : p.hooks.foldl runHook (p.tap f).untap = (p.hooks.foldl runHook (p.tap f)).untap :=
    List.foldl_hom Flow.untap fun f k => (untap_runHook f k).symm
  rw [apply, ← hooks, untap_tap]

end Pipeline

namespace Flow

variable {σ : Type} {d : Device σ}

theorem inner_of_untap {f f' : Flow σ} (alike : f.untap = f'.untap) :
    f.channel.stream.map Layered.inner = f'.channel.stream.map Layered.inner := by
  have streams : f.channel.stream.map Layered.untap = f'.channel.stream.map Layered.untap :=
    congrArg (fun g : Flow σ => g.channel.stream) alike
  have inner : Layered.inner ∘ Layered.untap = (Layered.inner : Layered σ → σ) := rfl
  rw [← inner, ← Option.map_map, ← Option.map_map, streams]

/-- Whether a connection has taps or not, whatever is asked of it: it never breaks off and gives the same,
the stream under all layers goes through the same states and is asked the same in the same order, the
halves end at the same time, and the lifecycles move and are told of alike. The connections that are
compared may differ in the taps among their layers, and one of them is given one more. Over a medium they
are the connections that are polled, by `handle_device`. -/
theorem taps_change_nothing (lawful : d.Lawful) (p : Pipeline) {f f' : Flow (σ × List Device.Request)}
    (alike : f.untap = f'.untap) (requests : List Device.Request) :
    let tapped := inTurn (handle d.recorded) (({ p with wiretap := true } : Pipeline).apply f) requests
    let bare := inTurn (handle d.recorded) (({ p with wiretap := false } : Pipeline).apply f') requests
    none ∉ tapped.2 ∧ tapped.2 = bare.2 ∧
      tapped.1.channel.stream.map Layered.inner = bare.1.channel.stream.map Layered.inner ∧
      tapped.1.halves = bare.1.halves ∧ tapped.1.hub.untap = bare.1.hub.untap := by
  intro tapped bare
  have attached : (({ p with wiretap := true } : Pipeline).apply f).untap =
      (({ p with wiretap := false } : Pipeline).apply f').untap := by
    rw [Pipeline.untap_apply, Pipeline.untap_apply, alike]
  have whole : ∀ (g : Flow (σ × List Device.Request)) r, (g.handle d.recorded r).2 ≠ none := by
    intro g r
    obtain ⟨-, reply, given, -⟩ := handle_alike lawful.recorded (f := g) rfl r
    simp [given]
  obtain ⟨ends, same⟩ : tapped.1.untap = bare.1.untap ∧ tapped.2 = bare.2 := by
    refine inTurn_alike (fun g g' : Flow _ => g.untap = g'.untap) ?_ attached requests
    intro g g' alike r
    obtain ⟨onward, reply, given, given'⟩ := handle_alike lawful.recorded alike r
    exact ⟨onward, given.trans given'.symm⟩
  have ended : tapped.1.untap.halves = bare.1.untap.halves := congrArg halves ends
  have unbroken : none ∉ tapped.2 := fun broken => inTurn_gives (· ≠ none) whole _ requests _ broken rfl
  exact ⟨unbroken, same, inner_of_untap ends, ended, congrArg Flow.hub ends⟩

/-- A connection with two taps among its layers. -/
def overheard : Flow (Stream.Script × List Device.Request) where
  hub := (Hub.create {} (.unix none) (.unix none) [{ name := "a" }] none).1.connected 0
  channel :=
    { id := 0
      stream := some ⟨({ reads := [.data [104, 195]], writes := [.accept 1] }, []),
        [.tap "below", .named "layer", .tap "above"]⟩ }

theorem overheard_goes_unnoticed :
    let requests := [.read ⟨[33], 4⟩, .write [105, 33], .shutdown]
    let tapped := inTurn (handle Stream.Script.medium.device.recorded)
      (({ wiretap := true } : Pipeline).apply overheard) requests
    let bare := inTurn (handle Stream.Script.medium.device.recorded)
      (({ wiretap := false } : Pipeline).apply overheard.untap) requests
    tapped.2 = bare.2 ∧ tapped.1.halves = (false, true) ∧
      (tapped.1.channel.stream.map Layered.inner).map Prod.snd = some requests := by
  intro requests tapped bare
  have lawful := Medium.device_lawful Stream.Script.medium_lawful
  have alike : overheard.untap = overheard.untap.untap := rfl
  obtain ⟨-, same, inner, halves, -⟩ := taps_change_nothing lawful {} alike requests
  refine ⟨same, halves.trans (by decide), ?_⟩
  rw [inner]
  rfl

end Flow

end StreamHost.Connection
