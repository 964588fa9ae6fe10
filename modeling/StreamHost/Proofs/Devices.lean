import Mathlib.Data.List.Induction
import StreamHost.Proofs.Requests
import StreamHost.Stream.Layer
import StreamHost.Stream.Tap

/-!
Streams as they are read into buffers. A buffer may hold something before it is read into; what a read
added is found by cutting off what was there before, and what a tap writes down is cut once more. Whoever
cuts where there is not enough breaks off. A device keeps its contract if it leaves in a buffer what it
held and takes no more than it is offered: then no tap over it breaks off, at whatever depth.
-/

namespace StreamHost.Stream

/-! ## Cutting -/

/-- The bytes from a place on, if there is such a place. -/
def from? (bytes : Bytes) (start : Nat) : Option Bytes :=
  if start ≤ bytes.length then some (bytes.drop start) else none

/-- The bytes up to a place, if there is such a place. -/
def upTo? (bytes : Bytes) (stop : Nat) : Option Bytes :=
  if stop ≤ bytes.length then some (bytes.take stop) else none

theorem from?_append (held added : Bytes) : from? (held ++ added) held.length = some added := by
  simp [from?]

/-- What a tap writes down of bytes, with the cut it makes. -/
def Tap.preview? (bytes : Bytes) : Option String :=
  (upTo? bytes (min bytes.length previewLimit)).map fun shown =>
    Text.preview (Text.decodeLossy shown) ++ if previewLimit < bytes.length then "…" else ""

/-- Whatever the bytes are, and wherever the cut falls, there is a preview of them. -/
theorem Tap.preview?_eq (bytes : Bytes) : preview? bytes = some (preview bytes) := by
  have inside : min bytes.length previewLimit ≤ bytes.length := Nat.min_le_left _ _
  simp only [preview?, upTo?, if_pos inside, Option.map_some, preview]
  rw [Nat.min_comm, ← List.take_eq_take_min]

/-! ## Devices -/

/-- What a read fills: the bytes that are there, and room for more. -/
structure Buffer where
  filled : Bytes
  room : Nat
  deriving DecidableEq, Repr

/-- A stream with states in `σ`. It may break off. -/
structure Device (σ : Type) where
  read : σ → Buffer → Option (Turn σ Unit × Buffer)
  write : σ → Bytes → Option (Turn σ Nat)
  flush : σ → Turn σ Unit
  shutdown : σ → Turn σ Unit

namespace Device

variable {σ : Type}

/-- A device keeps its contract: no read takes anything out of a buffer, and no write takes more than it is
offered. -/
structure Lawful (d : Device σ) : Prop where
  read_keeps : ∀ s buf, ∃ t after, d.read s buf = some (t, after) ∧ buf.filled.length ≤ after.filled.length
  write_le : ∀ s bytes, ∃ t, d.write s bytes = some t ∧ ∀ n, t.poll = .ready (.ok n) → n ≤ bytes.length

inductive Request where
  | read (buf : Buffer)
  | write (bytes : Bytes)
  | flush
  | shutdown
  deriving DecidableEq, Repr

inductive Reply where
  | read (p : Poll Unit) (after : Buffer)
  | written (p : Poll Nat)
  | flushed (p : Poll Unit)
  | shutDown (p : Poll Unit)

def ask (d : Device σ) (s : σ) : Request → Option (Outcome σ Reply)
  | .read buf => (d.read s buf).map fun (t, after) => t.outcome (Reply.read · after)
  | .write bytes => (d.write s bytes).map (Turn.outcome · Reply.written)
  | .flush => some ((d.flush s).outcome .flushed)
  | .shutdown => some ((d.shutdown s).outcome .shutDown)

/-- The device, with a record of what it was asked. -/
def recorded (d : Device σ) : Device (σ × List Request) where
  read s buf := (d.read s.1 buf).map fun (t, after) =>
    (⟨(t.state, s.2 ++ [.read buf]), t.events, t.poll⟩, after)
  write s bytes := (d.write s.1 bytes).map fun t => ⟨(t.state, s.2 ++ [.write bytes]), t.events, t.poll⟩
  flush s := let t := d.flush s.1; ⟨(t.state, s.2 ++ [.flush]), t.events, t.poll⟩
  shutdown s := let t := d.shutdown s.1; ⟨(t.state, s.2 ++ [.shutdown]), t.events, t.poll⟩

/-- Whatever it is asked, the recorded device does what the device does, and adds the request to the record. -/
theorem ask_recorded (d : Device σ) (s : σ × List Request) (r : Request) :
    d.recorded.ask s r = (d.ask s.1 r).map fun o => ⟨(o.state, s.2 ++ [r]), o.events, o.reply⟩ := by
  cases r with
  | read buf =>
    simp only [ask, recorded]
    cases d.read s.1 buf <;> rfl
  | write bytes =>
    simp only [ask, recorded]
    cases d.write s.1 bytes <;> rfl
  | flush | shutdown => rfl

theorem Lawful.recorded {d : Device σ} (lawful : d.Lawful) : d.recorded.Lawful where
  read_keeps s buf := by
    obtain ⟨t, after, ran, kept⟩ := lawful.read_keeps s.1 buf
    exact ⟨_, after, by simp only [Device.recorded, ran, Option.map_some]; rfl, kept⟩
  write_le s bytes := by
    obtain ⟨t, ran, below⟩ := lawful.write_le s.1 bytes
    exact ⟨_, by simp only [Device.recorded, ran, Option.map_some]; rfl, below⟩

end Device

/-! ## Layers over devices -/

namespace Layer

variable {σ : Type}

/-- What a layer shows of a read that came back: a tap cuts off what the buffer held before. -/
def sightOfRead? (held : Nat) (after : Buffer) : Layer → Poll Unit → Option (List Event)
  | tap label, .ready (.ok _) =>
    (from? after.filled held).bind fun added =>
      if added.isEmpty then some [.tapped label .endOfInput]
      else (Tap.preview? added).map fun _ => [.tapped label (.read added)]
  | tap label, .ready (.error e) => some [.tapped label (.readFailed e)]
  | _, _ => some []

/-- What a layer shows of a write that came back: a tap cuts off what was not taken. -/
def sightOfWrite? (bytes : Bytes) : Layer → Poll Nat → Option (List Event)
  | tap label, .ready (.ok n) =>
    (upTo? bytes n).bind fun taken => (Tap.preview? taken).map fun _ => [.tapped label (.written taken)]
  | _, _ => some []

/-- A device with a layer over it. -/
def onto (l : Layer) (d : Device σ) : Device σ where
  read s buf := (d.read s buf).bind fun (t, after) =>
    (l.sightOfRead? buf.filled.length after t.poll).map fun shown =>
      ({ t with events := l.beforeRead ++ t.events ++ shown }, after)
  write s bytes := (d.write s bytes).bind fun t =>
    (l.sightOfWrite? bytes t.poll).map fun shown =>
      { t with events := l.beforeWrite ++ t.events ++ shown }
  flush := d.flush
  shutdown s :=
    let t := d.shutdown s
    { t with events := t.events ++ l.afterShutdown t.poll }

end Layer

/-- A device with layers over it, the first one innermost. -/
def Device.within {σ : Type} (d : Device σ) (layers : List Layer) : Device σ :=
  layers.foldl (fun d l => l.onto d) d

/-! ## What layers change -/

/-- Whether a tap shows it. -/
def Event.isTap : Event → Bool
  | .tapped .. => true
  | _ => false

def Layer.isTap : Layer → Bool
  | .tap _ => true
  | .named _ => false

/-- The events that no tap shows. -/
def untapped (es : List Event) : List Event := es.filter (!·.isTap)

/-- The stream with its other layers. -/
def Layered.untap {σ : Type} (s : Layered σ) : Layered σ :=
  { s with layers := s.layers.filter (!·.isTap) }

@[simp] theorem untapped_append (es fs : List Event) : untapped (es ++ fs) = untapped es ++ untapped fs :=
  List.filter_append ..

namespace Layer

variable {σ : Type} {d : Device σ}

/-- What a layer shows of a request before it goes on inwards. -/
def before (l : Layer) : Device.Request → List Event
  | .read _ => l.beforeRead
  | .write _ => l.beforeWrite
  | .flush | .shutdown => []

theorem sightOfRead?_of_le {held : Nat} {after : Buffer} (kept : held ≤ after.filled.length) (l : Layer)
    (p : Poll Unit) : ∃ shown, l.sightOfRead? held after p = some shown ∧ untapped shown = [] := by
  unfold sightOfRead?
  split
  · simp only [from?, if_pos kept, Option.bind_some]
    split
    · exact ⟨_, rfl, rfl⟩
    · rw [Tap.preview?_eq]
      exact ⟨_, rfl, rfl⟩
  · exact ⟨_, rfl, rfl⟩
  · exact ⟨_, rfl, rfl⟩

theorem sightOfWrite?_of_le {bytes : Bytes} {p : Poll Nat}
    (below : ∀ n, p = .ready (.ok n) → n ≤ bytes.length) (l : Layer) :
    ∃ shown, l.sightOfWrite? bytes p = some shown ∧ untapped shown = [] := by
  unfold sightOfWrite?
  split
  · simp only [upTo?, if_pos (below _ rfl), Option.bind_some, Tap.preview?_eq]
    exact ⟨_, rfl, rfl⟩
  · exact ⟨_, rfl, rfl⟩

theorem untapped_afterShutdown (l : Layer) (p : Poll Unit) : untapped (l.afterShutdown p) = [] := by
  cases l <;> cases p <;> rfl

/-- A layer over a lawful device changes nothing but what is shown. -/
theorem onto_ask (lawful : d.Lawful) (l : Layer) (s : σ) (r : Device.Request) :
    ∃ o shown, d.ask s r = some o ∧ untapped shown = [] ∧
      (l.onto d).ask s r = some { o with events := l.before r ++ o.events ++ shown } := by
  cases r with
  | read buf =>
    obtain ⟨t, after, ran, kept⟩ := lawful.read_keeps s buf
    obtain ⟨shown, seen, silent⟩ := l.sightOfRead?_of_le kept t.poll
    refine ⟨t.outcome (.read · after), shown, ?_, silent, ?_⟩
    · simp [Device.ask, ran]
    · simp [Device.ask, onto, ran, seen, Turn.outcome, before]
  | write bytes =>
    obtain ⟨t, ran, below⟩ := lawful.write_le s bytes
    obtain ⟨shown, seen, silent⟩ := l.sightOfWrite?_of_le below
    refine ⟨t.outcome .written, shown, ?_, silent, ?_⟩
    · simp [Device.ask, ran]
    · simp [Device.ask, onto, ran, seen, Turn.outcome, before]
  | flush => exact ⟨_, [], rfl, rfl, by simp [Device.ask, onto, Turn.outcome, before]⟩
  | shutdown =>
    exact ⟨_, l.afterShutdown (d.shutdown s).poll, rfl, l.untapped_afterShutdown _,
      by simp [Device.ask, onto, Turn.outcome, before]⟩

theorem onto_lawful (lawful : d.Lawful) (l : Layer) : (l.onto d).Lawful where
  read_keeps s buf := by
    obtain ⟨t, after, ran, kept⟩ := lawful.read_keeps s buf
    obtain ⟨shown, seen, -⟩ := l.sightOfRead?_of_le kept t.poll
    exact ⟨_, after, by simp only [onto, ran, Option.bind_some, seen, Option.map_some]; rfl, kept⟩
  write_le s bytes := by
    obtain ⟨t, ran, below⟩ := lawful.write_le s bytes
    obtain ⟨shown, seen, -⟩ := l.sightOfWrite?_of_le below
    exact ⟨{ t with events := l.beforeWrite ++ t.events ++ shown },
      by simp only [onto, ran, Option.bind_some, seen, Option.map_some], below⟩

end Layer

/-- Two outcomes that differ at most in what taps show. -/
structure Outcome.Alike {σ ρ : Type} (o o' : Outcome σ ρ) : Prop where
  state : o.state = o'.state
  reply : o.reply = o'.reply
  events : untapped o.events = untapped o'.events

namespace Device

variable {σ : Type} {d d' d'' : Device σ}

theorem Lawful.within (lawful : d.Lawful) (layers : List Layer) : (d.within layers).Lawful := by
  unfold Device.within
  exact List.foldlRecOn (motive := Lawful) layers _ lawful fun _ before l _ => l.onto_lawful before

theorem within_concat (layers : List Layer) (l : Layer) :
    d.within (layers ++ [l]) = l.onto (d.within layers) := by
  simp [within]

/-- Two devices that answer alike, and never break off. -/
def Alike (d d' : Device σ) : Prop :=
  ∀ s r, ∃ o o', d.ask s r = some o ∧ d'.ask s r = some o' ∧ o.Alike o'

theorem Alike.refl (lawful : d.Lawful) : d.Alike d := by
  intro s r
  obtain ⟨o, -, ran, -⟩ := (Layer.tap "").onto_ask lawful s r
  exact ⟨o, o, ran, ran, rfl, rfl, rfl⟩

theorem Alike.symm (alike : d.Alike d') : d'.Alike d := by
  intro s r
  obtain ⟨o, o', ran, ran', same⟩ := alike s r
  exact ⟨o', o, ran', ran, same.state.symm, same.reply.symm, same.events.symm⟩

theorem Alike.trans (first : d.Alike d') (second : d'.Alike d'') : d.Alike d'' := by
  intro s r
  obtain ⟨o, p, ran, there, same⟩ := first s r
  obtain ⟨q, o', again, ran', same'⟩ := second s r
  obtain rfl : p = q := Option.some.inj (there.symm.trans again)
  exact ⟨o, o', ran, ran', same.state.trans same'.state, same.reply.trans same'.reply,
    same.events.trans same'.events⟩

/-- A tap makes no difference. -/
theorem tap_alike (lawful : d.Lawful) (label : String) : ((Layer.tap label).onto d).Alike d := by
  intro s r
  obtain ⟨o, shown, ran, silent, taps⟩ := (Layer.tap label).onto_ask lawful s r
  have first : (Layer.tap label).before r = [] := by cases r <;> rfl
  exact ⟨_, o, taps, ran, rfl, rfl, by simp [first, silent]⟩

/-- Other layers keep what is alike. -/
theorem onto_alike (lawful : d.Lawful) (lawful' : d'.Lawful) (alike : d.Alike d') (l : Layer) :
    (l.onto d).Alike (l.onto d') := by
  intro s r
  obtain ⟨o, shown, ran, silent, passes⟩ := l.onto_ask lawful s r
  obtain ⟨o', shown', ran', silent', passes'⟩ := l.onto_ask lawful' s r
  obtain ⟨p, p', again, again', same⟩ := alike s r
  obtain rfl : o = p := Option.some.inj (ran.symm.trans again)
  obtain rfl : o' = p' := Option.some.inj (ran'.symm.trans again')
  exact ⟨_, _, passes, passes', same.state, same.reply, by simp [silent, silent', same.events]⟩

/-- The taps among the layers make no difference. The induction takes the outermost layer off. -/
theorem within_untapped (lawful : d.Lawful) (layers : List Layer) :
    (d.within layers).Alike (d.within (layers.filter (!·.isTap))) := by
  induction layers using List.reverseRecOn with
  | nil => exact .refl lawful
  | append_singleton inner l ih =>
    have below := lawful.within inner
    rw [within_concat, List.filter_append]
    cases l with
    | tap label =>
      have gone : [Layer.tap label].filter (!·.isTap) = [] := rfl
      rw [gone, List.append_nil]
      exact (tap_alike below label).trans ih
    | named name =>
      have stays : [Layer.named name].filter (!·.isTap) = [.named name] := rfl
      rw [stays, within_concat]
      exact onto_alike below (lawful.within _) ih (.named name)

theorem within_alike (lawful : d.Lawful) {layers layers' : List Layer}
    (same : layers.filter (!·.isTap) = layers'.filter (!·.isTap)) :
    (d.within layers).Alike (d.within layers') :=
  (within_untapped lawful layers).trans (same ▸ (within_untapped lawful layers').symm)

end Device

/-! ## Media as devices -/

/-- What the owner of a buffer learns of a read. -/
def Poll.finished {α : Type} : Poll α → Poll Unit
  | .pending => .pending
  | .ready (.ok _) => .done ()
  | .ready (.error e) => .fail e

/-- The buffer after a read. -/
def Buffer.fill (buf : Buffer) : Poll Bytes → Buffer
  | .ready (.ok bytes) => ⟨buf.filled ++ bytes, buf.room - bytes.length⟩
  | _ => buf

namespace Medium

variable {σ : Type} {m : Medium σ}

/-- A medium that is read into buffers. -/
def device (m : Medium σ) : Device σ where
  read s buf :=
    let t := m.read s buf.room
    some (⟨t.state, t.events, t.poll.finished⟩, buf.fill t.poll)
  write s bytes := some (m.write s bytes)
  flush := m.flush
  shutdown := m.shutdown

theorem device_lawful (lawful : m.Lawful) : m.device.Lawful where
  read_keeps s buf := by
    refine ⟨_, _, rfl, ?_⟩
    unfold Buffer.fill
    split
    · simp
    · exact Nat.le_refl _
  write_le s bytes := ⟨_, rfl, lawful.write_le s bytes⟩

theorem around_lawful (lawful : m.Lawful) (l : Layer) : (l.around m).Lawful :=
  ⟨lawful.read_le, lawful.write_le⟩

theorem sightOfRead?_fill (l : Layer) (buf : Buffer) (p : Poll Bytes) :
    l.sightOfRead? buf.filled.length (buf.fill p) p.finished = some (l.afterRead p) := by
  cases l with
  | named name => rfl
  | tap label =>
    match p with
    | .pending => rfl
    | .ready (.error e) => rfl
    | .ready (.ok []) =>
      simp [Layer.sightOfRead?, Poll.finished, Poll.done, Buffer.fill, from?, Layer.afterRead]
    | .ready (.ok (b :: bytes)) =>
      simp [Layer.sightOfRead?, Poll.finished, Poll.done, Buffer.fill, from?_append, Tap.preview?_eq,
        Layer.afterRead]

theorem sightOfWrite?_of_lawful (lawful : m.Lawful) (l : Layer) (s : σ) (bytes : Bytes) :
    l.sightOfWrite? bytes (m.write s bytes).poll = some (l.afterWrite bytes (m.write s bytes).poll) := by
  cases l with
  | named name => rfl
  | tap label =>
    have below := lawful.write_le s bytes
    revert below
    generalize (m.write s bytes).poll = p
    intro below
    match p with
    | .pending => rfl
    | .ready (.error e) => rfl
    | .ready (.ok n) =>
      simp [Layer.sightOfWrite?, upTo?, below n rfl, Tap.preview?_eq, Layer.afterWrite]

/-- A layer shows the same whether it cuts or is given what it shows. -/
theorem onto_device (lawful : m.Lawful) (l : Layer) : l.onto m.device = (l.around m).device := by
  have read : (l.onto m.device).read = (l.around m).device.read := by
    funext s buf
    simp [Layer.onto, device, sightOfRead?_fill, Layer.around]
  have write : (l.onto m.device).write = (l.around m).device.write := by
    funext s bytes
    simp [Layer.onto, device, sightOfWrite?_of_lawful lawful, Layer.around]
  simp only [Layer.onto, device, Layer.around] at read write ⊢
  rw [read, write]

theorem within_device (lawful : m.Lawful) (layers : List Layer) :
    m.device.within layers = (m.within layers).device := by
  induction layers generalizing m with
  | nil => rfl
  | cons l rest ih =>
    have onward := ih (around_lawful lawful l)
    simp only [Device.within, within, List.foldl_cons, onto_device lawful l] at onward ⊢
    exact onward

end Medium

end StreamHost.Stream
