import Mathlib.Algebra.GroupWithZero.Nat
import StreamHost.Proofs.HalfClose
import StreamHost.Stream.Script

/-!
What passes between a stream and its user: one request after another, each with what was given. Layers
around a stream, and the connection that holds it, change nothing of this. Nothing but traffic passes as
long as bytes come and go or have to be waited for; a stream comes to its end if that cannot go on forever
unless it takes bytes forever.
-/

namespace StreamHost

section

variable {σ ι α : Type} {step : σ → ι → σ × α}

theorem length_inTurn (s : σ) (is : List ι) : (inTurn step s is).2.length = is.length := by
  induction is generalizing s with
  | nil => rfl
  | cons i rest ih => simp [inTurn, ih]

theorem inTurn_append (s : σ) (is js : List ι) : inTurn step s (is ++ js) =
    ((inTurn step (inTurn step s is).1 js).1,
      (inTurn step s is).2 ++ (inTurn step (inTurn step s is).1 js).2) := by
  induction is generalizing s with
  | nil => rfl
  | cons i rest ih => simp [inTurn, ih]

end

namespace Stream

/-- A request to a stream, and what it gave. -/
abbrev Exchange := Request × Reply

namespace Exchange

/-- The bytes that were read. -/
def received : Exchange → Bytes
  | (_, .read (.ready (.ok bytes))) => bytes
  | _ => []

/-- The bytes that the stream took. -/
def accepted : Exchange → Bytes
  | (.write bytes, .written (.ready (.ok n))) => bytes.take n
  | _ => []

/-- What went wrong, if something did. A write that takes nothing of some bytes went wrong. -/
def failure? : Exchange → Option IoError
  | (_, .read (.ready (.error e))) => some e
  | (_, .written (.ready (.error e))) => some e
  | (_, .flushed (.ready (.error e))) => some e
  | (_, .shutDown (.ready (.error e))) => some e
  | (.write (_ :: _), .written (.ready (.ok 0))) => some Handler.writeZero
  | _ => none

/-- Bytes come or go, or have to be waited for. -/
inductive IsTraffic : Exchange → Prop where
  | awaitsRead (room : Nat) : IsTraffic (.read room, .read .pending)
  | read (room : Nat) {bytes : Bytes} (gives : bytes ≠ []) : IsTraffic (.read room, .read (.ready (.ok bytes)))
  | awaitsWrite (bytes : Bytes) : IsTraffic (.write bytes, .written .pending)
  | wrote {bytes : Bytes} {n : Nat} (takes : bytes.take n ≠ []) :
      IsTraffic (.write bytes, .written (.ready (.ok n)))

/-- Whether the stream took no bytes. -/
def takesNothing (x : Exchange) : Bool := x.accepted.isEmpty

/-- Whether a shutdown has to be waited for. -/
def isPutOff : Exchange → Bool
  | (_, .shutDown .pending) => true
  | _ => false

theorem IsTraffic.failure?_eq {x : Exchange} (traffic : x.IsTraffic) : x.failure? = none := by
  cases traffic with
  | awaitsRead | read | awaitsWrite => rfl
  | @wrote bytes n takes =>
    cases bytes with
    | nil => simp at takes
    | cons b rest =>
      cases n with
      | zero => simp at takes
      | succ n => rfl

/-- What went wrong gave and took nothing. -/
theorem nothing_passes {x : Exchange} {e : IoError} (fails : x.failure? = some e) :
    x.accepted = [] ∧ x.received = [] := by
  constructor
  · unfold accepted
    split
    · rename_i bytes n
      cases bytes with
      | nil => exact List.take_nil
      | cons b rest =>
        cases n with
        | zero => rfl
        | succ n => cases fails
    · rfl
  · unfold received
    split
    · cases fails
    · rfl

end Exchange

/-- All bytes that were read. -/
def received (log : List Exchange) : Bytes := log.flatMap Exchange.received

/-- All bytes that the stream took. -/
def accepted (log : List Exchange) : Bytes := log.flatMap Exchange.accepted

section

variable {σ : Type} {m : Medium σ} {s : σ}

@[simp] theorem received_nil : received [] = [] := rfl

@[simp] theorem accepted_nil : accepted [] = [] := rfl

@[simp] theorem received_cons (x : Exchange) (log : List Exchange) :
    received (x :: log) = x.received ++ received log :=
  List.flatMap_cons

@[simp] theorem accepted_cons (x : Exchange) (log : List Exchange) :
    accepted (x :: log) = x.accepted ++ accepted log :=
  List.flatMap_cons

@[simp] theorem received_append (log more : List Exchange) :
    received (log ++ more) = received log ++ received more :=
  List.flatMap_append ..

@[simp] theorem accepted_append (log more : List Exchange) :
    accepted (log ++ more) = accepted log ++ accepted more :=
  List.flatMap_append ..

/-- There are at most as many exchanges as take nothing, and bytes that were taken. -/
theorem length_le_countP (log : List Exchange) :
    log.length ≤ log.countP Exchange.takesNothing + (accepted log).length := by
  induction log with
  | nil => exact Nat.zero_le _
  | cons x rest ih =>
    have sum : (accepted (x :: rest)).length = x.accepted.length + (accepted rest).length := by simp
    cases nothing : x.takesNothing with
    | true =>
      rw [List.countP_cons_of_pos nothing, List.length_cons]
      omega
    | false =>
      have taken : 0 < x.accepted.length :=
        List.length_pos_iff.mpr (by simpa [Exchange.takesNothing] using nothing)
      rw [List.countP_cons_of_neg (by simp [nothing]), List.length_cons]
      omega

/-- Asks a stream, and puts down what passed. -/
def Medium.exchange (m : Medium σ) (s : σ) (r : Request) : σ × Exchange :=
  let o := m.ask s r
  (o.state, (r, o.reply))

/-- An operation, and the log with what passed. -/
def Turn.kept {α : Type} (t : Turn σ α) (log : List Exchange) (r : Request) (reply : Poll α → Reply) :
    Turn (σ × List Exchange) α :=
  ⟨(t.state, log ++ [(r, reply t.poll)]), t.events, t.poll⟩

/-- A stream that keeps a log of what passes. -/
def Medium.recorded (m : Medium σ) : Medium (σ × List Exchange) where
  read x room := (m.read x.1 room).kept x.2 (.read room) .read
  write x bytes := (m.write x.1 bytes).kept x.2 (.write bytes) .written
  flush x := (m.flush x.1).kept x.2 .flush .flushed
  shutdown x := (m.shutdown x.1).kept x.2 .shutdown .shutDown

theorem Medium.Lawful.recorded (lawful : m.Lawful) : m.recorded.Lawful :=
  ⟨fun x => lawful.read_le x.1, fun x => lawful.write_le x.1⟩

theorem Medium.ask_recorded (m : Medium σ) (x : σ × List Exchange) (r : Request) : m.recorded.ask x r =
    ⟨((m.exchange x.1 r).1, x.2 ++ [(m.exchange x.1 r).2]), (m.ask x.1 r).events, (m.ask x.1 r).reply⟩ := by
  cases r <;> rfl

/-- A log tells what was asked since a stream was `s`, and what it gave. -/
def Medium.Tells (m : Medium σ) (s : σ) (x : σ × List Exchange) : Prop :=
  inTurn m.exchange s (x.2.map Prod.fst) = x

theorem Medium.Tells.ask {x : σ × List Exchange} (tells : m.Tells s x) (r : Request) :
    m.Tells s (m.recorded.ask x r).state := by
  have before : inTurn m.exchange s (x.2.map Prod.fst) = x := tells
  have asked : ((m.exchange x.1 r).2).1 = r := rfl
  rw [Medium.ask_recorded, Medium.Tells, List.map_append, inTurn_append, before]
  simp [inTurn, asked]

/-- The first part of a log tells what was asked at first. -/
theorem Medium.Tells.early {x : σ × List Exchange} {log more : List Exchange} (tells : m.Tells s x)
    (split : x.2 = log ++ more) : (inTurn m.exchange s (log.map Prod.fst)).2 = log := by
  have all : (inTurn m.exchange s (x.2.map Prod.fst)).2 = x.2 := congrArg Prod.snd tells
  rw [split, List.map_append, inTurn_append] at all
  exact (List.append_inj all (by rw [length_inTurn, List.length_map])).1

/-- A stream comes to its end within `n` results. As long as nothing but traffic passes, it takes bytes
all but at most `n` times; and so often at most a shutdown has to be waited for. -/
structure Medium.EndsWithin (m : Medium σ) (n : Nat) (s : σ) : Prop where
  traffic : ∀ requests, (∀ x ∈ (inTurn m.exchange s requests).2, x.IsTraffic) →
    (inTurn m.exchange s requests).2.countP Exchange.takesNothing ≤ n
  shutdown : ∀ requests, (inTurn m.exchange s requests).2.countP Exchange.isPutOff ≤ n

/-! ## Layers and connections -/

theorem Layer.exchange_around (l : Layer) (r : Request) : (l.around m).exchange s r = m.exchange s r := by
  cases r <;> rfl

theorem Medium.exchange_within (layers : List Layer) (s : σ) (r : Request) :
    (m.within layers).exchange s r = m.exchange s r := by
  unfold Medium.within
  refine List.foldlRecOn (motive := fun M : Medium σ => M.exchange s r = m.exchange s r) layers _ rfl ?_
  exact fun _ before l _ => (l.exchange_around r).trans before

theorem Layered.exchange_medium (s : Layered σ) (r : Request) : (medium m).exchange s r =
    (⟨(m.exchange s.inner r).1, s.layers⟩, (m.exchange s.inner r).2) := by
  rw [← Medium.exchange_within (m := m) s.layers s.inner]
  cases r <;> rfl

end

/-! ## Scripted streams -/

/-- How many results an answer can make, at most. -/
def ReadItem.weight : ReadItem → Nat
  | .data bytes => bytes.length + 1
  | _ => 1

/-- The end of the input, or a failure. -/
def ReadItem.IsEnd (item : ReadItem) : Prop := item = .endOfInput ∨ ∃ e, item = .failure e

namespace Script

/-- How many results a script can give, at most, before it takes everything and finds nothing. -/
def weight (s : Script) : Nat :=
  (s.reads.map ReadItem.weight).sum + s.writes.length + s.flushes.length + s.shutdowns.length

/-- Reading comes to an end. -/
def HasEnd (s : Script) : Prop := ∃ item ∈ s.reads, item.IsEnd

/-- What one request takes from a script. -/
structure Shrinks (s : Script) (done : Script × Exchange) : Prop where
  weight_le : done.1.weight ≤ s.weight
  putOff : done.2.isPutOff = true → done.1.weight < s.weight
  keepsEnd : s.HasEnd → done.2.IsTraffic → done.1.HasEnd
  traffic : s.HasEnd → done.2.IsTraffic → done.2.takesNothing = true → done.1.weight < s.weight

variable {s : Script}

/-- Reading past an answer that is no end. -/
theorem HasEnd.of_cons {item : ReadItem} {rest : List ReadItem} (ends : s.HasEnd)
    (next : s.reads = item :: rest) (other : ¬ item.IsEnd) : ∃ item ∈ rest, item.IsEnd := by
  obtain ⟨last, member, isEnd⟩ := ends
  rw [next] at member
  rcases List.mem_cons.mp member with rfl | later
  · exact absurd isEnd other
  · exact ⟨last, later, isEnd⟩

theorem shrinks_read (s : Script) (room : Nat) : s.Shrinks (medium.exchange s (.read room)) := by
  have answered : medium.exchange s (.read room) =
      ((s.read room).state, (.read room, .read (s.read room).poll)) := rfl
  rw [answered]
  unfold Script.read
  split
  · rename_i exhausted
    have endless : ¬ s.HasEnd := by simp [HasEnd, exhausted]
    exact ⟨Nat.le_refl _, by simp [Exchange.isPutOff], fun ends => absurd ends endless,
      fun ends => absurd ends endless⟩
  · rename_i bytes rest next
    have other : ¬ (ReadItem.data bytes).IsEnd := by simp [ReadItem.IsEnd]
    have fewer : weight { s with
          reads := if (bytes.drop room).isEmpty then rest else .data (bytes.drop room) :: rest } +
        (bytes.take room).length ≤ s.weight := by
      simp only [weight, next, List.map_cons, List.sum_cons, ReadItem.weight, List.length_take]
      split
      · omega
      · simp only [List.map_cons, List.sum_cons, ReadItem.weight, List.length_drop]
        omega
    refine ⟨Nat.le_of_add_right_le fewer, by simp [Exchange.isPutOff], fun ends _ => ?_, fun ends traffic _ => ?_⟩
    · obtain ⟨last, later, isEnd⟩ := ends.of_cons next other
      refine ⟨last, ?_, isEnd⟩
      dsimp only
      split
      · exact later
      · exact List.mem_cons_of_mem _ later
    · have gave : 0 < (bytes.take room).length := by
        cases traffic with
        | read _ gives => exact List.length_pos_iff.mpr gives
      exact Nat.lt_of_lt_of_le (Nat.lt_add_of_pos_right gave) fewer
  · rename_i rest next
    refine ⟨by simp [weight, next], by simp [Exchange.isPutOff], fun _ traffic => ?_, fun _ traffic => ?_⟩
    · cases traffic with
      | read _ gives => exact absurd rfl gives
    · cases traffic with
      | read _ gives => exact absurd rfl gives
  · rename_i rest next
    have other : ¬ ReadItem.pending.IsEnd := by simp [ReadItem.IsEnd]
    exact ⟨by simp [weight, next], by simp [Exchange.isPutOff], fun ends _ => ends.of_cons next other,
      by simp [weight, next, ReadItem.weight]⟩
  · rename_i e rest next
    refine ⟨by simp [weight, next], by simp [Exchange.isPutOff], fun _ traffic => ?_, fun _ traffic => ?_⟩
    · cases traffic
    · cases traffic

theorem shrinks_write (s : Script) (bytes : Bytes) : s.Shrinks (medium.exchange s (.write bytes)) := by
  have answered : medium.exchange s (.write bytes) =
      ((s.write bytes).state, (.write bytes, .written (s.write bytes).poll)) := rfl
  -- Traffic takes bytes if any bytes are taken at all.
  have taking {n : Nat} (traffic : Exchange.IsTraffic (.write bytes, .written (.ready (.ok n)))) :
      Exchange.takesNothing (.write bytes, .written (.ready (.ok n))) ≠ true := by
    cases traffic with
    | wrote takes => simpa [Exchange.takesNothing, Exchange.accepted] using takes
  rw [answered]
  unfold Script.write take
  split
  · rename_i exhausted
    exact ⟨by simp [weight, exhausted], by simp [Exchange.isPutOff], fun ends _ => ends,
      fun _ traffic nothing => absurd nothing (taking traffic)⟩
  · rename_i most rest next
    exact ⟨by simp [weight, next], by simp [Exchange.isPutOff], fun ends _ => ends,
      fun _ traffic nothing => absurd nothing (taking traffic)⟩
  · rename_i rest next
    exact ⟨by simp [weight, next], by simp [Exchange.isPutOff], fun ends _ => ends, by simp [weight, next]⟩
  · rename_i e rest next
    exact ⟨by simp [weight, next], by simp [Exchange.isPutOff], fun ends _ => ends, by simp [weight, next]⟩

theorem length_nextPlain (items : List PlainItem) : (nextPlain items).2.length ≤ items.length := by
  unfold nextPlain
  split <;> simp

/-- Whoever has to wait for a plain answer has used up one. -/
theorem length_nextPlain_lt {items : List PlainItem} (waits : (nextPlain items).1 = .pending) :
    (nextPlain items).2.length < items.length := by
  unfold nextPlain at waits ⊢
  split at waits
  · cases waits
  · cases waits
  · exact Nat.lt_succ_self _
  · cases waits

theorem shrinks (s : Script) (r : Request) : s.Shrinks (medium.exchange s r) := by
  cases r with
  | read room => exact s.shrinks_read room
  | write bytes => exact s.shrinks_write bytes
  | flush =>
    have answered : medium.exchange s .flush = ({ s with flushes := (nextPlain s.flushes).2 },
        (.flush, .flushed (nextPlain s.flushes).1)) := rfl
    have fewer := length_nextPlain s.flushes
    rw [answered]
    refine ⟨?_, by simp [Exchange.isPutOff], fun ends _ => ends, fun _ traffic => nomatch traffic⟩
    simp only [weight]
    omega
  | shutdown =>
    have answered : medium.exchange s .shutdown = ({ s with shutdowns := (nextPlain s.shutdowns).2 },
        (.shutdown, .shutDown (nextPlain s.shutdowns).1)) := rfl
    have fewer := length_nextPlain s.shutdowns
    rw [answered]
    refine ⟨?_, fun putOff => ?_, fun ends _ => ends, fun _ traffic => nomatch traffic⟩
    · simp only [weight]
      omega
    · have waits : (nextPlain s.shutdowns).1 = .pending := by
        unfold Exchange.isPutOff at putOff
        split at putOff
        · rename_i pending
          exact Reply.shutDown.inj (Prod.mk.inj pending).2
        · cases putOff
      have fewer := length_nextPlain_lt waits
      simp only [weight]
      omega

/-- A script whose reading comes to an end comes to its end. -/
theorem endsWithin (ends : s.HasEnd) : medium.EndsWithin s.weight s where
  traffic requests := by
    induction requests generalizing s with
    | nil => simp [inTurn]
    | cons r rest ih =>
      intro traffic
      have first : (medium.exchange s r).2.IsTraffic := traffic _ List.mem_cons_self
      have shrinks := s.shrinks r
      have later := ih (shrinks.keepsEnd ends first) fun x member => traffic x (List.mem_cons_of_mem _ member)
      have fewer := shrinks.weight_le
      simp only [inTurn]
      cases nothing : (medium.exchange s r).2.takesNothing with
      | true =>
        have less := shrinks.traffic ends first nothing
        rw [List.countP_cons_of_pos nothing]
        omega
      | false =>
        rw [List.countP_cons_of_neg (by simp [nothing])]
        omega
  shutdown requests := by
    clear ends
    induction requests generalizing s with
    | nil => simp [inTurn]
    | cons r rest ih =>
      have shrinks := s.shrinks r
      have later := ih (s := (medium.exchange s r).1)
      have fewer := shrinks.weight_le
      simp only [inTurn]
      cases putOff : (medium.exchange s r).2.isPutOff with
      | true =>
        have less := shrinks.putOff putOff
        rw [List.countP_cons_of_pos putOff]
        omega
      | false =>
        rw [List.countP_cons_of_neg (by simp [putOff])]
        omega

end Script

end Stream

namespace Connection.Flow

open StreamHost.Stream (Layered Medium Request)

variable {σ : Type} {m : Medium σ} {f : Flow σ} {s : Layered σ}

/-- What passes between a connection and its owner is what would pass between its innermost stream and
somebody who asked it the same. -/
theorem exchange_medium (flows : f.channel.stream = some s) (r : Request) :
    ((medium m).exchange f r).2 = (m.exchange s.inner r).2 ∧
      ((medium m).exchange f r).1.channel.stream = some ⟨(m.exchange s.inner r).1, s.layers⟩ := by
  have through := Layered.exchange_medium (m := m) s r
  obtain ⟨same, turns⟩ := use_turns m flows (.ask r)
  have reply : ((medium m).ask f r).reply = ((Layered.medium m).ask s r).reply := Option.some.inj same
  refine ⟨?_, ?_⟩
  · exact (congrArg (Prod.mk r) reply).trans (congrArg Prod.snd through)
  · exact turns.stream.trans (congrArg (fun o => some o.1) through)

end Connection.Flow

end StreamHost
