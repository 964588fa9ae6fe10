import StreamHost.Proofs.RegistryHistory
import StreamHost.Proofs.SessionCourse

/-!
The two limits of a handshake. The opening message has to come within the limit of the default configuration,
and the rest within the limit of the configuration that the requested name selects, counted from the
message. What comes in time is never cut off, however long both take together, and what does not come is
cut off at the end of its limit. A limit ends with the first tick of the clock that is not before its exact
end, so one that ends between two ticks lasts a little longer; and where the clock cannot express the end,
thirty years stand in for the limit.

The engine's part is left open: a script says when the opening message comes and what it asks for, and what
becomes of the rest with the configuration that the engine is given.
-/

namespace StreamHost

/-! ## The end of a limit -/

namespace Alarm

variable {begun now : Nat} {limit : Duration}

/-- How long a limit lasts. A stand-in lasts in place of one whose end the clock cannot express. -/
def span (begun : Nat) (limit : Duration) : Nat :=
  if begun + limit.nanos ≤ lastInstant then limit.nanos else farFuture

@[simp] theorem span_of_le (expressible : begun + limit.nanos ≤ lastInstant) :
    span begun limit = limit.nanos := if_pos expressible

theorem after_eq (begun : Nat) (limit : Duration) : after begun limit = ⟨begun + span begun limit⟩ := by
  unfold after span
  split <;> rfl

/-- The first tick that is not before the exact end of a limit. -/
def endOf (begun : Nat) (limit : Duration) : Nat := (after begun limit).due * tick

/-- A limit never ends too early, and too late by less than a tick. -/
theorem endOf_bounds (begun : Nat) (limit : Duration) :
    begun + span begun limit ≤ endOf begun limit ∧ endOf begun limit < begun + span begun limit + tick := by
  simp only [endOf, after_eq, due, tick]
  omega

/-- A limit that ends with a tick ends exactly. -/
theorem endOf_of_dvd (expressible : begun + limit.nanos ≤ lastInstant) (whole : tick ∣ begun + limit.nanos) :
    endOf begun limit = begun + limit.nanos := by
  obtain ⟨ticks, same⟩ := whole
  simp only [endOf, after_eq, due, span_of_le expressible, same, tick]
  omega

theorem isOver_after : (after begun limit).isOver now = true ↔ endOf begun limit ≤ now := by
  unfold isOver
  rw [decide_eq_true_iff]
  exact Nat.le_div_iff_mul_le (by decide)

end Alarm

namespace Tls

open StreamHost.Stream (Medium)

variable {σ : Type} {r : Registry}

/-! ## The engine's part -/

/-- Whoever does the engine's part in an attempt. -/
structure Worker (σ : Type) where
  /-- One poll at an instant. -/
  poll : Nat → σ → σ × Report
  /-- Goes on with a configuration. -/
  engage : Configuration → σ → σ

namespace Worker

/-- One poll of the worker, heard by the attempt. -/
def advance (w : Worker σ) (r : Registry) (now : Nat) (x : Attempt × σ) : Attempt × σ :=
  let (s, report) := w.poll now x.2
  let attempt := (x.1.remark report.remarks).hear r now report.news
  let s :=
    match attempt.phase with
    | .engaged _ resolution => w.engage resolution.chosen s
    | _ => s
  (attempt, s)

/-- One poll of the attempt. Once the opening message has come, the handshake goes on at once. -/
def ask (w : Worker σ) (r : Registry) (now : Nat) (x : Attempt × σ) : Attempt × σ :=
  let y := w.advance r now x
  match x.1.phase, y.1.phase with
  | .awaitingHello, .engaged _ _ => w.advance r now y
  | _, _ => y

/-- Polls one after the other, as long as the attempt waits. -/
def drive (w : Worker σ) (r : Registry) : Attempt × σ → List Nat → Attempt × σ
  | x, [] => x
  | x, now :: later => if x.1.alarm?.isSome then drive w r (w.ask r now x) later else x

theorem drive_of_ended (w : Worker σ) (r : Registry) {x : Attempt × σ} (ended : x.1.alarm? = none)
    (polls : List Nat) : w.drive r x polls = x := by
  cases polls with
  | nil => rfl
  | cons now later => simp [drive, ended]

end Worker

/-- A stream with the engine of the library. -/
def Accepting.worker (m : Medium σ) : Worker (Accepting σ) where
  poll _ s := let t := s.poll m; (t.state, Accepting.report t.poll)
  engage c s := s.engage c

/-- A server polls an attempt as any worker is polled. -/
theorem Acceptance.poll_eq_ask (m : Medium σ) (r : Registry) (now : Nat) (a : Acceptance σ) :
    ((a.poll m r now).1.attempt, (a.poll m r now).1.stream) =
      (Accepting.worker m).ask r now (a.attempt, a.stream) := by
  have once : ∀ a : Acceptance σ, ((a.advance m r now).1.attempt, (a.advance m r now).1.stream) =
      (Accepting.worker m).advance r now (a.attempt, a.stream) := by
    intro a
    rfl
  unfold Acceptance.poll Worker.ask
  rw [← once a]
  dsimp only
  cases a.attempt.phase with
  | awaitingHello =>
    cases (a.advance m r now).1.attempt.phase with
    | engaged hostname resolution => exact once _
    | awaitingHello | completed | failed => rfl
  | engaged | completed | failed => rfl

/-! ## Scripts -/

/-- What the other side and the engine do. -/
structure Script where
  /-- After how long the opening message is there with the name it asks for, or reading it fails. -/
  opening : Option (Nat × Except String (Option String)) := none
  /-- How long after the opening message the rest is done with a configuration, and how it ends. -/
  rest : Configuration → Option (Nat × Except String Session) := fun _ => none

namespace Script

/-- How far a script has got. -/
inductive Stage where
  | listening
  | greeted (since : Nat)
  /-- The engine was given a configuration. -/
  | working (since : Nat) (given : Configuration)
  deriving DecidableEq, Repr

/-- What is there of an event at an instant. -/
def seen {α : Type} (event : Option (Nat × α)) (begun now : Nat) : Option α :=
  match event with
  | some (delay, a) => if begun + delay ≤ now then some a else none
  | none => none

/-- A worker that follows a script. -/
def worker (x : Script) (begun : Nat) : Worker Stage where
  poll now
    | .listening =>
      match seen x.opening begun now with
      | some (.ok hostname) => (.greeted now, { news := .hello hostname })
      | some (.error reason) => (.listening, { news := .broken reason })
      | none => (.listening, {})
    | .greeted since => (.greeted since, {})
    | .working since c =>
      match seen (x.rest c) since now with
      | some (.ok session) => (.working since c, { news := .established session })
      | some (.error reason) => (.working since c, { news := .broken reason })
      | none => (.working since c, {})
  engage c
    | .greeted since => .working since c
    | s => s

/-- A handshake that begins at an instant and is polled at some later ones. -/
def handshake (x : Script) (r : Registry) (begun : Nat) (polls : List Nat) : Attempt × Stage :=
  (x.worker begun).drive r (Attempt.start r begun, .listening) polls

section

variable {x : Script} {begun h now : Nat} {y : Attempt × Stage} {polls : List Nat} {hostname : Option String}
  {resolution : Names.Resolution Configuration}

theorem seen_eq_some_iff {α : Type} {event : Option (Nat × α)} {a : α} :
    seen event begun now = some a ↔ ∃ delay, event = some (delay, a) ∧ begun + delay ≤ now := by
  unfold seen
  cases event with
  | none => simp
  | some e =>
    obtain ⟨delay, b⟩ := e
    by_cases there : begun + delay ≤ now
    · simp only [there, ↓reduceIte, Option.some.injEq]
      constructor
      · rintro rfl
        exact ⟨delay, rfl, there⟩
      · rintro ⟨_, same, -⟩
        exact (Prod.mk.inj same).2
    · simp only [there, ↓reduceIte]
      constructor
      · intro none
        cases none
      · rintro ⟨_, same, passed⟩
        obtain ⟨rfl, -⟩ := Prod.mk.inj (Option.some.inj same)
        exact absurd passed there

/-- What is there stays there. -/
theorem seen_of_le {α : Type} {event : Option (Nat × α)} {a : α} {later : Nat}
    (there : seen event begun now = some a) (onward : now ≤ later) : seen event begun later = some a := by
  obtain ⟨delay, same, passed⟩ := seen_eq_some_iff.mp there
  exact seen_eq_some_iff.mpr ⟨delay, same, Nat.le_trans passed onward⟩

/-! ## One poll -/

/-- The handshake waits for the opening message. -/
structure Awaits (r : Registry) (begun : Nat) (y : Attempt × Stage) : Prop where
  phase : y.1.phase = .awaitingHello
  alarm : y.1.alarm = Alarm.after begun r.fallback.timeout
  stage : y.2 = .listening

/-- The opening message came at `h`, and the rest goes on with what its name selects. -/
structure Works (hostname : Option String) (resolution : Names.Resolution Configuration) (h : Nat)
    (y : Attempt × Stage) : Prop where
  phase : y.1.phase = .engaged hostname resolution
  alarm : y.1.alarm = Alarm.after h resolution.chosen.timeout
  stage : y.2 = .working h resolution.chosen

theorem awaits_start (r : Registry) (begun : Nat) : Awaits r begun (Attempt.start r begun, .listening) :=
  ⟨rfl, rfl, rfl⟩

@[simp] theorem remark_nil (a : Attempt) : a.remark [] = a := by
  simp [Attempt.remark]

/-- What polls make of a handshake that works on the rest. Whatever was not there when it was looked for
was looked for in time, unless the handshake was cut off. -/
inductive RestCourse (x : Script) (hostname : Option String) (resolution : Names.Resolution Configuration)
    (h : Nat) (polls : List Nat) (y : Attempt × Stage) : Prop where
  | goesOn (unseen : ∀ t ∈ polls, seen (x.rest resolution.chosen) h t = none)
      (early : ∀ t ∈ polls, t < Alarm.endOf h resolution.chosen.timeout)
      (works : Works hostname resolution h y)
  | completed (session : Session) (t : Nat) (member : t ∈ polls)
      (there : seen (x.rest resolution.chosen) h t = some (.ok session))
      (early : ∀ u ∈ polls, seen (x.rest resolution.chosen) h u = none →
        u < Alarm.endOf h resolution.chosen.timeout)
      (phase : y.1.phase = .completed hostname resolution session)
      (stage : y.2 = .working h resolution.chosen)
  | broken (reason : String) (t : Nat) (member : t ∈ polls)
      (there : seen (x.rest resolution.chosen) h t = some (.error reason))
      (early : ∀ u ∈ polls, seen (x.rest resolution.chosen) h u = none →
        u < Alarm.endOf h resolution.chosen.timeout)
      (phase : y.1.phase = .failed (.handshake ("handshake in progress: " ++ reason)))
      (stage : y.2 = .working h resolution.chosen)
  | cutOff (t : Nat) (member : t ∈ polls) (unseen : seen (x.rest resolution.chosen) h t = none)
      (late : Alarm.endOf h resolution.chosen.timeout ≤ t)
      (phase : y.1.phase = .failed (.handshake ("handshake in progress: " ++
        ("handshake not finished within " ++ resolution.chosen.timeout.text))))
      (stage : y.2 = .working h resolution.chosen)

theorem Works.advance (works : Works hostname resolution h y) :
    RestCourse x hostname resolution h [now] ((x.worker begun).advance r now y) := by
  obtain ⟨⟨phase, alarm, notes⟩, stage⟩ := y
  obtain ⟨stands, limit, given⟩ := works
  dsimp only at stands limit given
  subst stands limit given
  cases there : seen (x.rest resolution.chosen) h now with
  | none =>
    by_cases late : (Alarm.after h resolution.chosen.timeout).isOver now = true
    · refine .cutOff now List.mem_cons_self there (Alarm.isOver_after.mp late) ?_ ?_
      · simp [Worker.advance, worker, there, Attempt.hear, late, Attempt.fail, Progress.text]
      · simp [Worker.advance, worker, there, Attempt.hear, late, Attempt.fail]
    · have early : now < Alarm.endOf h resolution.chosen.timeout :=
        Nat.lt_of_not_le (mt Alarm.isOver_after.mpr late)
      refine .goesOn ?_ ?_ ⟨?_, ?_, ?_⟩
      · simpa using there
      · simpa using early
      · simp [Worker.advance, worker, there, Attempt.hear, late]
      · simp [Worker.advance, worker, there, Attempt.hear, late]
      · simp [Worker.advance, worker, there, Attempt.hear, late]
  | some said =>
    have early : ∀ u ∈ [now], seen (x.rest resolution.chosen) h u = none →
        u < Alarm.endOf h resolution.chosen.timeout := by
      intro u member unseen
      obtain rfl := List.mem_singleton.mp member
      rw [there] at unseen
      cases unseen
    cases said with
    | ok session =>
      refine .completed session now List.mem_cons_self there early ?_ ?_
      · simp [Worker.advance, worker, there, Attempt.hear]
      · simp [Worker.advance, worker, there, Attempt.hear]
    | error reason =>
      refine .broken reason now List.mem_cons_self there early ?_ ?_
      · simp [Worker.advance, worker, there, Attempt.hear, Attempt.fail, Progress.text]
      · simp [Worker.advance, worker, there, Attempt.hear, Attempt.fail]

/-- Once the rest has been decided later polls find it decided. -/
theorem early_cons {α : Type} {event : Option (Nat × α)} {a : α} {t limit : Nat}
    (there : seen event h t = some a) (onward : ∀ u ∈ polls, t ≤ u) :
    ∀ u ∈ t :: polls, seen event h u = none → u < limit := by
  intro u member unseen
  have passed : t ≤ u := by
    cases List.mem_cons.mp member with
    | inl same => exact Nat.le_of_eq same.symm
    | inr later => exact onward u later
  rw [seen_of_le there passed] at unseen
  cases unseen

theorem Works.ask (works : Works hostname resolution h y) (w : Worker Stage) :
    w.ask r now y = w.advance r now y := by
  unfold Worker.ask
  simp only [works.phase]

theorem Works.waits (works : Works hostname resolution h y) : y.1.alarm?.isSome = true := by
  simp [Attempt.alarm?, works.phase]

/-- A poll that finds nothing, and that in time, leaves everything to later ones. -/
theorem RestCourse.cons (unseen : seen (x.rest resolution.chosen) h now = none)
    (early : now < Alarm.endOf h resolution.chosen.timeout)
    (course : RestCourse x hostname resolution h polls y) :
    RestCourse x hostname resolution h (now :: polls) y := by
  cases course with
  | goesOn none soon works =>
    exact .goesOn (List.forall_mem_cons.mpr ⟨unseen, none⟩) (List.forall_mem_cons.mpr ⟨early, soon⟩) works
  | completed session t member there soon phase stage =>
    exact .completed session t (List.mem_cons_of_mem _ member) there
      (List.forall_mem_cons.mpr ⟨fun _ => early, soon⟩) phase stage
  | broken reason t member there soon phase stage =>
    exact .broken reason t (List.mem_cons_of_mem _ member) there
      (List.forall_mem_cons.mpr ⟨fun _ => early, soon⟩) phase stage
  | cutOff t member none late phase stage =>
    exact .cutOff t (List.mem_cons_of_mem _ member) none late phase stage

/-- What a poll decides stays as it is. -/
theorem RestCourse.stays (course : RestCourse x hostname resolution h [now] y) (ended : y.1.alarm? = none)
    (onward : ∀ t ∈ polls, now ≤ t) : RestCourse x hostname resolution h (now :: polls) y := by
  cases course with
  | goesOn unseen early works => simp [Attempt.alarm?, works.phase] at ended
  | completed session t member there early phase stage =>
    obtain rfl := List.mem_singleton.mp member
    exact .completed session t List.mem_cons_self there (early_cons there onward) phase stage
  | broken reason t member there early phase stage =>
    obtain rfl := List.mem_singleton.mp member
    exact .broken reason t List.mem_cons_self there (early_cons there onward) phase stage
  | cutOff t member unseen late phase stage =>
    obtain rfl := List.mem_singleton.mp member
    exact .cutOff t List.mem_cons_self unseen late phase stage

/-- A handshake that works on the rest waits until that is there or its limit ends, whichever is seen
first. -/
theorem Works.drive (works : Works hostname resolution h y) (ordered : polls.Pairwise (· ≤ ·)) :
    RestCourse x hostname resolution h polls ((x.worker begun).drive r y polls) := by
  induction polls generalizing y with
  | nil => exact .goesOn (by simp) (by simp) works
  | cons now later ih =>
    obtain ⟨onward, ordered⟩ := List.pairwise_cons.mp ordered
    have next : RestCourse x hostname resolution h [now] ((x.worker begun).advance r now y) := works.advance
    rw [Worker.drive, if_pos works.waits, works.ask]
    by_cases ended : ((x.worker begun).advance r now y).1.alarm? = none
    · rw [Worker.drive_of_ended _ r ended]
      exact next.stays ended onward
    · cases next with
      | goesOn unseen early works =>
        exact (ih works ordered).cons (unseen now List.mem_cons_self) (early now List.mem_cons_self)
      | completed session t member there early phase => simp [Attempt.alarm?, phase] at ended
      | broken reason t member there early phase => simp [Attempt.alarm?, phase] at ended
      | cutOff t member unseen late phase => simp [Attempt.alarm?, phase] at ended

/-- What polls make of a handshake from its beginning. -/
inductive Course (x : Script) (r : Registry) (begun : Nat) (polls : List Nat) (y : Attempt × Stage) : Prop where
  | awaits (unseen : ∀ t ∈ polls, seen x.opening begun t = none)
      (early : ∀ t ∈ polls, t < Alarm.endOf begun r.fallback.timeout) (awaits : Awaits r begun y)
  | broken (reason : String) (t : Nat) (member : t ∈ polls)
      (there : seen x.opening begun t = some (.error reason))
      (early : ∀ u ∈ polls, seen x.opening begun u = none → u < Alarm.endOf begun r.fallback.timeout)
      (phase : y.1.phase = .failed (.handshake ("awaiting hello: " ++ reason)))
      (stage : y.2 = .listening)
  | cutOff (t : Nat) (member : t ∈ polls) (unseen : seen x.opening begun t = none)
      (late : Alarm.endOf begun r.fallback.timeout ≤ t)
      (phase : y.1.phase = .failed (.handshake ("awaiting hello: " ++
        ("no ClientHello within " ++ r.fallback.timeout.text))))
      (stage : y.2 = .listening)
  /-- The opening message was heard at `h`, by the first poll that could hear it. -/
  | greeted (hostname : Option String) (h : Nat) (later : List Nat) (member : h ∈ polls)
      (there : seen x.opening begun h = some (.ok hostname))
      (early : ∀ u ∈ polls, seen x.opening begun u = none → u < Alarm.endOf begun r.fallback.timeout)
      (first : ∀ u ∈ polls, seen x.opening begun u ≠ none → h ≤ u)
      (onward : ∀ t, t ∈ later ↔ t ∈ polls ∧ h ≤ t)
      (rest : RestCourse x hostname (r.lookup hostname) h later y)

theorem Awaits.waits (awaits : Awaits r begun y) : y.1.alarm?.isSome = true := by
  simp [Attempt.alarm?, awaits.phase]

/-- One poll of a handshake that waits for the opening message. -/
theorem Awaits.advance (awaits : Awaits r begun y) (x : Script) (now : Nat) :
    let z := (x.worker begun).advance r now y
    match seen x.opening begun now with
    | none =>
      if Alarm.endOf begun r.fallback.timeout ≤ now then
        z.1.phase = .failed (.handshake ("awaiting hello: " ++
          ("no ClientHello within " ++ r.fallback.timeout.text))) ∧ z.2 = .listening
      else Awaits r begun z
    | some (.ok hostname) => Works hostname (r.lookup hostname) now z
    | some (.error reason) =>
      z.1.phase = .failed (.handshake ("awaiting hello: " ++ reason)) ∧ z.2 = .listening := by
  obtain ⟨⟨phase, alarm, notes⟩, stage⟩ := y
  obtain ⟨stands, limit, nothing⟩ := awaits
  dsimp only at stands limit nothing
  subst stands limit nothing
  have rings : (Alarm.after begun r.fallback.timeout).isOver now = true ↔
      Alarm.endOf begun r.fallback.timeout ≤ now := Alarm.isOver_after
  cases there : seen x.opening begun now with
  | none =>
    dsimp only
    split
    · rename_i passed
      constructor
      · simp [Worker.advance, worker, there, Attempt.hear, rings.mpr passed, Attempt.fail, Progress.text]
      · simp [Worker.advance, worker, there, Attempt.hear, rings.mpr passed, Attempt.fail]
    · rename_i early
      have waits : (Alarm.after begun r.fallback.timeout).isOver now = false :=
        Bool.eq_false_iff.mpr (mt rings.mp early)
      constructor <;> simp [Worker.advance, worker, there, Attempt.hear, waits]
  | some said =>
    cases said with
    | ok hostname => constructor <;> simp [Worker.advance, worker, there, Attempt.hear, Attempt.engage]
    | error reason =>
      constructor
      · simp [Worker.advance, worker, there, Attempt.hear, Attempt.fail, Progress.text]
      · simp [Worker.advance, worker, there, Attempt.hear, Attempt.fail]

theorem ask_of_not_engaged (w : Worker Stage)
    (other : ∀ hostname resolution, (w.advance r now y).1.phase ≠ .engaged hostname resolution) :
    w.ask r now y = w.advance r now y := by
  unfold Worker.ask
  dsimp only
  split
  · rename_i engaged
    exact absurd engaged (other _ _)
  · rfl

/-- A poll that does not find the message, and that in time, leaves everything to later ones. -/
theorem Course.cons (there : seen x.opening begun now = none)
    (early : now < Alarm.endOf begun r.fallback.timeout) (course : Course x r begun polls y) :
    Course x r begun (now :: polls) y := by
  cases course with
  | awaits none soon awaits =>
    exact .awaits (List.forall_mem_cons.mpr ⟨there, none⟩) (List.forall_mem_cons.mpr ⟨early, soon⟩) awaits
  | broken reason t member said soon phase stage =>
    exact .broken reason t (List.mem_cons_of_mem _ member) said
      (List.forall_mem_cons.mpr ⟨fun _ => early, soon⟩) phase stage
  | cutOff t member none late phase stage =>
    exact .cutOff t (List.mem_cons_of_mem _ member) none late phase stage
  | greeted hostname h rests member said soon first reach rest =>
    refine .greeted hostname h rests (List.mem_cons_of_mem _ member) said
      (List.forall_mem_cons.mpr ⟨fun _ => early, soon⟩)
      (List.forall_mem_cons.mpr ⟨fun heard => absurd there heard, first⟩) ?_ rest
    intro t
    rw [reach, List.mem_cons]
    constructor
    · rintro ⟨inside, passed⟩
      exact ⟨.inr inside, passed⟩
    · rintro ⟨rfl | inside, passed⟩
      · -- The message was not there yet at this poll, so it came later.
        rw [seen_of_le said passed] at there
        cases there
      · exact ⟨inside, passed⟩

/-- A handshake waits for the opening message until that is there or its limit ends, whichever is seen
first, and goes on with the rest at once. -/
theorem Awaits.drive (awaits : Awaits r begun y) (ordered : polls.Pairwise (· ≤ ·)) :
    Course x r begun polls ((x.worker begun).drive r y polls) := by
  induction polls generalizing y with
  | nil => exact .awaits (by simp) (by simp) awaits
  | cons now later ih =>
    have whole := ordered
    obtain ⟨onward, ordered⟩ := List.pairwise_cons.mp ordered
    have next := awaits.advance x now
    rw [Worker.drive, if_pos awaits.waits]
    cases there : seen x.opening begun now with
    | none =>
      rw [there] at next
      dsimp only at next
      by_cases late : Alarm.endOf begun r.fallback.timeout ≤ now
      · rw [if_pos late] at next
        obtain ⟨phase, stage⟩ := next
        rw [ask_of_not_engaged _ (by simp [phase]),
          Worker.drive_of_ended _ r (by simp [Attempt.alarm?, phase])]
        exact .cutOff now List.mem_cons_self there late phase stage
      · rw [if_neg late] at next
        rw [ask_of_not_engaged _ (by simp [next.phase])]
        exact (ih next ordered).cons there (Nat.lt_of_not_le late)
    | some said =>
      have early : ∀ u ∈ now :: later, seen x.opening begun u = none →
          u < Alarm.endOf begun r.fallback.timeout := early_cons there onward
      rw [there] at next
      cases said with
      | error reason =>
        obtain ⟨phase, stage⟩ := next
        rw [ask_of_not_engaged _ (by simp [phase]),
          Worker.drive_of_ended _ r (by simp [Attempt.alarm?, phase])]
        exact .broken reason now List.mem_cons_self there early phase stage
      | ok hostname =>
        have works : Works hostname (r.lookup hostname) now ((x.worker begun).advance r now y) := next
        -- The poll that hears the message polls once more, so it is also the first poll for the rest.
        have again : (x.worker begun).ask r now y =
            (x.worker begun).ask r now ((x.worker begun).advance r now y) := by
          rw [works.ask]
          simp only [Worker.ask, awaits.phase, works.phase]
        have repeated : (x.worker begun).drive r ((x.worker begun).ask r now y) later =
            (x.worker begun).drive r ((x.worker begun).advance r now y) (now :: later) := by
          rw [again, Worker.drive, if_pos works.waits]
        rw [repeated]
        have onward : ∀ u ∈ now :: later, now ≤ u :=
          List.forall_mem_cons.mpr ⟨Nat.le_refl now, onward⟩
        refine .greeted hostname now (now :: later) List.mem_cons_self there early ?_ ?_ (works.drive whole)
        · intro u member _
          exact onward u member
        · intro t
          exact ⟨fun member => ⟨member, onward t member⟩, And.left⟩

end

end Script

end Tls

/-! ## What comes of a handshake -/

namespace Server.Session

open Connection (Shared Completion Observer told)

/-- What comes of an attempt: nothing as long as it waits. A completed one tells the hook of its configuration
and the observers, and a failed one gives its error. -/
def outcome (s : Shared) (id : Nat) : Tls.Attempt.Phase → Shared × Option (Except Error Completion)
  | .completed hostname resolution session =>
    (reportHandshake s id resolution.chosen { session with hostname } ⟨hostname, resolution.matched⟩,
      some (.ok ⟨hostname, resolution.matched⟩))
  | .failed e => (s, some (.error e))
  | .awaitingHello | .engaged _ _ => (s, none)

section

variable {choices : Choices} {b : Blueprint} {r : Tls.Registry} {s : Shared} {id : Nat}
  {a : Tls.Acceptance (Stream.Layered Connection.Wire)}

/-- A session goes on with what comes of its attempt. -/
theorem secure_of_completed {hostname : Option String} {resolution : Names.Resolution Tls.Configuration}
    {session : Tls.Session} {stream : Tls.Secured (Stream.Layered Connection.Wire)}
    (goesOn : (choices.beforeHandshake && closeRequested s id) = false)
    (completed : (pollHandshake s r id a).2.attempt.phase = .completed hostname resolution session)
    (secured : (pollHandshake s r id a).2.stream = .securing stream) :
    secure choices b r s id a =
      configure choices b (outcome (pollHandshake s r id a).1 id (pollHandshake s r id a).2.attempt.phase).1
        { id, stream := some ⟨.secured stream, []⟩, session := some { session with hostname },
          completion := some ⟨hostname, resolution.matched⟩ } := by
  unfold secure
  simp only [goesOn, Bool.false_eq_true, ↓reduceIte, completed, secured, outcome]

/-- A session ends with the error of its attempt, after nothing else. -/
theorem secure_of_failed {e : Error} (goesOn : (choices.beforeHandshake && closeRequested s id) = false)
    (failed : (pollHandshake s r id a).2.attempt.phase = .failed e) :
    secure choices b r s id a =
      (((outcome (pollHandshake s r id a).1 id (pollHandshake s r id a).2.attempt.phase).1.dropWire
        (pollHandshake s r id a).2.stream.inner.inner).onHub fun h => (h.reportError id e).dispose id,
        .ended) := by
  unfold secure
  simp only [goesOn, Bool.false_eq_true, ↓reduceIte, failed, outcome]

/-- A handshake that is done shows itself to the hook first, and then to the observers. -/
theorem events_reportHandshake {l : Connection.Lifecycle} (present : s.hub.lifecycle? id = some l)
    (chosen : Tls.Configuration) (session : Tls.Session) (completion : Completion) :
    (reportHandshake s id chosen session completion).hub.events =
      s.hub.events ++ (chosen.hook.toList.map fun hook => .negotiated hook id session) ++
        told l.observers id (.completion completion) := by
  unfold reportHandshake
  cases chosen.hook with
  | none =>
    simp only [Shared.onHub, Connection.Hub.reportCompletion, Connection.Hub.report, present]
    simp [Connection.Hub.emitAll, told]
  | some hook =>
    simp only [Shared.onHub, Connection.Hub.reportCompletion, Connection.Hub.report,
      Connection.Hub.lifecycle?_emit, present]
    simp [Connection.Hub.emitAll, Connection.Hub.emit, told]

end

end Server.Session

/-! ## Both limits together -/

namespace Tls.Script

open Connection (Shared Observer told)
open Server.Session (outcome)

/-- A handshake keeps its limits and shows what it should. It began at `begun` and was polled at some
instants, the connection has some observers, and `y` is what came of it. -/
structure Keeps (x : Script) (r : Registry) (begun : Nat) (polls : List Nat) (s : Shared) (id : Nat)
    (os : List Observer) (y : Attempt × Stage) : Prop where
  /-- The opening message is waited for until it is there or its limit ends. -/
  hello_awaited : (∀ t ∈ polls, seen x.opening begun t = none ∧
    t < Alarm.endOf begun r.fallback.timeout) → y.1.phase = .awaitingHello
  /-- It is not waited for any longer. -/
  hello_late : ∀ t ∈ polls, seen x.opening begun t = none → Alarm.endOf begun r.fallback.timeout ≤ t →
    y.1.phase = .failed (.handshake ("awaiting hello: " ++
      ("no ClientHello within " ++ r.fallback.timeout.text)))
  /-- If it comes in time, the first poll that finds it gives the engine what its name selects. -/
  hello_in_time : ∀ delay hostname, x.opening = some (delay, .ok hostname) →
    delay ≤ Alarm.span begun r.fallback.timeout →
    ((∀ t ∈ polls, t < begun + delay) → y.1.phase = .awaitingHello) ∧
    ∀ h ∈ polls, begun + delay ≤ h → (∀ u ∈ polls, begun + delay ≤ u → h ≤ u) →
      y.2 = .working h (r.lookup hostname).chosen
  hello_unreadable : ∀ delay reason, x.opening = some (delay, .error reason) →
    delay ≤ Alarm.span begun r.fallback.timeout → ∀ t ∈ polls, begun + delay ≤ t →
    y.1.phase = .failed (.handshake ("awaiting hello: " ++ reason))
  /-- The engine is given nothing but what the name selects. -/
  selected : ∀ h c, y.2 = .working h c → ∃ delay hostname, x.opening = some (delay, .ok hostname) ∧
    h ∈ polls ∧ begun + delay ≤ h ∧ (∀ u ∈ polls, begun + delay ≤ u → h ≤ u) ∧
    c = (r.lookup hostname).chosen
  /-- The rest is waited for until it is there or its own limit ends, which begins with the message. -/
  rest_awaited : ∀ h c, y.2 = .working h c →
    (∀ t ∈ polls, h ≤ t → seen (x.rest c) h t = none ∧ t < Alarm.endOf h c.timeout) →
    ∃ hostname, y.1.phase = .engaged hostname (r.lookup hostname)
  rest_late : ∀ h c, y.2 = .working h c → ∀ t ∈ polls, h ≤ t → seen (x.rest c) h t = none →
    Alarm.endOf h c.timeout ≤ t →
    y.1.phase = .failed (.handshake ("handshake in progress: " ++
      ("handshake not finished within " ++ c.timeout.text)))
  rest_in_time : ∀ h c, y.2 = .working h c → ∀ delay said, x.rest c = some (delay, said) →
    delay ≤ Alarm.span h c.timeout →
    ((∀ t ∈ polls, t < h + delay) → ∃ hostname, y.1.phase = .engaged hostname (r.lookup hostname)) ∧
    ∀ t ∈ polls, h + delay ≤ t →
      match said with
      | .ok session => ∃ hostname, y.1.phase = .completed hostname (r.lookup hostname) session
      | .error reason => y.1.phase = .failed (.handshake ("handshake in progress: " ++ reason))
  /-- A handshake that is done was done with the selected configuration. Its hook is told once and with the
  name, and then every observer of the name and how it was matched. -/
  completed : ∀ hostname resolution session, y.1.phase = .completed hostname resolution session →
    (∃ delay, x.opening = some (delay, .ok hostname)) ∧ resolution = r.lookup hostname ∧
    (∃ h, y.2 = .working h resolution.chosen) ∧
    (∃ delay, x.rest resolution.chosen = some (delay, .ok session)) ∧
    (outcome s id y.1.phase).2 = some (.ok ⟨hostname, resolution.matched⟩) ∧
    (outcome s id y.1.phase).1.hub.events = s.hub.events ++
      (resolution.chosen.hook.toList.map fun hook => .negotiated hook id { session with hostname }) ++
      told os id (.completion ⟨hostname, resolution.matched⟩)
  /-- One that fails gives an error that says whether the message was there, and shows nothing. -/
  failed : ∀ e, y.1.phase = .failed e → outcome s id y.1.phase = (s, some (.error e)) ∧
    ((∃ reason, e = .handshake ("awaiting hello: " ++ reason) ∧ y.2 = .listening) ∨
      ∃ reason h c, e = .handshake ("handshake in progress: " ++ reason) ∧ y.2 = .working h c)

section

variable {x : Script} {r : Registry} {begun h : Nat} {polls later : List Nat} {y : Attempt × Stage}
  {hostname : Option String} {resolution : Names.Resolution Configuration}

/-- What comes within its limit is there when the limit ends. -/
theorem seen_of_late {α : Type} {event : Option (Nat × α)} {delay t : Nat} {a : α} {limit : Duration}
    (comes : event = some (delay, a)) (short : delay ≤ Alarm.span begun limit)
    (late : Alarm.endOf begun limit ≤ t) : seen event begun t = some a := by
  have bounds := (Alarm.endOf_bounds begun limit).1
  exact seen_eq_some_iff.mpr ⟨delay, comes, by omega⟩

theorem RestCourse.stage (course : RestCourse x hostname resolution h later y) :
    y.2 = .working h resolution.chosen := by
  cases course with
  | goesOn unseen early works => exact works.stage
  | completed session t member there early phase stage => exact stage
  | broken reason t member there early phase stage => exact stage
  | cutOff t member unseen late phase stage => exact stage

/-! ### The rest -/

theorem RestCourse.awaited (course : RestCourse x hostname resolution h later y)
    (waits : ∀ t ∈ later, seen (x.rest resolution.chosen) h t = none ∧
      t < Alarm.endOf h resolution.chosen.timeout) : y.1.phase = .engaged hostname resolution := by
  cases course with
  | goesOn unseen early works => exact works.phase
  | completed session t member there =>
    rw [(waits t member).1] at there
    cases there
  | broken reason t member there =>
    rw [(waits t member).1] at there
    cases there
  | cutOff t member unseen late => exact absurd (waits t member).2 (Nat.not_lt_of_le late)

theorem RestCourse.late (course : RestCourse x hostname resolution h later y) {t : Nat} (member : t ∈ later)
    (unseen : seen (x.rest resolution.chosen) h t = none)
    (late : Alarm.endOf h resolution.chosen.timeout ≤ t) :
    y.1.phase = .failed (.handshake ("handshake in progress: " ++
      ("handshake not finished within " ++ resolution.chosen.timeout.text))) := by
  cases course with
  | goesOn none early works => exact absurd (early t member) (Nat.not_lt_of_le late)
  | completed session u inside there early => exact absurd (early t member unseen) (Nat.not_lt_of_le late)
  | broken reason u inside there early => exact absurd (early t member unseen) (Nat.not_lt_of_le late)
  | cutOff u inside none passed phase => exact phase

/-- The rest that comes within its limit decides how the handshake ends. -/
theorem RestCourse.in_time (course : RestCourse x hostname resolution h later y) {delay t : Nat}
    {said : Except String Session} (comes : x.rest resolution.chosen = some (delay, said))
    (short : delay ≤ Alarm.span h resolution.chosen.timeout) (member : t ∈ later) (passed : h + delay ≤ t) :
    match said with
    | .ok session => y.1.phase = .completed hostname resolution session
    | .error reason => y.1.phase = .failed (.handshake ("handshake in progress: " ++ reason)) := by
  have there : seen (x.rest resolution.chosen) h t = some said := seen_eq_some_iff.mpr ⟨delay, comes, passed⟩
  have same : ∀ u other, seen (x.rest resolution.chosen) h u = some other → other = said := by
    intro u other found
    obtain ⟨_, again, -⟩ := seen_eq_some_iff.mp found
    rw [comes] at again
    exact (Prod.mk.inj (Option.some.inj again)).2.symm
  cases course with
  | goesOn unseen early works =>
    rw [unseen t member] at there
    cases there
  | completed session u inside found early phase stage =>
    obtain rfl := same u _ found
    exact phase
  | broken reason u inside found early phase stage =>
    obtain rfl := same u _ found
    exact phase
  | cutOff u inside unseen late =>
    rw [seen_of_late comes short late] at unseen
    cases unseen

/-! ### The opening message -/

theorem Course.awaited (course : Course x r begun polls y)
    (waits : ∀ t ∈ polls, seen x.opening begun t = none ∧ t < Alarm.endOf begun r.fallback.timeout) :
    y.1.phase = .awaitingHello := by
  cases course with
  | awaits unseen early awaits => exact awaits.phase
  | broken reason t member there =>
    rw [(waits t member).1] at there
    cases there
  | cutOff t member unseen late => exact absurd (waits t member).2 (Nat.not_lt_of_le late)
  | greeted hostname h later member there =>
    rw [(waits h member).1] at there
    cases there

theorem Course.late (course : Course x r begun polls y) {t : Nat} (member : t ∈ polls)
    (unseen : seen x.opening begun t = none) (late : Alarm.endOf begun r.fallback.timeout ≤ t) :
    y.1.phase = .failed (.handshake ("awaiting hello: " ++
      ("no ClientHello within " ++ r.fallback.timeout.text))) := by
  cases course with
  | awaits none early awaits => exact absurd (early t member) (Nat.not_lt_of_le late)
  | broken reason u inside there early => exact absurd (early t member unseen) (Nat.not_lt_of_le late)
  | cutOff u inside none passed phase => exact phase
  | greeted hostname h later inside there early =>
    exact absurd (early t member unseen) (Nat.not_lt_of_le late)

/-- An opening message that comes within its limit and asks for a name is heard by the first poll that finds
it. -/
theorem Course.in_time (course : Course x r begun polls y) {delay : Nat}
    (comes : x.opening = some (delay, .ok hostname)) (short : delay ≤ Alarm.span begun r.fallback.timeout)
    (member : h ∈ polls) (passed : begun + delay ≤ h)
    (first : ∀ u ∈ polls, begun + delay ≤ u → h ≤ u) : y.2 = .working h (r.lookup hostname).chosen := by
  have there : seen x.opening begun h = some (.ok hostname) := seen_eq_some_iff.mpr ⟨delay, comes, passed⟩
  cases course with
  | awaits unseen early awaits =>
    rw [unseen h member] at there
    cases there
  | broken reason u inside found =>
    obtain ⟨_, again, -⟩ := seen_eq_some_iff.mp found
    rw [comes] at again
    cases again
  | cutOff u inside unseen late =>
    rw [seen_of_late comes short late] at unseen
    cases unseen
  | greeted name g later inside found early least onward rest =>
    obtain ⟨_, again, since⟩ := seen_eq_some_iff.mp found
    rw [comes] at again
    cases again
    have before : g ≤ h := least h member (by simp [there])
    have after : h ≤ g := first g inside since
    obtain rfl : g = h := Nat.le_antisymm before after
    exact rest.stage

theorem Course.unreadable (course : Course x r begun polls y) {delay t : Nat} {reason : String}
    (comes : x.opening = some (delay, .error reason)) (short : delay ≤ Alarm.span begun r.fallback.timeout)
    (member : t ∈ polls) (passed : begun + delay ≤ t) :
    y.1.phase = .failed (.handshake ("awaiting hello: " ++ reason)) := by
  have there : seen x.opening begun t = some (.error reason) := seen_eq_some_iff.mpr ⟨delay, comes, passed⟩
  cases course with
  | awaits unseen early awaits =>
    rw [unseen t member] at there
    cases there
  | broken other u inside found early phase stage =>
    obtain ⟨_, again, -⟩ := seen_eq_some_iff.mp found
    rw [comes] at again
    cases again
    exact phase
  | cutOff u inside unseen late =>
    rw [seen_of_late comes short late] at unseen
    cases unseen
  | greeted name g later inside found =>
    obtain ⟨_, again, -⟩ := seen_eq_some_iff.mp found
    rw [comes] at again
    cases again

/-- Where the engine was given a configuration, the opening message was heard and selected it. -/
theorem Course.of_working (course : Course x r begun polls y) {c : Configuration}
    (working : y.2 = .working h c) :
    ∃ hostname later, h ∈ polls ∧ seen x.opening begun h = some (.ok hostname) ∧
      (∀ u ∈ polls, seen x.opening begun u ≠ none → h ≤ u) ∧
      (∀ t, t ∈ later ↔ t ∈ polls ∧ h ≤ t) ∧ c = (r.lookup hostname).chosen ∧
      RestCourse x hostname (r.lookup hostname) h later y := by
  cases course with
  | awaits unseen early awaits =>
    rw [awaits.stage] at working
    cases working
  | broken reason t member there early phase stage =>
    rw [stage] at working
    cases working
  | cutOff t member unseen late phase stage =>
    rw [stage] at working
    cases working
  | greeted hostname g later member there early first onward rest =>
    rw [rest.stage] at working
    cases working
    exact ⟨hostname, later, member, there, first, onward, rfl, rest⟩

/-! ### How it ends -/

theorem Course.of_completed (course : Course x r begun polls y) {session : Session}
    (completed : y.1.phase = .completed hostname resolution session) :
    resolution = r.lookup hostname ∧ (∃ delay, x.opening = some (delay, .ok hostname)) ∧
      (∃ h, y.2 = .working h resolution.chosen) ∧
      ∃ delay, x.rest resolution.chosen = some (delay, .ok session) := by
  cases course with
  | awaits unseen early awaits =>
    rw [awaits.phase] at completed
    cases completed
  | broken reason t member there early phase =>
    rw [phase] at completed
    cases completed
  | cutOff t member unseen late phase =>
    rw [phase] at completed
    cases completed
  | greeted name h later member there early first onward rest =>
    obtain ⟨delay, asks, -⟩ := seen_eq_some_iff.mp there
    cases rest with
    | goesOn unseen early works =>
      rw [works.phase] at completed
      cases completed
    | completed other t inside done early phase stage =>
      rw [phase] at completed
      cases completed
      obtain ⟨took, result, -⟩ := seen_eq_some_iff.mp done
      exact ⟨rfl, ⟨delay, asks⟩, ⟨h, stage⟩, took, result⟩
    | broken reason t inside done early phase =>
      rw [phase] at completed
      cases completed
    | cutOff t inside unseen late phase =>
      rw [phase] at completed
      cases completed

theorem Course.of_failed (course : Course x r begun polls y) {e : Error} (failed : y.1.phase = .failed e) :
    (∃ reason, e = .handshake ("awaiting hello: " ++ reason) ∧ y.2 = .listening) ∨
      ∃ reason h c, e = .handshake ("handshake in progress: " ++ reason) ∧ y.2 = .working h c := by
  cases course with
  | awaits unseen early awaits =>
    rw [awaits.phase] at failed
    cases failed
  | broken reason t member there early phase stage =>
    rw [phase] at failed
    cases failed
    exact .inl ⟨_, rfl, stage⟩
  | cutOff t member unseen late phase stage =>
    rw [phase] at failed
    cases failed
    exact .inl ⟨_, rfl, stage⟩
  | greeted name h later member there early first onward rest =>
    cases rest with
    | goesOn unseen early works =>
      rw [works.phase] at failed
      cases failed
    | completed session t inside done early phase =>
      rw [phase] at failed
      cases failed
    | broken reason t inside done early phase stage =>
      rw [phase] at failed
      cases failed
      exact .inr ⟨_, h, _, rfl, stage⟩
    | cutOff t inside unseen late phase stage =>
      rw [phase] at failed
      cases failed
      exact .inr ⟨_, h, _, rfl, stage⟩

theorem unseen_of_lt {α : Type} {event : Option (Nat × α)} {delay t : Nat} {a : α}
    (comes : event = some (delay, a)) (before : t < begun + delay) : seen event begun t = none := by
  simp only [seen, comes, if_neg (Nat.not_le_of_lt before)]

theorem keeps_of_course {s : Shared} {id : Nat} {l : Connection.Lifecycle}
    (present : s.hub.lifecycle? id = some l) (course : Course x r begun polls y) :
    x.Keeps r begun polls s id l.observers y := by
  refine ⟨course.awaited, fun t member => course.late member, ?hello_in_time,
    fun delay reason comes short t member => course.unreadable comes short member, ?selected, ?rest_awaited,
    ?rest_late, ?rest_in_time, ?completed, ?failed⟩
  case hello_in_time =>
    intro delay hostname comes short
    constructor
    · intro early
      refine course.awaited fun t member => ⟨unseen_of_lt comes (early t member), ?_⟩
      have bounds := (Alarm.endOf_bounds begun r.fallback.timeout).1
      have before := early t member
      omega
    · intro h member passed first
      exact course.in_time comes short member passed first
  case selected =>
    intro h c working
    obtain ⟨hostname, later, member, there, first, -, same, -⟩ := course.of_working working
    obtain ⟨delay, comes, passed⟩ := seen_eq_some_iff.mp there
    refine ⟨delay, hostname, comes, member, passed, ?_, same⟩
    intro u inside since
    refine first u inside ?_
    rw [seen_eq_some_iff.mpr ⟨delay, comes, since⟩]
    exact Option.some_ne_none _
  case rest_awaited =>
    intro h c working waits
    obtain ⟨hostname, later, -, -, -, onward, rfl, rest⟩ := course.of_working working
    refine ⟨hostname, rest.awaited fun t member => ?_⟩
    obtain ⟨inside, passed⟩ := (onward t).mp member
    exact waits t inside passed
  case rest_late =>
    intro h c working t member passed unseen late
    obtain ⟨hostname, later, -, -, -, onward, rfl, rest⟩ := course.of_working working
    exact rest.late ((onward t).mpr ⟨member, passed⟩) unseen late
  case rest_in_time =>
    intro h c working delay said comes short
    obtain ⟨hostname, later, -, -, -, onward, rfl, rest⟩ := course.of_working working
    constructor
    · intro early
      refine ⟨hostname, rest.awaited fun t member => ?_⟩
      have before := early t ((onward t).mp member).1
      have bounds := (Alarm.endOf_bounds h (r.lookup hostname).chosen.timeout).1
      exact ⟨unseen_of_lt comes before, by omega⟩
    · intro t member passed
      have decided := rest.in_time comes short ((onward t).mpr ⟨member, by omega⟩) passed
      cases said with
      | ok session => exact ⟨hostname, decided⟩
      | error reason => exact decided
  case completed =>
    intro hostname resolution session completed
    obtain ⟨rfl, asks, given, done⟩ := course.of_completed completed
    rw [completed]
    exact ⟨asks, rfl, given, done, rfl, Server.Session.events_reportHandshake present _ _ _⟩
  case failed =>
    intro e failed
    rw [failed]
    exact ⟨rfl, course.of_failed failed⟩

end

/-- Every handshake keeps both limits, whatever the registry says, whatever the script does and however often
it is polled. -/
theorem handshake_keeps_its_limits (x : Script) (r : Registry) (begun : Nat) (polls : List Nat)
    (ordered : polls.Pairwise (· ≤ ·))
    (s : Shared) (id : Nat) (l : Connection.Lifecycle) (present : s.hub.lifecycle? id = some l) :
    x.Keeps r begun polls s id l.observers (x.handshake r begun polls) := by
  have course : Course x r begun polls (x.handshake r begun polls) :=
    (awaits_start r begun).drive ordered
  exact keeps_of_course present course

/-- The configuration of a wildcard, with a limit that is shorter than that of the default. -/
def brisk : Configuration := { Registry.certified 2 with timeout := Duration.ofSecs 2, hook := some "seen" }

def wildcarded : Registry := { names := ⟨Registry.certified 1, ⟨[(⟨"*.test.com"⟩, brisk)]⟩⟩ }

/-- Comes close to both limits of `wildcarded`, and takes longer than the first with both together. -/
def unhurried : Script where
  opening := some (9500000000, .ok (some "a.test.com"))
  rest _ := some (1500000000, .ok {})

def watched : Shared :=
  { hub := { lifecycles := [{ identity := ⟨1, .unix none, .unix none⟩, observers := [{ name := "o" }] }] } }

theorem unhurried_completes :
    let y := unhurried.handshake wildcarded 0 [0, 9500000000, 10999000000, 11000000000]
    y.2 = .working 9500000000 brisk ∧
      ∃ hostname, y.1.phase = .completed hostname (wildcarded.lookup hostname) {} ∧
        (outcome watched 0 y.1.phase).1.hub.events =
          [.negotiated "seen" 0 { hostname := some "a.test.com" },
            .notified "o" 0 (.completion ⟨some "a.test.com", .wildcard ⟨"*.test.com"⟩⟩)] := by
  intro y
  have kept := handshake_keeps_its_limits unhurried wildcarded 0 [0, 9500000000, 10999000000, 11000000000]
    (by decide) watched 0 _ rfl
  have works : y.2 = .working 9500000000 brisk :=
    (kept.hello_in_time 9500000000 (some "a.test.com") rfl (by decide)).2 9500000000 (by decide) (by decide)
      (by decide)
  obtain ⟨hostname, done⟩ := (kept.rest_in_time _ _ works 1500000000 (.ok {}) rfl (by decide)).2 11000000000
    (by decide) (by decide)
  obtain ⟨⟨_, asks⟩, -, -, -, -, events⟩ := kept.completed _ _ _ done
  cases asks
  exact ⟨works, _, done, events⟩

/-- Half a millisecond is up, and the opening message is still waited for and heard. A limit that the clock
cannot express is longer than thirty years, and the message that comes then is not waited for. -/
theorem limits_bend_to_the_clock :
    let brief : Registry := .single { Registry.certified 1 with timeout := ⟨500000⟩ }
    let endless : Registry := .single { Registry.certified 1 with timeout := ⟨Alarm.lastInstant + 1⟩ }
    (({} : Script).handshake brief 0 [0, 700000]).1.phase = .awaitingHello ∧
      (({ opening := some (600000, .ok none) } : Script).handshake brief 0 [0, 600000]).2 =
        .working 600000 brief.fallback ∧
      ∃ e, (({ opening := some (Alarm.farFuture + 1, .ok none) } : Script).handshake endless 0
        [Alarm.farFuture]).1.phase = .failed e :=
  ⟨rfl, rfl, _, rfl⟩

end Tls.Script

end StreamHost
