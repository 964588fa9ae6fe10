import Mathlib.Logic.Function.Iterate
import StreamHost.Handler
import StreamHost.Proofs.Exchanges

/-!
What an echo does to a stream. A handler asks one thing after another and goes on with what it gets, so all
that passes can be kept in a log. The log of an echo has a shape: as long as bytes come and go, what was
taken and what is still to be written make up what was read; the end of the input is followed by nothing
but a shutdown; and a failure is the last thing that passes.
-/

namespace StreamHost.Handler

open StreamHost.Stream (Exchange Layered Medium Poll Reply Request Script accepted received)

namespace Course

/-- What a handler wants of its stream. -/
def request? : Course → Option Request
  | reading room _ => some (.read room)
  | writing rest _ => some (.write rest)
  | ending => some .shutdown
  | pausing _ | holding | ended _ | following .. => none

/-- Where a handler goes on, unless it has to wait. -/
def heard (now : Nat) : Course → Reply → Option Course
  | reading room use, .read (.ready r) => some (afterRead now room use r)
  | writing rest readAgain, .written (.ready r) => some (afterWrite rest readAgain r)
  | ending, .shutDown (.ready r) => some (ended r)
  | _, _ => none

section

variable {σ : Type} {m : Medium σ} {s : σ} {c : Course} {now : Nat}

/-- Whoever wants something asks for it, and goes on with what he hears. -/
theorem step_of_request {r : Request} (wants : c.request? = some r) :
    step m now s c = ((m.ask s r).state, (m.ask s r).events, c.heard now (m.ask s r).reply) := by
  cases c with
  | reading room use =>
    obtain rfl := Option.some.inj wants
    cases answer : (m.read s room).poll <;> simp [step, answer, Medium.ask, Stream.Turn.outcome, heard]
  | writing rest readAgain =>
    obtain rfl := Option.some.inj wants
    cases answer : (m.write s rest).poll <;> simp [step, answer, Medium.ask, Stream.Turn.outcome, heard]
  | ending =>
    obtain rfl := Option.some.inj wants
    cases answer : (m.shutdown s).poll <;> simp [step, answer, Medium.ask, Stream.Turn.outcome, heard]
  | pausing | holding | ended | following => cases wants

/-- Whoever wants nothing leaves the stream alone. -/
theorem step_of_no_request (now : Nat) (wants : c.request? = none) :
    ∃ next, ∀ {τ : Type} (m : Medium τ) (s : τ), step m now s c = (s, [], next) := by
  cases c with
  | reading | writing | ending => cases wants
  | pausing | holding | ended | following => exact ⟨_, fun _ _ => rfl⟩

/-- Where a stream and its handler are after one step. -/
def goOn (m : Medium σ) (x : σ × Course) (now : Nat) : σ × Course :=
  let done := step m now x.1 x.2
  (done.1, done.2.2.getD x.2)

/-- Where they are after the handler has worked until it has to wait. -/
def poll (m : Medium σ) (broken : σ → Bool) (x : σ × Course) (now : Nat) : σ × Course :=
  let done := run m broken now x.1 x.2
  (done.1, done.2.2)

/-- Working is stepping. -/
theorem runWithin_steps (m : Medium σ) (broken : σ → Bool) (now room : Nat) (s : σ) (c : Course) :
    ∃ n, (0 < room → 0 < n) ∧ ((runWithin m broken now room s c).1, (runWithin m broken now room s c).2.2) =
      (List.replicate n now).foldl (goOn m) (s, c) := by
  induction room generalizing s c with
  | zero => exact ⟨0, id, rfl⟩
  | succ room ih =>
    unfold runWithin
    split
    · rename_i stepped
      exact ⟨1, fun _ => Nat.one_pos, by simp [goOn, stepped]⟩
    · rename_i s' es d stepped
      split
      · exact ⟨1, fun _ => Nat.one_pos, by simp [goOn, stepped]⟩
      · obtain ⟨n, -, later⟩ := ih s' d
        exact ⟨n + 1, fun _ => n.succ_pos, by simp [List.replicate_succ, goOn, stepped, ← later]⟩

theorem polls_steps (m : Medium σ) (broken : σ → Bool) (instants : List Nat) (x : σ × Course) :
    ∃ steps : List Nat, instants.length ≤ steps.length ∧
      instants.foldl (poll m broken) x = steps.foldl (goOn m) x := by
  induction instants generalizing x with
  | nil => exact ⟨[], Nat.le_refl _, rfl⟩
  | cons now rest ih =>
    obtain ⟨n, positive, worked⟩ := runWithin_steps m broken now budget x.1 x.2
    obtain ⟨later, enough, same⟩ := ih (poll m broken x now)
    refine ⟨List.replicate n now ++ later, ?_, ?_⟩
    · have once : 0 < n := positive (by decide)
      simp only [List.length_cons, List.length_append, List.length_replicate]
      omega
    · rw [List.foldl_cons, same, List.foldl_append, ← worked]
      rfl

/-- A handler that is over does not work. -/
theorem poll_ended (m : Medium σ) (broken : σ → Bool) (s : σ) (result : Except IoError Unit) (now : Nat) :
    poll m broken (s, .ended result) now = (s, .ended result) :=
  rfl

/-! ## Logs -/

/-- Keeping a log changes nothing. -/
theorem step_recorded (m : Medium σ) (now : Nat) (x : σ × List Exchange) (c : Course) :
    ((step m.recorded now x c).1.1, (step m.recorded now x c).2) = step m now x.1 c := by
  cases wants : c.request? with
  | some r =>
    rw [step_of_request wants, step_of_request wants, Medium.ask_recorded]
    rfl
  | none =>
    obtain ⟨next, same⟩ := step_of_no_request now wants
    rw [same, same]

theorem runWithin_recorded (m : Medium σ) (broken : σ → Bool) (now room : Nat) (x : σ × List Exchange)
    (c : Course) :
    let logged := runWithin m.recorded (fun x => broken x.1) now room x c
    (logged.1.1, logged.2) = runWithin m broken now room x.1 c := by
  induction room generalizing x c with
  | zero => rfl
  | succ room ih =>
    have same := step_recorded m now x c
    simp only [runWithin, ← same]
    generalize step m.recorded now x c = done
    obtain ⟨y, es, next⟩ := done
    cases next with
    | none => rfl
    | some d =>
      dsimp only
      cases broken y.1 with
      | true => rfl
      | false => simp only [Bool.false_eq_true, ↓reduceIte, ← ih y d]

theorem polls_recorded (m : Medium σ) (broken : σ → Bool) (instants : List Nat)
    (x : (σ × List Exchange) × Course) :
    let logged := instants.foldl (poll m.recorded fun x => broken x.1) x
    (logged.1.1, logged.2) = instants.foldl (poll m broken) (x.1.1, x.2) := by
  refine (List.foldl_hom (fun x : (σ × List Exchange) × Course => (x.1.1, x.2)) fun x now => ?_).symm
  have same := runWithin_recorded m broken now budget x.1 x.2
  exact Prod.ext_iff.mpr ⟨(congrArg Prod.fst same).symm, (congrArg (fun done => done.2.2) same).symm⟩

end

end Course

/-! ## The log of an echo -/

/-- The end of the input. -/
def atEnd : Exchange := (.read echoRoom, .read (.done []))

/-- A shutdown that has to be waited for. -/
def putOff : Exchange := (.shutdown, .shutDown .pending)

/-- How a shutdown went. -/
def closing (result : Except IoError Unit) : Exchange := (.shutdown, .shutDown (.ready result))

/-- Bytes come and go, never more at once than an echo has room for. -/
def Flows (log : List Exchange) : Prop := ∀ x ∈ log, x.IsTraffic ∧ x.received.length ≤ echoRoom

/-- What may have passed before an echo came to where it stands. -/
inductive Echoing : List Exchange → Course → Prop where
  | reading {log : List Exchange} (flows : Flows log) (even : accepted log = received log) :
      Echoing log (.reading echoRoom .echo)
  | writing {log : List Exchange} {rest : Bytes} (flows : Flows log) (left : rest ≠ [])
      (owes : accepted log ++ rest = received log) : Echoing log (.writing rest true)
  | ending {body : List Exchange} (flows : Flows body) (even : accepted body = received body) (n : Nat) :
      Echoing (body ++ atEnd :: List.replicate n putOff) .ending
  | ended {body : List Exchange} (flows : Flows body) (even : accepted body = received body) (n : Nat)
      (result : Except IoError Unit) :
      Echoing (body ++ atEnd :: List.replicate n putOff ++ [closing result]) (.ended result)
  | failed {body : List Exchange} {rest : Bytes} {x : Exchange} {e : IoError} (flows : Flows body)
      (owes : accepted body ++ rest = received body) (fails : x.failure? = some e) :
      Echoing (body ++ [x]) (.ended (.error e))

section

variable {log : List Exchange} {x : Exchange} {c : Course} {e : IoError} {n : Nat}

theorem Flows.concat (flows : Flows log) (traffic : x.IsTraffic) (fits : x.received.length ≤ echoRoom) :
    Flows (log ++ [x]) := by
  intro y member
  rcases List.mem_append.mp member with before | now
  · exact flows y before
  · obtain rfl := List.mem_singleton.mp now
    exact ⟨traffic, fits⟩

theorem Flows.failure?_eq (flows : Flows log) : ∀ x ∈ log, x.failure? = none :=
  fun x member => (flows x member).1.failure?_eq

/-- Bytes have come and gone before the end of the input, and nothing but waiting follows it. -/
theorem passes_atEnd (body : List Exchange) (n : Nat) :
    accepted (body ++ atEnd :: List.replicate n putOff) = accepted body ∧
      received (body ++ atEnd :: List.replicate n putOff) = received body := by
  have nothing : accepted (atEnd :: List.replicate n putOff) = [] ∧
      received (atEnd :: List.replicate n putOff) = [] := by
    simp [accepted, received, List.flatMap_replicate, atEnd, putOff, Exchange.accepted, Exchange.received,
      Poll.done]
  simp [nothing]

theorem passes_closing (body : List Exchange) (n : Nat) (result : Except IoError Unit) :
    accepted (body ++ atEnd :: List.replicate n putOff ++ [closing result]) = accepted body ∧
      received (body ++ atEnd :: List.replicate n putOff ++ [closing result]) = received body := by
  obtain ⟨taken, given⟩ := passes_atEnd body n
  have nothing : accepted [closing result] = [] ∧ received [closing result] = [] := ⟨rfl, rfl⟩
  rw [Stream.accepted_append, Stream.received_append, taken, given, nothing.1, nothing.2]
  simp

theorem Flows.failure?_atEnd {body : List Exchange} (flows : Flows body) (n : Nat) :
    ∀ x ∈ body ++ atEnd :: List.replicate n putOff, x.failure? = none := by
  intro x member
  rcases List.mem_append.mp member with before | after
  · exact flows.failure?_eq x before
  · rcases List.mem_cons.mp after with rfl | later
    · rfl
    · obtain rfl := List.eq_of_mem_replicate later
      rfl

/-- At the end nothing is taken. -/
theorem countP_atEnd (n : Nat) : (atEnd :: List.replicate n putOff).countP Exchange.takesNothing = n + 1 := by
  have all : (List.replicate n putOff).countP Exchange.takesNothing = n := by
    rw [List.countP_replicate]
    rfl
  rw [List.countP_cons_of_pos rfl, all]

/-- Each shutdown that has to be waited for counts as such. -/
theorem le_countP_putOff (body : List Exchange) (n : Nat) :
    n ≤ (body ++ atEnd :: List.replicate n putOff).countP Exchange.isPutOff := by
  have all : (List.replicate n putOff).countP Exchange.isPutOff = n := by
    rw [List.countP_replicate]
    rfl
  have among : List.Sublist (List.replicate n putOff) (body ++ atEnd :: List.replicate n putOff) :=
    (List.sublist_cons_self _ _).trans (List.sublist_append_right _ _)
  exact Nat.le_trans all.ge among.countP_le

/-- Whenever bytes come nothing is taken, and never do too many come at once. -/
theorem Flows.length_received (flows : Flows log) :
    (received log).length ≤ echoRoom * log.countP Exchange.takesNothing := by
  induction log with
  | nil => exact Nat.zero_le _
  | cons x rest ih =>
    have onward := ih fun y member => flows y (List.mem_cons_of_mem _ member)
    obtain ⟨traffic, fits⟩ := flows x List.mem_cons_self
    have sum : (received (x :: rest)).length = x.received.length + (received rest).length := by simp
    cases nothing : x.takesNothing with
    | true =>
      rw [List.countP_cons_of_pos nothing, Nat.mul_succ, sum]
      omega
    | false =>
      have silent : x.received = [] := by
        cases traffic with
        | awaitsRead | read | awaitsWrite => cases nothing
        | wrote => rfl
      rw [List.countP_cons_of_neg (by simp [nothing]), sum, silent, List.length_nil, Nat.zero_add]
      exact onward

/-- Only what came is taken, so bytes are not taken too often. -/
theorem Flows.length_le (flows : Flows log) (behind : accepted log <+: received log) :
    log.length ≤ (echoRoom + 1) * log.countP Exchange.takesNothing := by
  have long := Stream.length_le_countP log
  have taken := behind.length_le
  have given := flows.length_received
  rw [Nat.succ_mul]
  omega

end

namespace Echoing

variable {log : List Exchange} {c : Course} {e : IoError} {now : Nat}

/-! ### One exchange -/

theorem read {p : Poll Bytes} (flows : Flows log) (even : accepted log = received log)
    (fits : ∀ bytes, p = .ready (.ok bytes) → bytes.length ≤ echoRoom) :
    Echoing (log ++ [(.read echoRoom, .read p)])
      (((Course.reading echoRoom .echo).heard now (.read p)).getD (.reading echoRoom .echo)) := by
  cases p with
  | pending =>
    refine .reading (flows.concat (.awaitsRead _) (Nat.zero_le _)) ?_
    simpa [Exchange.accepted, Exchange.received] using even
  | ready result =>
    cases result with
    | error e =>
      have owes : accepted log ++ [] = received log := by rw [List.append_nil, even]
      exact .failed flows owes rfl
    | ok bytes =>
      by_cases empty : bytes = []
      · subst empty
        exact .ending flows even 0
      · have owes : accepted log ++ bytes = received log ++ bytes := by rw [even]
        simp only [Course.heard, Course.afterRead, Course.write, Option.getD_some, if_neg empty]
        rw [if_pos empty]
        refine .writing (flows.concat (.read _ empty) (fits bytes rfl)) empty ?_
        simpa [Exchange.accepted, Exchange.received] using even

theorem write {rest : Bytes} {p : Poll Nat} (flows : Flows log) (left : rest ≠ [])
    (owes : accepted log ++ rest = received log) :
    Echoing (log ++ [(.write rest, .written p)])
      (((Course.writing rest true).heard now (.written p)).getD (.writing rest true)) := by
  cases p with
  | pending =>
    refine .writing (flows.concat (.awaitsWrite _) (Nat.zero_le _)) left ?_
    simpa [Exchange.accepted, Exchange.received] using owes
  | ready result =>
    cases result with
    | error e => exact .failed flows owes rfl
    | ok n =>
      cases n with
      | zero =>
        refine .failed flows owes ?_
        obtain ⟨b, others, rfl⟩ := List.exists_cons_of_ne_nil left
        rfl
      | succ n =>
        have took : rest.take (n + 1) ≠ [] := by simp [left]
        have onward := flows.concat (.wrote took) (Nat.zero_le _)
        have parts : accepted (log ++ [(.write rest, .written (.ready (.ok (n + 1))))]) ++ rest.drop (n + 1) =
            received (log ++ [(.write rest, .written (.ready (.ok (n + 1))))]) := by
          simpa [Exchange.accepted, Exchange.received] using owes
        simp only [Course.heard, Course.afterWrite, Course.write, Option.getD_some]
        split
        · rename_i more
          exact .writing onward more parts
        · rename_i done
          rw [Decidable.not_not.mp done, List.append_nil] at parts
          exact .reading onward parts

theorem shutdown {body : List Exchange} {p : Poll Unit} (flows : Flows body)
    (even : accepted body = received body) (n : Nat) :
    Echoing (body ++ atEnd :: List.replicate n putOff ++ [(.shutdown, .shutDown p)])
      ((Course.ending.heard now (.shutDown p)).getD .ending) := by
  cases p with
  | pending =>
    have more : body ++ atEnd :: List.replicate n putOff ++ [(.shutdown, .shutDown .pending)] =
        body ++ atEnd :: List.replicate (n + 1) putOff := by
      simp [List.replicate_succ', putOff]
    rw [more]
    exact .ending flows even (n + 1)
  | ready result => exact .ended flows even n result

/-! ### What a log says -/

/-- What was taken is the first part of what was read. -/
theorem behind (echoing : Echoing log c) : accepted log <+: received log := by
  cases echoing with
  | reading flows even => exact even ▸ List.prefix_rfl
  | writing flows left owes => exact owes ▸ List.prefix_append _ _
  | @ending body flows even n =>
    obtain ⟨taken, given⟩ := passes_atEnd body n
    rw [taken, given, even]
  | @ended body flows even n result =>
    obtain ⟨taken, given⟩ := passes_closing body n result
    rw [taken, given, even]
  | @failed body rest x e flows owes fails =>
    obtain ⟨untaken, unread⟩ := Exchange.nothing_passes fails
    have nothing : accepted [x] = [] ∧ received [x] = [] := by simp [untaken, unread]
    simp [nothing, ← owes]

/-- An echo that went well has given back all bytes, and has then shut its half down, once. -/
theorem of_ok (echoing : Echoing log (.ended (.ok ()))) : accepted log = received log ∧
    ∃ body n, log = body ++ atEnd :: List.replicate n putOff ++ [closing (.ok ())] ∧
      ∀ x ∈ body, x.IsTraffic := by
  cases echoing with
  | @ended body flows even n =>
    obtain ⟨taken, given⟩ := passes_closing body n (.ok ())
    exact ⟨by rw [taken, given, even], body, n, rfl, fun x member => (flows x member).1⟩

/-- An echo that failed tells of the first failure, and that is the last thing that passed. -/
theorem of_error (echoing : Echoing log (.ended (.error e))) :
    ∃ body x, log = body ++ [x] ∧ x.failure? = some e ∧ ∀ y ∈ body, y.failure? = none := by
  cases echoing with
  | @ended body flows even n => exact ⟨_, _, rfl, rfl, flows.failure?_atEnd n⟩
  | failed flows owes fails => exact ⟨_, _, rfl, fails, flows.failure?_eq⟩

/-- No failure goes unheeded. -/
theorem heeds (echoing : Echoing log c) {x : Exchange} (member : x ∈ log) (fails : x.failure? = some e) :
    c = .ended (.error e) := by
  have never : x.failure? ≠ none := by simp [fails]
  cases echoing with
  | reading flows => exact absurd (flows.failure?_eq x member) never
  | writing flows => exact absurd (flows.failure?_eq x member) never
  | ending flows even n => exact absurd (flows.failure?_atEnd n x member) never
  | ended flows even n result =>
    rcases List.mem_append.mp member with before | last
    · exact absurd (flows.failure?_atEnd n x before) never
    · obtain rfl := List.mem_singleton.mp last
      cases result with
      | ok => cases fails
      | error e' =>
        obtain rfl : e' = e := Option.some.inj fails
        rfl
  | @failed body rest y e' flows owes fails' =>
    rcases List.mem_append.mp member with before | last
    · exact absurd (flows.failure?_eq x before) never
    · obtain rfl := List.mem_singleton.mp last
      obtain rfl : e' = e := Option.some.inj (fails'.symm.trans fails)
      rfl

/-- Until it is over, an echo is given something, or has to wait, at least once in so many exchanges. -/
theorem length_le (echoing : Echoing log c) :
    (∃ result, c = .ended result) ∨ log.length ≤ (echoRoom + 1) * log.countP Exchange.takesNothing := by
  have behind := echoing.behind
  cases echoing with
  | reading flows => exact .inr (flows.length_le behind)
  | writing flows => exact .inr (flows.length_le behind)
  | @ending body flows even n =>
    have short := flows.length_le (even ▸ List.prefix_rfl)
    right
    rw [List.countP_append, countP_atEnd, Nat.mul_add, List.length_append, List.length_cons,
      List.length_replicate]
    have tail : n + 1 ≤ (echoRoom + 1) * (n + 1) := Nat.le_mul_of_pos_left (n + 1) (Nat.succ_pos echoRoom)
    omega
  | ended | failed => exact .inl ⟨_, rfl⟩

/-- An echo wants something until it is over. -/
theorem wants (echoing : Echoing log c) : (∃ result, c = .ended result) ∨ ∃ r, c.request? = some r := by
  cases echoing with
  | reading | writing | ending => exact .inr ⟨_, rfl⟩
  | ended | failed => exact .inl ⟨_, rfl⟩

end Echoing

/-! ## Many steps -/

section

variable {σ : Type} {m : Medium σ} {s : σ} {n : Nat} {x : (σ × List Exchange) × Course}

/-- How an echo stands after `n` steps on a stream that was `s` and keeps a log. -/
structure Stands (m : Medium σ) (s : σ) (n : Nat) (x : (σ × List Exchange) × Course) : Prop where
  tells : m.Tells s x.1
  echoing : Echoing x.1.2 x.2
  behind : ∀ early, early <+: x.1.2 → accepted early <+: received early
  busy : (∃ result, x.2 = .ended result) ∨ x.1.2.length = n

theorem Stands.start (m : Medium σ) (s : σ) : Stands m s 0 ((s, []), .reading echoRoom .echo) where
  tells := rfl
  echoing := .reading (fun _ member => absurd member List.not_mem_nil) rfl
  behind early first := by rw [List.prefix_nil.mp first]; exact List.prefix_rfl
  busy := .inr rfl

theorem Echoing.asked (lawful : m.Lawful) {log : List Exchange} {c : Course} (echoing : Echoing log c)
    (s : σ) (now : Nat) {r : Request} (wants : c.request? = some r) :
    Echoing (log ++ [(m.exchange s r).2]) ((c.heard now (m.ask s r).reply).getD c) := by
  cases echoing with
  | reading flows even =>
    obtain rfl := Option.some.inj wants
    exact .read flows even (lawful.read_le s echoRoom)
  | writing flows left owes =>
    obtain rfl := Option.some.inj wants
    exact .write flows left owes
  | ending flows even n =>
    obtain rfl := Option.some.inj wants
    exact .shutdown flows even n
  | ended | failed => cases wants

theorem Stands.goOn (lawful : m.Lawful) (stands : Stands m s n x) (now : Nat) :
    Stands m s (n + 1) (Course.goOn m.recorded x now) := by
  obtain ⟨y, c⟩ := x
  rcases stands.echoing.wants with ⟨result, ended⟩ | ⟨r, wants⟩
  · obtain rfl : c = .ended result := ended
    exact ⟨stands.tells, stands.echoing, stands.behind, .inl ⟨result, rfl⟩⟩
  · have asked := Medium.ask_recorded m y r
    have echoing := stands.echoing.asked lawful y.1 now wants
    have stepped : Course.goOn m.recorded (y, c) now =
        ((m.recorded.ask y r).state, (c.heard now (m.ask y.1 r).reply).getD c) := by
      simp only [Course.goOn, Course.step_of_request wants, asked]
    have log : (m.recorded.ask y r).state.2 = y.2 ++ [(m.exchange y.1 r).2] := by rw [asked]
    rw [stepped]
    refine ⟨stands.tells.ask r, log ▸ echoing, fun early first => ?_, ?_⟩
    · rw [log] at first
      rcases List.prefix_concat_iff.mp first with rfl | before
      · exact echoing.behind
      · exact stands.behind early before
    · rcases stands.busy with ⟨result, ended⟩ | long
      · obtain rfl : c = .ended result := ended
        cases wants
      · exact .inr (by simp [log, show y.2.length = n from long])

theorem Stands.steps (lawful : m.Lawful) (stands : Stands m s n x) (steps : List Nat) :
    Stands m s (n + steps.length) (steps.foldl (Course.goOn m.recorded) x) := by
  induction steps generalizing n x with
  | nil => exact stands
  | cons now rest ih =>
    have onward := ih (stands.goOn lawful now)
    rwa [Nat.add_right_comm, Nat.add_assoc] at onward

/-- An echo on a stream that comes to its end has seldom to wait. -/
theorem Stands.count_le (stands : Stands m s n x) {most : Nat} (ends : m.EndsWithin most s) :
    (∃ result, x.2 = .ended result) ∨ x.1.2.countP Exchange.takesNothing ≤ 2 * most + 1 := by
  obtain ⟨⟨t, log⟩, c⟩ := x
  have told : (inTurn m.exchange s (log.map Prod.fst)).2 = log := congrArg Prod.snd stands.tells
  have counted {body : List Exchange} (flows : Flows body)
      (told : (inTurn m.exchange s (body.map Prod.fst)).2 = body) :
      body.countP Exchange.takesNothing ≤ most := by
    have bound := ends.traffic (body.map Prod.fst)
    rw [told] at bound
    exact bound fun x member => (flows x member).1
  have echoing : Echoing log c := stands.echoing
  cases echoing with
  | reading flows =>
    have few := counted flows told
    exact .inr (by dsimp only; omega)
  | writing flows =>
    have few := counted flows told
    exact .inr (by dsimp only; omega)
  | @ending body flows even k =>
    have few := counted flows (stands.tells.early rfl)
    have waits : k ≤ most := by
      have bound := ends.shutdown ((body ++ atEnd :: List.replicate k putOff).map Prod.fst)
      rw [told] at bound
      exact Nat.le_trans (le_countP_putOff body k) bound
    right
    rw [List.countP_append, countP_atEnd]
    omega
  | ended | failed => exact .inl ⟨_, rfl⟩

end

/-! ## One buffer -/

/-- What a copier is at. -/
inductive Copier.Stage where
  | reading
  /-- What stands in the buffer between `start` and `stop` is still to be written. -/
  | writing (start stop : Nat)
  | ending
  | ended (result : Except IoError Unit)

/-- An echo that reads into one buffer again and again. What was read before stays in the buffer behind
what was read last. -/
structure Copier where
  buffer : Bytes
  stage : Copier.Stage

namespace Copier

/-- What stands in the buffer between two places. -/
def part (c : Copier) (start stop : Nat) : Bytes := (c.buffer.take stop).drop start

def request? (c : Copier) : Option Request :=
  match c.stage with
  | .reading => some (.read c.buffer.length)
  | .writing start stop => some (.write (c.part start stop))
  | .ending => some .shutdown
  | .ended _ => none

/-- Bytes come to the front of the buffer. -/
def fill (c : Copier) (bytes : Bytes) : Copier where
  buffer := bytes ++ c.buffer.drop bytes.length
  stage := if bytes.length = 0 then .ending else .writing 0 bytes.length

/-- Some of what was still to be written is written. -/
def pass (c : Copier) (start stop n : Nat) : Copier :=
  { c with stage :=
      if n = 0 then .ended (.error writeZero)
      else if start + n < stop then .writing (start + n) stop
      else .reading }

def heard (c : Copier) (reply : Reply) : Copier :=
  match c.stage, reply with
  | .reading, .read (.ready (.ok bytes)) => c.fill bytes
  | .reading, .read (.ready (.error e)) => { c with stage := .ended (.error e) }
  | .writing start stop, .written (.ready (.ok n)) => c.pass start stop n
  | .writing _ _, .written (.ready (.error e)) => { c with stage := .ended (.error e) }
  | .ending, .shutDown (.ready result) => { c with stage := .ended result }
  | _, _ => c

/-- Where a stream and its copier are after one step. -/
def goOn {σ : Type} (m : Medium σ) (x : σ × Copier) : σ × Copier :=
  match x.2.request? with
  | none => x
  | some r => let o := m.ask x.1 r; (o.state, x.2.heard o.reply)

/-- The course of an echo that stands there, whatever else is in its buffer. -/
def course (c : Copier) : Course :=
  match c.stage with
  | .reading => .reading echoRoom .echo
  | .writing start stop => .writing (c.part start stop) true
  | .ending => .ending
  | .ended result => .ended result

/-- The buffer keeps its size, and what is still to be written is some of it. -/
structure Sound (c : Copier) : Prop where
  full : c.buffer.length = echoRoom
  within : ∀ start stop, c.stage = .writing start stop → start < stop ∧ stop ≤ c.buffer.length

section

variable {σ : Type} {m : Medium σ} {s : σ} {c : Copier}

theorem request?_course (sound : c.Sound) : c.course.request? = c.request? := by
  unfold course request?
  cases c.stage with
  | reading => simp [Course.request?, sound.full]
  | writing | ending | ended => rfl

/-- What came is what is written, and nothing of what was there before. -/
theorem fill_course (now : Nat) (sound : c.Sound) {bytes : Bytes} (fits : bytes.length ≤ echoRoom) :
    (c.fill bytes).course = Course.afterRead now echoRoom .echo (.ok bytes) ∧ (c.fill bytes).Sound := by
  have full : (c.fill bytes).buffer.length = echoRoom := by
    simp [fill, sound.full]
    omega
  cases bytes with
  | nil => exact ⟨rfl, full, fun _ _ writing => by cases writing⟩
  | cons b rest =>
    have stage : (c.fill (b :: rest)).stage = .writing 0 (b :: rest).length := rfl
    refine ⟨?_, full, fun start stop writing => ?_⟩
    · have front : (c.fill (b :: rest)).part 0 (b :: rest).length = b :: rest := List.take_left
      unfold course
      rw [stage]
      dsimp only
      rw [front]
      rfl
    · obtain ⟨rfl, rfl⟩ := Stage.writing.inj (stage.symm.trans writing)
      exact ⟨Nat.succ_pos _, full ▸ fits⟩

/-- No remainder is lost. -/
theorem pass_course (sound : c.Sound) {start stop : Nat} (writing : c.stage = .writing start stop) (n : Nat) :
    (c.pass start stop n).course = Course.afterWrite (c.part start stop) true (.ok n) ∧
      (c.pass start stop n).Sound := by
  obtain ⟨before, within⟩ := sound.within start stop writing
  cases n with
  | zero => exact ⟨rfl, sound.full, fun _ _ writing => by cases writing⟩
  | succ n =>
    have rest : (c.part start stop).drop (n + 1) = c.part (start + (n + 1)) stop := List.drop_drop
    have length : (c.part (start + (n + 1)) stop).length = stop - (start + (n + 1)) := by
      simp [part]
      omega
    by_cases more : start + (n + 1) < stop
    · have left : c.part (start + (n + 1)) stop ≠ [] := List.length_pos_iff.mp (by omega)
      have stage : (c.pass start stop (n + 1)).stage = .writing (start + (n + 1)) stop := by
        simp [pass, more]
      refine ⟨?_, sound.full, fun start' stop' writing' => ?_⟩
      · simp only [course, stage, Course.afterWrite, Course.write, rest, if_pos left]
        rfl
      · obtain ⟨rfl, rfl⟩ := Stage.writing.inj (stage.symm.trans writing')
        exact ⟨more, within⟩
    · have all : c.part (start + (n + 1)) stop = [] := List.length_eq_zero_iff.mp (by omega)
      have stage : (c.pass start stop (n + 1)).stage = .reading := by simp [pass, more]
      refine ⟨?_, sound.full, fun start' stop' writing' => ?_⟩
      · simp [course, stage, Course.afterWrite, Course.write, rest, all]
      · cases stage.symm.trans writing'

theorem ended_sound (sound : c.Sound) (result : Except IoError Unit) :
    Sound { c with stage := .ended result } :=
  ⟨sound.full, fun _ _ writing => by cases writing⟩

/-- It goes on like an echo with what it hears. -/
theorem heard_course (lawful : m.Lawful) (sound : c.Sound) {r : Request} (wants : c.request? = some r) (s : σ)
    (now : Nat) :
    (c.heard (m.ask s r).reply).course = (c.course.heard now (m.ask s r).reply).getD c.course ∧
      (c.heard (m.ask s r).reply).Sound := by
  cases stage : c.stage with
  | reading =>
    have course : c.course = .reading echoRoom .echo := by simp [Copier.course, stage]
    obtain rfl : .read c.buffer.length = r := by simpa [request?, stage] using wants
    have fits := lawful.read_le s c.buffer.length
    rw [course]
    simp only [Medium.ask, Stream.Turn.outcome]
    cases answer : (m.read s c.buffer.length).poll with
    | pending => exact ⟨by simp [heard, stage, course, Course.heard], by simpa [heard, stage] using sound⟩
    | ready result =>
      cases result with
      | error e =>
        exact ⟨by simp [heard, stage, Course.heard, Copier.course, Course.afterRead],
          by simpa [heard, stage] using ended_sound sound _⟩
      | ok bytes =>
        have filled := fill_course now sound (sound.full ▸ fits bytes answer)
        simpa [heard, stage, Course.heard] using filled
  | writing start stop =>
    have course : c.course = .writing (c.part start stop) true := by simp [Copier.course, stage]
    obtain rfl : .write (c.part start stop) = r := by simpa [request?, stage] using wants
    rw [course]
    simp only [Medium.ask, Stream.Turn.outcome]
    cases answer : (m.write s (c.part start stop)).poll with
    | pending => exact ⟨by simp [heard, stage, course, Course.heard], by simpa [heard, stage] using sound⟩
    | ready result =>
      cases result with
      | error e =>
        exact ⟨by simp [heard, stage, Course.heard, Copier.course, Course.afterWrite],
          by simpa [heard, stage] using ended_sound sound _⟩
      | ok n => simpa [heard, stage, Course.heard] using pass_course sound stage n
  | ending =>
    have course : c.course = .ending := by simp [Copier.course, stage]
    obtain rfl : .shutdown = r := by simpa [request?, stage] using wants
    rw [course]
    simp only [Medium.ask, Stream.Turn.outcome]
    cases answer : (m.shutdown s).poll with
    | pending => exact ⟨by simp [heard, stage, course, Course.heard], by simpa [heard, stage] using sound⟩
    | ready result =>
      exact ⟨by simp [heard, stage, Course.heard, Copier.course],
        by simpa [heard, stage] using ended_sound sound _⟩
  | ended => simp [request?, stage] at wants

theorem goOn_course (lawful : m.Lawful) (sound : c.Sound) (s : σ) (now : Nat) :
    Course.goOn m (s, c.course) now = ((goOn m (s, c)).1, (goOn m (s, c)).2.course) ∧
      (goOn m (s, c)).2.Sound := by
  have asks := request?_course sound
  cases wants : c.request? with
  | none =>
    cases stage : c.stage with
    | reading | writing | ending => simp [request?, stage] at wants
    | ended result =>
      have ended : c.course = .ended result := by simp [course, stage]
      exact ⟨by simp [goOn, wants, ended, Course.goOn, Course.step], by simpa [goOn, wants] using sound⟩
  | some r =>
    obtain ⟨same, onward⟩ := heard_course lawful sound wants s now
    simp only [goOn, Course.goOn, wants, Course.step_of_request (asks.trans wants)]
    exact ⟨by rw [same], onward⟩

theorem steps_course (lawful : m.Lawful) (sound : c.Sound) (steps : List Nat) :
    let after := (goOn m)^[steps.length] (s, c)
    steps.foldl (Course.goOn m) (s, c.course) = (after.1, after.2.course) := by
  induction steps generalizing s c with
  | nil => rfl
  | cons now rest ih =>
    obtain ⟨same, onward⟩ := goOn_course lawful sound s now
    rw [List.foldl_cons, same]
    exact ih onward

end

end Copier

/-! ## An echo on a connection -/

section

open Connection (Flow)

variable {σ : Type} {m : Medium σ} {f : Flow σ} {s : Layered σ}

/-- A handler on a connection stands as it would on the innermost stream, and both logs are the same. -/
structure Carries (x : (Flow σ × List Exchange) × Course) (y : (σ × List Exchange) × Course) : Prop where
  stream : ∃ layers, x.1.1.channel.stream = some ⟨y.1.1, layers⟩
  log : x.1.2 = y.1.2
  course : x.2 = y.2

theorem Carries.goOn {x : (Flow σ × List Exchange) × Course} {y : (σ × List Exchange) × Course}
    (carries : Carries x y) (now : Nat) :
    Carries (Course.goOn (Flow.medium m).recorded x now) (Course.goOn m.recorded y now) := by
  obtain ⟨⟨f, log⟩, c⟩ := x
  obtain ⟨⟨t, log'⟩, c'⟩ := y
  obtain ⟨layers, flows⟩ := carries.stream
  obtain rfl : log = log' := carries.log
  obtain rfl : c = c' := carries.course
  cases wants : c.request? with
  | none =>
    obtain ⟨next, same⟩ := Course.step_of_no_request now wants
    simp only [Course.goOn, same]
    exact ⟨⟨layers, flows⟩, rfl, rfl⟩
  | some r =>
    obtain ⟨same, onward⟩ := Flow.exchange_medium (m := m) flows r
    have reply : ((Flow.medium m).ask f r).reply = (m.ask t r).reply := congrArg Prod.snd same
    simp only [Course.goOn, Course.step_of_request wants, Medium.ask_recorded, reply]
    exact ⟨⟨layers, onward⟩, by rw [same], rfl⟩

/-- An echo on a connection, polled at any instants, with a log of what passes, which changes nothing. Each
exchange is what the innermost stream gives to what is asked, and the same passes when all goes through one
buffer, whatever was in it at first. At every moment what was taken is the first part of what was read. An
echo that went well has given back all bytes up to the end of the input, and has then shut its half down,
once. An echo that failed tells of the first failure, after which nothing passes; and no failure goes
unheeded. Nothing is done when it is over. Until then it is given something, or has to wait, at least once
in so many polls, so on a stream that comes to its end it will be over. -/
theorem echo_gives_back_what_it_reads (lawful : m.Lawful) (flows : f.channel.stream = some s)
    (broken : Flow σ → Bool) (session : Option Tls.Session) (completion : Option Connection.Completion)
    (instants : List Nat) :
    let start := echo.start session completion
    let poll := Course.poll (Flow.medium m).recorded fun x => broken x.1
    let x := instants.foldl poll ((f, []), start)
    let log := x.1.2
    (x.1.1, x.2) = instants.foldl (Course.poll (Flow.medium m) broken) (f, start) ∧
      (inTurn m.exchange s.inner (log.map Prod.fst)).2 = log ∧
      (∀ buffer : Bytes, buffer.length = echoRoom → ∃ n,
        let copied := (Copier.goOn m.recorded)^[n] ((s.inner, []), ⟨buffer, .reading⟩)
        (copied.1.2, copied.2.course) = (log, x.2)) ∧
      (∀ early, early <+: log → accepted early <+: received early) ∧
      (x.2 = .ended (.ok ()) → accepted log = received log ∧
        ∃ body n, log = body ++ atEnd :: List.replicate n putOff ++ [closing (.ok ())] ∧
          ∀ y ∈ body, y.IsTraffic) ∧
      (∀ e, x.2 = .ended (.error e) →
        ∃ body y, log = body ++ [y] ∧ y.failure? = some e ∧ ∀ z ∈ body, z.failure? = none) ∧
      (∀ y ∈ log, ∀ e, y.failure? = some e → x.2 = .ended (.error e)) ∧
      (∀ result, x.2 = .ended result → ∀ now, poll x now = x) ∧
      ((∃ result, x.2 = .ended result) ∨
        instants.length ≤ (echoRoom + 1) * log.countP Exchange.takesNothing) ∧
      ∀ most, m.EndsWithin most s.inner → (echoRoom + 1) * (2 * most + 1) < instants.length →
        ∃ result, x.2 = .ended result := by
  intro start poll x log
  obtain ⟨steps, enough, stepped⟩ :=
    Course.polls_steps (Flow.medium m).recorded (fun x => broken x.1) instants ((f, []), start)
  generalize inner : steps.foldl (Course.goOn m.recorded) ((s.inner, []), start) = y
  have carries : Carries x y := by
    have first : Carries ((f, []), start) ((s.inner, []), start) := ⟨⟨s.layers, flows⟩, rfl, rfl⟩
    rw [show x = _ from stepped, ← inner]
    exact List.foldl_rel first fun now _ _ _ carries => carries.goOn now
  have stands : Stands m s.inner steps.length y := by
    have all := (Stands.start m s.inner).steps lawful steps
    rw [Nat.zero_add] at all
    exact inner ▸ all
  have log_eq : log = y.1.2 := carries.log
  have course_eq : x.2 = y.2 := carries.course
  have echoing : Echoing log x.2 := by rw [log_eq, course_eq]; exact stands.echoing
  have restless : (∃ result, x.2 = .ended result) ∨
      instants.length ≤ (echoRoom + 1) * log.countP Exchange.takesNothing := by
    rcases stands.busy with ended | long
    · exact .inl (by rwa [course_eq])
    · exact echoing.length_le.imp_right (Nat.le_trans (by rw [log_eq, long]; exact enough))
  refine ⟨Course.polls_recorded _ _ _ _, ?_, fun buffer full => ⟨steps.length, ?_⟩, ?_,
    fun well => (well ▸ echoing).of_ok, fun e failed => (failed ▸ echoing).of_error,
    fun z member e fails => echoing.heeds member fails, fun result ended now => ?_, restless,
    fun most ends long => ?_⟩
  · rw [log_eq]
    exact congrArg Prod.snd stands.tells
  · have sound : Copier.Sound ⟨buffer, .reading⟩ := ⟨full, fun _ _ writing => by cases writing⟩
    have copied := Copier.steps_course lawful.recorded sound (s := (s.inner, [])) steps
    have course : Copier.course ⟨buffer, .reading⟩ = start := rfl
    rw [course, inner] at copied
    rw [log_eq, course_eq, copied]
  · rw [log_eq]
    exact stands.behind
  · have there : x = (x.1, .ended result) := by rw [← ended]
    rw [there]
    exact Course.poll_ended _ _ _ result now
  · rcases restless, stands.count_le ends with ⟨ended | many, ended' | few⟩
    · exact ended
    · exact ended
    · rwa [course_eq]
    · have most_given := Nat.mul_le_mul_left (echoRoom + 1) few
      rw [log_eq] at many
      omega

end

/-- A peer that sends a little at a time, takes less than it is offered, and lets everybody wait now and
then. -/
def haltingPeer : Script where
  reads := [.data [1, 2, 3], .pending, .data [4], .endOfInput]
  writes := [.accept 2, .pending, .accept 1]
  shutdowns := [.pending]

/-- A connection to that peer over a tap. -/
def toHaltingPeer : Connection.Flow Script where
  hub := (Connection.Hub.create {} (.unix none) (.unix none) [] none).1.connected 0
  channel := { id := 0, stream := some ⟨haltingPeer, [.tap "t"]⟩ }

/-- An echo on that connection, with a log of what passes. -/
def echoToHaltingPeer (instants : List Nat) : (Connection.Flow Script × List Exchange) × Course :=
  instants.foldl (Course.poll (Connection.Flow.medium Script.medium).recorded fun x => x.1.hub.failing)
    ((toHaltingPeer, []), echo.start none none)

theorem halting_peer_gets_everything_back :
    ((echoToHaltingPeer [0, 1, 2, 3]).2 = .ended (.ok ()) ∧
        accepted (echoToHaltingPeer [0, 1, 2, 3]).1.2 = received (echoToHaltingPeer [0, 1, 2, 3]).1.2 ∧
        received (echoToHaltingPeer [0, 1, 2, 3]).1.2 = [1, 2, 3, 4]) ∧
      ∃ result, (echoToHaltingPeer (List.replicate ((echoRoom + 1) * 25 + 1) 0)).2 = .ended result := by
  have ends : haltingPeer.HasEnd := ⟨.endOfInput, by simp [haltingPeer], .inl rfl⟩
  have facts := fun instants => echo_gives_back_what_it_reads Script.medium_lawful (f := toHaltingPeer) rfl
    (fun f => f.hub.failing) none none instants
  have well : (echoToHaltingPeer [0, 1, 2, 3]).2 = .ended (.ok ()) := rfl
  obtain ⟨-, -, -, -, evenly, -⟩ := facts [0, 1, 2, 3]
  obtain ⟨-, -, -, -, -, -, -, -, -, ended⟩ := facts (List.replicate ((echoRoom + 1) * 25 + 1) 0)
  refine ⟨⟨well, (evenly well).1, rfl⟩, ended haltingPeer.weight (Script.endsWithin ends) ?_⟩
  · have weight : haltingPeer.weight = 12 := rfl
    rw [List.length_replicate, weight]
    exact Nat.lt_succ_self _

end StreamHost.Handler
