import StreamHost.Proofs.ConfigurationErrors
import StreamHost.Proofs.HandleLoss
import StreamHost.Proofs.SettingsRegistry

/-!
How far the longest timeout reaches. To bind a server, to connect a client and to dispose of a server takes
a deadline, and settings are held against the same length: what is longer is refused there for its length,
and nothing else is. To close a group or to build a TLS configuration takes a timeout too, but neither looks
at its length. Timeouts that are refused everywhere else pass there.
-/

namespace StreamHost

/-- Whether an error says that a timeout is too long. -/
def Error.isOverflow : Error → Bool
  | .arithmetic _ => true
  | _ => false

theorem Error.isConfiguration_of_isOverflow {e : Error} (overflow : e.isOverflow = true) :
    e.isConfiguration = true := by
  cases e with
  | arithmetic => rfl
  | configuration | bind | timeout | handshake | io => cases overflow

theorem Deadline.check_of_le {now : Nat} {d : Duration} (short : d ≤ maxTimeout) :
    check now d = .ok (now + d.nanos) :=
  check_eq_ok_iff.mpr ⟨short, rfl⟩

theorem Deadline.check_of_lt {now : Nat} {d : Duration} (overlong : maxTimeout < d) :
    check now d = .error (.arithmetic d) :=
  check_eq_error_iff.mpr ⟨overlong, rfl⟩

/-! ## Where a deadline is taken -/

section Deadlines

open Connection (Shared Hub)

variable {now : Nat} {d : Duration} {e : Error} {answer : Address.Target → Option Shared.Answer}

theorem Server.Blueprint.isOverflow_of_check {b : Server.Blueprint} (short : d ≤ Deadline.maxTimeout)
    (refused : b.check now d = .error e) : e.isOverflow = false := by
  unfold check at refused
  rw [Deadline.check_of_le short] at refused
  cases aimed : b.address.target with
  | error cause =>
    rw [aimed] at refused
    cases refused
    obtain ⟨reason, rfl⟩ := Address.Options.configuration_of_target aimed
    rfl
  | ok target =>
    rw [aimed] at refused
    by_cases none : b.maxConnections = 0
    · simp only [none, bind, Except.bind, if_true] at refused
      cases refused
      rfl
    · simp only [none, bind, Except.bind, if_false] at refused
      cases refused

theorem Host.bindWith_overlong {h : Host} {b : Server.Blueprint} (overlong : Deadline.maxTimeout < d) :
    h.bindWith b d answer = some (.error (.arithmetic d)) := by
  have refused : b.check h.shared.now d = .error (.arithmetic d) := by
    rw [Server.Blueprint.check, Deadline.check_of_lt overlong]
    rfl
  simp [bindWith, refused]

theorem Host.isOverflow_of_bindWith {h : Host} {b : Server.Blueprint} (short : d ≤ Deadline.maxTimeout)
    (refused : h.bindWith b d answer = some (.error e)) : e.isOverflow = false := by
  refine Bool.eq_false_iff.mpr fun overflow => ?_
  -- The network is not asked before such an error, so it may as well be silent.
  have silent := bindWith_failed refused (Error.isConfiguration_of_isOverflow overflow) fun _ => none
  unfold bindWith at silent
  cases checked : b.check h.shared.now d with
  | error cause =>
    simp only [checked] at silent
    cases silent
    simp [Server.Blueprint.isOverflow_of_check short checked] at overflow
  | ok target =>
    simp only [checked] at silent
    cases silent
    cases overflow

namespace Client.Dialing

variable {b : Blueprint} {s : Shared}

theorem startWith_overlong (overlong : Deadline.maxTimeout < d) :
    startWith b s d answer = (s, .failed (.arithmetic d)) := by
  simp [startWith, Deadline.check_of_lt overlong]

theorem isOverflow_of_startWith (short : d ≤ Deadline.maxTimeout)
    (failed : (startWith b s d answer).2 = .failed e) : e.isOverflow = false := by
  refine Bool.eq_false_iff.mpr fun overflow => ?_
  rcases startWith_failed failed (Error.isConfiguration_of_isOverflow overflow) with untouched | late
  · have silent := untouched fun _ => none
    unfold startWith at silent
    cases aimed : b.target with
    | error cause =>
      simp only [Deadline.check_of_le short, aimed] at silent
      cases silent
      obtain ⟨reason, rfl⟩ := Blueprint.configuration_of_target aimed
      cases overflow
    | ok target =>
      simp only [Deadline.check_of_le short, aimed] at silent
      cases silent
      cases overflow
  · obtain ⟨_, _, _, _, -, -, ⟨security, -, unnamed⟩, -⟩ := late
    obtain ⟨reason, rfl⟩ := Security.configuration_of_serverNameFor unnamed
    cases overflow

/-- Nothing that comes later in a client's attempt finds the limit too long. -/
theorem Goes.isOverflow {id : Nat} {u : Shared} (short : d ≤ Deadline.maxTimeout)
    (goes : Goes b id (startWith b s d answer) (u, some (.failed e))) : e.isOverflow = false := by
  refine Bool.eq_false_iff.mpr fun overflow => ?_
  have started := goes.failed_at_start rfl (Error.isConfiguration_of_isOverflow overflow)
  simp [isOverflow_of_startWith short started] at overflow

end Client.Dialing

namespace Server

variable {h : Hub} {s : Server}

theorem dispose_short (short : d ≤ Deadline.maxTimeout) : s.dispose now d = { s with
    signal := s.signal.trigger
    handle := .stopping d ⟨now + d.nanos⟩ } := by
  simp [dispose, Deadline.check_of_le short]

theorem disposal_enroll (client : Address.Endpoint) : (enroll h s client).2.disposal = s.disposal := by
  unfold enroll
  dsimp only
  split <;> rfl

/-- A turn of the loop has nothing to do with a disposal. -/
theorem disposal_turn (client : Option Address.Endpoint) : (turn h s client).2.disposal = s.disposal := by
  have acquired : s.acquire.disposal = s.disposal := by
    unfold acquire
    split <;> rfl
  unfold turn
  by_cases ended : s.loopEnded = true
  · rw [if_pos ended]
  rw [if_neg ended]
  by_cases pauses : s.pause?.isSome = true
  · rw [if_pos pauses]
  rw [if_neg pauses]
  by_cases signalled : s.signal.isOver = true
  · rw [if_pos signalled]
    rfl
  rw [if_neg signalled]
  dsimp only
  split
  · exact (disposal_enroll _).trans acquired
  · exact acquired

/-- How a disposal ended is up to whoever begins it and whoever waits for it. -/
theorem disposal_step (h : Hub) (s : Server) (op : Op) : (step h s op).2.disposal = s.disposal ∨
    (∃ now limit, op = .dispose now limit) ∨ ∃ now, op = .drain now := by
  cases op with
  | dispose now limit => exact .inr (.inl ⟨now, limit, rfl⟩)
  | drain now => exact .inr (.inr ⟨now, rfl⟩)
  | turn client => exact .inl (disposal_turn client)
  | fault now =>
    refine .inl ?_
    rcases fault_eq s now with waits | ⟨-, goes⟩
    · rw [step, waits]
    · rw [step, goes]
  | resume now =>
    refine .inl ?_
    rcases resume_eq s now with waits | ⟨-, goes⟩
    · rw [step, waits]
    · rw [step, goes]
  | finish id =>
    refine .inl ?_
    simp only [step, finish]
    split <;> rfl
  | addCallback name =>
    refine .inl ?_
    simp only [step]
    split <;> rfl
  | abandon =>
    refine .inl ?_
    simp only [step, abandon]
    split
    · rw [release_snd]
    · rw [release_snd]
    · rfl
  | leave =>
    refine .inl ?_
    simp only [step]
    split <;> rfl
  | depart =>
    refine .inl ?_
    simp only [step, depart]
    split
    · split
      · rw [release_snd]
      · rfl
    · rfl

/-- A disposal fails for the length of its limit when it begins, or never. -/
theorem step_overflow {op : Op} (ended : (step h s op).2.disposal = some (.error e))
    (overflow : e.isOverflow = true) : s.disposal = some (.error e) ∨
      ∃ now limit, op = .dispose now limit ∧ Deadline.maxTimeout < limit ∧ e = .arithmetic limit := by
  rcases disposal_step h s op with same | ⟨now, limit, rfl⟩ | ⟨now, rfl⟩
  · exact .inl (same.symm.trans ended)
  · simp only [step] at ended
    split at ended
    · by_cases overlong : Deadline.maxTimeout < limit
      · rw [dispose_overlong overlong] at ended
        cases ended
        exact .inr ⟨now, limit, rfl, overlong, rfl⟩
      · rw [dispose_short (Nat.le_of_not_lt overlong)] at ended
        exact .inl ended
    · exact .inl ended
  · -- What is waited for ends well or too late.
    simp only [step] at ended
    rcases drain_cases h s now with ⟨waits, -⟩ |
      ⟨limit, alarm, -, ⟨-, ends⟩ | ⟨_, -, -, -, late⟩ | ⟨_, -, -, -, goes⟩⟩
    · rw [waits] at ended
      exact .inl ended
    · rw [ends, conclude_snd] at ended
      cases ended
    · rw [late, conclude_snd] at ended
      cases ended
      cases overflow
    · rw [goes] at ended
      exact .inl ended

end Server

end Deadlines

/-! ## Settings -/

namespace Config

variable {c : Server} {field : String}

theorem ne_tooLarge {text : String} (first : text.toList.head? ≠ some 't') : "too large" ≠ text := by
  rintro rfl
  simp at first

theorem configuration_ne_tooLarge {reason : String} : "too large" ≠ "configuration error: " ++ reason :=
  ne_tooLarge (by simp)

/-- The timeouts in settings: their fields, and how many milliseconds they are. -/
def Server.timeouts (c : Server) : List (String × Nat) :=
  [("listener.bind_timeout_ms", c.listener.bindTimeoutMs)] ++
    (c.tls.map fun t => [("tls.handshake_timeout_ms", t.handshakeTimeoutMs)]).getD [] ++
    [("shutdown.drain_timeout_ms", c.shutdown.drainTimeoutMs)]

theorem mem_checkTimeout_iff {name : String} {ms : Nat} :
    ⟨field, "too large"⟩ ∈ checkTimeout name ms ↔
      field = name ∧ Deadline.maxTimeout < Duration.ofMillis ms := by
  unfold checkTimeout
  by_cases zero : ms = 0
  · subst zero
    simp [Duration.lt_def, Duration.ofMillis]
  · rw [if_neg zero]
    by_cases overlong : Deadline.maxTimeout < Duration.ofMillis ms
    · simp [overlong]
    · simp [overlong]

theorem tooLarge_notMem_checkDomains {index : Nat} {seen : List Names.Pattern} {es : List SniEntry} :
    ⟨field, "too large"⟩ ∉ checkDomains index seen es := by
  induction es generalizing index seen with
  | nil => simp [checkDomains]
  | cons e rest ih =>
    cases read : Names.Pattern.parse e.domain with
    | error err =>
      simp only [checkDomains, read, List.mem_cons, Violation.mk.injEq, not_or, not_and]
      exact ⟨fun _ => configuration_ne_tooLarge, ih⟩
    | ok p =>
      simp only [checkDomains, read]
      by_cases known : seen.contains p = true
      · rw [if_pos known]
        simp only [List.mem_cons, Violation.mk.injEq, not_or, not_and]
        exact ⟨fun _ => ne_tooLarge (by simp), ih⟩
      · rw [if_neg known]
        exact ih

theorem tooLarge_mem_checkTls_iff {t : Tls} : ⟨field, "too large"⟩ ∈ checkTls t ↔
    field = "tls.handshake_timeout_ms" ∧ Deadline.maxTimeout < Duration.ofMillis t.handshakeTimeoutMs := by
  have alpn : ⟨field, "too large"⟩ ∉ checkAlpn t := by
    unfold checkAlpn
    split <;> simp
  simp only [checkTls, List.mem_append, mem_checkTimeout_iff, alpn, tooLarge_notMem_checkDomains, or_false]

/-- Whether a timeout is too long is said by the rule for its field, and no other rule says so. -/
theorem tooLarge_mem_violations_iff : ⟨field, "too large"⟩ ∈ violations c ↔
    ∃ ms, (field, ms) ∈ c.timeouts ∧ Deadline.maxTimeout < Duration.ofMillis ms := by
  have address : ⟨field, "too large"⟩ ∉ checkAddress c.listener := by
    unfold checkAddress
    cases aimed : c.listener.addressOptions.target with
    | ok => simp
    | error e =>
      obtain ⟨reason, rfl⟩ := StreamHost.Address.Options.configuration_of_target aimed
      simp only [List.mem_singleton, Violation.mk.injEq, not_and]
      exact fun _ => configuration_ne_tooLarge
  have places : ⟨field, "too large"⟩ ∉ checkMaxConnections c.listener := by
    unfold checkMaxConnections
    split <;> simp
  have level : ⟨field, "too large"⟩ ∉ checkLogLevel c.observability := by
    unfold checkLogLevel
    cases Log.Filter.parse c.observability.logLevel with
    | ok => simp
    | error e =>
      simp only [List.mem_singleton, Violation.mk.injEq, not_and]
      exact fun _ => configuration_ne_tooLarge
  have metrics : ⟨field, "too large"⟩ ∉ checkMetricsAddress c.observability := by
    unfold checkMetricsAddress
    split
    · simp only [List.mem_singleton, Violation.mk.injEq, not_and]
      exact fun _ => ne_tooLarge (by simp)
    · simp
  simp only [violations, List.mem_append, address, places, level, metrics, mem_checkTimeout_iff, false_or,
    or_false]
  cases secured : c.tls with
  | none =>
    simp only [Server.timeouts, secured, Option.map_none, Option.getD_none]
    grind
  | some t =>
    simp only [Server.timeouts, secured, Option.map_some, Option.getD_some, tooLarge_mem_checkTls_iff]
    grind

end Config

/-! ## Where the length of a timeout is not looked at -/

/-- The timeout of a TLS configuration has no part in whether it can be built, as long as there is one. -/
theorem Tls.Configuration.build_timeout (r : Request) {d other : Duration} (positive : 0 < d.nanos)
    (alike : 0 < other.nanos) : build { r with timeout := d } =
      (build { r with timeout := other }).map fun c => { c with timeout := d } := by
  unfold build
  cases r.chain with
  | nil => rfl
  | cons certificate chain =>
    simp only [if_neg (Nat.ne_of_gt positive), if_neg (Nat.ne_of_gt alike)]
    cases resolveSuites r.suiteNames with
    | error cause => rfl
    | ok named =>
      simp only [bind, Except.bind]
      generalize (if r.suiteNames.isEmpty = true then Suite.preferred else named) = suites
      by_cases usable : (suites.any fun s => (resolveVersions r.versions).contains s.version) = true
      · rw [if_pos usable, if_pos usable]
        cases matchKey certificate r.key with
        | error cause => rfl
        | ok publicKey => rfl
      · rw [if_neg usable, if_neg usable]
        rfl

theorem Alarm.not_isOver_after {now : Nat} {d : Duration} (positive : 0 < d.nanos) :
    (after now d).isOver now = false := by
  refine Bool.eq_false_iff.mpr fun late => ?_
  have reached := instant_le_of_isOver late
  unfold after farFuture at reached
  split at reached
  · exact absurd reached (by simp only; omega)
  · exact absurd reached (by simp only; omega)

/-- A group that is closed is not closed too late at once, however long or short the limit is. -/
theorem Connection.Waiter.close_starts {now g : Nat} {h : Hub} {d : Duration} (positive : 0 < d.nanos) :
    (poll now h (.close g d none)).2 =
      if ((h.closeAll g).1.members g).isEmpty then .ended (.ok ())
      else .waiting (.close g d (some (Alarm.after now d))) := by
  simp only [poll, Option.isNone_none, if_true, Option.getD_none, Alarm.not_isOver_after positive,
    Bool.false_eq_true, if_false]
  split <;> rfl

/-! ## All of them -/

open Connection (Shared Hub Waiter)

/-- What is refused at `now` for a limit that is too long. -/
structure Deadline.Refuses (now : Nat) (d : Duration) : Prop where
  bind : ∀ (h : Host) b answer, h.shared.now = now → h.bindWith b d answer = some (.error (.arithmetic d))
  connect : ∀ b (s : Shared) answer, s.now = now →
    Client.Dialing.startWith b s d answer = (s, .failed (.arithmetic d))
  dispose : ∀ s : Server, (s.dispose now d).disposal = some (.error (.arithmetic d))

/-- What is not refused at `now` for the length of a limit, neither when it is asked for nor later. -/
structure Deadline.Takes (now : Nat) (d : Duration) : Prop where
  clock : now + d.nanos ≤ Alarm.lastInstant
  bind : ∀ (h : Host) b answer e, h.shared.now = now →
    h.bindWith b d answer = some (.error e) → e.isOverflow = false
  connect : ∀ b (s : Shared) answer id u e, s.now = now →
    Client.Dialing.Goes b id (Client.Dialing.startWith b s d answer) (u, some (.failed e)) →
    e.isOverflow = false
  dispose : ∀ (h : Hub) (s : Server) op e, (∀ start limit, op = .dispose start limit → limit = d) →
    (s.step h op).2.disposal = some (.error e) → s.disposal = some (.error e) ∨ e.isOverflow = false

theorem Deadline.refuses {now : Nat} {d : Duration} (overlong : maxTimeout < d) : Refuses now d where
  bind _ _ _ _ := Host.bindWith_overlong overlong
  connect _ _ _ _ := Client.Dialing.startWith_overlong overlong
  dispose s := by rw [s.dispose_overlong overlong]

theorem Deadline.takes {now : Nat} {d : Duration} (range : InRange now) (short : d ≤ maxTimeout) :
    Takes now d where
  clock := by
    have bounded : d.nanos ≤ maxTimeout.nanos := short
    unfold InRange at range
    omega
  bind _ _ _ _ _ refused := Host.isOverflow_of_bindWith short refused
  connect _ _ _ _ _ _ _ goes := goes.isOverflow short
  dispose h s op e asks ended := by
    cases overflow : e.isOverflow with
    | false => exact .inr rfl
    | true =>
      rcases Server.step_overflow ended overflow with before | ⟨start, limit, begins, overlong, -⟩
      · exact .inl before
      · rw [asks start limit begins] at overlong
        exact absurd short (Nat.not_le_of_lt overlong)

/-- A close that fails was not done in time. -/
theorem Connection.Waiter.close_error {now g : Nat} {h : Hub} {d : Duration} {alarm : Option Alarm}
    {e : Error} (failed : (poll now h (.close g d alarm)).2 = .ended (.error e)) :
    e = .timeout "connection group close" d := by
  simp only [poll] at failed
  repeat' split at failed
  all_goals
    cases failed
  all_goals rfl

/-- Binding, connecting and disposing refuse the timeouts that settings refuse as too long, and no others.
Closing a group and building a TLS configuration refuse no timeout for its length. -/
theorem all_but_two_refuse_overlong_timeouts (now : Nat) (d : Duration) (range : Deadline.InRange now) :
    (Deadline.maxTimeout < d → Deadline.Refuses now d) ∧
    (d ≤ Deadline.maxTimeout → Deadline.Takes now d) ∧
    (∀ c field, ⟨field, "too large"⟩ ∈ Config.violations c ↔
      ∃ ms, (field, ms) ∈ c.timeouts ∧ Deadline.maxTimeout < Duration.ofMillis ms) ∧
    (∀ (h : Hub) g alarm e, (Waiter.poll now h (.close g d alarm)).2 = .ended (.error e) →
      e = .timeout "connection group close" d ∧ (alarm = none → d.nanos = 0)) ∧
    ∀ (r : Tls.Request) (other : Duration), 0 < d.nanos → 0 < other.nanos →
      Tls.Configuration.build { r with timeout := d } =
        (Tls.Configuration.build { r with timeout := other }).map fun c => { c with timeout := d } := by
  refine ⟨Deadline.refuses, Deadline.takes range, fun _ _ => Config.tooLarge_mem_violations_iff, ?_, ?_⟩
  · intro h g alarm e failed
    refine ⟨Waiter.close_error failed, ?_⟩
    rintro rfl
    refine Nat.eq_zero_of_not_pos fun positive => ?_
    rw [Waiter.close_starts positive] at failed
    split at failed
    · cases failed
    · cases failed
  · intro r other positive alike
    exact Tls.Configuration.build_timeout r positive alike

/-- On either side of the longest timeout, in nanoseconds and in milliseconds. -/
theorem longest_timeout_is_taken :
    Deadline.Takes 0 ⟨9223372036854775807⟩ ∧ Deadline.Refuses 0 ⟨9223372036854775808⟩ ∧
    ⟨"listener.bind_timeout_ms", "too large"⟩ ∉ Config.violations Config.patient ∧
    ⟨"shutdown.drain_timeout_ms", "too large"⟩ ∈
      Config.violations { shutdown := { drainTimeoutMs := 9223372036855 } } := by
  have range : Deadline.InRange 0 := by
    unfold Deadline.InRange
    decide
  have last := all_but_two_refuse_overlong_timeouts 0 ⟨9223372036854775807⟩ range
  have first := all_but_two_refuse_overlong_timeouts 0 ⟨9223372036854775808⟩ range
  refine ⟨last.2.1 (by decide), first.1 (by decide), ?_, ?_⟩
  · rw [last.2.2.1]
    rintro ⟨ms, given, overlong⟩
    obtain rfl : ms = 9223372036854 := by
      simpa [Config.Server.timeouts, Config.patient] using given
    exact absurd overlong (by decide)
  · rw [last.2.2.1]
    exact ⟨9223372036855, by simp [Config.Server.timeouts], by decide⟩

/-- The longest timeout that can be written down. -/
def Duration.longest : Duration := ⟨18446744073709551615 * 1000000000 + 999999999⟩

/-- A request for a TLS configuration with that timeout. -/
def Tls.Request.endless : Request where
  chain := [Config.baseCertificate 1]
  key := Config.baseKey
  timeout := Duration.longest

/-- A group is closed, and a TLS configuration is built, with a timeout that is refused everywhere else. -/
theorem overlong_timeout_is_taken :
    Deadline.maxTimeout < Duration.longest ∧
    (Waiter.poll 0 ({} : Hub).newGroup.1 (.close 0 Duration.longest none)).2 = .ended (.ok ()) ∧
    ∃ c, Tls.Configuration.build Tls.Request.endless = .ok c := by
  refine ⟨by decide, rfl, ?_⟩
  have builds : (Tls.Configuration.build Tls.Request.endless).toBool = true := by decide +kernel
  cases built : Tls.Configuration.build Tls.Request.endless with
  | error e =>
    rw [built] at builds
    cases builds
  | ok c => exact ⟨c, rfl⟩

end StreamHost
