import StreamHost.Program.Serve

/-!
Settings are checked when they are read, and what they say is checked again where it is used: when a
server is bound or disposed, when a registry is built, and when the metrics are opened. The two agree.
Settings that pass are refused by no later check, in particular no timeout that they accept is too long
for a deadline; and the timeouts that they accept are, apart from zero, the ones that have a deadline.
-/

namespace StreamHost

/-! ## Deadlines -/

/-- A timeout that starts at `now` is accepted, and the clock can express its end. -/
def Deadline.Fits (now : Nat) (d : Duration) : Prop :=
  ∃ t, Deadline.check now d = .ok t ∧ t ≤ Alarm.lastInstant

/-- The clock can express the end of the longest timeout that starts at `now`. -/
def Deadline.InRange (now : Nat) : Prop := now + Deadline.maxTimeout.nanos ≤ Alarm.lastInstant

theorem Deadline.fits_iff {now : Nat} {d : Duration} (range : Deadline.InRange now) :
    Deadline.Fits now d ↔ d ≤ Deadline.maxTimeout := by
  constructor
  · rintro ⟨t, accepted, -⟩
    exact (Deadline.check_eq_ok_iff.mp accepted).1
  · intro short
    refine ⟨now + d.nanos, Deadline.check_eq_ok_iff.mpr ⟨short, rfl⟩, ?_⟩
    have bounded : d.nanos ≤ Deadline.maxTimeout.nanos := short
    unfold Deadline.InRange at range
    omega

/-! ## Patterns -/

/-- Adding an entry fails only if its pattern cannot be read. -/
theorem Names.RegistryBuilder.add_eq {α : Type} (b : Names.RegistryBuilder α) (raw : String) (a : α) :
    b.add raw a =
      (Names.Pattern.parse raw).map fun p => { b with entries := b.entries.insert p a } := by
  cases read : Names.Pattern.parse raw with
  | error e =>
    simp only [add, step, edit, read]
    rfl
  | ok p =>
    simp only [add, step, edit, read]
    rfl

/-! ## The timeout of a TLS configuration -/

namespace Tls.Configuration

theorem unknownSuite_of_resolveSuites {names : List String} {r : Refusal}
    (refused : resolveSuites names = .error r) : ∃ name, r = .unknownSuite name := by
  induction names with
  | nil => cases refused
  | cons name rest ih =>
    unfold resolveSuites at refused
    cases known : Suite.ofName? name with
    | none =>
      simp only [known, Except.error.injEq] at refused
      exact ⟨name, refused.symm⟩
    | some s =>
      simp only [known] at refused
      cases later : resolveSuites rest with
      | error cause =>
        rw [later] at refused
        obtain rfl : cause = r := Except.error.inj refused
        exact ih later
      | ok suites =>
        rw [later] at refused
        cases refused

theorem ne_zeroTimeout_of_matchKey {certificate : Bytes} {key : PrivateKey} {r : Refusal}
    (refused : matchKey certificate key = .error r) : r ≠ .zeroTimeout := by
  unfold matchKey at refused
  cases derived : key.publicKey? with
  | none =>
    simp only [derived] at refused
    cases refused
    exact nofun
  | some k =>
    cases read : Certificate.ofDer certificate with
    | error flaw =>
      simp only [derived, read] at refused
      cases refused
      exact nofun
    | ok c =>
      simp only [derived, read] at refused
      split at refused
      · cases refused
      · cases refused
        exact nofun

/-- A request is refused for its timeout only if that is zero. -/
theorem timeout_of_zeroTimeout {r : Request} (refused : build r = .error .zeroTimeout) :
    r.timeout.nanos = 0 := by
  refine Decidable.byContradiction fun positive => ?_
  unfold build at refused
  cases given : r.chain with
  | nil =>
    simp only [given] at refused
    cases refused
  | cons certificate chain =>
    simp only [given, if_neg positive] at refused
    cases named : resolveSuites r.suiteNames with
    | error cause =>
      obtain ⟨name, rfl⟩ := unknownSuite_of_resolveSuites named
      rw [named] at refused
      cases refused
    | ok suites =>
      simp only [named, bind, Except.bind] at refused
      generalize (if r.suiteNames.isEmpty = true then Suite.preferred else suites) = offered at refused
      split at refused
      · cases fits : matchKey certificate r.key with
        | error cause =>
          simp only [fits] at refused
          exact ne_zeroTimeout_of_matchKey fits (Except.error.inj refused)
        | ok k =>
          simp only [fits] at refused
          cases refused
      · cases refused

end Tls.Configuration

namespace Config

variable {c : Server} {l : Listener} {t : Tls} {o : Observability} {es : List SniEntry} {ms now : Nat}

/-! ## The rules one by one -/

theorem checkAddress_eq_nil_iff : checkAddress l = [] ↔ ∃ target, l.addressOptions.target = .ok target := by
  unfold checkAddress
  cases l.addressOptions.target <;> simp

theorem checkMaxConnections_eq_nil_iff : checkMaxConnections l = [] ↔ l.maxConnections ≠ 0 := by
  unfold checkMaxConnections
  split <;> simp_all

theorem checkLogLevel_eq_nil_iff : checkLogLevel o = [] ↔ ∃ f, Log.Filter.parse o.logLevel = .ok f := by
  unfold checkLogLevel
  cases Log.Filter.parse o.logLevel <;> simp

theorem checkMetricsAddress_eq_nil_iff : checkMetricsAddress o = [] ↔
    (o.metricsEnabled = true → ∃ a, Address.SocketAddress.parse? o.metricsAddress = some a) := by
  unfold checkMetricsAddress
  cases o.metricsEnabled <;> cases Address.SocketAddress.parse? o.metricsAddress <;> simp

/-- Domains pass if they are patterns, all different, and different from the ones before. -/
theorem checkDomains_eq_nil_iff {index : Nat} {seen : List Names.Pattern} :
    checkDomains index seen es = [] ↔
      ∃ ps : List Names.Pattern, es.map (fun e => Names.Pattern.parse e.domain) = ps.map .ok ∧
        ps.Nodup ∧ ∀ p ∈ ps, p ∉ seen := by
  induction es generalizing index seen with
  | nil =>
    constructor
    · intro
      exact ⟨[], rfl, List.nodup_nil, by simp⟩
    · intro
      rfl
  | cons e rest ih =>
    cases read : Names.Pattern.parse e.domain with
    | error err =>
      constructor
      · intro passes
        simp [checkDomains, read] at passes
      · rintro ⟨ps, same, -⟩
        cases ps <;> simp [read] at same
    | ok p =>
      by_cases known : seen.contains p = true
      · constructor
        · intro passes
          simp [checkDomains, read, List.contains_iff_mem.mp known] at passes
        · rintro ⟨ps, same, -, fresh⟩
          cases ps with
          | nil => simp at same
          | cons q qs =>
            obtain ⟨first, -⟩ := List.cons.inj same
            obtain rfl := Except.ok.inj (read.symm.trans first)
            exact absurd (List.contains_iff_mem.mp known) (fresh p List.mem_cons_self)
      · have unknown : p ∉ seen := fun member => known (List.contains_iff_mem.mpr member)
        have goes : checkDomains index seen (e :: rest) = checkDomains (index + 1) (p :: seen) rest := by
          simp only [checkDomains, read, if_neg known]
        rw [goes, ih]
        constructor
        · rintro ⟨ps, same, once, fresh⟩
          refine ⟨p :: ps, ?_, ?_, ?_⟩
          · rw [List.map_cons, List.map_cons, read, same]
          · refine List.nodup_cons.mpr ⟨?_, once⟩
            intro member
            exact fresh p member List.mem_cons_self
          · intro q member
            cases List.mem_cons.mp member with
            | inl first => exact first ▸ unknown
            | inr later => exact fun old => fresh q later (List.mem_cons_of_mem _ old)
        · rintro ⟨ps, same, once, fresh⟩
          cases ps with
          | nil => simp at same
          | cons q qs =>
            obtain ⟨first, later⟩ := List.cons.inj same
            obtain rfl := Except.ok.inj (read.symm.trans first)
            obtain ⟨new, once⟩ := List.nodup_cons.mp once
            refine ⟨qs, later, once, ?_⟩
            intro r member old
            cases List.mem_cons.mp old with
            | inl same => exact new (same ▸ member)
            | inr old => exact fresh r (List.mem_cons_of_mem _ member) old

/-! ## All rules together -/

/-- What settings without violations say. -/
structure Server.Sound (c : Server) : Prop where
  address : ∃ target, c.listener.addressOptions.target = .ok target
  places : c.listener.maxConnections ≠ 0
  bindTimeout : checkTimeout "listener.bind_timeout_ms" c.listener.bindTimeoutMs = []
  tls : ∀ t, c.tls = some t → checkTls t = []
  drainTimeout : checkTimeout "shutdown.drain_timeout_ms" c.shutdown.drainTimeoutMs = []
  logLevel : ∃ f, Log.Filter.parse c.observability.logLevel = .ok f
  metricsAddress : c.observability.metricsEnabled = true →
    ∃ a, Address.SocketAddress.parse? c.observability.metricsAddress = some a

theorem sound_of_validate (accepted : validate c = .ok ()) : c.Sound := by
  have none := validate_eq_ok_iff.mp accepted
  unfold violations at none
  simp only [List.append_eq_nil_iff] at none
  obtain ⟨⟨⟨⟨⟨⟨address, places⟩, bind⟩, tls⟩, drain⟩, level⟩, metrics⟩ := none
  refine ⟨checkAddress_eq_nil_iff.mp address, checkMaxConnections_eq_nil_iff.mp places, bind, ?_, drain,
    checkLogLevel_eq_nil_iff.mp level, checkMetricsAddress_eq_nil_iff.mp metrics⟩
  intro t given
  simpa [given] using tls

/-- The patterns of a TLS section that passes, one for each entry and no two the same. -/
theorem patterns_of_checkTls (passes : checkTls t = []) :
    ∃ ps : List Names.Pattern, t.sni.map (fun e => Names.Pattern.parse e.domain) = ps.map .ok ∧
      ps.Nodup := by
  unfold checkTls at passes
  simp only [List.append_eq_nil_iff] at passes
  obtain ⟨ps, same, once, -⟩ := checkDomains_eq_nil_iff.mp passes.2
  exact ⟨ps, same, once⟩

theorem timeout_of_checkTls (passes : checkTls t = []) : 0 < t.handshakeTimeoutMs := by
  unfold checkTls at passes
  simp only [List.append_eq_nil_iff] at passes
  exact (checkTimeout_eq_nil_iff.mp passes.1.1).1

/-! ## The checks that come later -/

/-- No check of settings that comes after they were read refuses them at `now`. -/
structure Server.PassesLater (c : Server) (now : Nat) : Prop where
  address : ∃ target, c.listener.addressOptions.target = .ok target
  bindTimeout : Deadline.Fits now c.listener.bindTimeout
  drainTimeout : Deadline.Fits now c.shutdown.drainTimeout
  /-- Nothing is found wrong with the server that they describe before it is bound. -/
  bind : ∀ files b, StreamHost.Server.Blueprint.ofConfig files c = .ok b ∨
    Program.Serve.blueprint files c = .ok b → ∃ target, b.check now c.listener.bindTimeout = .ok target
  /-- The domains can be added to any registry in the making. -/
  domains : ∀ t, c.tls = some t → ∀ e ∈ t.sni, ∀ (b : StreamHost.Tls.RegistryBuilder) x,
    ∃ more, b.add e.domain x = .ok more
  /-- No certificate, key or suite brings a refusal for the handshake timeout about. -/
  handshakeTimeout : ∀ t, c.tls = some t → ∀ r : StreamHost.Tls.Request,
    r.timeout = Duration.ofMillis t.handshakeTimeoutMs →
      StreamHost.Tls.Configuration.build r ≠ .error .zeroTimeout
  metricsAddress : c.observability.metricsEnabled = true →
    ∃ a, Address.SocketAddress.parse? c.observability.metricsAddress = some a
  logLevel : ∃ f, Log.Filter.parse c.observability.logLevel = .ok f

theorem ofConfig_address {files : Files} {b : StreamHost.Server.Blueprint}
    (made : StreamHost.Server.Blueprint.ofConfig files c = .ok b) :
    b.address = c.listener.addressOptions ∧ b.maxConnections = c.listener.maxConnections := by
  unfold StreamHost.Server.Blueprint.ofConfig at made
  cases built : c.tls.mapM (buildRegistry files) with
  | error e =>
    rw [built] at made
    cases made
  | ok registry =>
    rw [built] at made
    cases made
    exact ⟨rfl, rfl⟩

theorem blueprint_address {files : Files} {b : StreamHost.Server.Blueprint}
    (made : Program.Serve.blueprint files c = .ok b) :
    b.address = c.listener.addressOptions ∧ b.maxConnections = c.listener.maxConnections := by
  unfold Program.Serve.blueprint at made
  cases described : StreamHost.Server.Blueprint.ofConfig files c with
  | error e =>
    rw [described] at made
    cases made
  | ok plain =>
    rw [described] at made
    obtain rfl := Except.ok.inj made
    exact ⟨(ofConfig_address described).1, (ofConfig_address described).2⟩

/-- A server passes the checks before it is bound if its limit, its address and its number of places do. -/
theorem check_of_fits {b : StreamHost.Server.Blueprint} {limit : Duration} {target : Address.Target}
    (fits : Deadline.Fits now limit) (aimed : b.address.target = .ok target)
    (places : b.maxConnections ≠ 0) : b.check now limit = .ok target := by
  obtain ⟨t, accepted, -⟩ := fits
  simp [StreamHost.Server.Blueprint.check, accepted, aimed, places, bind, Except.bind, pure, Except.pure]

/-- A timeout passes when settings are read if and only if it is not zero and has a deadline. -/
theorem checkTimeout_iff_fits (range : Deadline.InRange now) (field : String) :
    checkTimeout field ms = [] ↔ 0 < ms ∧ Deadline.Fits now (Duration.ofMillis ms) := by
  rw [checkTimeout_eq_nil_iff, Deadline.fits_iff range]

theorem Server.Sound.passesLater (sound : c.Sound) (range : Deadline.InRange now) :
    c.PassesLater now := by
  have bindFits : Deadline.Fits now c.listener.bindTimeout :=
    ((checkTimeout_iff_fits range _).mp sound.bindTimeout).2
  have drainFits : Deadline.Fits now c.shutdown.drainTimeout :=
    ((checkTimeout_iff_fits range _).mp sound.drainTimeout).2
  refine ⟨sound.address, bindFits, drainFits, ?_, ?_, ?_, sound.metricsAddress, sound.logLevel⟩
  · intro files b made
    obtain ⟨target, aimed⟩ := sound.address
    have same : b.address = c.listener.addressOptions ∧ b.maxConnections = c.listener.maxConnections := by
      cases made with
      | inl described => exact ofConfig_address described
      | inr served => exact blueprint_address served
    have places : b.maxConnections ≠ 0 := same.2 ▸ sound.places
    exact ⟨target, check_of_fits bindFits (same.1 ▸ aimed) places⟩
  · intro t given e member b x
    obtain ⟨ps, same, -⟩ := patterns_of_checkTls (sound.tls t given)
    have listed : Names.Pattern.parse e.domain ∈ ps.map .ok := by
      rw [← same]
      exact List.mem_map_of_mem member
    obtain ⟨p, -, read⟩ := List.mem_map.mp listed
    rw [Names.RegistryBuilder.add_eq, ← read]
    exact ⟨_, rfl⟩
  · intro t given r timed refused
    have zero : r.timeout.nanos = 0 := StreamHost.Tls.Configuration.timeout_of_zeroTimeout refused
    have positive : 0 < t.handshakeTimeoutMs := timeout_of_checkTls (sound.tls t given)
    rw [timed] at zero
    simp only [Duration.ofMillis] at zero
    omega

/-! ## Where settings come from -/

theorem validate_of_parse {text : String} (read : parse text = .ok c) : validate c = .ok () := by
  unfold parse at read
  split at read
  · cases read
  · split at read
    · cases read
    · split at read
      · cases read
      · rename_i accepted
        cases read
        exact accepted

theorem validate_of_settings {files : Files} {a : Program.Serve.Arguments}
    (settled : Program.Serve.settings files a = .ok c) : validate c = .ok () := by
  unfold Program.Serve.settings at settled
  cases named : a.config with
  | none =>
    simp only [named, pure_bind] at settled
    split at settled
    · rename_i accepted
      exact Except.ok.inj settled ▸ accepted
    · cases settled
  | some path =>
    cases read : load files path with
    | error e =>
      simp only [named, read] at settled
      cases settled
    | ok plain =>
      simp only [named, read, bind, Except.bind] at settled
      split at settled
      · rename_i accepted
        exact Except.ok.inj settled ▸ accepted
      · cases settled

/-- Settings that pass, as those that are read and those that a program runs with do, are refused by no
later check, and timeouts pass if and only if they are positive and have a deadline. -/
theorem accepted_settings_pass_later (now : Nat) (range : Deadline.InRange now) :
    (∀ c, validate c = .ok () → c.PassesLater now) ∧
    (∀ text c, parse text = .ok c → c.PassesLater now) ∧
    (∀ files a c, Program.Serve.settings files a = .ok c → c.PassesLater now) ∧
    ∀ field ms, checkTimeout field ms = [] ↔ 0 < ms ∧ Deadline.Fits now (Duration.ofMillis ms) := by
  refine ⟨?_, ?_, ?_, ?_⟩
  · intro c accepted
    exact (sound_of_validate accepted).passesLater range
  · intro text c read
    exact (sound_of_validate (validate_of_parse read)).passesLater range
  · intro files a c settled
    exact (sound_of_validate (validate_of_settings settled)).passesLater range
  · intro field ms
    exact checkTimeout_iff_fits range field

/-- Settings with the longest timeouts that there are. -/
def patient : Server where
  listener := { port := some 8443, bindTimeoutMs := 9223372036854 }
  tls := some { handshakeTimeoutMs := 9223372036854, sni := [{ domain := "*.Test.com." }] }
  shutdown := { drainTimeoutMs := 9223372036854 }
  observability := { metricsEnabled := true, metricsAddress := "127.0.0.1:9090" }

theorem patient_passes_later : validate patient = .ok () ∧ patient.PassesLater 0 ∧
    checkTimeout "listener.bind_timeout_ms" 9223372036855 ≠ [] ∧
    ¬ Deadline.Fits 0 (Duration.ofMillis 9223372036855) := by
  have settled := accepted_settings_pass_later 0 (by unfold Deadline.InRange; decide)
  have accepted : validate patient = .ok () := validate_eq_ok_iff.mpr (by decide +kernel)
  have refused : checkTimeout "listener.bind_timeout_ms" 9223372036855 ≠ [] := by decide
  refine ⟨accepted, settled.1 patient accepted, refused, ?_⟩
  intro fits
  exact refused ((settled.2.2.2 "listener.bind_timeout_ms" 9223372036855).mpr ⟨by decide, fits⟩)

end Config

end StreamHost
