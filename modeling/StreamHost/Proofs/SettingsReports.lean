import Mathlib.Data.List.Forall2
import Mathlib.Data.List.Induction
import StreamHost.Config.Validation
import StreamHost.Proofs.NumberTexts

/-!
What is reported about settings. Each rule is broken or kept by itself, whatever filter texts the log
accepts: the reports are one for each rule that is broken, in the order of the rules, and they depend only
on what that rule reads. The entries for domains count as a rule each. An entry is reported if it is no
pattern, or if an earlier entry is the same pattern; earlier entries that are no pattern do not matter.
-/

namespace StreamHost.Config

/-! ## Rules -/

/-- What settings can break. -/
inductive Rule where
  | address
  | maxConnections
  | bindTimeout
  | handshakeTimeout
  | alpn
  /-- The entry for a domain with so many entries before it. -/
  | domain (index : Nat)
  | drainTimeout
  | logLevel
  | metricsAddress
  deriving DecidableEq, Repr

namespace Rule

variable {r s : Rule}

/-- The field that reports name. -/
def field : Rule → String
  | address => "listener"
  | maxConnections => "listener.max_connections"
  | bindTimeout => "listener.bind_timeout_ms"
  | handshakeTimeout => "tls.handshake_timeout_ms"
  | alpn => "tls.alpn"
  | domain index => "tls.sni[" ++ toString index ++ "].domain"
  | drainTimeout => "shutdown.drain_timeout_ms"
  | logLevel => "observability.log_level"
  | metricsAddress => "observability.metrics_address"

/-- The place of a rule in the order of reports. All entries for domains have one. -/
def place : Rule → Nat
  | address => 0
  | maxConnections => 1
  | bindTimeout => 2
  | handshakeTimeout => 3
  | alpn => 4
  | domain _ => 5
  | drainTimeout => 6
  | logLevel => 7
  | metricsAddress => 8

/-- The order of reports. -/
def Precedes : Rule → Rule → Prop
  | domain i, domain j => i < j
  | r, s => r.place < s.place

theorem Precedes.ne (before : r.Precedes s) : r ≠ s := by
  rintro rfl
  cases r <;> exact Nat.lt_irrefl _ before

theorem precedes_of_place_lt (before : r.place < s.place) : r.Precedes s := by
  cases r with
  | domain i =>
    cases s with
    | domain j => exact absurd before (Nat.lt_irrefl _)
    | _ => exact before
  | _ => exact before

theorem toString_injective {m n : Nat} (same : toString m = toString n) : m = n := by
  have digits : Nat.toDigits 10 m = Nat.toDigits 10 n := String.ofList_injective same
  obtain ⟨ds, first⟩ := Text.exists_spells (by decide : 1 < 10) (by decide) m
  obtain ⟨es, second⟩ := Text.exists_spells (by decide : 1 < 10) (by decide) n
  have read := (first.reads []).symm.trans (digits ▸ second.reads [])
  simp only [Text.digitRun, List.append_nil, Prod.mk.injEq, and_true] at read
  rw [← first.value, ← second.value, read]

theorem take_toList_append {s t : String} {n : Nat} (within : n ≤ s.toList.length) :
    (s ++ t).toList.take n = s.toList.take n := by
  rw [String.toList_append, List.take_append_of_le_length within]

theorem take_field_domain (index : Nat) : (domain index).field.toList.take 5 = "tls.s".toList := by
  rw [field, String.append_assoc]
  exact take_toList_append (by decide)

/-- A report says which rule it is about. -/
theorem field_injective (same : r.field = s.field) : r = s := by
  have front : r.field.toList.take 5 = s.field.toList.take 5 := congrArg (List.take 5 ·.toList) same
  cases r with
  | domain i =>
    rw [take_field_domain] at front
    cases s with
    | domain j =>
      have digits : toString i = toString j := by
        simpa [field, String.append_left_inj, String.append_right_inj] using same
      rw [toString_injective digits]
    | _ => exact absurd front (by decide)
  | _ =>
    cases s with
    | domain j =>
      rw [take_field_domain] at front
      exact absurd front (by decide)
    | _ => first | rfl | exact absurd same (by decide)

theorem eq_of_place_eq (alone : r.place ≠ 5) (same : s.place = r.place) : s = r := by
  cases r with
  | domain index => exact absurd rfl alone
  | _ => cases s <;> first | rfl | simp [place] at same

end Rule

/-! ## What is wrong -/

/-- The domains of the entries for domains. -/
def Server.domains (c : Server) : List String :=
  (c.tls.map fun t => t.sni.map SniEntry.domain).getD []

/-- What is wrong with a timeout. -/
inductive TimeoutFlaw (ms : Nat) : String → Prop where
  | zero (none : ms = 0) : TimeoutFlaw ms "must be greater than zero"
  | long (positive : ms ≠ 0) (beyond : Deadline.maxTimeout < Duration.ofMillis ms) :
      TimeoutFlaw ms "too large"

/-- What is wrong with the address settings. A host counts before a port. -/
inductive AddressFlaw (l : Listener) : String → Prop where
  | host {path : String} (unix : l.unixPath = some path) (named : l.host ≠ none) :
      AddressFlaw l (Error.configuration ("domain socket " ++ path ++
        " cannot be combined with a host")).message
  | port {path : String} (unix : l.unixPath = some path) (nameless : l.host = none)
      (numbered : l.port ≠ none) :
      AddressFlaw l (Error.configuration ("domain socket " ++ path ++
        " cannot be combined with a port")).message
  | path (unix : l.unixPath = some "") (nameless : l.host = none) (numberless : l.port = none) :
      AddressFlaw l (Error.configuration "domain socket path must not be empty").message

/-- Some domain before the one at `index` is the pattern `p`. -/
def OccursBefore (domains : List String) (index : Nat) (p : Names.Pattern) : Prop :=
  ∃ i < index, ∃ raw, domains[i]? = some raw ∧ Names.Pattern.parse raw = .ok p

/-- What is said about a domain whose pattern has occurred before. -/
def duplicateText (p : Names.Pattern) : String := "duplicate pattern '" ++ p.text ++ "'"

/-- What is wrong with the domain at `index`. -/
inductive DomainFlaw (domains : List String) (index : Nat) : String → Prop where
  | malformed {raw : String} {e : Names.PatternError} (entry : domains[index]? = some raw)
      (refused : Names.Pattern.parse raw = .error e) : DomainFlaw domains index e.toError.message
  | duplicate {raw : String} {p : Names.Pattern} (entry : domains[index]? = some raw)
      (read : Names.Pattern.parse raw = .ok p) (before : OccursBefore domains index p) :
      DomainFlaw domains index (duplicateText p)

section Filters

/-! The log refuses some texts as filters, and says why. -/
variable (refusal? : String → Option String)

/-- What is wrong with settings under a rule. -/
def Flaw (c : Server) : Rule → String → Prop
  | .address, m => AddressFlaw c.listener m
  | .maxConnections, m => c.listener.maxConnections = 0 ∧ m = "must be greater than zero"
  | .bindTimeout, m => TimeoutFlaw c.listener.bindTimeoutMs m
  | .handshakeTimeout, m => ∃ t, c.tls = some t ∧ TimeoutFlaw t.handshakeTimeoutMs m
  | .alpn, m => ∃ t names, c.tls = some t ∧ t.alpn = some names ∧ "" ∈ names ∧
      m = "protocol names must not be empty"
  | .domain index, m => DomainFlaw c.domains index m
  | .drainTimeout, m => TimeoutFlaw c.shutdown.drainTimeoutMs m
  | .logLevel, m => refusal? c.observability.logLevel = some m
  | .metricsAddress, m => c.observability.metricsEnabled = true ∧
      Address.SocketAddress.parse? c.observability.metricsAddress = none ∧
      m = "'" ++ c.observability.metricsAddress ++ "' is not a socket address"

/-- Settings break a rule. -/
def Violated (c : Server) (r : Rule) : Prop := ∃ m, Flaw refusal? c r m

/-- What is reported about the log level. -/
def checkLogLevelBy (o : Observability) : List Violation :=
  match refusal? o.logLevel with
  | some m => [⟨"observability.log_level", m⟩]
  | none => []

/-- All violations, rule by rule. -/
def violationsBy (c : Server) : List Violation :=
  checkAddress c.listener ++ checkMaxConnections c.listener ++
    checkTimeout "listener.bind_timeout_ms" c.listener.bindTimeoutMs ++
    (c.tls.map fun t => checkTimeout "tls.handshake_timeout_ms" t.handshakeTimeoutMs).getD [] ++
    (c.tls.map checkAlpn).getD [] ++ (c.tls.map fun t => checkDomains 0 [] t.sni).getD [] ++
    checkTimeout "shutdown.drain_timeout_ms" c.shutdown.drainTimeoutMs ++
    checkLogLevelBy refusal? c.observability ++ checkMetricsAddress c.observability

/-- The checks, for a log with these refusals. -/
def validateBy (c : Server) : Except (List Violation) Unit :=
  match violationsBy refusal? c with
  | [] => .ok ()
  | vs => .error vs

end Filters

/-- Why the log refuses a text as a filter. -/
def logRefusal? (s : String) : Option String :=
  match Log.Filter.parse s with
  | .ok _ => none
  | .error e => some e.toError.message

theorem checkLogLevel_eq (o : Observability) : checkLogLevel o = checkLogLevelBy logRefusal? o := by
  unfold checkLogLevel checkLogLevelBy logRefusal?
  cases Log.Filter.parse o.logLevel <;> rfl

theorem violations_eq (c : Server) : violations c = violationsBy logRefusal? c := by
  unfold violations violationsBy
  rw [checkLogLevel_eq]
  cases c.tls <;> simp [checkTls]

/-- The checks are those for the log as it is. -/
theorem validate_eq (c : Server) : validate c = validateBy logRefusal? c := by
  unfold validate validateBy
  cases found : violationsBy logRefusal? c <;> simp only [violations_eq, found]

variable {refusal? : String → Option String} {c c' : Server} {r s : Rule} {m m' : String} {index : Nat}
  {domains : List String} {p q : Names.Pattern} {vs ws : List Violation}

/-! ## Every rule has one thing to say -/

theorem TimeoutFlaw.unique {ms : Nat} (one : TimeoutFlaw ms m) (other : TimeoutFlaw ms m') : m = m' := by
  cases one <;> cases other <;> first | rfl | contradiction

theorem AddressFlaw.unique {l : Listener} (one : AddressFlaw l m) (other : AddressFlaw l m') :
    m = m' := by
  cases one <;> cases other <;> simp_all

theorem DomainFlaw.unique (one : DomainFlaw domains index m) (other : DomainFlaw domains index m') :
    m = m' := by
  cases one <;> cases other <;> simp_all

theorem Flaw.unique (one : Flaw refusal? c r m) (other : Flaw refusal? c r m') : m = m' := by
  cases r with
  | address => exact AddressFlaw.unique one other
  | bindTimeout => exact TimeoutFlaw.unique one other
  | drainTimeout => exact TimeoutFlaw.unique one other
  | domain => exact DomainFlaw.unique one other
  | handshakeTimeout =>
    obtain ⟨t, given, flaw⟩ := one
    obtain ⟨u, again, flaw'⟩ := other
    obtain rfl := Option.some.inj (given.symm.trans again)
    exact flaw.unique flaw'
  | alpn =>
    obtain ⟨-, -, -, -, -, rfl⟩ := one
    obtain ⟨-, -, -, -, -, rfl⟩ := other
    rfl
  | maxConnections => exact one.2.trans other.2.symm
  | logLevel => exact Option.some.inj (one.symm.trans other)
  | metricsAddress => exact one.2.2.trans other.2.2.symm

/-! ## Reports in the order of the rules -/

section Reports

variable {flaw : Rule → String → Prop} {own more : Rule → Prop}

/-- One report for each broken rule among some, in the order of the rules. -/
def Covers (flaw : Rule → String → Prop) (own : Rule → Prop) (vs : List Violation) : Prop :=
  ∃ rs : List Rule, rs.Pairwise Rule.Precedes ∧ (∀ r, r ∈ rs ↔ own r ∧ ∃ m, flaw r m) ∧
    List.Forall₂ (fun r v => v.field = r.field ∧ flaw r v.message) rs vs

theorem Covers.congr (covers : Covers flaw own vs) (same : ∀ r, own r ↔ more r) :
    Covers flaw more vs := by
  obtain ⟨rs, ordered, listed, told⟩ := covers
  exact ⟨rs, ordered, fun r => (listed r).trans (and_congr_left fun _ => same r), told⟩

theorem Covers.append (first : Covers flaw own vs) (second : Covers flaw more ws)
    (before : ∀ r s, own r → more s → r.Precedes s) :
    Covers flaw (fun r => own r ∨ more r) (vs ++ ws) := by
  obtain ⟨rs, ordered, listed, told⟩ := first
  obtain ⟨ss, ordered', listed', told'⟩ := second
  refine ⟨rs ++ ss, List.pairwise_append.mpr ⟨ordered, ordered', ?_⟩, ?_, List.rel_append told told'⟩
  · intro r left s right
    exact before r s ((listed r).mp left).1 ((listed' s).mp right).1
  · intro r
    rw [List.mem_append, listed, listed', or_and_right]

/-- A check of a single rule: no report if that is kept, else one with what is wrong. -/
def Judges (flaw : Rule → String → Prop) (r : Rule) (vs : List Violation) : Prop :=
  vs = [] ∧ (∀ m, ¬ flaw r m) ∨ ∃ m, vs = [⟨r.field, m⟩] ∧ flaw r m

theorem Judges.covers (judges : Judges flaw r vs) : Covers flaw (· = r) vs := by
  obtain ⟨rfl, kept⟩ | ⟨m, rfl, broken⟩ := judges
  · refine ⟨[], .nil, fun s => ?_, .nil⟩
    constructor
    · intro member
      cases member
    · rintro ⟨rfl, m, broken⟩
      exact absurd broken (kept m)
  · refine ⟨[r], List.pairwise_singleton _ _, fun s => ?_, .cons ⟨rfl, broken⟩ .nil⟩
    rw [List.mem_singleton]
    exact ⟨fun same => ⟨same, m, same ▸ broken⟩, And.left⟩

/-- The reports of one place behind those of the places before. -/
theorem Covers.next {k : Nat} (first : Covers flaw (·.place < k) vs)
    (second : Covers flaw (·.place = k) ws) : Covers flaw (·.place < k + 1) (vs ++ ws) := by
  refine (first.append second fun r s small same => ?_).congr fun r => ?_
  · exact Rule.precedes_of_place_lt (same ▸ small)
  · omega

/-- A rule that has its place to itself. -/
theorem Covers.judge (first : Covers flaw (·.place < r.place) vs) (judges : Judges flaw r ws)
    (alone : r.place ≠ 5) : Covers flaw (·.place < r.place + 1) (vs ++ ws) := by
  refine first.next (judges.covers.congr fun s => ?_)
  exact ⟨fun same => same ▸ rfl, Rule.eq_of_place_eq alone⟩

end Reports

/-! ## Each check judges its rule -/

theorem judges_checkTimeout {flaw : Rule → String → Prop} {ms : Nat}
    (means : ∀ m, flaw r m ↔ TimeoutFlaw ms m) : Judges flaw r (checkTimeout r.field ms) := by
  unfold checkTimeout
  split
  · next none => exact .inr ⟨_, rfl, (means _).mpr (.zero none)⟩
  · next positive =>
    split
    · next beyond => exact .inr ⟨_, rfl, (means _).mpr (.long positive beyond)⟩
    · next within =>
      refine .inl ⟨rfl, fun m broken => ?_⟩
      cases (means m).mp broken with
      | zero none => exact positive none
      | long _ beyond => exact within beyond

theorem judges_checkAddress : Judges (Flaw refusal? c) .address (checkAddress c.listener) := by
  unfold checkAddress Address.Options.target Listener.addressOptions
  cases unix : c.listener.unixPath with
  | none =>
    refine .inl ⟨rfl, fun m broken => ?_⟩
    cases broken <;> simp_all
  | some path =>
    by_cases nameless : c.listener.host = none
    · by_cases numberless : c.listener.port = none
      · by_cases empty : path = ""
        · subst empty
          refine .inr ⟨_, ?_, AddressFlaw.path unix nameless numberless⟩
          simp [nameless, numberless, Rule.field]
        · refine .inl ⟨by simp [nameless, numberless, empty], fun m broken => ?_⟩
          cases broken <;> simp_all
      · refine .inr ⟨_, ?_, AddressFlaw.port unix nameless numberless⟩
        simp [nameless, numberless, Option.isSome_iff_ne_none, Rule.field]
    · refine .inr ⟨_, ?_, AddressFlaw.host unix nameless⟩
      simp [nameless, Option.isSome_iff_ne_none, Rule.field]

theorem judges_checkMaxConnections :
    Judges (Flaw refusal? c) .maxConnections (checkMaxConnections c.listener) := by
  unfold checkMaxConnections
  split
  · next none => exact .inr ⟨_, rfl, none, rfl⟩
  · next some => exact .inl ⟨rfl, fun m broken => some broken.1⟩

theorem judges_handshakeTimeout : Judges (Flaw refusal? c) .handshakeTimeout
    ((c.tls.map fun t => checkTimeout "tls.handshake_timeout_ms" t.handshakeTimeoutMs).getD []) := by
  cases given : c.tls with
  | none => exact .inl ⟨rfl, fun m ⟨t, same, _⟩ => by simp [given] at same⟩
  | some t => exact judges_checkTimeout fun m => by simp [Flaw, given]

theorem any_isEmpty_iff {names : List String} : names.any String.isEmpty = true ↔ "" ∈ names := by
  simp [List.any_eq_true, String.isEmpty_iff]

theorem judges_checkAlpn : Judges (Flaw refusal? c) .alpn ((c.tls.map checkAlpn).getD []) := by
  cases given : c.tls with
  | none => exact .inl ⟨rfl, fun m ⟨t, _, same, _⟩ => by simp [given] at same⟩
  | some t =>
    rw [Option.map_some, Option.getD_some, checkAlpn]
    split
    · next empty =>
      rw [Option.any_eq_true] at empty
      obtain ⟨names, offered, blank⟩ := empty
      exact .inr ⟨_, rfl, t, names, given, offered, any_isEmpty_iff.mp blank, rfl⟩
    · next full =>
      refine .inl ⟨rfl, fun m ⟨u, names, same, offered, blank, _⟩ => full ?_⟩
      obtain rfl := Option.some.inj (given.symm.trans same)
      rw [offered]
      exact any_isEmpty_iff.mpr blank

theorem judges_checkLogLevelBy :
    Judges (Flaw refusal? c) .logLevel (checkLogLevelBy refusal? c.observability) := by
  unfold checkLogLevelBy
  split
  · next m refused => exact .inr ⟨m, rfl, refused⟩
  · next accepted => exact .inl ⟨rfl, fun m refused => by simp [Flaw, accepted] at refused⟩

theorem judges_checkMetricsAddress :
    Judges (Flaw refusal? c) .metricsAddress (checkMetricsAddress c.observability) := by
  unfold checkMetricsAddress
  split
  · next broken =>
    rw [Bool.and_eq_true, Option.isNone_iff_eq_none] at broken
    exact .inr ⟨_, rfl, broken.1, broken.2, rfl⟩
  · next kept =>
    rw [Bool.and_eq_true, Option.isNone_iff_eq_none] at kept
    exact .inl ⟨rfl, fun m broken => kept ⟨broken.1, broken.2.1⟩⟩

/-! ## Entries for domains -/

theorem occursBefore_append {done rest : List String} :
    OccursBefore (done ++ rest) done.length p ↔ ∃ raw ∈ done, Names.Pattern.parse raw = .ok p := by
  constructor
  · rintro ⟨i, early, raw, entry, read⟩
    rw [List.getElem?_append_left early] at entry
    exact ⟨raw, List.mem_of_getElem? entry, read⟩
  · rintro ⟨raw, member, read⟩
    obtain ⟨i, early, rfl⟩ := List.mem_iff_getElem.mp member
    refine ⟨i, early, done[i], ?_, read⟩
    rw [List.getElem?_append_left early, List.getElem?_eq_getElem early]

/-- The patterns that have occurred are those of the domains before. -/
def Recalls (seen : List Names.Pattern) (done : List String) : Prop :=
  ∀ p, p ∈ seen ↔ ∃ raw ∈ done, Names.Pattern.parse raw = .ok p

theorem Recalls.concat {seen seen' : List Names.Pattern} {done : List String} {raw : String}
    (recalls : Recalls seen done) (more : ∀ p, p ∈ seen' ↔ p ∈ seen ∨ Names.Pattern.parse raw = .ok p) :
    Recalls seen' (done ++ [raw]) := by
  intro p
  rw [more, recalls p]
  constructor
  · rintro (⟨old, member, read⟩ | read)
    · exact ⟨old, List.mem_append_left _ member, read⟩
    · exact ⟨raw, List.mem_append_right _ (List.mem_singleton_self raw), read⟩
  · rintro ⟨other, member, read⟩
    cases List.mem_append.mp member with
    | inl old => exact .inl ⟨other, old, read⟩
    | inr last =>
      obtain rfl := List.mem_singleton.mp last
      exact .inr read

/-- A domain that is a pattern is reported if and only if that pattern has occurred. -/
theorem domainFlaw_iff {done rest : List String} {raw : String} (read : Names.Pattern.parse raw = .ok p) :
    DomainFlaw (done ++ raw :: rest) done.length m ↔
      (∃ old ∈ done, Names.Pattern.parse old = .ok p) ∧ m = duplicateText p := by
  have entry : (done ++ raw :: rest)[done.length]? = some raw := by simp
  constructor
  · rintro (⟨same, refused⟩ | ⟨same, again, before⟩)
    · obtain rfl := Option.some.inj (entry.symm.trans same)
      cases read.symm.trans refused
    · obtain rfl := Option.some.inj (entry.symm.trans same)
      obtain rfl := Except.ok.inj (read.symm.trans again)
      exact ⟨occursBefore_append.mp before, rfl⟩
  · rintro ⟨before, rfl⟩
    exact .duplicate entry read (occursBefore_append.mpr before)

/-- The reports on the entries behind those for the domains `done`. -/
theorem covers_checkDomains {flaw : Rule → String → Prop} {seen : List Names.Pattern}
    (done : List String) (es : List SniEntry)
    (means : ∀ i m, flaw (.domain i) m ↔ DomainFlaw (done ++ es.map SniEntry.domain) i m)
    (recalls : Recalls seen done) :
    Covers flaw (fun r => ∃ i, r = .domain i ∧ done.length ≤ i) (checkDomains done.length seen es) := by
  induction es generalizing seen done with
  | nil =>
    refine ⟨[], .nil, fun r => iff_of_false List.not_mem_nil ?_, .nil⟩
    rintro ⟨⟨i, rfl, beyond⟩, m, broken⟩
    have none : (done ++ [].map SniEntry.domain)[i]? = none := by simpa using beyond
    cases (means i m).mp broken <;> simp_all
  | cons e rest ih =>
    have later {seen'} (recalls' : Recalls seen' (done ++ [e.domain])) :=
      ih (done ++ [e.domain]) (fun i m => by simpa using means i m) recalls'
    simp only [List.length_append, List.length_singleton] at later
    -- What is said about this entry comes first, whatever is said about the rest.
    have joined {head seen'} (judges : Judges flaw (.domain done.length) head)
        (recalls' : Recalls seen' (done ++ [e.domain])) :
        Covers flaw (fun r => ∃ i, r = .domain i ∧ done.length ≤ i)
          (head ++ checkDomains (done.length + 1) seen' rest) := by
      refine (judges.covers.append (later recalls') ?_).congr fun r => ?_
      · rintro r s rfl ⟨i, rfl, after⟩
        exact after
      · constructor
        · rintro (rfl | ⟨i, rfl, after⟩)
          · exact ⟨_, rfl, Nat.le_refl _⟩
          · exact ⟨i, rfl, by omega⟩
        · rintro ⟨i, rfl, from_⟩
          rcases Nat.eq_or_lt_of_le from_ with rfl | after
          · exact .inl rfl
          · exact .inr ⟨i, rfl, after⟩
    cases read : Names.Pattern.parse e.domain with
    | error err =>
      simp only [checkDomains, read]
      have broken := (means done.length _).mpr (.malformed (by simp) read)
      exact joined (.inr ⟨_, rfl, broken⟩) (recalls.concat fun p => by simp [read])
    | ok p =>
      have flaws (m : String) : flaw (.domain done.length) m ↔ p ∈ seen ∧ m = duplicateText p := by
        rw [means, List.map_cons, domainFlaw_iff read, recalls p]
      simp only [checkDomains, read]
      split
      · next known =>
        have member := List.contains_iff_mem.mp known
        refine joined (.inr ⟨_, rfl, (flaws _).mpr ⟨member, rfl⟩⟩) (recalls.concat fun q => ?_)
        rw [read, Except.ok.injEq]
        exact ⟨.inl, fun either => either.elim id fun same => same ▸ member⟩
      · next unknown =>
        refine joined (.inl ⟨rfl, fun m broken => ?_⟩) (recalls.concat fun q => ?_)
        · exact unknown (List.contains_iff_mem.mpr ((flaws m).mp broken).1)
        · rw [read, Except.ok.injEq, List.mem_cons, or_comm, eq_comm]

theorem covers_domains : Covers (Flaw refusal? c) (·.place = Rule.place (.domain 0))
    ((c.tls.map fun t => checkDomains 0 [] t.sni).getD []) := by
  have places (r : Rule) : (∃ i, r = .domain i ∧ 0 ≤ i) ↔ r.place = Rule.place (.domain 0) := by
    cases r <;> simp [Rule.place]
  cases given : c.tls with
  | none =>
    have none : c.domains = [] := by simp [Server.domains, given]
    have covers : Covers (Flaw refusal? c) (fun r => ∃ i, r = .domain i ∧ 0 ≤ i) (checkDomains 0 [] []) :=
      covers_checkDomains [] [] (fun i m => by simp [Flaw, none]) (fun p => by simp)
    exact covers.congr places
  | some t =>
    have some : c.domains = t.sni.map SniEntry.domain := by simp [Server.domains, given]
    have covers : Covers (Flaw refusal? c) (fun r => ∃ i, r = .domain i ∧ 0 ≤ i)
        (checkDomains 0 [] t.sni) :=
      covers_checkDomains [] t.sni (fun i m => by simp [Flaw, some]) (fun p => by simp)
    exact covers.congr places

/-! ## All reports -/

theorem covers_violationsBy (refusal? : String → Option String) (c : Server) :
    Covers (Flaw refusal? c) (fun _ => True) (violationsBy refusal? c) := by
  have start : Covers (Flaw refusal? c) (·.place < 0) [] :=
    ⟨[], .nil, fun r => iff_of_false List.not_mem_nil fun own => Nat.not_lt_zero _ own.1, .nil⟩
  have listener := ((start.judge judges_checkAddress (by decide)).judge judges_checkMaxConnections
    (by decide)).judge (r := .bindTimeout) (judges_checkTimeout fun _ => Iff.rfl) (by decide)
  have tls := ((listener.judge judges_handshakeTimeout (by decide)).judge judges_checkAlpn
    (by decide)).next covers_domains
  have all := ((tls.judge (r := .drainTimeout) (judges_checkTimeout fun _ => Iff.rfl) (by decide)).judge
    judges_checkLogLevelBy (by decide)).judge judges_checkMetricsAddress (by decide)
  refine all.congr fun r => ?_
  cases r <;> simp [Rule.place]

/-- The reports of a check. -/
def reports : Except (List Violation) Unit → List Violation
  | .ok () => []
  | .error vs => vs

/-- The reports about one rule. -/
def reportsOn (outcome : Except (List Violation) Unit) (r : Rule) : List Violation :=
  (reports outcome).filter fun v => v.field = r.field

theorem reports_validateBy : reports (validateBy refusal? c) = violationsBy refusal? c := by
  unfold validateBy
  split
  · next none => exact none.symm
  · rfl

theorem filter_reports {flaw : Rule → String → Prop} {rs : List Rule} (once : rs.Nodup)
    (told : List.Forall₂ (fun r v => v.field = r.field ∧ flaw r v.message) rs vs) :
    (r ∉ rs → vs.filter (fun v => v.field = r.field) = []) ∧
      (r ∈ rs → ∃ m, vs.filter (fun v => v.field = r.field) = [⟨r.field, m⟩] ∧ flaw r m) := by
  induction told with
  | nil => simp
  | @cons s v ss vs first rest ih =>
    obtain ⟨fresh, once⟩ := List.nodup_cons.mp once
    obtain ⟨outside, inside⟩ := ih once
    by_cases same : s = r
    · subst same
      refine ⟨fun absent => absurd List.mem_cons_self absent, fun _ => ⟨v.message, ?_, first.2⟩⟩
      rw [List.filter_cons_of_pos (by simpa using first.1), outside fresh, ← first.1]
    · have other : v.field ≠ r.field := fun equal => same (Rule.field_injective (first.1.symm.trans equal))
      rw [List.filter_cons_of_neg (by simpa using other), List.mem_cons, or_iff_right (Ne.symm same)]
      exact ⟨outside, inside⟩

/-- What is reported about a rule is one thing if it is broken, and nothing if it is kept. -/
theorem judges_reportsOn (refusal? : String → Option String) (c : Server) (r : Rule) :
    Judges (Flaw refusal? c) r (reportsOn (validateBy refusal? c) r) := by
  obtain ⟨rs, ordered, listed, told⟩ := covers_violationsBy refusal? c
  have once : rs.Nodup := ordered.imp Rule.Precedes.ne
  unfold reportsOn
  rw [reports_validateBy]
  by_cases member : r ∈ rs
  · exact .inr ((filter_reports once told).2 member)
  · refine .inl ⟨(filter_reports once told).1 member, fun m broken => ?_⟩
    exact member ((listed r).mpr ⟨trivial, m, broken⟩)

theorem reportsOn_eq (broken : Flaw refusal? c r m) :
    reportsOn (validateBy refusal? c) r = [⟨r.field, m⟩] := by
  obtain ⟨-, kept⟩ | ⟨m', told, broken'⟩ := judges_reportsOn refusal? c r
  · exact absurd broken (kept m)
  · rw [told, broken.unique broken']

theorem reportsOn_eq_nil (kept : ∀ m, ¬ Flaw refusal? c r m) :
    reportsOn (validateBy refusal? c) r = [] := by
  obtain ⟨told, -⟩ | ⟨m, -, broken⟩ := judges_reportsOn refusal? c r
  · exact told
  · exact absurd broken (kept m)

theorem mem_reports_iff :
    ⟨r.field, m⟩ ∈ reports (validateBy refusal? c) ↔ Flaw refusal? c r m := by
  have among : ⟨r.field, m⟩ ∈ reports (validateBy refusal? c) ↔
      ⟨r.field, m⟩ ∈ reportsOn (validateBy refusal? c) r := by
    simp [reportsOn]
  rw [among]
  obtain ⟨told, kept⟩ | ⟨m', told, broken⟩ := judges_reportsOn refusal? c r
  · simp [told, kept m]
  · rw [told, List.mem_singleton, Violation.mk.injEq, eq_self, true_and]
    exact ⟨fun same => same ▸ broken, fun broken' => broken'.unique broken⟩

/-! ## What a rule reads -/

/-- Two settings agree on what a rule reads. An entry for a domain is compared with those before it. -/
def Rule.Agrees (c c' : Server) : Rule → Prop
  | address => c.listener.host = c'.listener.host ∧ c.listener.port = c'.listener.port ∧
      c.listener.unixPath = c'.listener.unixPath
  | maxConnections => c.listener.maxConnections = c'.listener.maxConnections
  | bindTimeout => c.listener.bindTimeoutMs = c'.listener.bindTimeoutMs
  | handshakeTimeout => c.tls.map Tls.handshakeTimeoutMs = c'.tls.map Tls.handshakeTimeoutMs
  | alpn => c.tls.bind Tls.alpn = c'.tls.bind Tls.alpn
  | domain index => c.domains.take (index + 1) = c'.domains.take (index + 1)
  | drainTimeout => c.shutdown.drainTimeoutMs = c'.shutdown.drainTimeoutMs
  | logLevel => c.observability.logLevel = c'.observability.logLevel
  | metricsAddress => c.observability.metricsEnabled = c'.observability.metricsEnabled ∧
      c.observability.metricsAddress = c'.observability.metricsAddress

theorem Rule.Agrees.symm (agrees : r.Agrees c c') : r.Agrees c' c := by
  cases r with
  | address => exact ⟨agrees.1.symm, agrees.2.1.symm, agrees.2.2.symm⟩
  | metricsAddress => exact ⟨agrees.1.symm, agrees.2.symm⟩
  | _ => exact Eq.symm agrees

theorem getElem?_of_take {n i : Nat} {ds es : List String} (same : ds.take n = es.take n) (below : i < n) :
    ds[i]? = es[i]? := by
  rw [← List.getElem?_take_of_lt below, same, List.getElem?_take_of_lt below]

theorem OccursBefore.of_take {ds es : List String} (before : OccursBefore ds index p)
    (same : ds.take (index + 1) = es.take (index + 1)) : OccursBefore es index p := by
  obtain ⟨i, early, raw, entry, read⟩ := before
  exact ⟨i, early, raw, (getElem?_of_take same (by omega)).symm.trans entry, read⟩

theorem Flaw.of_agrees (broken : Flaw refusal? c r m) (agrees : r.Agrees c c') :
    Flaw refusal? c' r m := by
  cases r with
  | address =>
    obtain ⟨host, port, path⟩ := agrees
    cases broken with
    | host unix named => exact .host (path ▸ unix) (host ▸ named)
    | port unix nameless numbered => exact .port (path ▸ unix) (host ▸ nameless) (port ▸ numbered)
    | path unix nameless numberless => exact .path (path ▸ unix) (host ▸ nameless) (port ▸ numberless)
  | maxConnections => exact ⟨agrees.symm.trans broken.1, broken.2⟩
  | bindTimeout => exact (congrArg (TimeoutFlaw · m) agrees).mp broken
  | handshakeTimeout =>
    obtain ⟨t, given, flaw⟩ := broken
    have same : c'.tls.map Tls.handshakeTimeoutMs = some t.handshakeTimeoutMs :=
      agrees.symm.trans (congrArg (Option.map Tls.handshakeTimeoutMs) given)
    obtain ⟨t', given', equal⟩ := Option.map_eq_some_iff.mp same
    exact ⟨t', given', equal ▸ flaw⟩
  | alpn =>
    obtain ⟨t, names, given, offered, empty, said⟩ := broken
    have same : c'.tls.bind Tls.alpn = some names :=
      agrees.symm.trans (Option.bind_eq_some_iff.mpr ⟨t, given, offered⟩)
    obtain ⟨t', given', offered'⟩ := Option.bind_eq_some_iff.mp same
    exact ⟨t', names, given', offered', empty, said⟩
  | domain index =>
    cases broken with
    | malformed entry refused =>
      exact .malformed ((getElem?_of_take agrees (Nat.lt_succ_self _)).symm.trans entry) refused
    | duplicate entry read before =>
      exact .duplicate ((getElem?_of_take agrees (Nat.lt_succ_self _)).symm.trans entry) read
        (before.of_take agrees)
  | drainTimeout => exact (congrArg (TimeoutFlaw · m) agrees).mp broken
  | logLevel => exact (congrArg refusal? agrees).symm.trans broken
  | metricsAddress =>
    obtain ⟨enabled, address⟩ := agrees
    obtain ⟨wanted, unread, said⟩ := broken
    exact ⟨enabled ▸ wanted, address ▸ unread, address ▸ said⟩

/-- The reports about a rule depend on nothing but what the rule reads. -/
theorem reportsOn_of_agrees (agrees : r.Agrees c c') :
    reportsOn (validateBy refusal? c') r = reportsOn (validateBy refusal? c) r := by
  obtain ⟨told, kept⟩ | ⟨m, told, broken⟩ := judges_reportsOn refusal? c r
  · rw [told]
    exact reportsOn_eq_nil fun m broken => kept m (broken.of_agrees agrees.symm)
  · rw [told]
    exact reportsOn_eq (broken.of_agrees agrees)

/-! ## Repeated patterns -/

theorem malformed_ne_duplicate (e : Names.PatternError) (p : Names.Pattern) :
    e.toError.message ≠ duplicateText p := by
  have left : ("configuration error: " ++ e.message).toList.take 1 = ['c'] :=
    Rule.take_toList_append (by decide)
  have right : ("duplicate pattern '" ++ (p.text ++ "'")).toList.take 1 = ['d'] :=
    Rule.take_toList_append (by decide)
  have said : duplicateText p = "duplicate pattern '" ++ (p.text ++ "'") := String.append_assoc
  have refused : e.toError.message = "configuration error: " ++ e.message := rfl
  intro same
  rw [← said, ← same, refused, left] at right
  exact absurd right (by decide)

theorem duplicateText_injective (same : duplicateText p = duplicateText q) : p = q := by
  have texts : p.text = q.text := by
    unfold duplicateText at same
    rwa [String.append_left_inj, String.append_right_inj] at same
  cases p
  cases q
  exact congrArg _ texts

/-- The domain at `index` is reported as a repetition of `p` if it is that pattern and not the first. -/
theorem duplicate_iff : DomainFlaw domains index (duplicateText p) ↔
    (∃ raw, domains[index]? = some raw ∧ Names.Pattern.parse raw = .ok p) ∧
      OccursBefore domains index p := by
  constructor
  · intro broken
    generalize said : duplicateText p = text at broken
    cases broken with
    | @malformed raw e entry refused => exact absurd said.symm (malformed_ne_duplicate e p)
    | duplicate entry read before =>
      obtain rfl := duplicateText_injective said
      exact ⟨⟨_, entry, read⟩, before⟩
  · rintro ⟨⟨raw, entry, read⟩, before⟩
    exact .duplicate entry read before

/-- Of the elements with a property, all but the first have another one before them. -/
theorem countP_repeats {α : Type} (has : α → Bool) (xs : List α) :
    (List.range xs.length).countP (fun i => xs[i]?.any has && (xs.take i).any has) = xs.countP has - 1 := by
  induction xs using List.reverseRec with
  | nil => rfl
  | append_singleton front x ih =>
    have earlier : (List.range front.length).countP
          (fun i => (front ++ [x])[i]?.any has && ((front ++ [x]).take i).any has) =
        (List.range front.length).countP (fun i => front[i]?.any has && (front.take i).any has) := by
      refine List.countP_congr fun i member => ?_
      have below : i < front.length := List.mem_range.mp member
      rw [List.getElem?_append_left below, List.take_append_of_le_length (Nat.le_of_lt below)]
    rw [List.length_append, List.length_singleton, List.range_succ, List.countP_append, earlier, ih,
      List.countP_append, List.countP_singleton, List.countP_singleton, List.take_left' rfl]
    have last : (front ++ [x])[front.length]? = some x := List.getElem?_concat_length
    rw [last, Option.any_some]
    by_cases more : has x = true
    · by_cases some : front.any has = true
      · have positive : 0 < front.countP has := List.countP_pos_iff.mpr (List.any_eq_true.mp some)
        simp only [more, some, Bool.and_self, if_pos]
        omega
      · have none : front.countP has = 0 :=
          List.countP_eq_zero.mpr fun y member holds => some (List.any_eq_true.mpr ⟨y, member, holds⟩)
        simp [more, some, none]
    · simp [more]

theorem mem_duplicates_iff :
    ⟨(Rule.domain index).field, duplicateText p⟩ ∈ reports (validateBy refusal? c) ↔
      (∃ raw, c.domains[index]? = some raw ∧ Names.Pattern.parse raw = .ok p) ∧
        OccursBefore c.domains index p :=
  mem_reports_iff.trans duplicate_iff

theorem occursBefore_iff_any : OccursBefore domains index p ↔
    (domains.take index).any (fun raw => Names.Pattern.parse raw = .ok p) = true := by
  rw [List.any_eq_true]
  constructor
  · rintro ⟨i, early, raw, entry, read⟩
    refine ⟨raw, List.mem_of_getElem? (i := i) ?_, decide_eq_true read⟩
    rw [List.getElem?_take_of_lt early, entry]
  · rintro ⟨raw, member, read⟩
    obtain ⟨i, entry⟩ := List.mem_iff_getElem?.mp member
    have early : i < index := by
      refine Decidable.byContradiction fun late => ?_
      simp [late] at entry
    rw [List.getElem?_take_of_lt early] at entry
    exact ⟨i, early, raw, entry, of_decide_eq_true read⟩

/-- Of the domains with one pattern, all but the first are reported as repetitions. -/
theorem countP_duplicates (p : Names.Pattern) :
    (List.range c.domains.length).countP (fun i =>
        ⟨(Rule.domain i).field, duplicateText p⟩ ∈ reports (validateBy refusal? c)) =
      c.domains.countP (fun raw => Names.Pattern.parse raw = .ok p) - 1 := by
  rw [← countP_repeats]
  refine List.countP_congr fun i _ => ?_
  rw [decide_eq_true_eq, mem_duplicates_iff, Bool.and_eq_true, occursBefore_iff_any, Option.any_eq_true]
  simp only [decide_eq_true_eq]

/-! ## Everything that is wrong is reported -/

theorem validateBy_eq_ok_iff : validateBy refusal? c = .ok () ↔ ∀ r, ¬ Violated refusal? c r := by
  constructor
  · intro passes r ⟨m, broken⟩
    have told := mem_reports_iff.mpr broken
    rw [passes] at told
    cases told
  · intro kept
    obtain ⟨rs, -, listed, told⟩ := covers_violationsBy refusal? c
    have none : rs = [] := List.eq_nil_iff_forall_not_mem.mpr fun r member => kept r ((listed r).mp member).2
    rw [none, List.forall₂_nil_left_iff] at told
    rw [validateBy, told]

theorem covers_of_error (refused : validateBy refusal? c = .error vs) :
    ∃ rs : List Rule, rs ≠ [] ∧ rs.Pairwise Rule.Precedes ∧ (∀ r, r ∈ rs ↔ Violated refusal? c r) ∧
      List.Forall₂ (fun r v => v.field = r.field ∧ Flaw refusal? c r v.message) rs vs := by
  obtain ⟨rs, ordered, listed, told⟩ := covers_violationsBy refusal? c
  rw [← reports_validateBy, refused] at told
  refine ⟨rs, ?_, ordered, fun r => (listed r).trans (and_iff_right trivial), told⟩
  rintro rfl
  have passes : validateBy refusal? c = .ok () :=
    validateBy_eq_ok_iff.mpr fun r broken => List.not_mem_nil ((listed r).mpr ⟨trivial, broken⟩)
  rw [passes] at refused
  cases refused

/-- What is reported about the entry at `index`, for the domain `raw`. -/
def EntryReports (refusal? : String → Option String) (c : Server) (index : Nat) (raw : String) : Prop :=
  match Names.Pattern.parse raw with
  | .error e =>
    reportsOn (validateBy refusal? c) (.domain index) = [⟨(Rule.domain index).field, e.toError.message⟩]
  | .ok p =>
    (OccursBefore c.domains index p →
      reportsOn (validateBy refusal? c) (.domain index) = [⟨(Rule.domain index).field, duplicateText p⟩]) ∧
    (¬ OccursBefore c.domains index p → reportsOn (validateBy refusal? c) (.domain index) = [])

theorem entryReports {raw : String} (entry : c.domains[index]? = some raw) :
    EntryReports refusal? c index raw := by
  unfold EntryReports
  split
  · next e refused => exact reportsOn_eq (DomainFlaw.malformed entry refused)
  · next p read =>
    refine ⟨fun before => reportsOn_eq (DomainFlaw.duplicate entry read before), fun first => ?_⟩
    refine reportsOn_eq_nil fun m broken => ?_
    cases broken with
    | malformed same refused =>
      obtain rfl := Option.some.inj (entry.symm.trans same)
      cases read.symm.trans refused
    | duplicate same again before =>
      obtain rfl := Option.some.inj (entry.symm.trans same)
      obtain rfl := Except.ok.inj (read.symm.trans again)
      exact first before

/-- Whatever texts the log refuses: settings pass if and only if they break no rule, and otherwise there is
one report for each rule that they break, in the order of the rules. An entry for a domain is reported as
malformed if it is no pattern, as a repetition if it is a pattern that has occurred, and not at all
otherwise; so of several entries with one pattern all but the first are reported. What is reported about
a rule depends on nothing but what the rule reads. -/
theorem every_broken_rule_is_reported (refusal? : String → Option String) (c : Server) :
    (validateBy refusal? c = .ok () ↔ ∀ r, ¬ Violated refusal? c r) ∧
    (∀ vs, validateBy refusal? c = .error vs →
      ∃ rs : List Rule, rs ≠ [] ∧ rs.Pairwise Rule.Precedes ∧ (∀ r, r ∈ rs ↔ Violated refusal? c r) ∧
        List.Forall₂ (fun r v => v.field = r.field ∧ Flaw refusal? c r v.message) rs vs) ∧
    (∀ i raw, c.domains[i]? = some raw → EntryReports refusal? c i raw) ∧
    (∀ (e : Names.PatternError) p, e.toError.message ≠ duplicateText p) ∧
    (∀ p, (List.range c.domains.length).countP (fun i =>
        ⟨(Rule.domain i).field, duplicateText p⟩ ∈ reports (validateBy refusal? c)) =
      c.domains.countP (fun raw => Names.Pattern.parse raw = .ok p) - 1) ∧
    (∀ c' r, Rule.Agrees c c' r →
      reportsOn (validateBy refusal? c') r = reportsOn (validateBy refusal? c) r) ∧
    validate c = validateBy logRefusal? c :=
  ⟨validateBy_eq_ok_iff, fun _ => covers_of_error, fun _ _ => entryReports, malformed_ne_duplicate,
    countP_duplicates, fun _ _ => reportsOn_of_agrees, validate_eq c⟩

/-- Settings without places, with a domain that is none and another one twice. -/
def muddled : Server where
  listener := { maxConnections := 0 }
  tls := some { sni := [{ domain := "*.test.com" }, { domain := "" }, { domain := "*.TEST.com." }] }
  observability := { logLevel := "loud" }

/-- A log that refuses one level. -/
def refusesLoud (s : String) : Option String := if s = "loud" then some "no level" else none

theorem muddled_is_reported :
    validateBy refusesLoud muddled = .error [
        ⟨"listener.max_connections", "must be greater than zero"⟩,
        ⟨"tls.sni[1].domain", "configuration error: domain pattern must not be empty"⟩,
        ⟨"tls.sni[2].domain", "duplicate pattern '*.test.com'"⟩,
        ⟨"observability.log_level", "no level"⟩] ∧
      (∃ rs : List Rule, rs.length = 4 ∧ ∀ r, r ∈ rs ↔ Violated refusesLoud muddled r) ∧
      reportsOn (validateBy refusesLoud { tls := muddled.tls }) (.domain 2) =
        [⟨"tls.sni[2].domain", "duplicate pattern '*.test.com'"⟩] := by
  have told : validateBy refusesLoud muddled = .error [
      ⟨"listener.max_connections", "must be greater than zero"⟩,
      ⟨"tls.sni[1].domain", "configuration error: domain pattern must not be empty"⟩,
      ⟨"tls.sni[2].domain", "duplicate pattern '*.test.com'"⟩,
      ⟨"observability.log_level", "no level"⟩] := by decide
  obtain ⟨-, inOrder, -, -, -, alone, -⟩ := every_broken_rule_is_reported refusesLoud muddled
  refine ⟨told, ?_, ?_⟩
  · obtain ⟨rs, -, -, listed, reported⟩ := inOrder _ told
    exact ⟨rs, reported.length_eq, listed⟩
  · have same : Rule.Agrees muddled { tls := muddled.tls } (.domain 2) := rfl
    rw [alone _ _ same, told]
    decide

end StreamHost.Config
