import StreamHost.Proofs.RunningServer
import StreamHost.Proofs.SettingsChecks

/-!
How many places a server can have. Settings and blueprints are refused if they ask for none, and that is all
that is looked at: however many they ask for, they pass as if they had asked for one. Whoever binds finds
out whether there can be so many, and by then the network has bound the address. If there cannot, the
program ends.
-/

namespace StreamHost

variable {n : Nat}

theorem Places.ofLimit?_eq_none_iff : ofLimit? n = none ↔ most < n := by
  unfold ofLimit?
  by_cases fits : n ≤ most
  · simp [fits]
  · simp [fits, Nat.lt_of_not_le fits]

/-- A target that is bound for more places than there can be ends the program, and nothing else does. -/
theorem Listener.ofBound_eq_none_iff {target : Address.Target} {said : Except IoError (Network × Nat)} :
    ofBound target n said = none ↔ Places.most < n ∧ ∃ bound, said = .ok bound := by
  cases said with
  | error e => simp [ofBound]
  | ok bound =>
    obtain ⟨network, number⟩ := bound
    simp [ofBound, Places.ofLimit?_eq_none_iff]

/-! ## What is looked at before -/

/-- Another number of places. -/
def Config.Server.withPlaces (c : Config.Server) (n : Nat) : Config.Server :=
  { c with listener := { c.listener with maxConnections := n } }

/-- Settings that pass for some number of places pass for any other. -/
theorem Config.validate_withPlaces {c : Config.Server} (accepted : validate c = .ok ()) (some : 0 < n) :
    validate (c.withPlaces n) = .ok () := by
  have clean := validate_eq_ok_iff.mp accepted
  refine validate_eq_ok_iff.mpr ?_
  simp only [violations, List.append_eq_nil_iff] at clean ⊢
  obtain ⟨⟨⟨⟨⟨⟨address, -⟩, bind⟩, tls⟩, drain⟩, level⟩, metrics⟩ := clean
  have places : checkMaxConnections (c.withPlaces n).listener = [] :=
    checkMaxConnections_eq_nil_iff.mpr (Nat.ne_of_gt some)
  exact ⟨⟨⟨⟨⟨⟨address, places⟩, bind⟩, tls⟩, drain⟩, level⟩, metrics⟩

namespace Server.Blueprint

variable {b : Blueprint} {now : Nat} {limit : Duration} {target : Address.Target}

theorem check_eq_ok_iff : b.check now limit = .ok target ↔
    limit ≤ Deadline.maxTimeout ∧ b.address.target = .ok target ∧ b.maxConnections ≠ 0 := by
  unfold check
  cases fits : Deadline.check now limit with
  | error e =>
    obtain ⟨overlong, -⟩ := Deadline.check_eq_error_iff.mp fits
    constructor
    · intro checked
      cases checked
    · rintro ⟨short, -⟩
      exact absurd short (Nat.not_le_of_lt overlong)
  | ok deadline =>
    have short := (Deadline.check_eq_ok_iff.mp fits).1
    cases aimed : b.address.target with
    | error e => simp [bind, Except.bind]
    | ok t =>
      by_cases none : b.maxConnections = 0
      · simp [bind, Except.bind, none]
      · simp [bind, Except.bind, pure, Except.pure, none, short]

/-- A blueprint that passes with some number of places passes with any other. -/
theorem check_withPlaces (checked : b.check now limit = .ok target) (some : 0 < n) :
    { b with maxConnections := n }.check now limit = .ok target := by
  obtain ⟨short, aimed, -⟩ := check_eq_ok_iff.mp checked
  exact check_eq_ok_iff.mpr ⟨short, aimed, Nat.ne_of_gt some⟩

end Server.Blueprint

/-! ## What comes of it -/

section Binding

open Connection (Shared)

variable {h : Host} {b : Server.Blueprint} {limit : Duration} {answer : Address.Target → Option Shared.Answer}

/-- To bind a server ends the program if and only if nothing else is wrong with it, the network has bound its
address, and it asks for more places than there can be. -/
theorem Host.bindWith_eq_none_iff : h.bindWith b limit answer = none ↔
    Places.most < b.maxConnections ∧ ∃ target t number,
      b.check h.shared.now limit = .ok target ∧ answer target = some ⟨t, .ok number⟩ := by
  unfold bindWith
  cases checked : b.check h.shared.now limit with
  | error e => simp
  | ok target =>
    cases said : answer target with
    | none => simp [said]
    | some a =>
      obtain ⟨t, refusal | number⟩ := a
      · simp [said, Except.map, Listener.ofBound]
      · simp only [said, Except.map, Option.map_eq_none_iff, Listener.ofBound_eq_none_iff]
        constructor
        · rintro ⟨many, -⟩
          exact ⟨many, target, t, number, rfl, said⟩
        · rintro ⟨many, -⟩
          exact ⟨many, _, rfl⟩

/-- Nothing that is looked at before a server is bound keeps it from asking for more places than there can
be. If it does, the program ends once its address is bound; if it does not, the program goes on, and the
server that comes of it has as many places as it asked for. -/
theorem too_many_places_end_program (h : Host) (b : Server.Blueprint) (limit : Duration)
    (answer : Address.Target → Option Shared.Answer) :
    (h.bindWith b limit answer = none ↔ Places.most < b.maxConnections ∧ ∃ target t number,
      b.check h.shared.now limit = .ok target ∧ answer target = some ⟨t, .ok number⟩) ∧
    (∀ g, h.bindWith b limit answer = some (.ok g) →
      ∃ r, g.running = some r ∧ r.server.places = ⟨b.maxConnections, b.maxConnections⟩) ∧
    (∀ target, b.check h.shared.now limit = .ok target → 0 < b.maxConnections ∧
      ∀ n, 0 < n → { b with maxConnections := n }.check h.shared.now limit = .ok target) ∧
    ∀ c, Config.validate c = .ok () → 0 < c.listener.maxConnections ∧
      (∀ n, 0 < n → Config.validate (c.withPlaces n) = .ok ()) ∧
      ∀ files, Server.Blueprint.ofConfig files c = .ok b ∨ Program.Serve.blueprint files c = .ok b →
        b.maxConnections = c.listener.maxConnections := by
  refine ⟨Host.bindWith_eq_none_iff, ?_, ?_, ?_⟩
  · intro g bound
    obtain ⟨-, h', number, localEnd, rfl⟩ := RunningServer.serve_of_bindWith bound
    exact ⟨_, rfl, rfl⟩
  · intro target checked
    refine ⟨Nat.pos_of_ne_zero (Server.Blueprint.check_eq_ok_iff.mp checked).2.2, fun n some => ?_⟩
    exact Server.Blueprint.check_withPlaces checked some
  · intro c accepted
    refine ⟨Nat.pos_of_ne_zero (Config.sound_of_validate accepted).places,
      fun n some => Config.validate_withPlaces accepted some, fun files made => ?_⟩
    cases made with
    | inl described => exact (Config.ofConfig_address described).2
    | inr served => exact (Config.blueprint_address served).2

end Binding

/-- Settings that ask for one place more than there can be. -/
def Config.crowded : Config.Server where
  listener := { port := some 8443, maxConnections := Places.most + 1 }

/-- They pass, so does the server that they describe, and to bind it ends the program. -/
theorem crowded_settings_end_program :
    Config.validate Config.crowded = .ok () ∧ ∃ b, Server.Blueprint.ofConfig {} Config.crowded = .ok b ∧
      b.check 0 (Duration.ofSecs 1) = .ok (.inet "0.0.0.0" 8443) ∧
      ({} : Host).bind b (Duration.ofSecs 1) = none := by
  refine ⟨Config.validate_eq_ok_iff.mpr (by decide +kernel), _, rfl, rfl, ?_⟩
  exact Host.bindWith_eq_none_iff.mpr ⟨by decide, _, _, _, rfl, rfl⟩

end StreamHost
