import StreamHost.Tls.Acceptance

/-!
How an attempt to secure a connection ends. It waits until it completes or fails, and whichever comes is
written down once. A completed attempt went on with what the registry selects for the requested name, and
its stream is secured; a failed one gives the place at which it failed and a reason.
-/

namespace StreamHost.Tls

open StreamHost.Stream (Medium)

/-- Whether a note tells how an attempt ended. -/
def Note.isOutcome : Note → Bool
  | .moved _ .completed | .moved _ .failed => true
  | _ => false

/-- An attempt that has not ended. -/
inductive Attempt.Phase.Waits (r : Registry) : Attempt.Phase → Prop where
  | hello : Waits r .awaitingHello
  | engaged (hostname : Option String) : Waits r (.engaged hostname (r.lookup hostname))

/-- What has become of an attempt that waited, with the outcomes that were written down meanwhile. -/
inductive Attempt.Phase.Becomes (r : Registry) : Attempt.Phase → List Note → Prop where
  | waits {p : Attempt.Phase} (waits : p.Waits r) : Becomes r p []
  | completed (hostname : Option String) (session : Session) :
    Becomes r (.completed hostname (r.lookup hostname) session) [.moved .inProgress .completed]
  | failed (p : Progress) (reason : String) :
    Becomes r (.failed (.handshake (p.text ++ ": " ++ reason))) [.moved p .failed]

/-- An attempt after it waited: notes were added, and they tell of its outcome. -/
def Attempt.Follows (r : Registry) (a b : Attempt) : Prop :=
  ∃ added, b.notes = a.notes ++ added ∧ b.phase.Becomes r (added.filter Note.isOutcome)

namespace Attempt

variable {r : Registry} {a b c : Attempt}

theorem follows_self (waits : a.phase.Waits r) : a.Follows r a := ⟨[], by simp, .waits waits⟩

theorem follows_fail (p : Progress) (reason : String) : a.Follows r (a.fail p reason) :=
  ⟨[.moved p .failed, .failedAt p], rfl, .failed p reason⟩

theorem hear_follows (waits : a.phase.Waits r) (now : Nat) (n : News) :
    a.Follows r (a.hear r now n) := by
  unfold hear
  cases stands : a.phase with
  | awaitingHello =>
    cases n with
    | hello hostname => exact ⟨_, rfl, .waits (.engaged hostname)⟩
    | broken reason => exact follows_fail _ reason
    | nothing | established session =>
      dsimp only
      split
      · exact follows_fail _ _
      · exact follows_self waits
  | engaged hostname resolution =>
    rw [stands] at waits
    cases waits
    cases n with
    | established session => exact ⟨_, rfl, .completed hostname session⟩
    | broken reason => exact follows_fail _ reason
    | nothing | hello _ =>
      dsimp only
      split
      · exact follows_fail _ _
      · exact follows_self (stands ▸ .engaged hostname)
  | completed | failed =>
    rw [stands] at waits
    cases waits

/-- An attempt completes only when it hears of a session. -/
theorem established_of_hear {now : Nat} {n : News} {hostname : Option String}
    {resolution : Names.Resolution Configuration} {session : Session} (waits : a.phase.Waits r)
    (completed : (a.hear r now n).phase = .completed hostname resolution session) :
    n = .established session := by
  unfold hear at completed
  cases stands : a.phase with
  | awaitingHello =>
    rw [stands] at completed
    cases n with
    | hello | broken => cases completed
    | nothing | established =>
      dsimp only at completed
      split at completed
      · cases completed
      · rw [stands] at completed
        cases completed
  | engaged =>
    rw [stands] at completed
    cases n with
    | established other =>
      cases completed
      rfl
    | broken => cases completed
    | nothing | hello =>
      dsimp only at completed
      split at completed
      · cases completed
      · rw [stands] at completed
        cases completed
  | completed | failed =>
    rw [stands] at waits
    cases waits

theorem Phase.Waits.of_becomes {p : Attempt.Phase} {ns : List Note} (waits : p.Waits r)
    (becomes : p.Becomes r ns) : ns = [] := by
  cases becomes with
  | waits => rfl
  | completed | failed => cases waits

theorem Phase.Becomes.waits_of_engaged {hostname : Option String}
    {resolution : Names.Resolution Configuration} {ns : List Note}
    (becomes : (Phase.engaged hostname resolution).Becomes r ns) :
    (Phase.engaged hostname resolution).Waits r := by
  cases becomes with
  | waits waits => exact waits

/-- While an attempt waits nothing about its outcome is written down. -/
theorem Follows.trans (first : a.Follows r b) (waits : b.phase.Waits r) (second : b.Follows r c) :
    a.Follows r c := by
  obtain ⟨added, notes, becomes⟩ := first
  obtain ⟨more, later, ends⟩ := second
  refine ⟨added ++ more, by rw [later, notes, List.append_assoc], ?_⟩
  rwa [List.filter_append, waits.of_becomes becomes]

/-- Remarks of the engine are no outcomes. -/
theorem Follows.of_remark {rs : List Remark} (follows : (a.remark rs).Follows r b) : a.Follows r b := by
  obtain ⟨added, notes, becomes⟩ := follows
  refine ⟨rs.map .remarked ++ added, by simp [notes, remark], ?_⟩
  have silent : (rs.map Note.remarked).filter Note.isOutcome = [] := by
    refine List.filter_eq_nil_iff.mpr fun n member => ?_
    obtain ⟨_, -, rfl⟩ := List.mem_map.mp member
    simp [Note.isOutcome]
  rwa [List.filter_append, silent]

end Attempt

variable {σ : Type} {m : Medium σ}

/-! ## Who tells of a session -/

theorem Accepting.pollRefusal_news (room : Nat) (i : σ) (records : List Bytes) (reason : String)
    (session : Session) :
    (report (pollRefusal m room i records reason).poll).news ≠ .established session := by
  induction room generalizing i records with
  | zero => simp [pollRefusal, report]
  | succ room ih =>
    unfold pollRefusal
    cases records with
    | nil => simp [report, Stream.Poll.done]
    | cons record rest =>
      dsimp only
      split
      · simp [report]
      · simp [report, Stream.Poll.done]
      · simp [report, Stream.Poll.done]
      · exact ih _ _

theorem Accepting.pollHello_news (room : Nat) (i : σ) (intake : Intake) (session : Session) :
    (report (pollHello m room i intake).poll).news ≠ .established session := by
  induction room generalizing i intake with
  | zero => simp [pollHello, report]
  | succ room ih =>
    unfold pollHello
    dsimp only
    split
    · simp [report, Stream.Poll.done]
    · split
      · simp [report]
      · simp [report, Stream.Poll.done]
      · simp [report, Stream.Poll.done]
      · split
        · simp [report, Stream.Poll.done]
        · exact pollRefusal_news _ _ _ _ session
        · exact ih _ _

/-- Only a stream that is secured tells of a session. -/
theorem Accepting.securing_of_established {a : Accepting σ} {session : Session}
    (told : (report (a.poll m).poll).news = .established session) :
    ∃ s, (a.poll m).state = .securing s := by
  cases a with
  | listening i intake => exact absurd told (pollHello_news _ i intake session)
  | greeted i offer intake => simp [poll, report, Stream.Poll.done] at told
  | refusing i records reason => exact absurd told (pollRefusal_news _ i records reason session)
  | securing s => exact ⟨_, rfl⟩

namespace Acceptance

variable {r : Registry} {a : Acceptance σ}

/-- A completed attempt has a secured stream. -/
def IsSecured (a : Acceptance σ) : Prop :=
  ∀ hostname resolution session, a.attempt.phase = .completed hostname resolution session →
    ∃ s, a.stream = .securing s

theorem IsSecured.map {τ : Type} (secured : a.IsSecured) (f : σ → τ) : (a.map f).IsSecured := by
  intro hostname resolution session completed
  obtain ⟨s, stream⟩ := secured hostname resolution session completed
  exact ⟨_, by rw [Acceptance.map, stream]; rfl⟩

theorem advance_follows (waits : a.attempt.phase.Waits r) (now : Nat) :
    a.attempt.Follows r (a.advance m r now).1.attempt :=
  (Attempt.hear_follows (a := a.attempt.remark _) waits now _).of_remark

theorem advance_isSecured (waits : a.attempt.phase.Waits r) (now : Nat) :
    (a.advance m r now).1.IsSecured := by
  intro hostname resolution session completed
  have heard : ((a.attempt.remark (Accepting.report (a.stream.poll m).poll).remarks).hear r now
      (Accepting.report (a.stream.poll m).poll).news).phase = .completed hostname resolution session :=
    completed
  have news := Attempt.established_of_hear (a := a.attempt.remark _) waits heard
  obtain ⟨s, secured⟩ := Accepting.securing_of_established news
  exact ⟨s, by simp [advance, heard, secured]⟩

/-- One poll of an attempt that waits. -/
theorem poll_follows (waits : a.attempt.phase.Waits r) (now : Nat) :
    a.attempt.Follows r (a.poll m r now).1.attempt ∧ (a.poll m r now).1.IsSecured := by
  have once := advance_follows (m := m) waits now
  unfold poll
  dsimp only
  split
  · rename_i engaged
    have still : (a.advance m r now).1.attempt.phase.Waits r := by
      obtain ⟨_, -, becomes⟩ := once
      rw [engaged] at becomes ⊢
      exact becomes.waits_of_engaged
    exact ⟨once.trans still (advance_follows still now), advance_isSecured still now⟩
  · exact ⟨once, advance_isSecured waits now⟩

end Acceptance

end StreamHost.Tls
