import StreamHost.Error

/-!
Deadlines. The longest timeout any operation takes is the one that still fits a signed 64-bit count of
nanoseconds; a longer one is refused before anything else happens.
-/

namespace StreamHost.Deadline

/-- `MAX_TIMEOUT`, the longest accepted timeout. -/
def maxTimeout : Duration := ⟨9223372036854775807⟩

/-- `checked_deadline`: the instant `timeout` after `now` (instants count nanoseconds), unless the timeout is too
long. -/
def check (now : Nat) (timeout : Duration) : Except Error Nat :=
  if timeout ≤ maxTimeout then .ok (now + timeout.nanos) else .error (.arithmetic timeout)

theorem check_eq_ok_iff {now t : Nat} {d : Duration} :
    check now d = .ok t ↔ d ≤ maxTimeout ∧ t = now + d.nanos := by
  unfold check
  split <;> simp_all [eq_comm]

theorem check_eq_error_iff {now : Nat} {d : Duration} {e : Error} :
    check now d = .error e ↔ maxTimeout < d ∧ e = .arithmetic d := by
  unfold check
  split <;> rename_i h <;> simp only [Duration.le_def, Duration.lt_def] at *
  · simp; omega
  · simp only [Except.error.injEq]
    constructor
    · rintro rfl; exact ⟨by omega, rfl⟩
    · rintro ⟨_, rfl⟩; rfl

end StreamHost.Deadline
