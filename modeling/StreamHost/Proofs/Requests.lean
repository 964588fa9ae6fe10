import StreamHost.Stream.Poll

/-!
Operations on a stream as data, so that one can speak of any number of them in a row, and of two streams
that are asked the same.
-/

namespace StreamHost

/-- One thing after another is done, each where the one before it ended: where the last one ended, and
what each gave. -/
def inTurn {σ ι α : Type} (step : σ → ι → σ × α) (s : σ) : List ι → σ × List α
  | [] => (s, [])
  | i :: rest =>
    let first := step s i
    let later := inTurn step first.1 rest
    (later.1, first.2 :: later.2)

section

variable {σ τ ι α : Type} {step : σ → ι → σ × α}

/-- Two systems that give the same step by step, and stay alike, give the same in the long run. -/
theorem inTurn_alike {step' : τ → ι → τ × α} (Alike : σ → τ → Prop)
    (keeps : ∀ {s t}, Alike s t → ∀ i, Alike (step s i).1 (step' t i).1 ∧ (step s i).2 = (step' t i).2)
    {s : σ} {t : τ} (alike : Alike s t) (is : List ι) :
    Alike (inTurn step s is).1 (inTurn step' t is).1 ∧ (inTurn step s is).2 = (inTurn step' t is).2 := by
  induction is generalizing s t with
  | nil => exact ⟨alike, rfl⟩
  | cons i rest ih =>
    obtain ⟨onward, same⟩ := keeps alike i
    obtain ⟨final, later⟩ := ih onward
    exact ⟨final, List.cons_eq_cons.mpr ⟨same, later⟩⟩

/-- What every step gives is given in the long run. -/
theorem inTurn_gives (gives : α → Prop) (each : ∀ s i, gives (step s i).2) (s : σ) (is : List ι) :
    ∀ a ∈ (inTurn step s is).2, gives a := by
  induction is generalizing s with
  | nil => simp [inTurn]
  | cons i rest ih => exact List.forall_mem_cons.mpr ⟨each s i, ih _⟩

/-- What every step keeps is kept in the long run. -/
theorem inTurn_keeps (kept : σ → Prop) (keeps : ∀ {s}, kept s → ∀ i, kept (step s i).1) {s : σ}
    (before : kept s) (is : List ι) : kept (inTurn step s is).1 := by
  induction is generalizing s with
  | nil => exact before
  | cons i rest ih => exact ih (keeps before i)

/-- What some steps set and none takes back is set in the end if it was at first or one of them did. -/
theorem inTurn_sets (kept flag : σ → Prop) (sets : ι → α → Prop)
    (keeps : ∀ {s}, kept s → ∀ i, kept (step s i).1 ∧ (flag (step s i).1 ↔ flag s ∨ sets i (step s i).2))
    {s : σ} (before : kept s) (is : List ι) :
    flag (inTurn step s is).1 ↔ flag s ∨ ∃ x ∈ is.zip (inTurn step s is).2, sets x.1 x.2 := by
  induction is generalizing s with
  | nil => simp [inTurn]
  | cons i rest ih =>
    obtain ⟨onward, first⟩ := keeps before i
    simp only [inTurn, ih onward, first, List.zip_cons_cons, List.mem_cons, or_and_right, exists_or,
      exists_eq_left, or_assoc]

end

namespace Stream

/-- An operation on a stream. -/
inductive Request where
  | read (room : Nat)
  | write (bytes : Bytes)
  | flush
  | shutdown
  deriving DecidableEq, Repr

/-- What an operation gave. -/
inductive Reply where
  | read (p : Poll Bytes)
  | written (p : Poll Nat)
  | flushed (p : Poll Unit)
  | shutDown (p : Poll Unit)

/-- The outcome of an operation that may be any. -/
structure Outcome (σ ρ : Type) where
  state : σ
  events : List Event
  reply : ρ

/-- The outcome of one operation as that of any. -/
def Turn.outcome {σ α ρ : Type} (t : Turn σ α) (reply : Poll α → ρ) : Outcome σ ρ :=
  ⟨t.state, t.events, reply t.poll⟩

/-- Asks a stream. -/
def Medium.ask {σ : Type} (m : Medium σ) (s : σ) : Request → Outcome σ Reply
  | .read room => (m.read s room).outcome .read
  | .write bytes => (m.write s bytes).outcome .written
  | .flush => (m.flush s).outcome .flushed
  | .shutdown => (m.shutdown s).outcome .shutDown

end Stream

end StreamHost
