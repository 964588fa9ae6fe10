/-!
The places that a listener has for connections. A place is taken before a client is accepted, and is free
again when the connection is over.
-/

namespace StreamHost

structure Places where
  /-- How many there are. -/
  limit : Nat
  /-- How many are free. -/
  free : Nat
  deriving DecidableEq, Repr

namespace Places

/-- How many places there can be at most. -/
def most : Nat := 2305843009213693951

/-- So many places, all of them free, unless that is more than there can be. -/
def ofLimit? (n : Nat) : Option Places := if n ≤ most then some ⟨n, n⟩ else none

/-- Takes a place, if one is free. -/
def take? (p : Places) : Option Places := if p.free = 0 then none else some { p with free := p.free - 1 }

/-- Gives a place back. -/
def give (p : Places) : Places := { p with free := p.free + 1 }

theorem give_take? {p q : Places} (h : p.take? = some q) : q.give = p := by
  obtain ⟨limit, free⟩ := p
  simp only [take?] at h
  split at h
  · simp at h
  · simp only [Option.some.injEq] at h
    subst h
    simp [give]
    omega

end Places

end StreamHost
