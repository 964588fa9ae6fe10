import StreamHost.Stream.Poll

/-!
Scripted streams: streams whose answers are laid down beforehand. Each operation has a list of answers
and takes the next one; at the end of its list a read finds nothing, a write takes all, and a flush or a
shutdown succeeds.
-/

namespace StreamHost.Stream

/-- The answer to a read. -/
inductive ReadItem where
  | data (bytes : Bytes)
  | endOfInput
  | pending
  | failure (error : IoError)

/-- The answer to a write. -/
inductive WriteItem where
  /-- Takes at most so many bytes. -/
  | accept (most : Nat)
  | pending
  | failure (error : IoError)

/-- The answer to a flush or a shutdown. -/
inductive PlainItem where
  | ok
  | pending
  | failure (error : IoError)

structure Script where
  name : String := "m"
  reads : List ReadItem := []
  writes : List WriteItem := []
  flushes : List PlainItem := []
  shutdowns : List PlainItem := []

namespace Script

/-- Bytes that do not fit stay in front. -/
def read (s : Script) (room : Nat) : Turn Script Bytes :=
  match s.reads with
  | [] => ⟨s, [], .pending⟩
  | .data bytes :: rest =>
    let left := bytes.drop room
    let reads := if left.isEmpty then rest else .data left :: rest
    ⟨{ s with reads }, [], .done (bytes.take room)⟩
  | .endOfInput :: rest => ⟨{ s with reads := rest }, [], .done []⟩
  | .pending :: rest => ⟨{ s with reads := rest }, [], .pending⟩
  | .failure e :: rest => ⟨{ s with reads := rest }, [], .fail e⟩

/-- Takes bytes and tells so. -/
def take (s : Script) (rest : List WriteItem) (bytes : Bytes) : Turn Script Nat :=
  ⟨{ s with writes := rest }, [.took s.name bytes], .done bytes.length⟩

def write (s : Script) (bytes : Bytes) : Turn Script Nat :=
  match s.writes with
  | [] => s.take [] bytes
  | .accept most :: rest => s.take rest (bytes.take most)
  | .pending :: rest => ⟨{ s with writes := rest }, [], .pending⟩
  | .failure e :: rest => ⟨{ s with writes := rest }, [], .fail e⟩

/-- The next plain answer, and the answers after it. -/
def nextPlain : List PlainItem → Poll Unit × List PlainItem
  | [] => (.done (), [])
  | .ok :: rest => (.done (), rest)
  | .pending :: rest => (.pending, rest)
  | .failure e :: rest => (.fail e, rest)

def flush (s : Script) : Turn Script Unit :=
  let (poll, rest) := nextPlain s.flushes
  ⟨{ s with flushes := rest }, [.flushed s.name], poll⟩

def shutdown (s : Script) : Turn Script Unit :=
  let (poll, rest) := nextPlain s.shutdowns
  ⟨{ s with shutdowns := rest }, [.shutDown s.name], poll⟩

/-- Scripts as a medium. -/
def medium : Medium Script := ⟨read, write, flush, shutdown⟩

theorem read_le (s : Script) (room : Nat) (bytes : Bytes)
    (h : (s.read room).poll = .ready (.ok bytes)) : bytes.length ≤ room := by
  unfold read at h
  split at h <;> simp only [Poll.done, Poll.fail, Poll.ready.injEq, Except.ok.injEq,
    reduceCtorEq] at h
  · exact h ▸ List.length_take_le _ _
  · simp [← h]

theorem write_le (s : Script) (bytes : Bytes) (n : Nat)
    (h : (s.write bytes).poll = .ready (.ok n)) : n ≤ bytes.length := by
  unfold write at h
  split at h <;> simp only [take, Poll.done, Poll.fail, Poll.ready.injEq, Except.ok.injEq,
    reduceCtorEq] at h
  · omega
  · simp at h; omega

theorem medium_lawful : medium.Lawful := ⟨read_le, write_le⟩

end Script

end StreamHost.Stream
