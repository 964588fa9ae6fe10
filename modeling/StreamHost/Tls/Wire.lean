import StreamHost.Bytes

/-!
The building blocks of TLS messages: numbers of a fixed width, sequences preceded by their length, and
lists of items. Each reader takes what it reads from the front and gives the rest.
-/

namespace StreamHost.Tls.Wire

/-- A sequence preceded by its length in `width` bytes. -/
def sized (width : Nat) (bs : Bytes) : Bytes := Bytes.ofNat width bs.length ++ bs

/-- Exactly `n` bytes. -/
def take? (n : Nat) (bs : Bytes) : Option (Bytes × Bytes) :=
  let front := bs.take n
  if front.length = n then some (front, bs.drop n) else none

/-- A number of `width` bytes. -/
def number? (width : Nat) (bs : Bytes) : Option (Nat × Bytes) :=
  (take? width bs).map fun (n, rest) => (n.toNat, rest)

/-- A sequence preceded by its length in `width` bytes. -/
def sized? (width : Nat) (bs : Bytes) : Option (Bytes × Bytes) := do
  let (n, rest) ← number? width bs
  take? n rest

/-- Items up to the end. Every item takes at least one byte, so there are at most `room` of them. -/
def itemsWithin {α : Type} (item : Bytes → Option (α × Bytes)) : (room : Nat) → Bytes → Option (List α)
  | _, [] => some []
  | 0, _ => none
  | room + 1, bs => do
    let (a, rest) ← item bs
    let as ← itemsWithin item room rest
    return a :: as

/-- Items up to the end. -/
def items? {α : Type} (item : Bytes → Option (α × Bytes)) (bs : Bytes) : Option (List α) :=
  itemsWithin item bs.length bs

/-- A sequence that is not empty, preceded by its length in `width` bytes. -/
def filled? (width : Nat) (bs : Bytes) : Option (Bytes × Bytes) :=
  (sized? width bs).filter fun (inner, _) => inner ≠ []

/-- Items in a sequence preceded by its length. -/
def list? {α : Type} (width : Nat) (item : Bytes → Option (α × Bytes)) (bs : Bytes) :
    Option (List α × Bytes) := do
  let (inner, rest) ← sized? width bs
  return (← items? item inner, rest)

/-- Items in a sequence preceded by its length, at least one. -/
def some? {α : Type} (width : Nat) (item : Bytes → Option (α × Bytes)) (bs : Bytes) :
    Option (List α × Bytes) :=
  (list? width item bs).filter fun (as, _) => !as.isEmpty

/-- What a reader finds when it leaves nothing. -/
def only? {α : Type} (read : Bytes → Option (α × Bytes)) (bs : Bytes) : Option α :=
  match read bs with
  | some (a, []) => some a
  | _ => none

theorem take?_append (a b : Bytes) : take? a.length (a ++ b) = some (a, b) := by
  simp [take?]

theorem toNat_append_singleton (bs : Bytes) (b : UInt8) :
    Bytes.toNat (bs ++ [b]) = Bytes.toNat bs * 256 + b.toNat := by
  simp [Bytes.toNat]

/-- How many numbers have `width` bytes. -/
def capacity : (width : Nat) → Nat
  | 0 => 1
  | w + 1 => capacity w * 256

theorem toNat_ofNat {w n : Nat} (h : n < capacity w) : (Bytes.ofNat w n).toNat = n := by
  induction w generalizing n with
  | zero => simp [capacity] at h; simp [Bytes.ofNat, Bytes.toNat, h]
  | succ w ih =>
    have hq : n / 256 < capacity w := by
      simp only [capacity] at h; omega
    rw [Bytes.ofNat, toNat_append_singleton, ih hq]
    simp only [UInt8.toNat_ofNat', Nat.toUInt8, Nat.reducePow]
    omega

/-- A sequence is read back as it was written, if its length fits. -/
theorem sized?_sized {w : Nat} {bs : Bytes} (rest : Bytes) (h : bs.length < capacity w) :
    sized? w (sized w bs ++ rest) = some (bs, rest) := by
  have hn : number? w (sized w bs ++ rest) = some (bs.length, bs ++ rest) := by
    have := take?_append (Bytes.ofNat w bs.length) (bs ++ rest)
    rw [Bytes.length_ofNat] at this
    simp [number?, sized, this, toNat_ofNat h]
  simp [sized?, hn, take?_append]

/-- A sequence that nothing follows is found as it was written. -/
theorem only?_sized {w : Nat} {bs : Bytes} (h : bs.length < capacity w) :
    only? (sized? w) (sized w bs) = some bs := by
  have found := sized?_sized [] h
  rw [List.append_nil] at found
  simp [only?, found]

end StreamHost.Tls.Wire
