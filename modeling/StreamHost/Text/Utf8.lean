import StreamHost.Bytes

/-!
Reading text from bytes. `decode?` takes well-formed UTF-8 only; `decodeLossy` takes any bytes and puts
one replacement character for each maximal part of an ill-formed sequence.

A lead byte says how many continuation bytes follow it and in which range the first of them lies, which
rules out overlong forms, surrogates and numbers that are too large.
-/

namespace StreamHost.Text

/-- What a lead byte asks of the bytes after it. -/
structure Lead where
  /-- How many continuation bytes follow. -/
  follow : Nat
  /-- The range of the first of them. -/
  low : UInt8
  high : UInt8
  /-- The bits of the lead byte that belong to the number. -/
  bits : Nat

/-- The demands of a lead byte. -/
def Lead.of? (b : UInt8) : Option Lead :=
  if b < 0x80 then some ⟨0, 0x80, 0xbf, b.toNat⟩
  else if 0xc2 ≤ b ∧ b ≤ 0xdf then some ⟨1, 0x80, 0xbf, b.toNat - 0xc0⟩
  else if b = 0xe0 then some ⟨2, 0xa0, 0xbf, 0⟩
  else if b = 0xed then some ⟨2, 0x80, 0x9f, 0xd⟩
  else if 0xe1 ≤ b ∧ b ≤ 0xef then some ⟨2, 0x80, 0xbf, b.toNat - 0xe0⟩
  else if b = 0xf0 then some ⟨3, 0x90, 0xbf, 0⟩
  else if 0xf1 ≤ b ∧ b ≤ 0xf3 then some ⟨3, 0x80, 0xbf, b.toNat - 0xf0⟩
  else if b = 0xf4 then some ⟨3, 0x80, 0x8f, 4⟩
  else none

/-- Takes up to `follow` continuation bytes, the first of them from the given range. Gives the number
read so far, how many bytes are missing, and the rest. -/
def continuation : (follow : Nat) → (low high : UInt8) → (n : Nat) → Bytes → Nat × Nat × Bytes
  | 0, _, _, n, bs => (n, 0, bs)
  | k + 1, low, high, n, b :: bs =>
    if low ≤ b ∧ b ≤ high then continuation k 0x80 0xbf (n * 64 + (b.toNat - 0x80)) bs
    else (n, k + 1, b :: bs)
  | k + 1, _, _, n, [] => (n, k + 1, [])

theorem continuation_length (k : Nat) (low high : UInt8) (n : Nat) (bs : Bytes) :
    (continuation k low high n bs).2.2.length ≤ bs.length := by
  induction k generalizing low high n bs with
  | zero => simp [continuation]
  | succ k ih =>
    cases bs with
    | nil => simp [continuation]
    | cons b bs =>
      unfold continuation
      split
      · have := ih 0x80 0xbf (n * 64 + (b.toNat - 0x80)) bs
        simp only [List.length_cons]
        omega
      · simp

/-- One character or one ill-formed part (`none`) from the front, and the rest. -/
def nextChar (b : UInt8) (bs : Bytes) : Option Char × Bytes :=
  match Lead.of? b with
  | none => (none, bs)
  | some lead =>
    match continuation lead.follow lead.low lead.high lead.bits bs with
    | (n, 0, rest) => (some (Char.ofNat n), rest)
    | (_, _ + 1, rest) => (none, rest)

theorem nextChar_length (b : UInt8) (bs : Bytes) : (nextChar b bs).2.length ≤ bs.length := by
  unfold nextChar
  split
  · simp
  · rename_i lead _
    have h := continuation_length lead.follow lead.low lead.high lead.bits bs
    split <;> simp_all

/-- The characters of the bytes, and `none` for each ill-formed part. -/
def scan : Bytes → List (Option Char)
  | [] => []
  | b :: bs => (nextChar b bs).1 :: scan (nextChar b bs).2
termination_by bs => bs.length
decreasing_by
  have := nextChar_length b bs
  simp only [List.length_cons]
  omega

/-- The text, if the bytes are well-formed. -/
def decode? (bs : Bytes) : Option String := (scan bs).mapM id |>.map String.ofList

/-- The text, with a replacement character for each ill-formed part. -/
def decodeLossy (bs : Bytes) : String :=
  String.ofList ((scan bs).map fun c => c.getD '\ufffd')

end StreamHost.Text
