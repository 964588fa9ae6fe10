import StreamHost.Address.Endpoint
import StreamHost.Proofs.NumberTexts

/-!
The texts of internet addresses are read again as the addresses they were written for, whatever stands
behind them. For version 6 this rests on three things: a list of groups is read up to the place where
nothing goes on with it; the stretch that `::` stands for holds nothing but zeros, so what is read before
and after it tells how many were left out; and no group is taken for the beginning of a dotted address.
-/

namespace StreamHost.Address

open Text (Reader Halts NumberFormat digitRun digitValue? halts_nil halts_cons)

variable {rest : List Char}

@[simp] theorem after_cons {α : Type} (c : Char) (inner : Reader α) (cs : List Char) :
    Reader.after c inner (c :: cs) = inner cs := by
  simp [Reader.after, Reader.mark]

theorem after_of_head?_ne {α : Type} {c : Char} (inner : Reader α) {cs : List Char}
    (other : cs.head? ≠ some c) : Reader.after c inner cs = none := by
  cases cs with
  | nil => rfl
  | cons d cs =>
    have other : d ≠ c := fun same => other (congrArg some same)
    simp [Reader.after, Reader.mark, other]

/-! ## Version 4 -/

theorem read_octet (o : UInt8) (halts : Halts 10 rest) :
    octetFormat.read (Nat.toDigits 10 o.toNat ++ rest) = some (o.toNat, rest) := by
  have below := o.toNat_lt
  refine NumberFormat.read_digits (f := octetFormat) (by decide) (by decide) below ?_ halts
  rintro most ⟨⟩
  exact ⟨Nat.lt_trans below (by decide), by decide⟩

theorem Ipv4.toList_text (ip : Ipv4) : ip.text.toList =
    Nat.toDigits 10 ip.a.toNat ++ '.' :: (Nat.toDigits 10 ip.b.toNat ++
      '.' :: (Nat.toDigits 10 ip.c.toNat ++ '.' :: Nat.toDigits 10 ip.d.toNat)) := by
  simp [text]

/-- The two groups that stand for an address within version 6. -/
def Ipv4.groups (ip : Ipv4) : List UInt16 :=
  [ip.a.toUInt16 <<< 8 ||| ip.b.toUInt16, ip.c.toUInt16 <<< 8 ||| ip.d.toUInt16]

theorem Ipv4.read_text (ip : Ipv4) (halts : Halts 10 rest) :
    read (ip.text.toList ++ rest) = some (ip, rest) := by
  have dot : ∀ cs, Halts 10 ('.' :: cs) := fun cs => halts_cons (by decide)
  simp [read, toList_text, read_octet _ (dot _), read_octet _ halts]

/-- A number is read to the end of its digits. -/
theorem rest_of_read {f : NumberFormat} {cs : List Char} {n : Nat} (found : f.read cs = some (n, rest)) :
    (digitRun f.base cs).2 = rest := by
  simp only [NumberFormat.read] at found
  split at found
  · cases found
  · split at found
    · cases found
    · split at found
      · cases found
      · split at found
        · exact (Prod.mk.inj (Option.some.inj found)).2
        · cases found

/-- A run of decimal digits that ends at a dot is a run of hexadecimal ones. -/
theorem hex_run_of_decimal_run {cs : List Char} (dotted : (digitRun 10 cs).2.head? = some '.') :
    (digitRun 16 cs).2.head? = some '.' := by
  induction cs with
  | nil => simp [digitRun] at dotted
  | cons c cs ih =>
    cases decimal : digitValue? 10 c with
    | some v =>
      have hex : digitValue? 16 c = some v := Text.digitValue?_mono (by decide) decimal
      simp only [digitRun, decimal] at dotted
      simpa only [digitRun, hex] using ih dotted
    | none =>
      simp only [digitRun, decimal, List.head?_cons, Option.some.injEq] at dotted
      subst dotted
      rfl

/-- Where no hexadecimal number is followed by a dot there is no dotted address. -/
theorem Ipv4.read_of_undotted {cs : List Char} (undotted : (digitRun 16 cs).2.head? ≠ some '.') :
    read cs = none := by
  unfold read
  cases found : octetFormat.read cs with
  | none => rfl
  | some first =>
    obtain ⟨a, more⟩ := first
    have ends : (digitRun 10 cs).2 = more := rest_of_read found
    have other : more.head? ≠ some '.' := fun dot => undotted (hex_run_of_decimal_run (ends ▸ dot))
    simp [after_of_head?_ne _ other]

/-! ## Groups of version 6 -/

theorem read_group (g : UInt16) (halts : Halts 16 rest) :
    groupFormat.read (Nat.toDigits 16 g.toNat ++ rest) = some (g.toNat, rest) := by
  have below := g.toNat_lt
  refine NumberFormat.read_digits (f := groupFormat) (by decide) (by decide) below ?_ halts
  rintro most ⟨⟩
  exact ⟨below, by decide⟩

theorem group_of_halts (halts : Halts 16 rest) : groupFormat.read rest = none := by
  have run : digitRun groupFormat.base rest = ([], rest) := halts
  simp [NumberFormat.read, run]

/-- Neither a group nor a dotted address is at the front. -/
structure Bare (rest : List Char) : Prop where
  halts : Halts 16 rest
  undotted : rest.head? ≠ some '.'

theorem bare_cons {c : Char} (digit : digitValue? 16 c = none) (dot : c ≠ '.') : Bare (c :: rest) :=
  ⟨halts_cons digit, by simpa using dot⟩

/-- Nothing goes on with a list of groups. -/
def EndsGroups (rest : List Char) : Prop := Bare rest ∧ ∀ more, rest = ':' :: more → Bare more

theorem endsGroups_cons {c : Char} (digit : digitValue? 16 c = none) (dot : c ≠ '.') (colon : c ≠ ':') :
    EndsGroups (c :: rest) :=
  ⟨bare_cons digit dot, fun _ same => absurd (List.cons.inj same).1 colon⟩

theorem endsGroups_gap (rest : List Char) : EndsGroups (':' :: ':' :: rest) := by
  refine ⟨bare_cons (by decide) (by decide), fun more same => ?_⟩
  obtain rfl := (List.cons.inj same).2
  exact bare_cons (by decide) (by decide)

namespace Ipv6

/-- Groups with a colon in front of each, the first of a text excepted. -/
def groupChars (first : Bool) : List UInt16 → List Char
  | [] => []
  | g :: gs =>
    (if first then [] else [':']) ++ (Nat.toDigits 16 g.toNat ++ groupChars false gs)

theorem toList_groupsText (gs : List UInt16) : (groupsText gs).toList = groupChars true gs := by
  have joined : ∀ (g : UInt16) (gs : List UInt16),
      [':'].intercalate ((g :: gs).map fun g => Nat.toDigits 16 g.toNat) = groupChars true (g :: gs) := by
    intro g gs
    induction gs generalizing g with
    | nil => simp [groupChars]
    | cons next later ih =>
      have tail := ih next
      rw [List.map_cons] at tail
      rw [List.map_cons, List.map_cons, List.intercalate_cons_cons, tail]
      simp [groupChars]
  cases gs with
  | nil => rfl
  | cons g gs => simpa [groupsText, Function.comp_def] using joined g gs

theorem mem_groupChars {g h : UInt16} {gs : List UInt16} : ':' ∈ groupChars true (g :: h :: gs) := by
  simp [groupChars]

theorem bare_groupChars (gs : List UInt16) (ends : EndsGroups rest) :
    Bare (groupChars false gs ++ rest) := by
  cases gs with
  | nil => exact ends.1
  | cons g gs => exact bare_cons (by decide) (by decide)

/-- What is read between separators is read behind one. -/
theorem separated_of_text {α : Type} (first : Bool) (inner : Reader α) (cs : List Char) :
    separated first inner ((if first then [] else [':']) ++ cs) = inner cs := by
  cases first <;> simp [separated]

theorem separated_of_ends {α : Type} {inner : Reader α} (refuses : ∀ {cs}, Bare cs → inner cs = none)
    (first : Bool) (ends : EndsGroups rest) : separated first inner rest = none := by
  cases first with
  | true => exact refuses ends.1
  | false =>
    by_cases colon : rest.head? = some ':'
    · obtain ⟨more, rfl⟩ := List.head?_eq_some_iff.mp colon
      simpa [separated] using refuses (ends.2 more rfl)
    · exact after_of_head?_ne inner colon

theorem undotted_of_bare {cs : List Char} (bare : Bare cs) : Ipv4.read cs = none := by
  refine Ipv4.read_of_undotted ?_
  rw [bare.halts]
  exact bare.undotted

theorem undotted_group (g : UInt16) (bare : Bare rest) :
    Ipv4.read (Nat.toDigits 16 g.toNat ++ rest) = none := by
  obtain ⟨ds, spells⟩ : ∃ ds, Text.Spells 16 g.toNat ds :=
    Text.exists_spells (by decide) (by decide) g.toNat
  refine Ipv4.read_of_undotted ?_
  rw [spells.reads, bare.halts]
  exact bare.undotted

/-- All groups of a list are read, and nothing behind them. -/
theorem readGroups_groupChars (gs : List UInt16) {room : Nat} (first : Bool) (fits : gs.length ≤ room)
    (ends : EndsGroups rest) : readGroups room first (groupChars first gs ++ rest) = (gs, false, rest) := by
  induction gs generalizing room first with
  | nil =>
    cases room with
    | zero => rfl
    | succ room =>
      have dotted := separated_of_ends undotted_of_bare first ends
      have group := separated_of_ends (fun bare => group_of_halts bare.halts) first ends
      simp [readGroups, groupChars, dotted, group]
  | cons g gs ih =>
    obtain ⟨room, rfl⟩ : ∃ less, room = less + 1 := ⟨room - 1, by simp at fits; omega⟩
    have bare := bare_groupChars gs ends
    have fits : gs.length ≤ room := by simpa using fits
    have later := ih false fits
    rw [groupChars, List.append_assoc, List.append_assoc, readGroups]
    simp only [separated_of_text, undotted_group g bare, read_group g bare.halts, ite_self, later]
    simp [UInt16.ofNat_toNat, Nat.toUInt16]

/-! ## The stretch that is left out -/

/-- A stretch of groups that are all zero. -/
def Run.IsZero (r : Run) (gs : List UInt16) : Prop :=
  ∃ head tail, gs = head ++ List.replicate r.len 0 ++ tail ∧ head.length = r.start

theorem Run.IsZero.concat {r : Run} {gs : List UInt16} (zero : r.IsZero gs) (g : UInt16) :
    r.IsZero (gs ++ [g]) := by
  obtain ⟨head, tail, rfl, start⟩ := zero
  exact ⟨head, tail ++ [g], by simp, start⟩

/-- The stretch under way ends where the search has come to. -/
def Run.Reaches (r : Run) (gs : List UInt16) : Prop :=
  r.len = 0 ∨ ∃ head, gs = head ++ List.replicate r.len 0 ∧ head.length = r.start

/-- One more zero group makes the stretch under way longer, or begins one. -/
theorem Run.Reaches.grow {r : Run} {gs : List UInt16} (reaches : r.Reaches gs) :
    ∃ head, gs ++ [0] =
        head ++ List.replicate (if r.len = 0 then (⟨gs.length, 1⟩ : Run) else ⟨r.start, r.len + 1⟩).len 0 ∧
      head.length = (if r.len = 0 then (⟨gs.length, 1⟩ : Run) else ⟨r.start, r.len + 1⟩).start := by
  split
  · exact ⟨gs, rfl, rfl⟩
  · rename_i running
    obtain none | ⟨head, rfl, start⟩ := reaches
    · exact absurd none running
    · exact ⟨head, by simp [List.replicate_succ'], start⟩

/-- The search has been over `seen`; the stretch under way reaches its end and the best one so far lies in
it. -/
theorem longestZeros_isZero {current best : Run} {seen : List UInt16} (gs : List UInt16)
    (reaches : current.Reaches seen) (zero : best.IsZero seen) :
    (longestZeros seen.length current best gs).IsZero (seen ++ gs) := by
  induction gs generalizing seen current best with
  | nil => simpa [longestZeros] using zero
  | cons g gs ih =>
    have onward : seen ++ g :: gs = seen ++ [g] ++ gs := by simp
    have count : seen.length + 1 = (seen ++ [g]).length := by simp
    rw [longestZeros, onward, count]
    split
    · rename_i nothing
      subst nothing
      have grown := reaches.grow
      generalize (if current.len = 0 then (⟨seen.length, 1⟩ : Run) else ⟨current.start, current.len + 1⟩) =
        longer at grown ⊢
      refine ih (.inr grown) ?_
      split
      · obtain ⟨head, shown, start⟩ := grown
        exact ⟨head, [], by simpa using shown, start⟩
      · exact zero.concat 0
    · exact ih (.inl rfl) (zero.concat g)

theorem ofParts_eq {ip : Ipv6} {head tail : List UInt16}
    (parts : ip.groups.toList = head ++ List.replicate (8 - head.length - tail.length) 0 ++ tail) :
    ofParts head tail = ip := by
  obtain ⟨groups⟩ := ip
  simp only [ofParts, ← parts, mk.injEq]
  ext i below
  simp [List.getD_eq_getElem?_getD]

/-! ## Whole addresses -/

/-- The two octets of a group make it up again. -/
theorem joined_octets (g : UInt16) :
    (g >>> 8).toUInt8.toUInt16 <<< 8 ||| g.toUInt8.toUInt16 = g := by
  apply UInt16.toNat_inj.mp
  have below := g.toNat_lt
  have high : g.toNat / 256 < 256 := by omega
  have low : g.toNat % 256 < 2 ^ 8 := Nat.mod_lt _ (by decide)
  have upper : ((g >>> 8).toUInt8.toUInt16 <<< 8).toNat = (g.toNat / 256) <<< 8 := by
    simp [Nat.shiftRight_eq_div_pow, Nat.shiftLeft_eq]
    omega
  have lower : g.toUInt8.toUInt16.toNat = g.toNat % 256 := by simp
  rw [UInt16.toNat_or, upper, lower, ← Nat.shiftLeft_add_eq_or_of_lt low, Nat.shiftLeft_eq]
  omega

theorem groups_of_mapped {ip : Ipv6} {v4 : Ipv4} (mapped : ip.mapped? = some v4) :
    ip.groups.toList = [0, 0, 0, 0, 0, 0xffff] ++ v4.groups := by
  simp only [mapped?] at mapped
  split at mapped
  · rename_i hi lo shown
    obtain rfl := Option.some.inj mapped
    simp only [Ipv4.groups, joined_octets]
    exact shown
  · cases mapped

theorem read_mapped {ip : Ipv6} {v4 : Ipv4} (mapped : ip.mapped? = some v4) (halts : Halts 10 rest) :
    read ("::ffff:".toList ++ (v4.text.toList ++ rest)) = some (ip, rest) := by
  have colon : Bare (':' :: (v4.text.toList ++ rest)) := bare_cons (by decide) (by decide)
  have last : readGroups 6 false (':' :: (v4.text.toList ++ rest)) = (v4.groups, true, rest) := by
    simp [readGroups, separated, v4.read_text halts, Ipv4.groups]
  have back : readGroups 7 true ("ffff:".toList ++ (v4.text.toList ++ rest)) =
      (0xffff :: v4.groups, true, rest) := by
    have digits : Nat.toDigits 16 (0xffff : UInt16).toNat = ['f', 'f', 'f', 'f'] := by decide
    have written : "ffff:".toList ++ (v4.text.toList ++ rest) =
        Nat.toDigits 16 (0xffff : UInt16).toNat ++ ':' :: (v4.text.toList ++ rest) := by
      rw [digits]
      simp
    rw [written, readGroups]
    simp only [separated, ↓reduceIte, undotted_group 0xffff colon, read_group 0xffff colon.halts, last,
      ite_self]
    rfl
  have parts : ofParts [] (0xffff :: v4.groups) = ip := ofParts_eq (groups_of_mapped mapped)
  have opened : "::ffff:".toList ++ (v4.text.toList ++ rest) =
      ':' :: ':' :: ("ffff:".toList ++ (v4.text.toList ++ rest)) := by simp
  rw [opened]
  generalize "ffff:".toList ++ (v4.text.toList ++ rest) = more at back
  have front : readGroups 8 true (':' :: ':' :: more) = ([], false, ':' :: ':' :: more) :=
    readGroups_groupChars [] true (by decide) (endsGroups_gap more)
  simp [read, front, back, parts]

/-- Eight groups without a gap. -/
theorem read_full (ip : Ipv6) (ends : EndsGroups rest) :
    read ((groupsText ip.groups.toList).toList ++ rest) = some (ip, rest) := by
  have count : ip.groups.toList.length = 8 := by simp
  have whole : ofParts ip.groups.toList [] = ip := ofParts_eq (by simp)
  rw [toList_groupsText, read, readGroups_groupChars _ true (by omega) ends]
  simp [whole]

/-- At least two zero groups are left out. -/
theorem read_gap {ip : Ipv6} {head tail : List UInt16} {n : Nat} (several : 1 < n)
    (split : ip.groups.toList = head ++ List.replicate n 0 ++ tail) (ends : EndsGroups rest) :
    read ((groupsText head ++ "::" ++ groupsText tail).toList ++ rest) = some (ip, rest) := by
  have count : head.length + n + tail.length = 8 := by
    simpa [Nat.add_assoc] using (congrArg List.length split).symm
  have written : (groupsText head ++ "::" ++ groupsText tail).toList ++ rest =
      groupChars true head ++ ':' :: ':' :: (groupChars true tail ++ rest) := by
    simp [toList_groupsText]
  have before : head.length ≤ 8 := by omega
  have behind : tail.length ≤ 7 - head.length := by omega
  have front := readGroups_groupChars head true before (endsGroups_gap (groupChars true tail ++ rest))
  have back := readGroups_groupChars tail true behind ends
  have zeros : 8 - head.length - tail.length = n := by omega
  have parts : ofParts head tail = ip := ofParts_eq (by rw [zeros]; exact split)
  have short : head.length ≠ 8 := by omega
  rw [written, read, front]
  simp [short, back, parts]

theorem read_text (ip : Ipv6) (ends : EndsGroups rest) :
    read (ip.text.toList ++ rest) = some (ip, rest) := by
  unfold text
  cases mapped : ip.mapped? with
  | some v4 => simpa using read_mapped mapped (ends.1.halts.mono (by decide))
  | none =>
    have underway : (⟨0, 0⟩ : Run).Reaches [] := .inl rfl
    have none : (⟨0, 0⟩ : Run).IsZero [] := ⟨[], [], rfl, rfl⟩
    obtain ⟨head, tail, split, start⟩ := longestZeros_isZero ip.groups.toList underway none
    simp only [List.length_nil, List.nil_append] at split start
    dsimp only
    generalize longestZeros 0 ⟨0, 0⟩ ⟨0, 0⟩ ip.groups.toList = zeros at split start ⊢
    split
    · rename_i several
      have before : ip.groups.toList.take zeros.start = head := by simp [split, ← start]
      have behind : ip.groups.toList.drop (zeros.start + zeros.len) = tail := by
        rw [split, ← start]
        simp [List.drop_append]
      rw [before, behind]
      exact read_gap several split ends
    · exact read_full ip ends

end Ipv6

namespace SocketAddress

theorem read_port (p : UInt16) : portFormat.read (Nat.toDigits 10 p.toNat) = some (p.toNat, []) := by
  have whole : portFormat.read (Nat.toDigits 10 p.toNat ++ []) = some (p.toNat, []) :=
    NumberFormat.read_digits (f := portFormat) (by decide) (by decide) p.toNat_lt (by rintro most ⟨⟩)
      halts_nil
  rwa [List.append_nil] at whole

theorem read_scope (scope : UInt32) (halts : Halts 10 rest) :
    scopeFormat.read (Nat.toDigits 10 scope.toNat ++ rest) = some (scope.toNat, rest) :=
  NumberFormat.read_digits (f := scopeFormat) (by decide) (by decide) scope.toNat_lt
    (by rintro most ⟨⟩) halts

theorem readV4_text (ip : Ipv4) (p : UInt16) :
    readV4 (v4 ip p).text.toList = some (v4 ip p, []) := by
  have colon : Halts 10 (':' :: Nat.toDigits 10 p.toNat) := halts_cons (by decide)
  have first := ip.read_text colon
  simp [readV4, text, first, read_port, Nat.toUInt16]

theorem readV6_text (ip : Ipv6) (p : UInt16) (scope : UInt32) :
    readV6 (v6 ip p scope).text.toList = some (v6 ip p scope, []) := by
  by_cases unscoped : scope = 0
  · have bracket : EndsGroups (']' :: ':' :: Nat.toDigits 10 p.toNat) :=
      endsGroups_cons (by decide) (by decide) (by decide)
    have first := ip.read_text bracket
    have none : Reader.after '%' scopeFormat.read (']' :: ':' :: Nat.toDigits 10 p.toNat) = none :=
      after_of_head?_ne _ (by simp)
    simp [readV6, text, unscoped, first, none, Reader.mark, read_port, Nat.toUInt16, Nat.toUInt32]
  · have percent : EndsGroups
        ('%' :: (Nat.toDigits 10 scope.toNat ++ ']' :: ':' :: Nat.toDigits 10 p.toNat)) :=
      endsGroups_cons (by decide) (by decide) (by decide)
    have bracket : Halts 10 (']' :: ':' :: Nat.toDigits 10 p.toNat) := halts_cons (by decide)
    have first := ip.read_text percent
    have second := read_scope scope bracket
    simp [readV6, text, unscoped, first, second, Reader.mark, read_port, Nat.toUInt16, Nat.toUInt32]

theorem readV4_of_v6 (ip : Ipv6) (p : UInt16) (scope : UInt32) :
    readV4 (v6 ip p scope).text.toList = none := by
  have bracket : ∀ cs, Ipv4.read ('[' :: cs) = none := fun cs =>
    Ipv6.undotted_of_bare (bare_cons (by decide) (by decide))
  simp [readV4, text, bracket]

/-- The text of a socket address is read as that address. -/
theorem parse?_text (a : SocketAddress) : parse? a.text = some a := by
  cases a with
  | v4 ip p => simp [parse?, readV4_text]
  | v6 ip p scope => simp [parse?, readV4_of_v6, readV6_text]

end SocketAddress

end StreamHost.Address
