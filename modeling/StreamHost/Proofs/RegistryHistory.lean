import StreamHost.Tls.Registry

/-!
A registry answers from the history of the operations that made it. For each pattern the last write
counts: an entry of an operation that was carried out, with none after it for the same pattern, in the
same operation or later, and no later replacement of all entries. An operation with a pattern that cannot
be read is no part of the history.
-/

namespace StreamHost.Names

variable {α : Type}

/-! ## Histories -/

namespace RegistryBuilder

namespace Op

/-- The entries that an operation asks for, with their patterns as they were given. -/
def entries : Op α → List (String × α)
  | setDefault _ => []
  | add raw a => [(raw, a)]
  | addAll added | setAll added => added

/-- The default that an operation sets. -/
def default? : Op α → Option α
  | setDefault a => some a
  | _ => none

/-- Whether an operation takes all earlier entries away. -/
def replaces : Op α → Bool
  | setAll _ => true
  | _ => false

/-- Every pattern of an operation can be read. -/
def Accepted (op : Op α) : Prop := ∀ e ∈ op.entries, ∃ p, Pattern.parse e.1 = .ok p

/-- The entry that an operation leaves for a pattern: the last of those whose text means it. -/
def Writes (op : Op α) (p : Pattern) (a : α) : Prop :=
  ∃ front raw back, op.entries = front ++ (raw, a) :: back ∧ Pattern.parse raw = .ok p ∧
    ∀ e ∈ back, Pattern.parse e.1 ≠ .ok p

/-- An operation after which the entry of a pattern is what it was before. -/
def Spares (op : Op α) (p : Pattern) : Prop :=
  op.Accepted → op.replaces = false ∧ ∀ e ∈ op.entries, Pattern.parse e.1 ≠ .ok p

end Op

/-- The last write for a pattern in a history. -/
def LastWrite (ops : List (Op α)) (p : Pattern) (a : α) : Prop :=
  ∃ before op after, ops = before ++ op :: after ∧ op.Accepted ∧ op.Writes p a ∧
    ∀ later ∈ after, later.Spares p

/-- The last default in a history. -/
def LastDefault (ops : List (Op α)) (a : α) : Prop :=
  ∃ before after, ops = before ++ .setDefault a :: after ∧ ∀ later ∈ after, later.default? = none

end RegistryBuilder

/-! ## What one operation does -/

/-- Among entries that are set one after the other the last one for a pattern counts, else the one that
was there before. -/
theorem Entries.get?_insertAll {es : Entries α} {added : List (Pattern × α)} {p : Pattern} {a : α} :
    (es.insertAll added).get? p = some a ↔
      (∃ front back, added = front ++ (p, a) :: back ∧ ∀ e ∈ back, e.1 ≠ p) ∨
        ((∀ e ∈ added, e.1 ≠ p) ∧ es.get? p = some a) := by
  induction added generalizing es with
  | nil => simp [insertAll]
  | cons first rest ih =>
    obtain ⟨q, b⟩ := first
    have unfolded : (es.insertAll ((q, b) :: rest)) = (es.insert q b).insertAll rest := rfl
    rw [unfolded, ih, get?_insert]
    constructor
    · rintro (⟨front, back, rfl, last⟩ | ⟨spared, found⟩)
      · exact .inl ⟨(q, b) :: front, back, rfl, last⟩
      · split at found
        · rename_i same
          obtain rfl := Option.some.inj found
          exact .inl ⟨[], rest, by rw [same]; rfl, spared⟩
        · rename_i other
          refine .inr ⟨fun e member => ?_, found⟩
          rcases List.mem_cons.mp member with rfl | later
          · exact Ne.symm other
          · exact spared e later
    · rintro (⟨front, back, split, last⟩ | ⟨spared, found⟩)
      · cases front with
        | nil =>
          obtain ⟨same, rfl⟩ := List.cons.inj split
          obtain ⟨rfl, rfl⟩ := Prod.mk.inj same
          exact .inr ⟨last, by simp⟩
        | cons head front =>
          obtain ⟨rfl, rfl⟩ := List.cons.inj split
          exact .inl ⟨front, back, rfl, last⟩
      · have other : p ≠ q := Ne.symm (spared (q, b) List.mem_cons_self)
        refine .inr ⟨fun e member => spared e (List.mem_cons_of_mem _ member), ?_⟩
        simpa [other] using found

namespace RegistryBuilder

variable {b : RegistryBuilder α} {op : Op α} {ops : List (Op α)} {p : Pattern} {a : α}
  {es : List (String × α)} {ps : List (Pattern × α)}

/-- Reading the patterns of entries keeps their order and what they stand for. -/
theorem parseAll_eq_ok_iff : parseAll es = .ok ps ↔
    es.map (fun e => (Pattern.parse e.1, e.2)) = ps.map fun q => (.ok q.1, q.2) := by
  induction es generalizing ps with
  | nil => cases ps <;> simp [parseAll]
  | cons e rest ih =>
    obtain ⟨raw, a⟩ := e
    cases first : Pattern.parse raw with
    | error e => cases ps <;> simp [parseAll, first, bind, Except.bind]
    | ok p =>
      cases later : parseAll rest with
      | error e =>
        cases ps with
        | nil => simp [parseAll, first, later, bind, Except.bind]
        | cons q qs =>
          have refused : rest.map (fun e => (Pattern.parse e.1, e.2)) ≠
              qs.map fun q => (.ok q.1, q.2) := fun same => by simp [ih.mpr same] at later
          simp [parseAll, first, later, bind, Except.bind, refused]
      | ok read =>
        cases ps with
        | nil => simp [parseAll, first, later, bind, Except.bind, pure, Except.pure]
        | cons q qs =>
          have same := @ih qs
          simp only [later, Except.ok.injEq] at same
          simp [parseAll, first, later, bind, Except.bind, pure, Except.pure, same, Prod.ext_iff]

theorem parseAll_of_accepted (accepted : ∀ e ∈ es, ∃ p, Pattern.parse e.1 = .ok p) :
    ∃ ps, parseAll es = .ok ps := by
  induction es with
  | nil => exact ⟨[], rfl⟩
  | cons e rest ih =>
    obtain ⟨raw, a⟩ := e
    obtain ⟨p, first⟩ := accepted (raw, a) List.mem_cons_self
    obtain ⟨ps, later⟩ := ih fun e member => accepted e (List.mem_cons_of_mem _ member)
    exact ⟨(p, a) :: ps, by simp [parseAll, first, later, bind, Except.bind, pure, Except.pure]⟩

theorem accepted_of_parseAll (read : parseAll es = .ok ps) :
    ∀ e ∈ es, ∃ p, Pattern.parse e.1 = .ok p := by
  intro e member
  have listed : (Pattern.parse e.1, e.2) ∈ es.map fun e => (Pattern.parse e.1, e.2) :=
    List.mem_map_of_mem member
  rw [parseAll_eq_ok_iff.mp read] at listed
  obtain ⟨q, -, same⟩ := List.mem_map.mp listed
  exact ⟨q.1, (Prod.mk.inj same).1.symm⟩

private theorem spared_iff_of_read
    (read : es.map (fun e => (Pattern.parse e.1, e.2)) = ps.map fun q => (.ok q.1, q.2)) :
    (∀ q ∈ ps, q.1 ≠ p) ↔ ∀ e ∈ es, Pattern.parse e.1 ≠ .ok p := by
  constructor
  · intro spared e member means
    have listed : (Pattern.parse e.1, e.2) ∈ es.map fun e => (Pattern.parse e.1, e.2) :=
      List.mem_map_of_mem member
    rw [read] at listed
    obtain ⟨q, inside, same⟩ := List.mem_map.mp listed
    have own : Except.ok q.1 = Pattern.parse e.1 := (Prod.mk.inj same).1
    exact spared q inside (Except.ok.inj (own.trans means))
  · rintro spared q member rfl
    have listed : ((.ok q.1 : Except PatternError Pattern), q.2) ∈ ps.map fun q => (.ok q.1, q.2) :=
      List.mem_map.mpr ⟨q, member, rfl⟩
    rw [← read] at listed
    obtain ⟨e, inside, same⟩ := List.mem_map.mp listed
    exact spared e inside (Prod.mk.inj same).1

private theorem last_iff_of_read
    (read : es.map (fun e => (Pattern.parse e.1, e.2)) = ps.map fun q => (.ok q.1, q.2)) :
    (∃ front back, ps = front ++ (p, a) :: back ∧ ∀ q ∈ back, q.1 ≠ p) ↔
      ∃ front raw back, es = front ++ (raw, a) :: back ∧ Pattern.parse raw = .ok p ∧
        ∀ e ∈ back, Pattern.parse e.1 ≠ .ok p := by
  constructor
  · rintro ⟨front, back, rfl, last⟩
    rw [List.map_append, List.map_cons] at read
    obtain ⟨before, rest, rfl, -, read⟩ := List.map_eq_append_iff.mp read
    obtain ⟨⟨raw, c⟩, behind, rfl, same, later⟩ := List.map_eq_cons_iff.mp read
    obtain ⟨means, rfl⟩ := Prod.mk.inj same
    exact ⟨before, raw, behind, rfl, means, (spared_iff_of_read later).mp last⟩
  · rintro ⟨front, raw, back, rfl, means, last⟩
    rw [List.map_append, List.map_cons] at read
    obtain ⟨before, rest, rfl, -, read⟩ := List.map_eq_append_iff.mp read.symm
    obtain ⟨⟨q, c⟩, behind, rfl, same, later⟩ := List.map_eq_cons_iff.mp read
    obtain ⟨own, rfl⟩ := Prod.mk.inj same
    obtain rfl := Except.ok.inj (own.trans means)
    exact ⟨before, behind, rfl, (spared_iff_of_read later.symm).mpr last⟩

/-- All that an operation can do: nothing is changed if a pattern cannot be read, and else all its entries
are set. -/
theorem run_edit (b : RegistryBuilder α) (op : Op α) : (edit op).run b =
    match parseAll op.entries with
    | .error e => .error e b
    | .ok ps => .ok ()
      { fallback := op.default?.or b.fallback
        entries := (if op.replaces then {} else b.entries).insertAll ps } := by
  cases op with
  | setDefault a => rfl
  | add raw a =>
    simp only [Op.entries, parseAll, edit]
    cases Pattern.parse raw <;> rfl
  | addAll added | setAll added =>
    simp only [Op.entries, edit]
    cases parseAll added <;> rfl

/-- An operation is carried out if every one of its patterns can be read, and else it is refused. -/
theorem step_isOk_iff : (∃ c, b.step op = .ok c) ↔ op.Accepted := by
  simp only [step, run_edit]
  cases read : parseAll op.entries with
  | error e =>
    have refused : ¬ op.Accepted := by
      intro accepted
      obtain ⟨ps, readable⟩ := parseAll_of_accepted accepted
      simp [read] at readable
    simp [refused]
  | ok ps =>
    have accepted : op.Accepted := accepted_of_parseAll read
    simp [accepted]

/-- An operation that is refused changes nothing. -/
theorem after_of_refused (refused : ¬ op.Accepted) : b.after op = b := by
  simp only [after, run_edit]
  cases read : parseAll op.entries with
  | error e => rfl
  | ok ps => exact absurd (accepted_of_parseAll read) refused

/-- What an operation does to the entry of a pattern. -/
theorem get?_after : (b.after op).entries.get? p = some a ↔
    (op.Accepted ∧ op.Writes p a) ∨ (op.Spares p ∧ b.entries.get? p = some a) := by
  by_cases accepted : op.Accepted
  · obtain ⟨ps, read⟩ := parseAll_of_accepted accepted
    have same := parseAll_eq_ok_iff.mp read
    simp only [after, run_edit, read, Entries.get?_insertAll, last_iff_of_read same,
      spared_iff_of_read same]
    constructor
    · rintro (written | ⟨spared, found⟩)
      · exact .inl ⟨accepted, written⟩
      · split at found
        · simp at found
        · rename_i kept
          exact .inr ⟨fun _ => ⟨by simpa using kept, spared⟩, found⟩
    · rintro (⟨-, written⟩ | ⟨spares, found⟩)
      · exact .inl written
      · obtain ⟨kept, spared⟩ := spares accepted
        exact .inr ⟨spared, by simpa [kept] using found⟩
  · simp [after_of_refused accepted, Op.Spares, accepted]

theorem fallback_after : (b.after op).fallback = op.default?.or b.fallback := by
  cases op with
  | setDefault a => rfl
  | add | addAll | setAll =>
    simp only [after, run_edit]
    split <;> rename_i read <;> split at read <;> cases read <;> rfl

/-! ## What a history leaves -/

theorem lastWrite_cons : LastWrite (op :: ops) p a ↔
    LastWrite ops p a ∨ (op.Accepted ∧ op.Writes p a ∧ ∀ later ∈ ops, later.Spares p) := by
  constructor
  · rintro ⟨before, writer, after, split, accepted, writes, spared⟩
    cases before with
    | nil =>
      obtain ⟨rfl, rfl⟩ := List.cons.inj split
      exact .inr ⟨accepted, writes, spared⟩
    | cons first before =>
      obtain ⟨rfl, rfl⟩ := List.cons.inj split
      exact .inl ⟨before, writer, after, rfl, accepted, writes, spared⟩
  · rintro (⟨before, writer, after, rfl, accepted, writes, spared⟩ | ⟨accepted, writes, spared⟩)
    · exact ⟨op :: before, writer, after, rfl, accepted, writes, spared⟩
    · exact ⟨[], op, ops, rfl, accepted, writes, spared⟩

/-- A pattern has the entry that was written for it last, or the one it had at the start. -/
theorem get?_run : (b.run ops).entries.get? p = some a ↔
    LastWrite ops p a ∨ ((∀ op ∈ ops, op.Spares p) ∧ b.entries.get? p = some a) := by
  induction ops generalizing b with
  | nil => simp [run, LastWrite]
  | cons op rest ih =>
    have onward : b.run (op :: rest) = (b.after op).run rest := rfl
    rw [onward, ih, get?_after, lastWrite_cons, List.forall_mem_cons]
    constructor
    · rintro (written | ⟨spared, ⟨accepted, writes⟩ | ⟨spares, found⟩⟩)
      · exact .inl (.inl written)
      · exact .inl (.inr ⟨accepted, writes, spared⟩)
      · exact .inr ⟨⟨spares, spared⟩, found⟩
    · rintro ((written | ⟨accepted, writes, spared⟩) | ⟨⟨spares, spared⟩, found⟩)
      · exact .inl written
      · exact .inr ⟨spared, .inl ⟨accepted, writes⟩⟩
      · exact .inr ⟨spared, .inr ⟨spares, found⟩⟩

theorem lastDefault_cons : LastDefault (op :: ops) a ↔
    LastDefault ops a ∨ (op.default? = some a ∧ ∀ later ∈ ops, later.default? = none) := by
  constructor
  · rintro ⟨before, after, split, spared⟩
    cases before with
    | nil =>
      obtain ⟨rfl, rfl⟩ := List.cons.inj split
      exact .inr ⟨rfl, spared⟩
    | cons first before =>
      obtain ⟨rfl, rfl⟩ := List.cons.inj split
      exact .inl ⟨before, after, rfl, spared⟩
  · rintro (⟨before, after, rfl, spared⟩ | ⟨sets, spared⟩)
    · exact ⟨op :: before, after, rfl, spared⟩
    · cases op with
      | setDefault d =>
        obtain rfl := Option.some.inj sets
        exact ⟨[], ops, rfl, spared⟩
      | add | addAll | setAll => cases sets

/-- The default is the one that was set last, or the one that was there at the start. -/
theorem fallback_run : (b.run ops).fallback = some a ↔
    LastDefault ops a ∨ ((∀ op ∈ ops, op.default? = none) ∧ b.fallback = some a) := by
  induction ops generalizing b with
  | nil => simp [run, LastDefault]
  | cons op rest ih =>
    have onward : b.run (op :: rest) = (b.after op).run rest := rfl
    rw [onward, ih, fallback_after, lastDefault_cons, List.forall_mem_cons, Option.or_eq_some_iff]
    constructor
    · rintro (set | ⟨spared, sets | ⟨spares, found⟩⟩)
      · exact .inl (.inl set)
      · exact .inl (.inr ⟨sets, spared⟩)
      · exact .inr ⟨⟨spares, spared⟩, found⟩
    · rintro ((set | ⟨sets, spared⟩) | ⟨⟨spares, spared⟩, found⟩)
      · exact .inl set
      · exact .inr ⟨spared, .inl sets⟩
      · exact .inr ⟨spared, .inr ⟨spares, found⟩⟩

theorem fallback_run_eq_none_iff : (b.run ops).fallback = none ↔
    (∀ d, .setDefault d ∉ ops) ∧ b.fallback = none := by
  induction ops generalizing b with
  | nil => simp [run]
  | cons op rest ih =>
    have onward : b.run (op :: rest) = (b.after op).run rest := rfl
    rw [onward, ih, fallback_after, Option.or_eq_none_iff]
    cases op with
    | setDefault d =>
      constructor
      · rintro ⟨-, sets, -⟩
        cases sets
      · rintro ⟨unset, -⟩
        exact absurd List.mem_cons_self (unset d)
    | add | addAll | setAll => simp [Op.default?]

end RegistryBuilder

/-! ## Looking a name up -/

/-- The wildcard that covers a name stands for what is before its first dot. -/
theorem Pattern.covering?_append {label parent : List Char} (first : '.' ∉ label) :
    covering? (label ++ '.' :: parent) = some ⟨.ofList ('*' :: '.' :: parent)⟩ := by
  have rest : (label ++ '.' :: parent).dropWhile (· != '.') = '.' :: parent := by
    rw [List.dropWhile_append_of_pos]
    · simp
    · intro c member
      have other : c ≠ '.' := fun same => first (same ▸ member)
      simpa using other
  simp [covering?, rest]

theorem Pattern.covering?_eq_none {name : List Char} (undotted : '.' ∉ name) :
    covering? name = none := by
  simp [covering?, undotted]

/-- A name with a dot is a label, the first dot, and a rest. -/
theorem exists_label_of_mem {name : List Char} (dotted : '.' ∈ name) :
    ∃ label parent, name = label ++ '.' :: parent ∧ '.' ∉ label := by
  induction name with
  | nil => cases dotted
  | cons c cs ih =>
    by_cases own : c = '.'
    · exact ⟨[], cs, by rw [own]; rfl, by simp⟩
    · have later : '.' ∈ cs := (List.mem_cons.mp dotted).resolve_left (Ne.symm own)
      obtain ⟨label, parent, rfl, first⟩ := ih later
      exact ⟨c :: label, parent, rfl, by simp [first, Ne.symm own]⟩

/-- What serves a name where some patterns have entries: the default if there is no name; else the entry
of the name itself, else the entry of the wildcard that stands for its first label, else the default. -/
inductive Serves (entry : Pattern → α → Prop) (default : α) : Option String → Resolution α → Prop where
  | absent : Serves entry default none ⟨default, .default⟩
  | empty {host : String} (normal : normalize host.toList = []) :
      Serves entry default (some host) ⟨default, .default⟩
  | exact {host : String} {name : List Char} {a : α} (normal : normalize host.toList = name)
      (filled : name ≠ []) (own : entry ⟨.ofList name⟩ a) :
      Serves entry default (some host) ⟨a, .exact ⟨.ofList name⟩⟩
  | wildcard {host : String} {label parent : List Char} {a : α}
      (normal : normalize host.toList = label ++ '.' :: parent) (first : '.' ∉ label)
      (unlisted : ∀ b, ¬ entry ⟨.ofList (label ++ '.' :: parent)⟩ b)
      (covered : entry ⟨.ofList ('*' :: '.' :: parent)⟩ a) :
      Serves entry default (some host) ⟨a, .wildcard ⟨.ofList ('*' :: '.' :: parent)⟩⟩
  | unmatched {host : String} {name : List Char} (normal : normalize host.toList = name)
      (filled : name ≠ []) (unlisted : ∀ b, ¬ entry ⟨.ofList name⟩ b)
      (uncovered : ∀ label parent, name = label ++ '.' :: parent → '.' ∉ label →
        ∀ b, ¬ entry ⟨.ofList ('*' :: '.' :: parent)⟩ b) :
      Serves entry default (some host) ⟨default, .default⟩

namespace Registry

variable {r : Registry α} {host : Option String} {x : Resolution α}

/-- The entries of a registry. -/
def Lists (r : Registry α) (p : Pattern) (a : α) : Prop := r.entries.get? p = some a

theorem get?_eq_none_of_unlisted {p : Pattern} (unlisted : ∀ a, ¬ r.Lists p a) :
    r.entries.get? p = none :=
  Option.eq_none_iff_forall_ne_some.mpr unlisted

theorem lookup_of_ne_nil {host : String} (filled : normalize host.toList ≠ []) :
    r.lookup (some host) = r.serve (normalize host.toList) := by
  cases shown : normalize host.toList with
  | nil => exact absurd shown filled
  | cons c cs => simp [lookup, shown]

theorem serve_of_lists {name : List Char} {a : α} (own : r.Lists ⟨.ofList name⟩ a) :
    r.serve name = ⟨a, .exact ⟨.ofList name⟩⟩ := by
  have found : r.entries.get? ⟨.ofList name⟩ = some a := own
  simp [serve, found]

theorem serve_of_covered {label parent : List Char} {a : α} (first : '.' ∉ label)
    (unlisted : ∀ b, ¬ r.Lists ⟨.ofList (label ++ '.' :: parent)⟩ b)
    (covered : r.Lists ⟨.ofList ('*' :: '.' :: parent)⟩ a) :
    r.serve (label ++ '.' :: parent) = ⟨a, .wildcard ⟨.ofList ('*' :: '.' :: parent)⟩⟩ := by
  have found : r.entries.get? ⟨.ofList ('*' :: '.' :: parent)⟩ = some a := covered
  simp only [serve, get?_eq_none_of_unlisted unlisted, Pattern.covering?_append first, found]

theorem serve_of_uncovered {name : List Char} (unlisted : ∀ b, ¬ r.Lists ⟨.ofList name⟩ b)
    (uncovered : ∀ label parent, name = label ++ '.' :: parent → '.' ∉ label →
      ∀ b, ¬ r.Lists ⟨.ofList ('*' :: '.' :: parent)⟩ b) :
    r.serve name = ⟨r.fallback, .default⟩ := by
  have missing := get?_eq_none_of_unlisted unlisted
  by_cases dotted : '.' ∈ name
  · obtain ⟨label, parent, rfl, first⟩ := exists_label_of_mem dotted
    have bare := get?_eq_none_of_unlisted (uncovered label parent rfl first)
    simp only [serve, missing, Pattern.covering?_append first, bare]
  · simp only [serve, missing, Pattern.covering?_eq_none dotted]

theorem serves_lookup (r : Registry α) (host : Option String) :
    Serves r.Lists r.fallback host (r.lookup host) := by
  cases host with
  | none => exact .absent
  | some host =>
    by_cases normal : normalize host.toList = []
    · have served : r.lookup (some host) = ⟨r.fallback, .default⟩ := by simp [lookup, normal]
      exact served ▸ .empty normal
    · rw [lookup_of_ne_nil normal]
      generalize shown : normalize host.toList = name at normal
      by_cases listed : ∃ a, r.Lists ⟨.ofList name⟩ a
      · obtain ⟨a, own⟩ := listed
        exact serve_of_lists own ▸ .exact shown normal own
      · have unlisted := not_exists.mp listed
        by_cases covered : ∃ label parent a, name = label ++ '.' :: parent ∧ '.' ∉ label ∧
            r.Lists ⟨.ofList ('*' :: '.' :: parent)⟩ a
        · obtain ⟨label, parent, a, rfl, first, covered⟩ := covered
          exact serve_of_covered first unlisted covered ▸ .wildcard shown first unlisted covered
        · have uncovered : ∀ label parent, name = label ++ '.' :: parent → '.' ∉ label →
              ∀ b, ¬ r.Lists ⟨.ofList ('*' :: '.' :: parent)⟩ b :=
            fun label parent split first b own => covered ⟨label, parent, b, split, first, own⟩
          exact serve_of_uncovered unlisted uncovered ▸ .unmatched shown normal unlisted uncovered

/-- A look-up finds what serves the name, and nothing else does. -/
theorem lookup_eq_iff : r.lookup host = x ↔ Serves r.Lists r.fallback host x := by
  constructor
  · rintro rfl
    exact serves_lookup r host
  · intro serves
    cases serves with
    | absent => rfl
    | empty normal => simp [lookup, normal]
    | exact normal filled own =>
      subst normal
      rw [lookup_of_ne_nil filled, serve_of_lists own]
    | wildcard normal first unlisted covered =>
      rw [lookup_of_ne_nil (by simp [normal]), normal, serve_of_covered first unlisted covered]
    | unmatched normal filled unlisted uncovered =>
      subst normal
      rw [lookup_of_ne_nil filled, serve_of_uncovered unlisted uncovered]

end Registry

end StreamHost.Names

namespace StreamHost.Tls.Registry

open Names (Serves)
open Names.RegistryBuilder (Op LastWrite LastDefault)

theorem ofBuilder_eq_ok_iff {b : RegistryBuilder} {r : Registry} :
    ofBuilder b = .ok r ↔ ∃ d, b.fallback = some d ∧ r = { names := ⟨d, b.entries⟩ } := by
  cases set : b.fallback with
  | none => simp [ofBuilder, Names.RegistryBuilder.build, set, Functor.map, Except.map]
  | some d => simp [ofBuilder, Names.RegistryBuilder.build, set, Functor.map, Except.map, eq_comm]

theorem ofBuilder_eq_error_iff {b : RegistryBuilder} :
    (∃ e, ofBuilder b = .error e) ↔ b.fallback = none := by
  cases set : b.fallback <;>
    simp [ofBuilder, Names.RegistryBuilder.build, set, Functor.map, Except.map]

/-- The entries of a registry are what was written last for their patterns. -/
theorem lists_of_ofBuilder {ops : List (Op Configuration)} {r : Registry}
    (built : ofBuilder (Names.RegistryBuilder.run {} ops) = .ok r) : r.names.Lists = LastWrite ops := by
  obtain ⟨d, -, rfl⟩ := ofBuilder_eq_ok_iff.mp built
  funext p c
  have last := @Names.RegistryBuilder.get?_run _ {} ops p c
  simpa [Names.Registry.Lists] using last

/-- A registry comes of any history in which a default was set, and of no other. Each name is then served
by what was written last for it, else by what was written last for the wildcard of its first label, else
by the default that was set last. -/
theorem lookup_follows_history (ops : List (Op Configuration)) :
    ((∃ e, ofBuilder (Names.RegistryBuilder.run {} ops) = .error e) ↔ ∀ d, .setDefault d ∉ ops) ∧
      ∀ r, ofBuilder (Names.RegistryBuilder.run {} ops) = .ok r →
        ∃ d, LastDefault ops d ∧ ∀ host x, r.lookup host = x ↔ Serves (LastWrite ops) d host x := by
  refine ⟨?_, fun r built => ?_⟩
  · rw [ofBuilder_eq_error_iff, Names.RegistryBuilder.fallback_run_eq_none_iff]
    exact ⟨fun unset => unset.1, fun unset => ⟨unset, rfl⟩⟩
  · have entries := lists_of_ofBuilder built
    obtain ⟨d, set, rfl⟩ := ofBuilder_eq_ok_iff.mp built
    have last : LastDefault ops d := by simpa using Names.RegistryBuilder.fallback_run.mp set
    exact ⟨d, last, fun host x => entries ▸ Names.Registry.lookup_eq_iff⟩

/-- A configuration that is told from others by its certificate. -/
def certified (n : UInt8) : Configuration where
  chain := [[n]]
  certificate := [n]
  publicKey := .ed25519 [n]
  suites := Suite.preferred
  versions := [.v13]
  alpn := []
  explicitAlpn := false
  flavor := .none
  timeout := Duration.ofSecs 10
  hook := none

/-- Two spellings of a wildcard in one operation, between operations that are refused. -/
def respelled : List (Op Configuration) :=
  [.add "a.test.com" (certified 1), .setDefault (certified 2),
    .setAll [("*.TEST.com", certified 3), (" *.test.com. ", certified 4)],
    .addAll [("a.test.com", certified 5), ("a..com", certified 6)], .setAll [("*", certified 7)]]

theorem later_spelling_serves :
    ∃ r, ofBuilder (Names.RegistryBuilder.run {} respelled) = .ok r ∧ ∃ d, LastDefault respelled d ∧
      Serves (LastWrite respelled) d (some "A.Test.com") ⟨certified 4, .wildcard ⟨"*.test.com"⟩⟩ := by
  refine ⟨{ names := ⟨certified 2, ⟨[(⟨"*.test.com"⟩, certified 4)]⟩⟩ }, rfl, ?_⟩
  obtain ⟨d, last, served⟩ := (lookup_follows_history respelled).2 _ rfl
  exact ⟨d, last, (served _ _).mp rfl⟩

end StreamHost.Tls.Registry
