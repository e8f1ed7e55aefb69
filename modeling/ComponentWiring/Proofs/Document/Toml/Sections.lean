/-
ComponentWiring.Proofs.Document.Toml.Sections — a document of sections is read as it was written.

* `IsBareKey`, `Section.IsReadable` — what the written form of a section relies on.
* `Reads` — which statements a text holds, whatever fuel is left to its reader.
* `reads_writeSections` — the statements of a written document.
* `exists_draft_of_sections` — the tables that these statements build.
* `read?_writeSections` — the node of a written document.
-/
import ComponentWiring.Proofs.Document.Toml.Scalars
import ComponentWiring.Proofs.Keyed

namespace ComponentWiring.Document.Toml

/-- A head with its pairs. -/
abbrev Section := String × List (String × Scalar)

/-- A key that needs no quotes. -/
def IsBareKey (k : String) : Prop :=
  k.toList ≠ [] ∧ k.toList.all isBareKeyChar = true

instance (k : String) : Decidable (IsBareKey k) :=
  inferInstanceAs (Decidable (_ ∧ _))

/-- A section that can be written down without loss. -/
structure Section.IsReadable (s : Section) : Prop where
  head : IsBareKey s.1
  keys : ∀ p ∈ s.2, IsBareKey p.1
  distinct : (s.2.map Prod.fst).Nodup
  values : ∀ p ∈ s.2, p.2.IsWritable

/-- The statements of a section. -/
def Section.statements (s : Section) : List Statement :=
  .table [] s.1 :: s.2.map fun p => .pair [] p.1 p.2.node

/-- The entry of a document that a section makes. -/
def Section.entry (s : Section) : String × Node :=
  (s.1, .record (s.2.map fun p => (p.1, p.2.node)))

/-! ## 1. Keys -/

theorem IsBareKey.forall_mem {k : String} (bare : IsBareKey k) :
    ∀ c ∈ k.toList, isBareKeyChar c = true :=
  List.all_eq_true.mp bare.2

theorem IsBareKey.exists_first {k : String} (bare : IsBareKey k) :
    ∃ c cs, k.toList = c :: cs ∧ isBareKeyChar c = true := by
  obtain ⟨c, cs, spelled⟩ := List.exists_cons_of_ne_nil bare.1
  exact ⟨c, cs, spelled, bare.forall_mem c (spelled ▸ List.mem_cons_self)⟩

theorem IsBareKey.skipSpaces {k : String} (bare : IsBareKey k) (rest : List Char) :
    skipSpaces (k.toList ++ rest) = k.toList ++ rest := by
  obtain ⟨c, cs, spelled, first⟩ := bare.exists_first
  have noBlank : isSpace c ≠ true := by
    intro blank
    rcases Bool.or_eq_true_iff.mp blank with space | tab
    · cases eq_of_beq space
      cases first
    · cases eq_of_beq tab
      cases first
  rw [spelled, List.cons_append, Toml.skipSpaces, List.dropWhile_cons, if_neg noBlank]

theorem simpleKey?_of_bare {k : String} (bare : IsBareKey k) {c : Char}
    (ends : isBareKeyChar c = false) (rest : List Char) :
    simpleKey? (k.toList ++ c :: rest) = some (k, c :: rest) := by
  obtain ⟨d, ds, spelled, first⟩ := bare.exists_first
  have noQuotes : lineText? (k.toList ++ c :: rest) = none := by
    rw [spelled, List.cons_append, lineText?]
    all_goals
      intro r quoted
      cases (List.cons.inj quoted).1
      cases first
  have taken : (k.toList ++ c :: rest).takeWhile isBareKeyChar = k.toList := by
    rw [List.takeWhile_append_of_pos bare.forall_mem, List.takeWhile_cons_of_neg (by simp [ends]),
      List.append_nil]
  have left : (k.toList ++ c :: rest).dropWhile isBareKeyChar = c :: rest := by
    rw [List.dropWhile_append_of_pos bare.forall_mem, List.dropWhile_cons_of_neg (by simp [ends])]
  simp only [simpleKey?, noQuotes, taken, left]
  rw [spelled]
  simp only
  rw [← spelled, String.ofList_toList]

/-- A key is read up to what stands behind the blanks after it. -/
theorem key?_of_bare {k : String} (bare : IsBareKey k) {c d : Char} {rest r : List Char}
    (ends : isBareKeyChar c = false) (next : skipSpaces (c :: rest) = d :: r) (noDot : d ≠ '.') :
    key? (k.toList ++ c :: rest) = some (([], k), d :: r) := by
  have single : dottedKey? nestingLimit (k.toList ++ c :: rest) = some ([k], d :: r) := by
    rw [nestingLimit, dottedKey?, bare.skipSpaces, simpleKey?_of_bare bare ends]
    simp only [Option.bind_eq_bind, Option.bind_some, next]
    split
    next dotted => exact absurd (List.cons.inj dotted).1 noDot
    next => rfl
  rw [key?, single]
  rfl

/-! ## 2. Lines -/

theorem pair?_write {k : String} {v : Scalar} (bare : IsBareKey k) (writable : v.IsWritable)
    (rest : List Char) :
    pair? ((writePair (k, v)).toList ++ rest) = some (.pair [] k v.node, rest) := by
  have spelled : (writePair (k, v)).toList ++ rest =
      k.toList ++ ' ' :: '=' :: ' ' :: (v.write.toList ++ '\n' :: rest) := by
    simp [writePair]
  have named : key? (k.toList ++ ' ' :: '=' :: ' ' :: (v.write.toList ++ '\n' :: rest)) =
      some (([], k), '=' :: ' ' :: (v.write.toList ++ '\n' :: rest)) :=
    key?_of_bare bare (by decide) rfl (by decide)
  have noBlank : skipSpaces (' ' :: (v.write.toList ++ '\n' :: rest)) =
      v.write.toList ++ '\n' :: rest := by
    obtain ⟨c, r, first, visible⟩ := v.write_eq_cons
    rw [first, List.cons_append, skipSpaces, List.dropWhile_cons_of_pos (by decide),
      List.dropWhile_cons_of_neg (by simp [visible])]
  have ended : lineEnd? ('\n' :: rest) = some rest := rfl
  rw [spelled, pair?, named]
  simp only [Option.bind_eq_bind, Option.bind_some, noBlank, value?_write writable, ended]
  rfl

theorem header?_write {k : String} (bare : IsBareKey k) (rest : List Char) :
    header? (k.toList ++ ']' :: '\n' :: rest) = some (.table [] k, rest) := by
  have named : key? (k.toList ++ ']' :: '\n' :: rest) = some (([], k), ']' :: '\n' :: rest) :=
    key?_of_bare bare (by decide) rfl (by decide)
  have ended : lineEnd? ('\n' :: rest) = some rest := rfl
  rw [header?]
  · simp only [Option.bind_eq_bind, Option.bind_some, named, ended]
    rfl
  · intro r bracket
    obtain ⟨c, cs, spelled, first⟩ := bare.exists_first
    rw [spelled] at bracket
    cases (List.cons.inj bracket).1
    cases first

/-! ## 3. The statements of a document -/

/-- The text holds the statements. Each of them takes a character at least, so that fuel for one
step more than there are characters is enough. -/
def Reads (cs : List Char) (statements : List Statement) : Prop :=
  ∀ fuel, cs.length < fuel → statementsWithin? fuel cs = some statements

theorem reads_nil : Reads [] [] := by
  intro fuel enough
  obtain ⟨fuel, rfl⟩ := Nat.exists_eq_succ_of_ne_zero (Nat.ne_of_gt enough)
  rfl

section Steps

variable {rest : List Char} {statements : List Statement} (later : Reads rest statements)
include later

theorem Reads.emptyLine : Reads ('\n' :: rest) statements := by
  intro fuel enough
  obtain ⟨fuel, rfl⟩ := Nat.exists_eq_succ_of_ne_zero (Nat.ne_zero_of_lt enough)
  exact later fuel (by simpa using enough)

theorem Reads.header {k : String} (bare : IsBareKey k) :
    Reads ('[' :: (k.toList ++ ']' :: '\n' :: rest)) (.table [] k :: statements) := by
  intro fuel enough
  obtain ⟨fuel, rfl⟩ := Nat.exists_eq_succ_of_ne_zero (Nat.ne_zero_of_lt enough)
  have shorter : rest.length < fuel := by
    simp only [List.length_cons, List.length_append] at enough
    omega
  have visible : skipSpaces ('[' :: (k.toList ++ ']' :: '\n' :: rest)) =
      '[' :: (k.toList ++ ']' :: '\n' :: rest) := rfl
  rw [statementsWithin?, visible]
  simp only [header?_write bare, Option.bind_eq_bind, Option.bind_some, later fuel shorter]
  rfl

theorem Reads.pair {p : String × Scalar} (bare : IsBareKey p.1) (writable : p.2.IsWritable) :
    Reads ((writePair p).toList ++ rest) (.pair [] p.1 p.2.node :: statements) := by
  intro fuel enough
  obtain ⟨fuel, rfl⟩ := Nat.exists_eq_succ_of_ne_zero (Nat.ne_zero_of_lt enough)
  have spelled : (writePair p).toList ++ rest =
      p.1.toList ++ (" = ".toList ++ p.2.write.toList ++ '\n' :: rest) := by
    simp [writePair]
  have shorter : rest.length < fuel := by
    rw [spelled] at enough
    simp only [List.length_cons, List.length_append] at enough
    omega
  have read := pair?_write bare writable rest
  have visible := bare.skipSpaces (" = ".toList ++ p.2.write.toList ++ '\n' :: rest)
  obtain ⟨c, cs, first, named⟩ := bare.exists_first
  rw [spelled, first, List.cons_append] at read
  rw [first, List.cons_append] at visible
  rw [statementsWithin?, spelled, first, List.cons_append, visible]
  split
  case h_1 none => cases none
  case h_6 =>
    simp only [read, Option.bind_eq_bind, Option.bind_some, later fuel shorter]
    rfl
  all_goals
    next marked =>
      cases (List.cons.inj marked).1
      cases named

theorem Reads.pairs {l : List (String × Scalar)} (bare : ∀ p ∈ l, IsBareKey p.1)
    (writable : ∀ p ∈ l, p.2.IsWritable) :
    Reads ((String.join (l.map writePair)).toList ++ rest)
      ((l.map fun p => .pair [] p.1 p.2.node) ++ statements) := by
  induction l with
  | nil => exact later
  | cons p l ih =>
    obtain ⟨bareFirst, bareLater⟩ := List.forall_mem_cons.mp bare
    obtain ⟨writableFirst, writableLater⟩ := List.forall_mem_cons.mp writable
    rw [List.map_cons, String.join_cons, String.toList_append, List.append_assoc]
    exact (ih bareLater writableLater).pair bareFirst writableFirst

theorem Reads.section {s : Section} (readable : s.IsReadable) :
    Reads ((writeSection s).toList ++ rest) (s.statements ++ statements) := by
  have spelled : (writeSection s).toList ++ rest =
      '[' :: (s.1.toList ++ ']' :: '\n' :: ((String.join (s.2.map writePair)).toList ++ rest)) := by
    simp [writeSection]
  rw [spelled]
  exact (later.pairs readable.keys readable.values).header readable.head

end Steps

theorem reads_writeSections {l : List Section} (readable : ∀ s ∈ l, s.IsReadable) :
    Reads (writeSections l).toList (l.flatMap Section.statements) := by
  unfold writeSections
  induction l with
  | nil => exact reads_nil
  | cons s l ih =>
    obtain ⟨first, later⟩ := List.forall_mem_cons.mp readable
    cases l with
    | nil => simpa [Text.joinTexts] using reads_nil.section first
    | cons t l =>
      have both := (ih later).emptyLine.section first
      simpa [Text.joinTexts] using both

/-- A text that starts with no byte order mark is read from its first character on. -/
theorem Reads.statements? {cs : List Char} {statements : List Statement}
    (reads : Reads cs statements) (noMark : ∀ c r, cs = c :: r → c.toNat ≠ 0xfeff) :
    statements? cs = some statements := by
  cases cs with
  | nil => exact reads 1 Nat.zero_lt_one
  | cons c r =>
    rw [Toml.statements?]
    simp only [if_neg (noMark c r rfl)]
    exact reads _ (Nat.lt_succ_self _)

theorem statements?_writeSections {l : List Section} (readable : ∀ s ∈ l, s.IsReadable) :
    statements? (writeSections l).toList = some (l.flatMap Section.statements) := by
  refine (reads_writeSections readable).statements? fun c r first => ?_
  have bracket : c = '[' := by
    rcases l with _ | ⟨s, _ | ⟨t, l⟩⟩
    · simp [writeSections, Text.joinTexts] at first
    all_goals
      simp only [writeSections, Text.joinTexts, writeSection, List.map_cons, List.map_nil,
        String.toList_append, List.append_assoc] at first
      exact (List.cons.inj first).1.symm
  rw [bracket]
  decide

/-! ## 4. The tables of a document -/

theorem Item.entriesToNodes_eq_map (l : List (String × Item)) :
    Item.entriesToNodes l = l.map Item.entryToNode := by
  induction l with
  | nil => rw [Item.entriesToNodes, List.map_nil]
  | cons e l ih => rw [Item.entriesToNodes, ih, List.map_cons]

/-- The items of a section's table. -/
def Section.items (s : Section) : List (String × Item) :=
  s.2.map fun p => (p.1, .value p.2.node)

/-- New keys are added to the table being written. -/
theorem foldlM_add?_pairs {l : List (String × Scalar)} {d : Draft}
    (distinct : (d.current.map Prod.fst ++ l.map Prod.fst).Nodup) :
    (l.map fun p => Statement.pair [] p.1 p.2.node).foldlM Draft.add? d =
      some { d with current := d.current ++ l.map fun p => (p.1, .value p.2.node) } := by
  induction l generalizing d with
  | nil => simp
  | cons p l ih =>
    have new : Entries.get? p.1 d.current = none := by
      rw [Entries.get?_eq_none_iff]
      exact fun known => (List.nodup_append.mp distinct).2.2 p.1 known p.1 List.mem_cons_self rfl
    have added : addPair [] p.1 (.value p.2.node) d.current =
        some (d.current ++ [(p.1, .value p.2.node)]) := by
      simp [addPair, changeAt, new]
    have step : d.add? (.pair [] p.1 p.2.node) =
        some { d with current := d.current ++ [(p.1, .value p.2.node)] } := by
      rw [Draft.add?, added]
      rfl
    rw [List.map_cons, List.foldlM_cons, step, Option.bind_eq_bind, Option.bind_some, ih]
    · simp
    · simpa using distinct

/-- A section with a new name puts its table at the end of the document. -/
theorem exists_draft_of_section {s : Section} (distinct : (s.2.map Prod.fst).Nodup) {d : Draft}
    {done : List (String × Item)} (filed : d.file? = some done) (new : s.1 ∉ done.map Prod.fst) :
    ∃ d', s.statements.foldlM Draft.add? d = some d' ∧
      d'.file? = some (done ++ [(s.1, .table false false s.items)]) := by
  have absent : Entries.get? s.1 done = none := Entries.get?_eq_none_iff.mpr new
  have opened : d.add? (.table [] s.1) = some ⟨done, [], some ([], s.1, false)⟩ := by
    rw [Draft.add?, filed, Option.bind_eq_bind, Option.bind_some, Draft.open?, Draft.open?.lookUp,
      absent]
    rfl
  refine ⟨⟨done, s.items, some ([], s.1, false)⟩, ?_, ?_⟩
  · rw [Section.statements, List.foldlM_cons, opened, Option.bind_eq_bind, Option.bind_some,
      foldlM_add?_pairs (by simpa using distinct)]
    rfl
  · rw [Draft.file?, ← Entries.put_of_new new]
    rfl

theorem exists_draft_of_sections {l : List Section}
    (each : ∀ s ∈ l, (s.2.map Prod.fst).Nodup) {d : Draft} {done : List (String × Item)}
    (filed : d.file? = some done)
    (distinct : (done.map Prod.fst ++ l.map Prod.fst).Nodup) :
    ∃ d', (l.flatMap Section.statements).foldlM Draft.add? d = some d' ∧
      d'.file? = some (done ++ l.map fun s => (s.1, .table false false s.items)) := by
  induction l generalizing d done with
  | nil => exact ⟨d, rfl, by simpa using filed⟩
  | cons s l ih =>
    obtain ⟨first, later⟩ := List.forall_mem_cons.mp each
    have new : s.1 ∉ done.map Prod.fst := fun known =>
      (List.nodup_append.mp distinct).2.2 s.1 known s.1 List.mem_cons_self rfl
    obtain ⟨d₁, ran, filed₁⟩ := exists_draft_of_section first filed new
    obtain ⟨d₂, ranLater, filed₂⟩ := ih later filed₁ (by simpa using distinct)
    refine ⟨d₂, ?_, by simpa using filed₂⟩
    rw [List.flatMap_cons, List.foldlM_append, ran]
    exact ranLater

/-- Sections with distinct names are read as they were written. -/
theorem read?_writeSections {l : List Section} (readable : ∀ s ∈ l, s.IsReadable)
    (distinct : (l.map Prod.fst).Nodup) :
    read? (writeSections l) = some (.record (l.map Section.entry)) := by
  obtain ⟨d, built, filed⟩ := exists_draft_of_sections (d := ⟨[], [], none⟩)
    (fun s hs => (readable s hs).distinct) rfl (by simpa using distinct)
  rw [read?, statements?_writeSections readable, Option.bind_eq_bind, Option.bind_some, assemble?,
    built, Option.bind_eq_bind, Option.bind_some, filed]
  simp [Item.entriesToNodes_eq_map, Item.entryToNode, Item.toNode, Section.entry, Section.items]

end ComponentWiring.Document.Toml
