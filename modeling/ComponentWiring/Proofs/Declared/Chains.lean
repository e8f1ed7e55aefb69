/-
ComponentWiring.Proofs.Declared.Chains — where the walk up the superclasses stops.

* `TypeStore.Stops` — the four ways in which a walk stops: at the root, at an unresolved name, at a
  name that is not declared, or at a name met before.
* `TypeStore.superclassChain_eq_iff` — the search lists the names of the walk that meets each name
  once, and ends as this walk stops.
* `TypeStore.HasSuperclass` — the name is that of a superclass at any height.
* `TypeStore.superclassChain_exact` — all about the search among the superclasses of a stored type.

A store may hold cycles, so nothing bounds a walk but the names it has met: each of them is
declared, and none comes twice.
-/
import ComponentWiring.Proofs.Declared.Superclasses

namespace ComponentWiring.TypeStore

variable {s : TypeStore} {t u : TypeElement} {met ns : List String} {chainEnd : ChainEnd}

/-! ## 1. Walks that stop -/

/-- A walk from the type lists the names and stops, given the names met before. -/
inductive Stops (s : TypeStore) (met : List String) (t : TypeElement) :
    List String → ChainEnd → Prop
  /-- The last class has no superclass. -/
  | root {ns : List String} {u : TypeElement} (walk : s.Climbs t ns u)
    (none_above : u.superclass = .absent) : Stops s met t ns .root
  /-- The superclass of the last class is unresolved. -/
  | unresolved {ns : List String} {u : TypeElement} {n : String} (walk : s.Climbs t ns u)
    (above : u.superclass = .unresolved n) : Stops s met t ns (.unresolved n)
  /-- The superclass of the last class is not declared; it is the last name of the list. -/
  | missing {ns : List String} {u : TypeElement} {n : String} (walk : s.Climbs t ns u)
    (above : u.superclass = .named n) (unknown : s.get? n = none) :
    Stops s met t (ns ++ [n]) (.unresolved n)
  /-- The superclass of the last class was met before. -/
  | again {ns : List String} {u : TypeElement} {n : String} (walk : s.Climbs t ns u)
    (above : u.superclass = .named n) (seen : n ∈ met ++ ns) : Stops s met t ns (.unresolved n)

/-! ## 2. The bounded walk -/

/-- The walk from a type stops within as many steps as there are names, and one more. -/
theorem chainAfter_of_stops (stops : s.Stops met t ns chainEnd) (new : (ns ++ met).Nodup)
    {fuel : Nat} (enough : ns.length < fuel) : s.chainAfter fuel met t = (ns, chainEnd) := by
  -- The walk below the stop is made first; the step that stops it is the same at every height.
  have climbed {ms : List String} {u : TypeElement} (walk : s.Climbs t ms u)
      (distinct : (ms ++ met).Nodup) (short : ms.length < fuel) :
      ∃ fuel', s.chainAfter fuel met t =
        (ms ++ (s.chainAfter (fuel' + 1) (ms.reverse ++ met) u).1,
          (s.chainAfter (fuel' + 1) (ms.reverse ++ met) u).2) := by
    obtain ⟨fuel', rfl⟩ := Nat.exists_eq_add_of_lt short
    refine ⟨fuel', ?_⟩
    rw [← chainAfter_of_climbs walk _ distinct, Nat.add_comm ms.length, Nat.add_right_comm]
  cases stops with
  | root walk none_above =>
    obtain ⟨fuel', go⟩ := climbed walk new enough
    rw [go]
    simp [chainAfter, none_above]
  | unresolved walk above =>
    obtain ⟨fuel', go⟩ := climbed walk new enough
    rw [go]
    simp [chainAfter, above]
  | @again ns u n walk above seen =>
    obtain ⟨fuel', go⟩ := climbed walk new enough
    have met_before : (ns.reverse ++ met).contains n = true :=
      List.contains_iff_mem.mpr (by simpa [or_comm] using seen)
    rw [go]
    simp only [chainAfter, above, if_pos met_before, List.append_nil]
  | @missing ns u n walk above unknown =>
    rw [List.append_assoc] at new
    obtain ⟨first, rest⟩ := List.nodup_cons.mp (List.perm_middle.nodup_iff.mp new)
    have short : ns.length < fuel := by
      rw [List.length_append] at enough
      omega
    obtain ⟨fuel', go⟩ := climbed walk rest short
    have unmet : ¬ (ns.reverse ++ met).contains n = true := by
      rw [List.contains_iff_mem]
      simpa using first
    rw [go]
    simp only [chainAfter, above, if_neg unmet, unknown]

/-- A walk over new names that stops is continued downwards by a step to a new name. -/
theorem Stops.up {n : String} {parent : TypeElement} (named : t.superclass = .named n)
    (known : s.get? n = some parent) (above : s.Stops (n :: met) parent ns chainEnd) :
    s.Stops met t (n :: ns) chainEnd := by
  cases above with
  | root walk none_above => exact .root (.up named known walk) none_above
  | unresolved walk above => exact .unresolved (.up named known walk) above
  | missing walk above unknown => exact .missing (.up named known walk) above unknown
  | again walk above seen =>
    refine .again (.up named known walk) above ?_
    simp only [List.cons_append, List.mem_cons, List.mem_append] at seen ⊢
    exact seen.elim (fun same => .inr (.inl same)) (Or.imp_right .inr)

/-- The bounded walk stops as a walk over new names does, unless more names were met before than
there are declared types. -/
theorem stops_chainAfter {fuel : Nat} (distinct : met.Nodup) (declared : ∀ n ∈ met, n ∈ s.names)
    (enough : s.size < met.length + fuel) :
    ((s.chainAfter fuel met t).1 ++ met).Nodup ∧
      s.Stops met t (s.chainAfter fuel met t).1 (s.chainAfter fuel met t).2 := by
  -- The induction is on the bound. Each step meets one more declared name, so the walk stops while
  -- there is something left of it.
  induction fuel generalizing met t with
  | zero =>
    have short := length_le_size distinct declared
    omega
  | succ fuel ih =>
    cases above : t.superclass with
    | absent =>
      simp only [chainAfter, above]
      exact ⟨distinct, .root (.here t) above⟩
    | unresolved n =>
      simp only [chainAfter, above]
      exact ⟨distinct, .unresolved (.here t) above⟩
    | named n =>
      by_cases seen : n ∈ met
      · simp only [chainAfter, above, if_pos (List.contains_iff_mem.mpr seen)]
        exact ⟨distinct, .again (.here t) above (by simpa using seen)⟩
      · cases known : s.get? n with
        | none =>
          have first : ¬ met.contains n = true := fun h => seen (List.contains_iff_mem.mp h)
          simp only [chainAfter, above, if_neg first, known]
          exact ⟨List.nodup_cons.mpr ⟨seen, distinct⟩, .missing (.here t) above known⟩
        | some parent =>
          have declared' := List.forall_mem_cons.mpr ⟨mem_names_of_get? known, declared⟩
          have enough' : s.size < (n :: met).length + fuel := by
            rw [List.length_cons]
            omega
          obtain ⟨rest, stops⟩ :=
            ih (t := parent) (List.nodup_cons.mpr ⟨seen, distinct⟩) declared' enough'
          rw [chainAfter_succ_of_known fuel above seen known]
          exact ⟨List.perm_middle.nodup_iff.mp rest, stops.up above known⟩

/-- A stored type has fewer superclasses in a walk over new names than there are declared types. The
last of them need not be declared, but then the type itself makes up for it. -/
theorem Stops.length_le {n : String} (stops : s.Stops met t ns chainEnd) (known : n ∈ s.names)
    (new : (n :: ns).Nodup) : ns.length ≤ s.size := by
  have below {ms : List String} {u : TypeElement} (walk : s.Climbs t ms u)
      (distinct : (n :: ms).Nodup) : ms.length < s.size :=
    length_le_size distinct (List.forall_mem_cons.mpr ⟨known, walk.mem_names⟩)
  cases stops with
  | root walk | unresolved walk | again walk => exact (below walk new).le
  | missing walk =>
    rw [← List.cons_append] at new
    rw [List.length_append]
    exact below walk (List.nodup_append.mp new).1

/-! ## 3. The search -/

/-- The search among the superclasses of a stored type lists the names of the walk that meets each
name once, and ends as this walk stops. -/
theorem superclassChain_eq_iff (known : s.get? t.qualifiedName = some t) :
    s.superclassChain t = (ns, chainEnd) ↔
      (t.qualifiedName :: ns).Nodup ∧ s.Stops [t.qualifiedName] t ns chainEnd := by
  have own : t.qualifiedName ∈ s.names := mem_names_of_get? known
  have first {ms : List String} : (ms ++ [t.qualifiedName]).Nodup ↔ (t.qualifiedName :: ms).Nodup :=
    (List.perm_append_singleton _ _).nodup_iff
  constructor
  · intro found
    have enough : s.size < [t.qualifiedName].length + (s.size + 1) := by
      rw [List.length_singleton]
      omega
    have stops := stops_chainAfter (t := t) (List.pairwise_singleton _ t.qualifiedName)
      (List.forall_mem_singleton.mpr own) enough
    rw [← superclassChain, found] at stops
    exact ⟨first.mp stops.1, stops.2⟩
  · rintro ⟨new, stops⟩
    exact chainAfter_of_stops stops (first.mpr new) (Nat.lt_succ_of_le (stops.length_le own new))

theorem stops_superclassChain (known : s.get? t.qualifiedName = some t) :
    (t.qualifiedName :: (s.superclassChain t).1).Nodup ∧
      s.Stops [t.qualifiedName] t (s.superclassChain t).1 (s.superclassChain t).2 :=
  (superclassChain_eq_iff known).mp rfl

/-- The search ends at the root exactly if superclasses lead to a class without one. -/
theorem superclassChain_root_iff (known : s.get? t.qualifiedName = some t) :
    (s.superclassChain t).2 = .root ↔ ∃ ns u, s.Climbs t ns u ∧ u.superclass = .absent := by
  constructor
  · intro root
    obtain ⟨-, stops⟩ := stops_superclassChain known
    rw [root] at stops
    generalize (s.superclassChain t).1 = ns at stops
    cases stops with
    | root walk none_above => exact ⟨ns, _, walk, none_above⟩
  · rintro ⟨ns, u, walk, none_above⟩
    have complete := superclasses_iff_climbs.mpr ⟨u, walk, none_above⟩
    rw [superclassChain_of_superclasses known complete]

/-! ## 4. Superclasses at any height -/

/-- Declared superclasses lead from the type to one that extends a class of the name. -/
def HasSuperclass (s : TypeStore) (t : TypeElement) (name : String) : Prop :=
  ∃ ns u, s.Climbs t ns u ∧ u.superclass = .named name

/-- The names of a walk are superclasses of its start. -/
theorem Climbs.hasSuperclass (walk : s.Climbs t ns u) : ∀ n ∈ ns, s.HasSuperclass t n := by
  induction walk with
  | here t => exact List.forall_mem_nil _
  | @up t parent u n ns named known _ ih =>
    refine List.forall_mem_cons.mpr ⟨⟨[], t, .here t, named⟩, fun m hm => ?_⟩
    obtain ⟨ms, v, higher, above⟩ := ih m hm
    exact ⟨n :: ms, v, .up named known higher, above⟩

theorem Stops.hasSuperclass (stops : s.Stops met t ns chainEnd) :
    ∀ n ∈ ns, s.HasSuperclass t n := by
  cases stops with
  | root walk | unresolved walk | again walk => exact walk.hasSuperclass
  | @missing ns u n walk above =>
    exact List.forall_mem_append.mpr
      ⟨walk.hasSuperclass, List.forall_mem_singleton.mpr ⟨ns, u, walk, above⟩⟩

/-- A type met by a walk is its end, or its superclass is met as well. -/
theorem Climbs.superclass_mem {v : TypeElement} (walk : s.Climbs t ns u)
    (start : s.get? t.qualifiedName = some t) (known : s.get? v.qualifiedName = some v)
    (met : v.qualifiedName ∈ t.qualifiedName :: ns) :
    v = u ∨ ∃ n ∈ ns, v.superclass = .named n := by
  -- The induction is on the walk. Stored types of one name are one type.
  have same {t : TypeElement} (start : s.get? t.qualifiedName = some t)
      (name : v.qualifiedName = t.qualifiedName) : v = t :=
    Option.some.inj (known.symm.trans (name ▸ start))
  induction walk with
  | here t => exact .inl (same start (List.mem_singleton.mp met))
  | @up t parent u n ns named parentKnown _ ih =>
    have parentName := qualifiedName_of_get? parentKnown
    rcases List.mem_cons.mp met with name | met
    · exact .inr ⟨n, List.mem_cons_self, same start name ▸ named⟩
    · refine (ih (parentName ▸ parentKnown) (parentName ▸ met)).imp_right ?_
      exact fun ⟨m, hm, above⟩ => ⟨m, List.mem_cons_of_mem n hm, above⟩

/-- Below the stop lies a walk over the declared names; no superclass of its end is new. -/
theorem Stops.exists_climbs (stops : s.Stops met t ns chainEnd) :
    ∃ ms u, s.Climbs t ms u ∧ (∀ n ∈ ms, n ∈ ns) ∧ (∀ n ∈ ns, n ∈ s.names → n ∈ ms) ∧
      ∀ n, u.superclass = .named n → n ∈ met ++ ns := by
  cases stops with
  | root walk none_above =>
    exact ⟨_, _, walk, fun _ => id, fun _ hn _ => hn, fun n above =>
      nomatch above.symm.trans none_above⟩
  | unresolved walk lost =>
    exact ⟨_, _, walk, fun _ => id, fun _ hn _ => hn, fun n above => nomatch above.symm.trans lost⟩
  | again walk loop seen =>
    refine ⟨_, _, walk, fun _ => id, fun _ hn _ => hn, fun n above => ?_⟩
    cases above.symm.trans loop
    exact seen
  | @missing ns u n walk last unknown =>
    refine ⟨_, _, walk, fun _ => List.mem_append_left _, fun m hm declared => ?_, fun m above => ?_⟩
    · refine (List.mem_append.mp hm).resolve_right fun same => ?_
      cases List.mem_singleton.mp same
      exact get?_eq_none_iff.mp unknown declared
    · cases above.symm.trans last
      simp

/-- Where a walk from a stored type stops, no superclass leads out of its names. -/
theorem Stops.mem_of_hasSuperclass {name : String}
    (stops : s.Stops [t.qualifiedName] t ns chainEnd) (start : s.get? t.qualifiedName = some t)
    (higher : s.HasSuperclass t name) : name ∈ t.qualifiedName :: ns := by
  obtain ⟨ms, top, walk, below, declared, last⟩ := stops.exists_climbs
  have closed {v : TypeElement} {m : String} (known : s.get? v.qualifiedName = some v)
      (met : v.qualifiedName ∈ t.qualifiedName :: ns) (above : v.superclass = .named m) :
      m ∈ t.qualifiedName :: ns := by
    have met' : v.qualifiedName ∈ t.qualifiedName :: ms :=
      List.mem_cons.mpr ((List.mem_cons.mp met).imp_right fun h =>
        declared _ h (mem_names_of_get? known))
    rcases walk.superclass_mem start known met' with rfl | ⟨n, hn, named⟩
    · exact last m above
    · cases above.symm.trans named
      exact List.mem_cons_of_mem _ (below m hn)
  -- Every type that superclasses lead to has one of the names, from the start upwards.
  have inside {v u : TypeElement} {ups : List String} (climb : s.Climbs v ups u)
      (known : s.get? v.qualifiedName = some v) (met : v.qualifiedName ∈ t.qualifiedName :: ns)
      (above : u.superclass = .named name) : name ∈ t.qualifiedName :: ns := by
    induction climb with
    | here v => exact closed known met above
    | up named parentKnown _ ih =>
      have parentName := qualifiedName_of_get? parentKnown
      exact ih (parentName ▸ parentKnown) (parentName ▸ closed known met named) above
  obtain ⟨ups, u, climb, above⟩ := higher
  exact inside climb start List.mem_cons_self above

/-- A name is among the superclasses that are found exactly if it is that of a superclass at some
height, and not the name of the type itself. -/
theorem inheritsFrom_iff {name : String} (known : s.get? t.qualifiedName = some t) :
    s.inheritsFrom t name = true ↔ name ≠ t.qualifiedName ∧ s.HasSuperclass t name := by
  obtain ⟨new, stops⟩ := stops_superclassChain known
  obtain ⟨other, -⟩ := List.nodup_cons.mp new
  rw [inheritsFrom, List.contains_iff_mem]
  constructor
  · intro found
    exact ⟨fun same => other (same ▸ found), stops.hasSuperclass name found⟩
  · rintro ⟨different, higher⟩
    exact (List.mem_cons.mp (stops.mem_of_hasSuperclass known higher)).resolve_left different

/-- The search among the superclasses of a stored type lists the names that are met up to the first
stop, each once and the nearest first, and never the type itself. It ends at the root exactly if
superclasses lead to a class without one, and otherwise at the name that stops the walk. A type
inherits from all superclasses at any height but itself. -/
theorem superclassChain_exact (known : s.get? t.qualifiedName = some t) :
    (∀ ns chainEnd, s.superclassChain t = (ns, chainEnd) ↔
      (t.qualifiedName :: ns).Nodup ∧ s.Stops [t.qualifiedName] t ns chainEnd) ∧
    ((s.superclassChain t).2 = .root ↔ ∃ ns u, s.Climbs t ns u ∧ u.superclass = .absent) ∧
    (∀ name, s.inheritsFrom t name = true ↔ name ≠ t.qualifiedName ∧ s.HasSuperclass t name) :=
  ⟨fun _ _ => superclassChain_eq_iff known, superclassChain_root_iff known,
    fun _ => inheritsFrom_iff known⟩

/-- A class below one of two classes that extend each other. -/
def belowLoop : TypeElement :=
  { TypeElement.ofKind .classType "Below" with superclass := .named "Left" }

/-- The class and the two above it. -/
def loopStore : TypeStore :=
  empty.insertAll [belowLoop,
    { TypeElement.ofKind .classType "Left" with superclass := .named "Right" },
    { TypeElement.ofKind .classType "Right" with superclass := .named "Left" }]

/-- The walk stops where the loop closes, above the class at which it began. -/
theorem superclassChain_exact_of_loop :
    loopStore.get? belowLoop.qualifiedName = some belowLoop ∧
    (belowLoop.qualifiedName :: ["Left", "Right"]).Nodup ∧
    loopStore.Stops [belowLoop.qualifiedName] belowLoop ["Left", "Right"] (.unresolved "Left") ∧
    (¬ ∃ ns u, loopStore.Climbs belowLoop ns u ∧ u.superclass = .absent) ∧
    loopStore.HasSuperclass belowLoop "Right" ∧ ¬ loopStore.HasSuperclass belowLoop "Other" := by
  have known : loopStore.get? belowLoop.qualifiedName = some belowLoop := rfl
  obtain ⟨walks, root, inherits⟩ := superclassChain_exact known
  obtain ⟨distinct, stops⟩ := (walks ["Left", "Right"] (.unresolved "Left")).mp (by decide +kernel)
  refine ⟨known, distinct, stops, fun complete => ?_, ?_, fun other => ?_⟩
  · exact absurd (root.mpr complete) (by decide +kernel)
  · exact ((inherits "Right").mp (by decide +kernel)).2
  · exact absurd ((inherits "Other").mpr ⟨by decide, other⟩) (by decide +kernel)

end ComponentWiring.TypeStore
