/-
ComponentWiring.Proofs.Java.Soundness — formats that can be split, and arguments that fit them.

* `Piece`, `formatMarks_eq_some_iff` — the formats that can be split into pieces.
* `Segment.IsWellFormed` — a format that can be split, with one argument of the right kind for each
  placeholder.
* `Part.IsShaped`, `Part.IsSound` — what is asked of a part by itself, and all the way down.
* `Part.isSound_code`, `Part.isSound_type`, … — a part is sound if what is directly inside it is.
-/
import ComponentWiring.Proofs.Java.Parts
import Mathlib.Data.List.Forall2

namespace ComponentWiring.Java

/-! ## 1. Formats -/

/-- A piece of a format. -/
inductive Piece
  | plain (c : Char)
  /-- Two dollar signs, which stand for one. -/
  | dollar
  | mark (m : Mark)

namespace Piece

/-- The piece as it stands in a format. -/
def chars : Piece → List Char
  | .plain c => [c]
  | .dollar => ['$', '$']
  | .mark .indent => ['$', '>']
  | .mark .outdent => ['$', '<']
  | .mark (.hole ph) => ph.written.toList

/-- Whether the character of a plain piece is one that stands for itself. -/
def isProper : Piece → Bool
  | .plain c => c ≠ '$'
  | _ => true

/-- The mark that a piece is. -/
def mark? : Piece → Option Mark
  | .mark m => some m
  | _ => none

end Piece

theorem Placeholder.ofLetter?_eq_some_iff {l : Char} {ph : Placeholder} :
    ofLetter? l = some ph ↔ ['$', l] = ph.written.toList := by
  unfold ofLetter?
  cases ph <;> split <;> simp_all [written]

theorem formatMarks_plain {c : Char} (h : c ≠ '$') (r : List Char) :
    formatMarks (c :: r) = formatMarks r := by
  rw [formatMarks]
  · rintro rfl
    exact absurd rfl h
  · rintro _ _ rfl
    exact absurd rfl h

theorem formatMarks_hole (ph : Placeholder) (r : List Char) :
    formatMarks (ph.written.toList ++ r) = (formatMarks r).map (.hole ph :: ·) := by
  cases ph <;> simp [Placeholder.written, formatMarks, Placeholder.ofLetter?]

/-- The marks of a format that is split into pieces. -/
theorem formatMarks_flatMap {ps : List Piece} (proper : ∀ x ∈ ps, x.isProper = true) :
    formatMarks (ps.flatMap Piece.chars) = some (ps.filterMap Piece.mark?) := by
  induction ps with
  | nil => rfl
  | cons x ps ih =>
    obtain ⟨first, rest⟩ := List.forall_mem_cons.mp proper
    rw [List.flatMap_cons]
    cases x with
    | plain c =>
      have other : c ≠ '$' := by simpa [Piece.isProper] using first
      exact (formatMarks_plain other _).trans (ih rest)
    | dollar => exact ih rest
    | mark m =>
      have marked : formatMarks ((Piece.mark m).chars ++ ps.flatMap Piece.chars) =
          (formatMarks (ps.flatMap Piece.chars)).map (m :: ·) := by
        cases m with
        | indent | outdent => rfl
        | hole ph => exact formatMarks_hole ph _
      rw [marked, ih rest]
      rfl

/-- The well-formed formats are those that can be split into pieces. -/
theorem formatMarks_eq_some_iff {cs : List Char} {ms : List Mark} : formatMarks cs = some ms ↔
    ∃ ps : List Piece, (∀ x ∈ ps, x.isProper = true) ∧ cs = ps.flatMap Piece.chars ∧
      ms = ps.filterMap Piece.mark? := by
  constructor
  · intro h
    induction cs using formatMarks.induct generalizing ms with
    | case1 =>
      cases h
      exact ⟨[], List.forall_mem_nil _, rfl, rfl⟩
    | case2 => cases h
    | case3 r ih =>
      obtain ⟨ps, proper, rfl, rfl⟩ := ih (by simpa [formatMarks] using h)
      exact ⟨.dollar :: ps, List.forall_mem_cons.mpr ⟨rfl, proper⟩, rfl, rfl⟩
    | case4 r _ ih =>
      obtain ⟨ms, marks, rfl⟩ : ∃ ms', formatMarks r = some ms' ∧ .indent :: ms' = ms :=
        Option.map_eq_some_iff.mp h
      obtain ⟨ps, proper, rfl, rfl⟩ := ih marks
      exact ⟨.mark .indent :: ps, List.forall_mem_cons.mpr ⟨rfl, proper⟩, rfl, rfl⟩
    | case5 r _ _ ih =>
      obtain ⟨ms, marks, rfl⟩ : ∃ ms', formatMarks r = some ms' ∧ .outdent :: ms' = ms :=
        Option.map_eq_some_iff.mp h
      obtain ⟨ps, proper, rfl, rfl⟩ := ih marks
      exact ⟨.mark .outdent :: ps, List.forall_mem_cons.mpr ⟨rfl, proper⟩, rfl, rfl⟩
    | case6 l r _ _ _ unknown => simp_all [formatMarks]
    | case7 l r noDollar noIndent noOutdent ph known ih =>
      rw [formatMarks, if_neg noDollar, if_neg noIndent, if_neg noOutdent, known] at h
      obtain ⟨ms, marks, rfl⟩ : ∃ ms', formatMarks r = some ms' ∧ .hole ph :: ms' = ms :=
        Option.map_eq_some_iff.mp h
      obtain ⟨ps, proper, rfl, rfl⟩ := ih marks
      refine ⟨.mark (.hole ph) :: ps, List.forall_mem_cons.mpr ⟨rfl, proper⟩, ?_, rfl⟩
      rw [List.flatMap_cons, Piece.chars, ← Placeholder.ofLetter?_eq_some_iff.mp known]
      rfl
    | case8 l r noEnd noMark ih =>
      have other : l ≠ '$' := by
        rintro rfl
        cases r with
        | nil => exact noEnd rfl rfl
        | cons c r => exact noMark c r rfl rfl
      rw [formatMarks_plain other] at h
      obtain ⟨ps, proper, rfl, rfl⟩ := ih h
      refine ⟨.plain l :: ps, List.forall_mem_cons.mpr ⟨?_, proper⟩, rfl, rfl⟩
      simpa [Piece.isProper] using other
  · rintro ⟨ps, proper, rfl, rfl⟩
    exact formatMarks_flatMap proper

/-! ## 2. Sound parts -/

/-- The placeholder that a mark is. -/
def Mark.placeholder? : Mark → Option Placeholder
  | .hole ph => some ph
  | _ => none

/-- Whether the argument is of a kind that the placeholder takes. -/
def CodeArg.isFor : CodeArg → Placeholder → Bool
  | .type _, .type => true
  | .text _, .text => true
  | .name _, .name => true
  | .name _, .literal | .literal _, .literal | .block _, .literal | .anonymous _, .literal => true
  | _, _ => false

/-- The format can be split into pieces, and there is one argument for each placeholder, which takes
it. -/
def Segment.IsWellFormed (s : Segment) : Prop :=
  ∃ ps : List Piece, (∀ x ∈ ps, x.isProper = true) ∧ s.format.toList = ps.flatMap Piece.chars ∧
    List.Forall₂ (fun ph x => CodeArg.isFor x ph = true)
      (ps.filterMap fun x => x.mark?.bind Mark.placeholder?) s.arguments

namespace Part

/-- What is asked of a part by itself: all segments are well formed, and an anonymous class has a
supertype. -/
def IsShaped : Part → Prop
  | .code c => ∀ s ∈ c, s.IsWellFormed
  | .type t => t.isAnonymous = true → t.superclass ≠ none ∨ t.superinterfaces ≠ []
  | _ => True

/-- Everything that is written inside the part has the shape that is asked of it. -/
def IsSound (n : Part) : Prop := ∀ n', n.Emits n' → n'.IsShaped

theorem isSound_iff {n : Part} : n.IsSound ↔ n.IsShaped ∧ ∀ n', n.Holds n' → n'.IsSound := by
  constructor
  · intro sound
    exact ⟨sound n (.self n), fun n' held n'' inner => sound n'' (.trans (.single held) inner)⟩
  · rintro ⟨shaped, inside⟩ n'' emitted
    rcases Relation.ReflTransGen.cases_head emitted with rfl | ⟨n', held, inner⟩
    · exact shaped
    · exact inside n' held n'' inner

end Part

/-- The code or the anonymous class that the argument is, if it is one, is sound. -/
def CodeArg.IsSound (x : CodeArg) : Prop := ∀ n, x.part? = some n → n.IsSound

/-- The segment is well formed and so is everything inside it. -/
structure Segment.IsSound (s : Segment) : Prop where
  wellFormed : s.IsWellFormed
  arguments : ∀ x ∈ s.arguments, x.IsSound

namespace Part

theorem isSound_code {c : Code} : (code c).IsSound ↔ ∀ s ∈ c, s.IsSound := by
  rw [isSound_iff]
  constructor
  · rintro ⟨shaped, inside⟩ s hs
    exact ⟨shaped s hs, fun x hx n hn => inside n (.argument hs hx hn)⟩
  · intro sound
    refine ⟨fun s hs => (sound s hs).wellFormed, fun n held => ?_⟩
    cases held with
    | argument hs hx hn => exact (sound _ hs).arguments _ hx n hn

theorem isSound_marker {u : AnnotationUse} :
    (marker u).IsSound ↔ ∀ m ∈ u.members, (code m.2).IsSound := by
  rw [isSound_iff]
  constructor
  · rintro ⟨-, inside⟩ m hm
    exact inside _ (.member hm)
  · intro members
    refine ⟨trivial, fun n held => ?_⟩
    cases held with
    | member hm => exact members _ hm

theorem isSound_field {inInterface : Bool} {f : FieldDecl} : (field inInterface f).IsSound ↔
    (∀ u ∈ f.annotations, (marker u).IsSound) ∧
      ∀ c, f.initializer = some c → (code c).IsSound := by
  rw [isSound_iff]
  constructor
  · rintro ⟨-, inside⟩
    exact ⟨fun u hu => inside _ (.markOfField hu), fun c initial => inside _ (.initializer initial)⟩
  · rintro ⟨marks, value⟩
    refine ⟨trivial, fun n held => ?_⟩
    cases held with
    | markOfField hu => exact marks _ hu
    | initializer initial => exact value _ initial

theorem isSound_method {inInterface : Bool} {m : MethodDecl} : (method inInterface m).IsSound ↔
    (∀ u ∈ m.annotations, (marker u).IsSound) ∧
      (hasBody inInterface m.modifiers = true → (code m.code).IsSound) := by
  rw [isSound_iff]
  constructor
  · rintro ⟨-, inside⟩
    exact ⟨fun u hu => inside _ (.markOfMethod hu), fun body => inside _ (.body body)⟩
  · rintro ⟨marks, coded⟩
    refine ⟨trivial, fun n held => ?_⟩
    cases held with
    | markOfMethod hu => exact marks _ hu
    | body body => exact coded body

theorem isSound_type {t : TypeDecl} : (type t).IsSound ↔
    (type t).IsShaped ∧ (∀ c, t.kind = .anonymous c → (code c).IsSound) ∧
      (t.isAnonymous = false → ∀ u ∈ t.annotations, (marker u).IsSound) ∧
      (∀ f ∈ t.fields, (field t.isInterface f).IsSound) ∧
      ∀ m ∈ t.methods, (method t.isInterface m).IsSound := by
  rw [isSound_iff]
  refine and_congr_right fun _ => ⟨fun inside => ?_, ?_⟩
  · exact ⟨fun c anonymous => inside _ (.creation anonymous),
      fun named u hu => inside _ (.markOfType named hu), fun f hf => inside _ (.fieldOf hf),
      fun m hm => inside _ (.methodOf hm)⟩
  · rintro ⟨arguments, marks, fields, methods⟩ n held
    cases held with
    | creation anonymous => exact arguments _ anonymous
    | markOfType named hu => exact marks named _ hu
    | fieldOf hf => exact fields _ hf
    | methodOf hm => exact methods _ hm

end Part

end ComponentWiring.Java
