/-
ComponentWiring.Proofs.Java.Layout — what the width of indentation does to a text.

* `Line.IsPlain`, `Page.IsPlain` — lines end nowhere but at their ends, and an empty line has no
  indentation.
* `layOut` — lines one below the other, each ended.
* `eq_of_layOut_eq` — plain lines are known from their layouts.
* `Tape` — text that is padded while it is written; `SourceFile.render_eq_text_tape` — a file is
  rendered so.
* `SourceFile.render_is_laid_out` — a file has one list of lines for all widths, or one fault.

A page holds lines and their depths until it is printed, a tape holds nothing but text. Pages are
easier to reason about, and tapes show that nothing is gained by knowing a line before it is padded.
-/
import ComponentWiring.Proofs.Java.Balance
import ComponentWiring.Proofs.Java.Imports
import ComponentWiring.Proofs.Text.Segments

namespace ComponentWiring.Java

/-! ## 1. Plain lines -/

/-- The line ends nowhere before its end, and has no indentation if it is empty. -/
structure Line.IsPlain (l : Line) : Prop where
  unbroken : '\n' ∉ l.text.toList
  depth_of_empty : l.text = "" → l.depth = 0

theorem Line.isPlain_blank : Line.blank.IsPlain := ⟨by simp [blank], fun _ => rfl⟩

/-- All lines of the page are plain. -/
structure Page.IsPlain (p : Page) : Prop where
  lines : ∀ l ∈ p.lines.toList, l.IsPlain
  current : p.current.IsPlain

namespace Page.IsPlain

variable {p : Page}

theorem start : Page.start.IsPlain := ⟨by simp [Page.start], Line.isPlain_blank⟩

theorem put (h : p.IsPlain) (c : Char) : (p.put c).IsPlain := by
  unfold Page.put
  split
  next =>
    refine ⟨fun l hl => ?_, Line.isPlain_blank⟩
    rw [Array.toList_push, List.mem_append, List.mem_singleton] at hl
    rcases hl with hl | rfl
    · exact h.lines l hl
    · exact h.current
  next inside =>
    split
    · exact ⟨h.lines, by simpa using Ne.symm inside, by simp⟩
    · exact ⟨h.lines, by simpa using ⟨h.current.unbroken, Ne.symm inside⟩, by simp⟩

theorem putAll (h : p.IsPlain) (cs : List Char) : (p.putAll cs).IsPlain := by
  induction cs generalizing p with
  | nil => exact h
  | cons c cs ih => exact ih (h.put c)

theorem draw (h : p.IsPlain) (im : Imports) (s : Stroke) : (s.draw im p).IsPlain := by
  cases s with
  | text s => exact h.putAll s.toList
  | spelled c => exact h.putAll (im.spell c).toList
  | indent => exact ⟨h.lines, h.current⟩
  | outdent => exact ⟨h.lines, h.current⟩
  | finishLine =>
    rw [Stroke.draw, Page.finishLine]
    split
    · exact h
    · exact h.put '\n'

theorem drawAll (h : p.IsPlain) (im : Imports) (ss : List Stroke) :
    (drawAll im ss p).IsPlain := by
  induction ss generalizing p with
  | nil => exact h
  | cons s ss ih => exact ih (h.draw im s)

/-- The line being written is blank as long as nothing is written on it. -/
theorem current_eq_blank (h : p.IsPlain) (start : p.isLineStart = true) :
    p.current = .blank := by
  have text : p.current.text = "" := by simpa [isLineStart] using start
  have depth : p.current.depth = 0 := h.current.depth_of_empty text
  show Line.mk p.current.depth p.current.text = .blank
  rw [depth, text]
  rfl

end Page.IsPlain

/-! ## 2. Layouts -/

/-- The line with so many spaces for one level of indentation, unless it is empty. -/
def Line.chars (width : Nat) (l : Line) : List Char :=
  if l.text = "" then [] else List.replicate (width * l.depth) ' ' ++ l.text.toList

/-- The lines one below the other, each of them ended. -/
def layOut (width : Nat) (lines : List Line) : List Char :=
  lines.flatMap fun l => l.chars width ++ ['\n']

namespace Line

variable {l l' : Line}

theorem toList_print (width : Nat) (l : Line) : (l.print width).toList = l.chars width := by
  unfold print chars
  by_cases empty : l.text = ""
  · simp [empty]
  · simp [empty, Nat.mul_comm]

theorem chars_zero (l : Line) : l.chars 0 = l.text.toList := by
  unfold chars
  split
  next empty => simp [empty]
  next => simp

theorem length_chars_one (h : l.IsPlain) : (l.chars 1).length = l.depth + l.text.toList.length := by
  unfold chars
  split
  next empty => simp [empty, h.depth_of_empty empty]
  next => simp

theorem IsPlain.unbroken_chars (h : l.IsPlain) (width : Nat) : '\n' ∉ l.chars width := by
  unfold chars
  split
  · exact List.not_mem_nil
  · simpa using h.unbroken

/-- A plain line is known from how it is written at the widths: one shows its text, and another one
its depth. -/
theorem eq_of_chars_eq (h : l.IsPlain) (h' : l'.IsPlain)
    (same : ∀ width, l.chars width = l'.chars width) : l = l' := by
  have text : l.text = l'.text :=
    String.toList_inj.mp (l.chars_zero.symm.trans ((same 0).trans l'.chars_zero))
  have depth : l.depth = l'.depth := by
    have lengths := congrArg List.length (same 1)
    rw [length_chars_one h, length_chars_one h', text] at lengths
    exact Nat.add_right_cancel lengths
  cases l
  cases l'
  congr

end Line

theorem Page.toList_print {p : Page} (ended : p.current = .blank) (width : Nat) :
    (p.print width).toList = layOut width p.lines.toList := by
  have nothing : p.current.print width = "" := by rw [ended]; rfl
  rw [print, nothing, String.append_empty, String.toList_join, List.flatMap_map, layOut]
  simp only [String.toList_append, Line.toList_print]
  rfl

/-- The pieces of a layout between its line ends are the written lines. -/
theorem segments_layOut {ls : List Line} (plain : ∀ l ∈ ls, l.IsPlain) (width : Nat) :
    Text.segments '\n' (layOut width ls) = ls.map (·.chars width) ++ [[]] := by
  induction ls with
  | nil => simp [layOut, Text.segments, Text.splitAt]
  | cons l ls ih =>
    obtain ⟨plainHead, plainTail⟩ := List.forall_mem_cons.mp plain
    rw [layOut, List.flatMap_cons, ← layOut, List.append_assoc, List.singleton_append,
      Text.segments_append_sep, ih plainTail,
      Text.segments_of_not_mem (plainHead.unbroken_chars width)]
    rfl

/-- Plain lines are known from their layouts at the widths. -/
theorem eq_of_layOut_eq {ls ls' : List Line} (plain : ∀ l ∈ ls, l.IsPlain)
    (plain' : ∀ l ∈ ls', l.IsPlain) (same : ∀ width, layOut width ls = layOut width ls') :
    ls = ls' := by
  have written (width : Nat) : ls.map (·.chars width) = ls'.map (·.chars width) := by
    have pieces := congrArg (Text.segments '\n') (same width)
    rw [segments_layOut plain, segments_layOut plain'] at pieces
    exact List.append_cancel_right pieces
  have counts : ls.length = ls'.length := by simpa using congrArg List.length (written 0)
  refine List.ext_getElem counts fun i h h' => ?_
  refine Line.eq_of_chars_eq (plain _ (List.getElem_mem h)) (plain' _ (List.getElem_mem h')) ?_
  intro width
  simpa [h, h'] using congrArg (·[i]?) (written width)

/-! ## 3. Tapes -/

/-- Text to which characters are added at its end only. -/
structure Tape where
  text : String
  depth : Nat
  isLineStart : Bool

namespace Tape

/-- The tape on which nothing is written. -/
def start : Tape := ⟨"", 0, true⟩

/-- Writes a character. The first one of a line stands behind the padding for the depth. -/
def put (width : Nat) (t : Tape) (c : Char) : Tape :=
  if c = '\n' then { t with text := t.text.push c, isLineStart := true }
  else if t.isLineStart then
    { t with
      text := (t.text ++ String.ofList (List.replicate (t.depth * width) ' ')).push c
      isLineStart := false }
  else { t with text := t.text.push c }

/-- Writes a text. -/
def write (width : Nat) (t : Tape) (s : String) : Tape := s.toList.foldl (put width) t

/-- The tape with one more stroke, in a file with these imports. -/
def draw (im : Imports) (width : Nat) (t : Tape) : Stroke → Tape
  | .text s => t.write width s
  | .spelled c => t.write width (im.spell c)
  | .indent => { t with depth := t.depth + 1 }
  | .outdent => { t with depth := t.depth - 1 }
  | .finishLine => if t.isLineStart then t else t.put width '\n'

/-- The tape with all strokes, one after the other. -/
def drawAll (im : Imports) (width : Nat) (ss : List Stroke) (t : Tape) : Tape :=
  ss.foldl (draw im width) t

end Tape

namespace Page

/-- The tape of a page, for a width. -/
def tape (width : Nat) (p : Page) : Tape := ⟨p.print width, p.depth, p.isLineStart⟩

variable (width : Nat) (p : Page)

theorem isLineStart_put (c : Char) : (p.put c).isLineStart = decide (c = '\n') := by
  rw [put]
  split
  next lineEnd => simp [lineEnd, isLineStart, Line.blank]
  next inside => split <;> simp [inside, isLineStart]

theorem tape_put (c : Char) : (p.put c).tape width = (p.tape width).put width c := by
  rw [tape, print_put, depth_put, isLineStart_put, Tape.put, tape]
  by_cases lineEnd : c = '\n'
  · subst lineEnd
    simp [String.push_eq_append]
  · by_cases first : p.isLineStart = true <;> simp [lineEnd, first]

theorem tape_putAll (cs : List Char) :
    (p.putAll cs).tape width = cs.foldl (Tape.put width) (p.tape width) := by
  induction cs generalizing p with
  | nil => rfl
  | cons c cs ih => rw [putAll, List.foldl_cons, ← putAll, ih, tape_put, List.foldl_cons]

theorem tape_draw (im : Imports) (s : Stroke) :
    (s.draw im p).tape width = (p.tape width).draw im width s := by
  cases s with
  | text s => exact p.tape_putAll width s.toList
  | spelled c => exact p.tape_putAll width (im.spell c).toList
  | indent => rfl
  | outdent => rfl
  | finishLine =>
    show p.finishLine.tape width =
      if p.isLineStart then p.tape width else (p.tape width).put width '\n'
    rw [finishLine, apply_ite (tape width), tape_put]

/-- What strokes make of a page is on the tape as if they were made there. -/
theorem tape_drawAll (im : Imports) (ss : List Stroke) :
    (Java.drawAll im ss p).tape width = (p.tape width).drawAll im width ss := by
  induction ss generalizing p with
  | nil => rfl
  | cons s ss ih =>
    rw [Java.drawAll, List.foldl_cons, ← Java.drawAll, ih, tape_draw, Tape.drawAll, Tape.drawAll,
      List.foldl_cons]

end Page

/-! ## 4. Files -/

namespace SourceFile

variable {f : SourceFile}

/-- The last line of a file that is written is ended. -/
theorem isLineStart_of_page {p : Page} (made : f.page = .ok p) : p.isLineStart = true := by
  rw [page] at made
  split at made
  case isTrue => cases made
  case isFalse named =>
    have kind : ¬ f.type.isAnonymous = true := fun anonymous => named (by rw [anonymous]; rfl)
    obtain ⟨q, -, closed⟩ := emitType_closes made
    rw [closed, if_neg kind]
    exact (Page.isAfterLine_put _).start

/-- A file is rendered on a tape: its strokes are the same for all widths, and the padding of a line
is written as soon as its first character is, before anything is known of the rest. -/
theorem render_eq_text_tape {p : Page} (made : f.page = .ok p) :
    ∃ ss, f.IsDrawnBy ss ∧ ∀ width, f.render width =
      .ok ((Tape.start.write width (f.header (.of f))).drawAll (.of f) width ss).text := by
  obtain ⟨ss, drawn, -, rfl⟩ := exists_strokes_of_page made
  refine ⟨ss, drawn, fun width => ?_⟩
  have header : (Page.start.write (f.header (.of f))).tape width =
      Tape.start.write width (f.header (.of f)) :=
    Page.tape_putAll width .start _
  rw [render, made, ← header, ← Page.tape_drawAll]
  rfl

/-- All lines of a file are plain. -/
theorem isPlain_of_page {p : Page} (made : f.page = .ok p) : p.IsPlain := by
  obtain ⟨ss, -, -, drawing⟩ := exists_strokes_of_page made
  exact drawing ▸ (Page.IsPlain.start.putAll (f.header (.of f)).toList).drawAll (.of f) ss

/-- A file meets one fault at all widths, or has one list of lines: at every width its text is made
of these, each behind its indentation, unless it is empty, and ended. The text comes out the same
when it is written character by character with the padding put in on the way. -/
theorem render_is_laid_out (f : SourceFile) :
    (∃ fault, ∀ width, f.render width = .error fault) ∨
    (∃! lines : List Line, (∀ l ∈ lines, l.IsPlain) ∧
      ∀ width, f.render width = .ok (.ofList (layOut width lines))) ∧
    ∃ ss, f.IsDrawnBy ss ∧ ∀ width, f.render width =
      .ok ((Tape.start.write width (f.header (.of f))).drawAll (.of f) width ss).text := by
  cases made : f.page with
  | error fault => exact .inl ⟨fault, fun width => by rw [render, made]; rfl⟩
  | ok p =>
    have plain := isPlain_of_page made
    have blank : p.current = .blank := plain.current_eq_blank (isLineStart_of_page made)
    have laidOut (width : Nat) :
        f.render width = .ok (.ofList (layOut width p.lines.toList)) := by
      rw [render, made, ← Page.toList_print blank, String.ofList_toList]
      rfl
    refine .inr ⟨⟨p.lines.toList, ⟨plain.lines, laidOut⟩, ?_⟩, render_eq_text_tape made⟩
    rintro lines ⟨plain', laidOut'⟩
    exact eq_of_layOut_eq plain' plain.lines fun width =>
      String.ofList_injective (Except.ok.inj ((laidOut' width).symm.trans (laidOut width)))

end SourceFile

end ComponentWiring.Java
