/-
ComponentWiring.Java.Page — text under construction, line by line.

* `Line` — a text with the depth of its indentation.
* `Page` — the finished lines, the line being written, and the current depth.
* `Page.put`, `Page.write` — writing characters. A line takes the depth of the page at the
  moment its first character is written.
* `Page.print` — the text of a page for a width of one level of indentation.

The width plays no part before printing, so pages differ only in it.
-/

namespace ComponentWiring.Java

/-! ## 1. Lines -/

/-- A text with the depth of its indentation. -/
structure Line where
  depth : Nat
  text : String
deriving DecidableEq, Inhabited

/-- The empty line. -/
def Line.blank : Line := ⟨0, ""⟩

/-- The written form of a line: an empty one has no indentation. -/
def Line.print (width : Nat) (l : Line) : String :=
  if l.text.isEmpty then "" else String.ofList (List.replicate (l.depth * width) ' ') ++ l.text

/-! ## 2. Pages -/

/-- Finished lines, the line being written, and the depth of what is written next. -/
structure Page where
  lines : Array Line
  current : Line
  depth : Nat
deriving Inhabited

namespace Page

/-- The page on which nothing is written. -/
def start : Page := ⟨#[], .blank, 0⟩

/-- Whether nothing is written on the current line. -/
def isLineStart (p : Page) : Bool := p.current.text.isEmpty

/-- Writes a character. -/
def put (p : Page) (c : Char) : Page :=
  if c = '\n' then { p with lines := p.lines.push p.current, current := .blank }
  else if p.isLineStart then { p with current := ⟨p.depth, String.singleton c⟩ }
  else { p with current := { p.current with text := p.current.text.push c } }

/-- Writes characters. -/
def putAll (p : Page) (cs : List Char) : Page := cs.foldl put p

/-- Writes a text. -/
def write (p : Page) (s : String) : Page := p.putAll s.toList

/-- One level deeper. -/
def indent (p : Page) : Page := { p with depth := p.depth + 1 }

/-- One level up, unless the page is at the outermost level. -/
def outdent? (p : Page) : Option Page :=
  match p.depth with
  | 0 => none
  | n + 1 => some { p with depth := n }

/-- Ends the current line if something is written on it. -/
def finishLine (p : Page) : Page := if p.isLineStart then p else p.put '\n'

/-- The text of the page, with so many spaces for one level of indentation. -/
def print (p : Page) (width : Nat) : String :=
  String.join (p.lines.toList.map fun l => l.print width ++ "\n") ++ p.current.print width

end Page

end ComponentWiring.Java
