/-
ComponentWiring.Document.Node — the contents of a structured document.

* `Node` — a value of a document, whatever format it was written in. Records keep the
  order of their keys, and a key that was written twice stands there twice.
* `Dialect` — what the formats decide differently when typed data is read from a node.
* `Node.record?`, `Node.variant?`, … — reading typed data.
* `RecordForm` — how a record is written that is one of several things a node may be.

Every reader answers `none` for a node of the wrong shape.
-/
import ComponentWiring.Document.Magnitude

namespace ComponentWiring.Document

/-! ## 1. Nodes -/

/-- A value of a document. -/
inductive Node
  | null
  | bool (b : Bool)
  | integer (n : Int)
  | text (s : String)
  | list (items : List Node)
  | record (entries : List (String × Node))
  /-- A number that is not an integer. -/
  | fraction
  /-- A value that can be passed over but not read, such as a text with a broken escape. -/
  | unreadable
deriving Inhabited

mutual
/-- Whether every part of a node can be read. -/
def Node.isReadable : Node → Bool
  | .unreadable => false
  | .list items => Node.allReadable items
  | .record entries => Node.allReadableEntries entries
  | _ => true
/-- Whether every part of every item can be read. -/
def Node.allReadable : List Node → Bool
  | [] => true
  | n :: r => n.isReadable && Node.allReadable r
/-- Whether every part of every entry can be read. -/
def Node.allReadableEntries : List (String × Node) → Bool
  | [] => true
  | e :: r => Node.entryReadable e && Node.allReadableEntries r
/-- Whether every part of an entry's value can be read. -/
def Node.entryReadable : String × Node → Bool
  | (_, n) => n.isReadable
end

/-! ## 2. Equal nodes -/

mutual
/-- Whether two nodes are the same. -/
def Node.same : Node → Node → Bool
  | .null, .null => true
  | .bool b, .bool c => b = c
  | .integer m, .integer n => m = n
  | .text s, .text t => s = t
  | .list items, .list others => Node.allSame items others
  | .record entries, .record others => Node.allSameEntries entries others
  | .fraction, .fraction => true
  | .unreadable, .unreadable => true
  | _, _ => false
/-- Whether all items are the same. -/
def Node.allSame : List Node → List Node → Bool
  | [], [] => true
  | n :: r, n' :: r' => n.same n' && Node.allSame r r'
  | _, _ => false
/-- Whether all entries are the same. -/
def Node.allSameEntries : List (String × Node) → List (String × Node) → Bool
  | [], [] => true
  | e :: r, e' :: r' => Node.entrySame e e' && Node.allSameEntries r r'
  | _, _ => false
/-- Whether two entries are the same. -/
def Node.entrySame : String × Node → String × Node → Bool
  | (key, n), (key', n') => key = key' && n.same n'
end

mutual
theorem Node.same_iff : ∀ n n' : Node, n.same n' = true ↔ n = n'
  | .null, n' | .fraction, n' | .unreadable, n' => by cases n' <;> simp [Node.same]
  | .bool b, n' | .integer b, n' | .text b, n' => by cases n' <;> simp [Node.same]
  | .list items, n' => by cases n' <;> simp [Node.same, Node.allSame_iff items]
  | .record entries, n' => by cases n' <;> simp [Node.same, Node.allSameEntries_iff entries]
theorem Node.allSame_iff : ∀ items others : List Node,
    Node.allSame items others = true ↔ items = others
  | [], others => by cases others <;> simp [Node.allSame]
  | n :: r, others => by cases others <;> simp [Node.allSame, n.same_iff, Node.allSame_iff r]
theorem Node.allSameEntries_iff : ∀ entries others : List (String × Node),
    Node.allSameEntries entries others = true ↔ entries = others
  | [], others => by cases others <;> simp [Node.allSameEntries]
  | e :: r, others => by
    cases others <;> simp [Node.allSameEntries, Node.entrySame_iff e, Node.allSameEntries_iff r]
theorem Node.entrySame_iff : ∀ e e' : String × Node, Node.entrySame e e' = true ↔ e = e'
  | (key, n), (key', n') => by simp [Node.entrySame, n.same_iff]
end

instance : DecidableEq Node := fun n n' => decidable_of_iff _ (n.same_iff n')

/-! ## 3. Plain values -/

/-- The text of a text. -/
def Node.text? : Node → Option String
  | .text s => some s
  | _ => none

/-- The truth value of a truth value. -/
def Node.bool? : Node → Option Bool
  | .bool b => some b
  | _ => none

/-- An integer of 64 bits with a sign. -/
def Node.int64? : Node → Option Int
  | .integer n => if -(signedBound : Int) ≤ n ∧ n < signedBound then some n else none
  | _ => none

/-- An integer of 64 bits without a sign. -/
def Node.count? : Node → Option Nat
  | .integer n => if 0 ≤ n ∧ n < unsignedBound then some n.toNat else none
  | _ => none

/-- A value that may be written as null. -/
def Node.optional? {α : Type} (read : Node → Option α) : Node → Option (Option α)
  | .null => some none
  | n => (read n).map some

/-- A list whose items all read. -/
def Node.list? {α : Type} (read : Node → Option α) : Node → Option (List α)
  | .list items => items.mapM read
  | _ => none

/-! ## 4. Records and variants -/

/-- What the formats decide differently. -/
structure Dialect where
  /-- Whether a record written as a list may have more items than fields. -/
  allowsSurplus : Bool
  /-- Whether a node may stand as the contents of a variant that has none. -/
  isUnit : Node → Bool

/-- The known fields among entries, by name. Each is given at most once; unknown names are
passed over. -/
def knownFields? (names : List String) (entries : List (String × Node)) :
    Option (List (String × Node)) :=
  let known := entries.filter fun e => names.contains e.1
  if (known.map Prod.fst).Nodup then some known else none

/-- The known fields a record gives, by name. A record is written with its field names or as
the list of its fields in order. -/
def Node.record? (d : Dialect) (names : List String) : Node → Option (List (String × Node))
  | .record entries => knownFields? names entries
  | .list items =>
    if !d.allowsSurplus && names.length < items.length then none else some (names.zip items)
  | _ => none

/-- How a record is written that is one of several things a node may be. -/
inductive RecordForm
  /-- With its field names. -/
  | named
  /-- With its field names, or as the list of its fields in order. -/
  | namedOrListed
deriving DecidableEq, Inhabited

/-- The known fields of a record that is written in the form. A list has no surplus items. -/
def Node.fields? (form : RecordForm) (names : List String) :
    Node → Option (List (String × Node))
  | .record entries => knownFields? names entries
  | .list items =>
    match form with
    | .named => none
    | .namedOrListed => if names.length < items.length then none else some (names.zip items)
  | _ => none

/-- A field that has to be given. -/
def required? {α : Type} (fields : List (String × Node)) (name : String)
    (read : Node → Option α) : Option α :=
  (fields.lookup name).bind read

/-- A field that falls back to a default. -/
def defaulted? {α : Type} (fields : List (String × Node)) (name : String) (default : α)
    (read : Node → Option α) : Option α :=
  match fields.lookup name with
  | none => some default
  | some n => read n

/-- A variant without contents, by its name or as a record of the name alone. -/
def Node.variant? {α : Type} (d : Dialect) (variants : List (String × α)) : Node → Option α
  | .text s => variants.lookup s
  | .record [(s, n)] => if d.isUnit n then variants.lookup s else none
  | _ => none

end ComponentWiring.Document
