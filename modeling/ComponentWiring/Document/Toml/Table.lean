/-
ComponentWiring.Document.Toml.Table — the tables that the statements of a document build.

* `Statement` — a key with its value, or the head of a table.
* `Item` — a value, a table or a list of tables, with what the rules of redefinition
  need to know of a table: whether it was only led through so far, and whether a dotted
  key made it.
* `assemble?` — the document of a list of statements, or `none` when a statement defines
  something again or leads through a value.
-/
import ComponentWiring.Keyed
import ComponentWiring.Document.Node

namespace ComponentWiring.Document.Toml

/-! ## 1. Statements and items -/

/-- A statement of a document. Every key comes with the names that lead to it. -/
inductive Statement
  | pair (path : List String) (key : String) (value : Node)
  /-- The head of a table. -/
  | table (path : List String) (key : String)
  /-- The head of one more table in a list of tables. -/
  | element (path : List String) (key : String)

/-- What a key of a document under construction stands for. -/
inductive Item
  | value (n : Node)
  | table (implicit dotted : Bool) (entries : List (String × Item))
  | tables (items : List (List (String × Item)))

mutual
/-- The node of an item. -/
def Item.toNode : Item → Node
  | .value n => n
  | .table _ _ entries => .record (Item.entriesToNodes entries)
  | .tables items => .list (Item.tablesToNodes items)
/-- The entries of a table as nodes. -/
def Item.entriesToNodes : List (String × Item) → List (String × Node)
  | [] => []
  | e :: r => Item.entryToNode e :: Item.entriesToNodes r
/-- An entry of a table as a node. -/
def Item.entryToNode : String × Item → String × Node
  | (k, i) => (k, i.toNode)
/-- A list of tables as nodes. -/
def Item.tablesToNodes : List (List (String × Item)) → List Node
  | [] => []
  | t :: r => .record (Item.entriesToNodes t) :: Item.tablesToNodes r
end

/-! ## 2. Leading through a document -/

/-- Changes the table that a path of names leads to, making the tables that are missing.
`dotted` tells a dotted key from the head of a table: a dotted key makes dotted tables and
must not lead into a table that has a head. `change` also learns whether the table it
changes was made by a dotted key. -/
def changeAt (dotted : Bool)
    (change : Bool → List (String × Item) → Option (List (String × Item))) :
    List String → Bool → List (String × Item) → Option (List (String × Item))
  | [], made, entries => change made entries
  | k :: ks, _, entries =>
    match Entries.get? k entries with
    | none => do
      let sub ← changeAt dotted change ks dotted []
      return Entries.put k (.table true dotted sub) entries
    | some (.value _) => none
    | some (.tables ts) => do
      let sub ← changeAt dotted change ks false (← ts.getLast?)
      return Entries.put k (.tables (ts.dropLast ++ [sub])) entries
    | some (.table implicit made sub) =>
      if dotted && !implicit then none
      else do
        let sub ← changeAt dotted change ks made sub
        return Entries.put k (.table implicit made sub) entries

/-- Adds a new key to a table. Only a dotted key may write into a table that dotted keys
made, and it may write into no other. -/
def addPair (path : List String) (key : String) (i : Item) (entries : List (String × Item)) :
    Option (List (String × Item)) :=
  changeAt true (fun made es =>
    if made == path.isEmpty || (Entries.get? key es).isSome then none
    else some (es ++ [(key, i)])) path false entries

/-- The table of an inline table's pairs. -/
def inlineTable? (pairs : List (List String × String × Node)) : Option Node := do
  let entries ← pairs.foldlM (fun es (path, k, n) => addPair path k (.value n) es) []
  return .record (Item.entriesToNodes entries)

/-! ## 3. Building -/

/-- A document under construction: what is finished, and the table being written with
its place. -/
structure Draft where
  finished : List (String × Item)
  current : List (String × Item)
  place : Option (List String × String × Bool)

/-- Files the table being written at its place. -/
def Draft.file? (d : Draft) : Option (List (String × Item)) :=
  match d.place with
  | none => some d.current
  | some (path, key, false) =>
    changeAt false (fun _ es => some (Entries.put key (.table false false d.current) es))
      path false d.finished
  | some (path, key, true) =>
    changeAt false (fun _ es =>
      match Entries.get? key es with
      | none => some (Entries.put key (.tables [d.current]) es)
      | some (.tables ts) => some (Entries.put key (.tables (ts ++ [d.current])) es)
      | some _ => none) path false d.finished

/-- A table with a head takes over what dotted heads have put into it so far. -/
def Draft.open? (root : List (String × Item)) (path : List String) (key : String) :
    Option Draft := do
  let (mine, root) ← (do
    let found ← lookUp path root
    match found with
    | some (.table true false sub) => return (sub, ← erase path root)
    | some _ => none
    | none => return ([], ← changeAt false (fun _ es => some es) path false root))
  return ⟨root, mine, some (path, key, false)⟩
where
  /-- The item under the key, once the tables that lead to it are there. -/
  lookUp : List String → List (String × Item) → Option (Option Item)
    | [], es => some (Entries.get? key es)
    | k :: ks, es =>
      match Entries.get? k es with
      | none => some none
      | some (.value _) => none
      | some (.tables ts) => (ts.getLast?).bind (lookUp ks)
      | some (.table _ _ sub) => lookUp ks sub
  /-- The document without the key. -/
  erase (path : List String) (root : List (String × Item)) : Option (List (String × Item)) :=
    changeAt false (fun _ es => some (es.filter fun e => e.1 != key)) path false root

/-- The head of one more table of a list, which must not be anything else. -/
def Draft.openElement? (root : List (String × Item)) (path : List String) (key : String) :
    Option Draft := do
  let root ← changeAt false (fun _ es =>
    match Entries.get? key es with
    | none => some es
    | some (.tables _) => some es
    | some _ => none) path false root
  return ⟨root, [], some (path, key, true)⟩

/-- One statement more. -/
def Draft.add? (d : Draft) : Statement → Option Draft
  | .pair path key n => do
    return { d with current := ← addPair path key (.value n) d.current }
  | .table path key => do
    Draft.open? (← d.file?) path key
  | .element path key => do
    Draft.openElement? (← d.file?) path key

/-- The document of a list of statements. -/
def assemble? (statements : List Statement) : Option Node := do
  let draft ← statements.foldlM Draft.add? ⟨[], [], none⟩
  return .record (Item.entriesToNodes (← draft.file?))

end ComponentWiring.Document.Toml
