import ZMachine.Toml.Number

/-!
# Reading TOML

`parse` reads a document.  First the tree of the whole document is made; then its statements are
gone through in order, keys and values are understood and put into tables.  Of several problems the
first one is told, one of the tree before all others.
-/

namespace ZMachine.Toml

/-! ## Values -/

mutual

def Tree.value : Tree → Except Problem (Span × Value)
  | .simple w => do return (w.piece.span, ← w.value)
  | .array span trees => do return (span, .array (← itemValues trees))
  | .table span trees => do return (span, .table .closed (← memberValues [] trees))

def itemValues : List Tree → Except Problem (List (Span × Value))
  | [] => .ok []
  | t :: rest => do
    let v ← t.value
    return v :: (← itemValues rest)

/-- The members of a table in braces, put to those so far. -/
def memberValues (seen : Members) : List (Key × Tree) → Except Problem Members
  | [] => .ok seen
  | (key, t) :: rest => do
    let (path, last) ← key.names
    let (span, v) ← t.value
    memberValues (← seen.insert .inBraces path last span v) rest

end

/-! ## Tables -/

/-- The header whose table is being filled. -/
structure Header where
  inArray : Bool
  path : List Name
  last : Name
  span : Span

/-- A document that is being read. -/
structure Draft where
  /-- The table at the top, without the one that is being filled. -/
  root : Members := []
  /-- The table that is being filled. -/
  here : Members := []
  /-- Its header; there is none for the table at the top. -/
  header : Option Header := none

namespace Draft

/-- Puts the table that is being filled into its place. -/
def finish (d : Draft) : Except Problem Members :=
  match d.header with
  | none => .ok d.here
  | some h =>
    if h.inArray then d.root.pushTable h.path h.last h.span d.here
    else d.root.putTable h.path h.last h.span d.here

/-- Opens the table of a header.  Whether an array can take another table is seen when the table is
put into it. -/
def openTable (h : Header) (root : Members) : Except Problem Draft :=
  if h.inArray then .ok ⟨root, [], some h⟩
  else do
    let (here, root) ← root.takeTable h.path h.last
    return ⟨root, here, some h⟩

def take (d : Draft) : Statement → Except Problem Draft
  | .header inArray span key => do
    let root ← d.finish
    let (path, last) ← key.names
    openTable ⟨inArray, path, last, span⟩ root
  | .entry key t => do
    let (path, last) ← key.names
    let (span, v) ← t.value
    return { d with here := ← d.here.insert .dotted path last span v }

end Draft

def parse (text : String) : Except Problem Members := do
  let d ← (← statements text).foldlM Draft.take {}
  d.finish

end ZMachine.Toml
