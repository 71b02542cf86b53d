import ZMachine.Toml.Token

/-!
# The tree of a document

What the tokens of a document make up, before keys and values are understood: a list of statements,
each of which opens a table or gives a value to a key.

Where a part of a key or a value is missing, an empty piece stands for it; it is refused when it is
to be understood.  For the value of the last member of a table in braces, it is one in apostrophes.
-/

namespace ZMachine.Toml

/-- A part of a key, or a simple value, as it is spelled. -/
structure Word where
  spelling : Spelling
  piece : Piece
deriving DecidableEq, Repr

/-- A key: parts with dots between them. -/
abbrev Key := List Word

/-- A value as it is written. -/
inductive Tree where
  | simple (w : Word)
  | array (span : Span) (items : List Tree)
  /-- A table in braces. -/
  | table (span : Span) (members : List (Key × Tree))

inductive Statement where
  /-- Opens a table, or another table of an array of them. -/
  | header (inArray : Bool) (span : Span) (key : Key)
  | entry (key : Key) (value : Tree)

/-! ## Gaps -/

/-- Characters that are no controls, apart from the tab. -/
def isPlain (c : Char) : Bool :=
  c == '\t' || (0x20 ≤ c.toNat && c.toNat ≠ 0x7F)

/-- The first character of a text that fails a test, with the byte it starts at. -/
def firstFailing? (test : Char → Bool) (place : Nat) : List Char → Option (Nat × Char)
  | [] => none
  | c :: rest => if test c then firstFailing? test (place + c.utf8Size) rest else some (place, c)

/-- A carriage return before the place must be followed by a line feed. -/
def loneReturn (place : Nat) : Problem :=
  .wanting ⟨place, place⟩ "carriage return must be followed by newline" ["newline"]

/-- Checks a token that stands between others. -/
def checkGap (t : Token) : Except Problem Unit :=
  match t.kind with
  | .comment =>
    match firstFailing? isPlain t.piece.start t.piece.chars with
    | some (place, _) =>
      .error (.wanting ⟨place, place⟩ "invalid comment character" ["printable characters"])
    | none => .ok ()
  | .lineBreak => if t.piece.chars = ['\r'] then .error (loneReturn t.piece.stop) else .ok ()
  | _ => .ok ()

def skipBlank : List Token → List Token
  | ⟨.blank, _⟩ :: rest => rest
  | ts => ts

/-- The end of a line, before which there may be a comment. -/
def endLine : List Token → Except Problem (List Token)
  | [] => .ok []
  | t :: rest =>
    match t.kind with
    | .blank => endLine rest
    | .comment => do
      checkGap t
      endLine rest
    | .lineBreak => do
      checkGap t
      return rest
    | .done => .ok [t]
    | _ => .error (.wanting t.piece.span.before "unexpected key or value" ["newline", "`#`"])

/-- What follows the end of a line, whatever stands before it. -/
def dropLine : List Token → Except Problem (List Token)
  | [] => .ok []
  | t :: rest =>
    match t.kind with
    | .comment => do
      checkGap t
      endLine rest
    | .lineBreak => do
      checkGap t
      return rest
    | .done => .ok [t]
    | _ => dropLine rest

/-! ## Keys -/

/-- The parts of a key from one on, after those so far in reverse.  Answers also whether the last
part is there. -/
def keyFrom (seen : Key) : List Token → Key × Bool × List Token
  | ⟨.blank, _⟩ :: rest => keyFrom seen rest
  | ⟨.dot, p⟩ :: rest => keyFrom (⟨.bare, p.nothing⟩ :: seen) rest
  | ⟨.word s, p⟩ :: ⟨.dot, _⟩ :: rest => keyFrom (⟨s, p⟩ :: seen) rest
  | ⟨.word s, p⟩ :: ⟨.blank, _⟩ :: ⟨.dot, _⟩ :: rest => keyFrom (⟨s, p⟩ :: seen) rest
  | ⟨.word s, p⟩ :: rest => ((⟨s, p⟩ :: seen).reverse, true, skipBlank rest)
  | t :: rest => ((⟨.bare, t.piece.nothing⟩ :: seen).reverse, false, t :: rest)
  | [] => (seen.reverse, false, [])

/-! ## Values -/

/-- A word without quotes, with the dots and words behind it.  Words after a blank belong to it too:
they may be a date and a time. -/
def joined (p : Piece) : List Token → Piece × List Token
  | ⟨.dot, next⟩ :: rest => joined (p.append next) rest
  | ⟨.word .bare, next⟩ :: rest => joined (p.append next) rest
  | ⟨.blank, blank⟩ :: ⟨.word .bare, next⟩ :: rest => joined ((p.append blank).append next) rest
  | ts => (p, ts)

/-- A simple value that starts with a token. -/
def simple (t : Token) (rest : List Token) : Tree × List Token :=
  match t.kind with
  | .word .bare | .dot =>
    let (p, rest) := joined t.piece rest
    (.simple ⟨.bare, p⟩, rest)
  | .word s => (.simple ⟨s, t.piece⟩, rest)
  | _ => (.simple ⟨.bare, t.piece.nothing⟩, t :: rest)

/-- How deep arrays and tables in braces may nest, and how many parts a key may have. -/
def maxDepth : Nat := 80

/-- Opens an array or a table inside of `depth` others. -/
def checkDepth (depth : Nat) (opened : Piece) : Except Problem Unit :=
  if depth < maxDepth then .ok ()
  else .error (.found opened.span "cannot recurse further; max recursion depth met")

/-- What comes next in a table in braces. -/
inductive Wanted where
  | key
  | equals (key : Key)
  | value (key : Key)
  | comma

/-- What is expected next, in the words of a problem. -/
def Wanted.words : Wanted → List String
  | key => ["key"]
  | equals _ => ["`=`"]
  | value _ => ["value"]
  | comma => ["`,`"]

/-- The problem of a bracket, a brace or a word that is not wanted in a table in braces. -/
def Wanted.refuse (wanted : Wanted) (t : Token) : Problem :=
  .wanting t.piece.span.before
    (if t.kind = .closeBracket then "invalid inline table element"
      else match wanted with
        | equals _ => "missing assignment between key-value pairs"
        | comma =>
          if t.kind.isBracket then "missing key for inline table element"
          else "missing comma between key-value pairs"
        | _ => "missing key for inline table element")
    wanted.words

mutual

def tree : (fuel : Nat) → (depth : Nat) → List Token → Except Problem (Tree × List Token)
  | fuel + 1, depth, t :: rest =>
    match t.kind with
    | .openBracket => do
      checkDepth depth t.piece
      items fuel (depth + 1) t.piece [] true rest
    | .openBrace => do
      checkDepth depth t.piece
      members fuel (depth + 1) t.piece [] .key rest
    | .equals => .error (.wanting t.piece.span "extra `=`" [])
    | .closeBracket =>
      .error (.wanting t.piece.span.before "missing array opening" ["`[`"])
    | .closeBrace =>
      .error (.wanting t.piece.span.before "missing inline table opening" ["`\x7b`"])
    | _ => .ok (simple t rest)
  | _, _, _ => .error ⟨"missing value", none⟩

/-- The rest of an array after the items so far in reverse; `wanted` tells whether an item or a
comma comes next. -/
def items : (fuel : Nat) → (depth : Nat) → (opened : Piece) → (seen : List Tree) →
    (wanted : Bool) → List Token → Except Problem (Tree × List Token)
  | fuel + 1, depth, opened, seen, wanted, t :: rest =>
    match t.kind with
    | .blank | .comment | .lineBreak => do
      checkGap t
      items fuel depth opened seen wanted rest
    | .closeBracket => .ok (.array (opened.span.through t.piece.span) seen.reverse, rest)
    | .comma =>
      if wanted then .error (.wanting t.piece.span.before "extra comma in array" ["value"])
      else items fuel depth opened seen true rest
    | .done => .error (.wanting t.piece.span "unclosed array" ["`]`"])
    | .equals => .error (.wanting t.piece.span.before "unexpected `=` in array" ["value", "`]`"])
    | .openBracket | .openBrace | .closeBrace | .dot | .word _ =>
      if wanted then do
        let (item, rest) ← tree fuel depth (t :: rest)
        items fuel depth opened (item :: seen) false rest
      else .error (.wanting t.piece.span.before "missing comma between array elements" ["`,`"])
  | _, _, opened, _, _, _ => .error (.wanting opened.span "unclosed array" ["`]`"])

/-- The rest of a table in braces after the members so far in reverse. -/
def members : (fuel : Nat) → (depth : Nat) → (opened : Piece) → (seen : List (Key × Tree)) →
    Wanted → List Token → Except Problem (Tree × List Token)
  | fuel + 1, depth, opened, seen, wanted, t :: rest =>
    match t.kind with
    | .blank | .comment | .lineBreak => do
      checkGap t
      members fuel depth opened seen wanted rest
    | .closeBrace =>
      let seen := match wanted with
        | .key | .comma => seen
        | .equals key | .value key => (key, .simple ⟨.literal, t.piece.nothing⟩) :: seen
      .ok (.table (opened.span.through t.piece.span) seen.reverse, rest)
    | .comma =>
      match wanted with
      | .comma => members fuel depth opened seen .key rest
      | wanted =>
        .error (.wanting t.piece.span.before "extra comma in inline table" wanted.words)
    | .equals =>
      match wanted with
      | .key => members fuel depth opened seen (.value [⟨.bare, t.piece.nothing⟩]) rest
      | .equals key => members fuel depth opened seen (.value key) rest
      | wanted =>
        .error (.wanting t.piece.span.before "extra assignment between key-value pairs"
          wanted.words)
    | .done => .error (.wanting t.piece.span "unclosed inline table" ["`\x7d`"])
    | .openBracket | .openBrace | .closeBracket | .dot | .word _ =>
      match wanted with
      | .value key => do
        let (v, rest) ← tree fuel depth (t :: rest)
        members fuel depth opened ((key, v) :: seen) .comma rest
      | .key =>
        if t.kind.isBracket then .error (wanted.refuse t)
        else
          let (key, _, rest) := keyFrom [] (t :: rest)
          members fuel depth opened seen (.equals key) rest
      | wanted => .error (wanted.refuse t)
  | _, _, opened, _, _, _ => .error (.wanting opened.span "unclosed inline table" ["`\x7d`"])

end

/-! ## Statements -/

/-- A value after an equals sign. -/
def assigned (fuel : Nat) (key : Key) (ts : List Token) :
    Except Problem (Statement × List Token) := do
  let (v, rest) ← tree fuel 0 (skipBlank ts)
  return (.entry key v, ← endLine rest)

def entry (fuel : Nat) (ts : List Token) : Except Problem (Statement × List Token) :=
  match keyFrom [] ts with
  | (key, _, ⟨.equals, _⟩ :: rest) => assigned fuel key rest
  | (_, _, t :: _) => .error (.wanting t.piece.span.before "key with no value" ["`=`"])
  | (key, _, []) => assigned fuel key []

/-- The place behind the last part of a key, for which `opened` stands if there is none. -/
def keyEnd (opened : Span) (key : Key) : Span :=
  (key.getLast?.elim opened fun w => w.piece.span).after

/-- A header whose key lacks its last part; what is left of its line is passed over. -/
def brokenHeader (inArray : Bool) (opened : Piece) (key : Key) (ts : List Token) :
    Except Problem (Statement × List Token) := do
  return (.header inArray opened.span key, ← dropLine ts)

def tableHeader (opened : Piece) (ts : List Token) :
    Except Problem (Statement × List Token) :=
  match keyFrom [] ts with
  | (key, _, ⟨.closeBracket, p⟩ :: rest) => do
    return (.header false (opened.span.through p.span) key, ← endLine rest)
  | (key, true, _) => .error (.wanting (keyEnd opened.span key) "unclosed table" ["`]`"])
  | (key, false, rest) => brokenHeader false opened key rest

/-- The header of another table of an array. -/
def arrayHeader (opened : Piece) (ts : List Token) :
    Except Problem (Statement × List Token) :=
  match keyFrom [] ts with
  | (key, _, ⟨.closeBracket, _⟩ :: ⟨.closeBracket, p⟩ :: rest) => do
    return (.header true (opened.span.through p.span) key, ← endLine rest)
  | (_, _, ⟨.closeBracket, p⟩ :: _) =>
    .error (.wanting p.span.after "unclosed array table" ["`]`"])
  | (key, true, _) => .error (.wanting (keyEnd opened.span key) "unclosed array table" ["`]]`"])
  | (key, false, rest) => brokenHeader true opened key rest

def statement (fuel : Nat) (t : Token) (rest : List Token) :
    Except Problem (Statement × List Token) :=
  match t.kind with
  | .openBracket => match rest with
    | ⟨.openBracket, _⟩ :: rest => arrayHeader t.piece rest
    | rest => tableHeader t.piece rest
  | .closeBracket => .error (.wanting t.piece.span.before "missing table open" ["`[`"])
  | .comma | .openBrace | .closeBrace =>
    .error (.wanting t.piece.span.before "invalid key-value pair" ["key"])
  | _ => entry fuel (t :: rest)

/-- The statements of a document from a token on, after those so far in reverse. -/
def statementsFrom : (fuel : Nat) → (seen : List Statement) → List Token →
    Except Problem (List Statement)
  | fuel + 1, seen, t :: rest =>
    match t.kind with
    | .done => .ok seen.reverse
    | .blank | .comment | .lineBreak => do
      checkGap t
      statementsFrom fuel seen rest
    | _ => do
      let (s, rest) ← statement fuel t rest
      statementsFrom fuel (s :: seen) rest
  | _, seen, _ => .ok seen.reverse

/-- The statements of a document.  Each step takes a token. -/
def statements (text : String) : Except Problem (List Statement) :=
  let ts := tokens text
  statementsFrom (ts.length + 1) [] ts

end ZMachine.Toml
