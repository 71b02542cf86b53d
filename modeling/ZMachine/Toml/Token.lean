import ZMachine.Toml.Problem

/-!
# Tokens

The first division of a document.  Every character but a byte order mark at the start belongs to
exactly one token, and nothing is refused here: a string that is never closed, for instance, ends
with its line or with the document.
-/

namespace ZMachine.Toml

/-- Some characters of a document and the byte they start at. -/
structure Piece where
  start : Nat
  chars : List Char
deriving DecidableEq, Repr, Inhabited

namespace Piece

def stop (p : Piece) : Nat :=
  p.start + Text.byteLength p.chars

def span (p : Piece) : Span :=
  ⟨p.start, p.stop⟩

/-- A piece together with one that follows it at once. -/
def append (p next : Piece) : Piece :=
  ⟨p.start, p.chars ++ next.chars⟩

/-- Nothing, in front of a piece. -/
def nothing (p : Piece) : Piece :=
  ⟨p.start, []⟩

end Piece

/-- How a key or a value is spelled. -/
inductive Spelling where
  /-- Without quotes. -/
  | bare
  /-- In quotes. -/
  | basic
  /-- In three quotes, over several lines. -/
  | basicLines
  /-- In apostrophes. -/
  | literal
  /-- In three apostrophes, over several lines. -/
  | literalLines
deriving DecidableEq, Repr

inductive TokenKind where
  | dot
  | equals
  | comma
  | openBracket
  | closeBracket
  | openBrace
  | closeBrace
  | blank
  | comment
  | lineBreak
  | word (spelling : Spelling)
  /-- The end of the document. -/
  | done
deriving DecidableEq, Repr

structure Token where
  kind : TokenKind
  piece : Piece
deriving DecidableEq, Repr

/-- Whether this opens or closes an array, or opens a table in braces. -/
def TokenKind.isBracket (k : TokenKind) : Bool :=
  k = .openBracket || k = .closeBracket || k = .openBrace

/-- Whether this may stand between any two others. -/
def TokenKind.isGap (k : TokenKind) : Bool :=
  k = .blank || k = .comment || k = .lineBreak

/-! ## Characters -/

/-- White space within a line. -/
def isSpace (c : Char) : Bool :=
  c == ' ' || c == '\t'

/-- The characters that end a word without quotes.  Quotes do not, so that one that was forgotten
at the start of a word can be told. -/
def endsWord (c : Char) : Bool :=
  ".=,[]{} \t#\r\n".toList.contains c

/-! ## Strings -/

/-- The rest of a string in quotes, after the characters of it so far in reverse, and what follows
it. -/
def restOfBasic (seen : List Char) : List Char → List Char × List Char
  | '\x22' :: rest => (('\x22' :: seen).reverse, rest)
  | '\n' :: rest => (seen.reverse, '\n' :: rest)
  | '\\' :: '\\' :: rest => restOfBasic ('\\' :: '\\' :: seen) rest
  | '\\' :: '\x22' :: rest => restOfBasic ('\x22' :: '\\' :: seen) rest
  | c :: rest => restOfBasic (c :: seen) rest
  | [] => (seen.reverse, [])

/-- The rest of a string in apostrophes. -/
def restOfLiteral (seen : List Char) : List Char → List Char × List Char
  | '\x27' :: rest => (('\x27' :: seen).reverse, rest)
  | '\n' :: rest => (seen.reverse, '\n' :: rest)
  | c :: rest => restOfLiteral (c :: seen) rest
  | [] => (seen.reverse, [])

/-- The end of a string in three marks, which may have two more of them. -/
def lastMarks (mark : Char) (seen rest : List Char) : List Char × List Char :=
  let more := (rest.take 2).takeWhile (· = mark)
  (seen.reverse ++ more, rest.drop more.length)

/-- The rest of a string in three quotes. -/
def restOfBasicLines (seen : List Char) : List Char → List Char × List Char
  | '\x22' :: '\x22' :: '\x22' :: rest =>
    lastMarks '\x22' ('\x22' :: '\x22' :: '\x22' :: seen) rest
  | '\\' :: '\\' :: rest => restOfBasicLines ('\\' :: '\\' :: seen) rest
  | '\\' :: '\x22' :: rest => restOfBasicLines ('\x22' :: '\\' :: seen) rest
  | c :: rest => restOfBasicLines (c :: seen) rest
  | [] => (seen.reverse, [])

/-- The rest of a string in three apostrophes. -/
def restOfLiteralLines (seen : List Char) : List Char → List Char × List Char
  | '\x27' :: '\x27' :: '\x27' :: rest =>
    lastMarks '\x27' ('\x27' :: '\x27' :: '\x27' :: seen) rest
  | c :: rest => restOfLiteralLines (c :: seen) rest
  | [] => (seen.reverse, [])

/-! ## Tokens -/

/-- The kind of a token, its characters and what follows it. -/
def lexeme (c : Char) (rest : List Char) : TokenKind × List Char × List Char :=
  match c, rest with
  | '.', _ => (.dot, [c], rest)
  | '=', _ => (.equals, [c], rest)
  | ',', _ => (.comma, [c], rest)
  | '[', _ => (.openBracket, [c], rest)
  | ']', _ => (.closeBracket, [c], rest)
  | '\x7b', _ => (.openBrace, [c], rest)
  | '\x7d', _ => (.closeBrace, [c], rest)
  | '\n', _ => (.lineBreak, [c], rest)
  | '\r', '\n' :: rest => (.lineBreak, ['\r', '\n'], rest)
  | '\r', _ => (.lineBreak, [c], rest)
  | '#', _ => (.comment, (c :: rest).span fun c => c ≠ '\r' ∧ c ≠ '\n')
  | '\x22', '\x22' :: '\x22' :: rest =>
    (.word .basicLines, restOfBasicLines ['\x22', '\x22', '\x22'] rest)
  | '\x22', _ => (.word .basic, restOfBasic [c] rest)
  | '\x27', '\x27' :: '\x27' :: rest =>
    (.word .literalLines, restOfLiteralLines ['\x27', '\x27', '\x27'] rest)
  | '\x27', _ => (.word .literal, restOfLiteral [c] rest)
  | _, _ =>
    if isSpace c then (.blank, (c :: rest).span isSpace)
    else (.word .bare, (c :: rest).span (!endsWord ·))

/-- The tokens of the rest of a document, which starts at a place.  `behind` is the place behind
the last token that is no gap, and `ending` the one where the document would end here. -/
def tokensFrom : (fuel : Nat) → (place behind ending : Nat) → List Char → List Token
  | fuel + 1, place, behind, _, c :: rest =>
    let (kind, chars, rest) := lexeme c rest
    let piece : Piece := ⟨place, chars⟩
    let stop := piece.stop
    let behind := if kind.isGap then behind else stop
    ⟨kind, piece⟩ :: tokensFrom fuel stop behind (if kind = .comment then behind else stop) rest
  | _, _, _, ending, _ => [⟨.done, ⟨ending, []⟩⟩]

/-- The tokens of a document.  Each has at least one character, but for the last one.  That one
stands at the end of the document or, if it ends with a comment, behind what the comment follows. -/
def tokens (text : String) : List Token :=
  match text.toList with
  | '\ufeff' :: rest => tokensFrom rest.length '\ufeff'.utf8Size 0 '\ufeff'.utf8Size rest
  | chars => tokensFrom chars.length 0 0 0 chars

end ZMachine.Toml
