/-!
# Lines

The lines of a stream of bytes.  A line ends at a line feed, and a carriage return before it
belongs to the line break; the bytes after the last line feed are a line as well, unless there are
none.  A line whose bytes are not text is kept as `none`, because only its reader knows what is to
be done then.

    lines (join of each line ++ "\n") = the lines, if no line has a line feed or ends in a
                                        carriage return
-/

namespace ZMachine.Text

/-- The bytes of a line, given in reverse, without the carriage return of its line break. -/
def dropReturn : List UInt8 → List UInt8
  | 0x0D :: rest => rest
  | line => line

/-- The lines from here on, after the bytes of the current one in reverse. -/
def byteLinesFrom (current : List UInt8) : List UInt8 → List (List UInt8)
  | [] => if current.isEmpty then [] else [current.reverse]
  | 0x0A :: rest => (dropReturn current).reverse :: byteLinesFrom [] rest
  | b :: rest => byteLinesFrom (b :: current) rest

def byteLines (bytes : List UInt8) : List (List UInt8) :=
  byteLinesFrom [] bytes

def ofBytes? (bytes : List UInt8) : Option String :=
  String.fromUTF8? ⟨bytes.toArray⟩

def lines (bytes : List UInt8) : List (Option String) :=
  (byteLines bytes).map ofBytes?

/-- What stands up to the last line feed, which is included, and what stands after it. -/
def splitAfterBreak (chars : List Char) : List Char × List Char :=
  let (rest, whole) := chars.reverse.span (· ≠ '\n')
  (whole.reverse, rest.reverse)

end ZMachine.Text
