/-!
# Extents in bytes

How many bytes characters take, and how to cut a text at a number of bytes.  A cut may fall within a
character; then there is no text on either side of it.

    byteLength (a ++ b) = byteLength a + byteLength b
    dropBytes? (byteLength a) (a ++ b) = some b
-/

namespace ZMachine.Text

def byteLength (chars : List Char) : Nat :=
  chars.foldl (fun n c => n + c.utf8Size) 0

/-- What follows a number of bytes; `none` when they end within a character or there are fewer. -/
def dropBytes? : (bytes : Nat) → List Char → Option (List Char)
  | 0, chars => some chars
  | _, [] => none
  | bytes, c :: rest => if c.utf8Size ≤ bytes then dropBytes? (bytes - c.utf8Size) rest else none

/-- As many characters from the start as fit into a number of bytes. -/
def takeBytes : (bytes : Nat) → List Char → List Char
  | _, [] => []
  | bytes, c :: rest =>
    if c.utf8Size ≤ bytes then c :: takeBytes (bytes - c.utf8Size) rest else []

/-- A number of bytes from the start; `none` when they end within a character or there are fewer. -/
def takeBytes? (bytes : Nat) (chars : List Char) : Option (List Char) :=
  let taken := takeBytes bytes chars
  if byteLength taken = bytes then some taken else none

end ZMachine.Text
