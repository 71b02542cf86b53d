/-!
# White space

The characters that are white space wherever text is trimmed: the tab, the line breaks and the
spaces of every width.
-/

namespace ZMachine.Text

/-- Whether a character is white space. -/
def isBlank (c : Char) : Bool :=
  let n := c.toNat
  (0x09 ≤ n && n ≤ 0x0D) || n == 0x20 || n == 0x85 || n == 0xA0 || n == 0x1680
    || (0x2000 ≤ n && n ≤ 0x200A) || n == 0x2028 || n == 0x2029 || n == 0x202F
    || n == 0x205F || n == 0x3000

/-- Without the white space at the start. -/
def trimStart (chars : List Char) : List Char :=
  chars.dropWhile isBlank

/-- Without the white space at the end. -/
def trimEnd (chars : List Char) : List Char :=
  (chars.reverse.dropWhile isBlank).reverse

/-- Without the white space at both ends. -/
def trim (text : String) : String :=
  .ofList (trimEnd (trimStart text.toList))

/-- Whether a text has nothing but white space. -/
def isBlankText (text : String) : Bool :=
  text.toList.all isBlank

end ZMachine.Text
