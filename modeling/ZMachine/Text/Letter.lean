import ZMachine.Text.Letter.Table
import ZMachine.Text.Ranges

/-!
# Letters and numerals

What counts as a letter or a numeral in any script.  The two do not exclude each other: a Roman
numeral is both.
-/

namespace ZMachine.Text

/-- Whether a character is a letter or used like one. -/
def isAlphabetic (c : Char) : Bool :=
  c.isAlpha || (0x80 ≤ c.toNat && inRanges alphabeticRanges c)

/-- Whether a character is a digit or another numeral. -/
def isNumeric (c : Char) : Bool :=
  c.isDigit || (0x80 ≤ c.toNat && inRanges numericRanges c)

def isAlphanumeric (c : Char) : Bool :=
  isAlphabetic c || isNumeric c

end ZMachine.Text
