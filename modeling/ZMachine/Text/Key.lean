import ZMachine.Event
import ZMachine.Text.Zscii

/-!
# Codes of keys

The code a story is given for a key: arrows from 129, function keys from 133, and for a
character the code it has in text.  A key without a code counts as a question mark.
-/

namespace ZMachine

/-- The code of a key among the extra characters of a story. -/
def Key.code (extra : ExtraChars) : Key → UInt16
  | backspace | delete => 8
  | enter => Zscii.newline
  | escape => 27
  | up => 129
  | down => 130
  | left => 131
  | right => 132
  | function n => if 1 ≤ n ∧ n ≤ 12 then 132 + n.toUInt16 else Zscii.question.toUInt16
  | char c => (extra.ofChar? c).getD Zscii.question.toUInt16

/-- The code of a key.  The story's extra characters are looked up for a character only. -/
def keyCode (m : Memory) (h : Header) : Key → Except Fault UInt16
  | .char c => return Key.code (← ExtraChars.ofStory m h) (.char c)
  | key => return key.code .standard

end ZMachine
