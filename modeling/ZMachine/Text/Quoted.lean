import ZMachine.Text.Quoted.Table
import ZMachine.Text.Ranges

/-!
# Quoted text

Text as messages show it: in quotes, so that its ends can be seen, with escapes for what could not
be read.

    quoted "a\tb" = "\"a\\tb\""
-/

namespace ZMachine.Text

def numberEscape (c : Char) : String :=
  "\\u\x7b" ++ .ofList (Nat.toDigits 16 c.toNat) ++ "\x7d"

def quotedChar (c : Char) : String :=
  match c with
  | '\x00' => "\\0"
  | '\t' => "\\t"
  | '\n' => "\\n"
  | '\r' => "\\r"
  | '\x22' => "\\\""
  | '\\' => "\\\\"
  | c =>
    if c.toNat < 0x20 ∨ (0x7F ≤ c.toNat ∧ inRanges numberedRanges c) then numberEscape c
    else c.toString

def quoted (text : String) : String :=
  text.toList.foldl (fun s c => s ++ quotedChar c) "\"" ++ "\""

end ZMachine.Text
