import ZMachine.Json.Basic
import ZMachine.Numeral

/-!
# Writing JSON

`compact` writes a value without white space; `pretty` puts every item and member on a line of its
own, indented by two spaces a level, and writes what is empty as bare brackets.  In strings the
quote, the backslash and the control characters below the space are escaped, the usual five of
those by a letter and the others by four hexadecimal digits; everything else stands for itself.
-/

namespace ZMachine.Json

/-- A character as it stands in a string. -/
def escapeChar (c : Char) : String :=
  match c with
  | '"' => "\\\""
  | '\\' => "\\\\"
  | '\n' => "\\n"
  | '\r' => "\\r"
  | '\t' => "\\t"
  | '\x08' => "\\b"
  | '\x0c' => "\\f"
  | c => if c.toNat < 32 then "\\u" ++ Numeral.hex 4 c.toNat else c.toString

def quoted (s : String) : String :=
  (s.toList.foldl (fun out c => out ++ escapeChar c) "\"").push '"'

/-- A value that has no parts. -/
def atom : Json → String
  | null => "null"
  | bool b => if b then "true" else "false"
  | integer n => toString n
  | text (some s) => quoted s
  | _ => "null"

/-! ## Without white space -/

mutual

/-- Writes a value behind the text so far. -/
def compactTo (out : String) : Json → String
  | array items => (compactItems (out.push '[') true items).push ']'
  | object members => (compactMembers (out.push '\x7b') true members).push '\x7d'
  | value => out ++ value.atom

/-- Writes items, with commas between them. -/
def compactItems (out : String) (first : Bool) : List Json → String
  | [] => out
  | item :: rest => compactItems (compactTo (if first then out else out.push ',') item) false rest

/-- Writes members, with commas between them. -/
def compactMembers (out : String) (first : Bool) : List (Option String × Json) → String
  | [] => out
  | (name, value) :: rest =>
    let out := (if first then out else out.push ',') ++ quoted (name.getD "")
    compactMembers (compactTo (out.push ':') value) false rest

end

/-- A value without white space. -/
def compact (value : Json) : String :=
  compactTo "" value

/-! ## On many lines -/

def newLine (level : Nat) : String :=
  "\n" ++ String.ofList (List.replicate (2 * level) ' ')

mutual

/-- Writes a value whose parts are at a level. -/
def prettyTo (level : Nat) (out : String) : Json → String
  | array [] => out ++ "[]"
  | object [] => out ++ "\x7b\x7d"
  | array (item :: items) =>
    prettyItems level (out.push '[') true (item :: items) ++ newLine (level - 1) ++ "]"
  | object (member :: members) =>
    prettyMembers level (out.push '\x7b') true (member :: members) ++ newLine (level - 1) ++ "\x7d"
  | value => out ++ value.atom

def prettyItems (level : Nat) (out : String) (first : Bool) : List Json → String
  | [] => out
  | item :: rest =>
    let out := (if first then out else out.push ',') ++ newLine level
    prettyItems level (prettyTo (level + 1) out item) false rest

def prettyMembers (level : Nat) (out : String) (first : Bool) :
    List (Option String × Json) → String
  | [] => out
  | (name, value) :: rest =>
    let out := (if first then out else out.push ',') ++ newLine level ++ quoted (name.getD "")
    prettyMembers level (prettyTo (level + 1) (out ++ ": ") value) false rest

end

/-- A value on many lines. -/
def pretty (value : Json) : String :=
  prettyTo 1 "" value

end ZMachine.Json
