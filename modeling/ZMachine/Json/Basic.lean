/-!
# JSON values

A value as a reader of JSON text sees it.  Two things that a text may hold are kept although no
value of the program needs them, because what is not needed must not be refused: numbers that are
not integers, and strings whose escapes or bytes do not make up characters.

Members of an object keep their order, and a name may occur more than once.
-/

namespace ZMachine

/-- A JSON value. -/
inductive Json where
  | null
  | bool (b : Bool)
  /-- A number of 64 bits written without fraction and exponent, other than "-0". -/
  | integer (n : Int)
  /-- Any other number; `finite` tells whether it is within the range of a double. -/
  | real (finite : Bool)
  /-- A string; `none` when what stands between the quotes does not make up characters. -/
  | text (content : Option String)
  | array (items : List Json)
  | object (members : List (Option String × Json))
deriving Inhabited

namespace Json

def str (s : String) : Json := .text (some s)

def nat (n : Nat) : Json := .integer n

def obj (members : List (String × Json)) : Json :=
  .object (members.map fun (name, value) => (some name, value))

/-- `null`, or the value written by `write`. -/
def option {α : Type} (write : α → Json) : Option α → Json
  | some a => write a
  | none => .null

/-- An array of the values written by `write`. -/
def list {α : Type} (write : α → Json) (items : List α) : Json :=
  .array (items.map write)

def byte (b : UInt8) : Json := .nat b.toNat

def word (w : UInt16) : Json := .nat w.toNat

def doubleWord (n : UInt32) : Json := .nat n.toNat

end Json
end ZMachine
