import ZMachine.Numeral

/-!
# Variables

An instruction names a variable by one byte: 0 is the top of the value stack, 1 to 15 are the
locals of the running routine and 16 to 255 the globals of the story.
-/

namespace ZMachine

/-- A variable, by its number. -/
structure Variable where
  number : UInt8
deriving DecidableEq, Repr, Inhabited

namespace Variable

/-- The top of the value stack. -/
def stack : Variable := ⟨0⟩

/-- `sp`, a local counted from `L00` in decimal, or a global counted from `G00` in hexadecimal. -/
def name (v : Variable) : String :=
  let n := v.number.toNat
  if n = 0 then "sp"
  else if n < 16 then "L" ++ Numeral.decimal 2 (n - 1)
  else "G" ++ Numeral.hex 2 (n - 16)

end Variable
end ZMachine
