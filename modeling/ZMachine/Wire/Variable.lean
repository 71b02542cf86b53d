import ZMachine.Variable
import ZMachine.Json.Reader

/-!
# Variables on the wire

A variable is its number; where there may be none, `null` stands for it.
-/

namespace ZMachine.Variable

def toJson (v : Variable) : Json :=
  .byte v.number

def ofJson? (v : Json) : Option Variable :=
  v.uint8?.map .mk

def optionToJson : Option Variable → Json :=
  Json.option toJson

def optionOfJson? : Json → Option (Option Variable) :=
  Json.option? ofJson?

end ZMachine.Variable
