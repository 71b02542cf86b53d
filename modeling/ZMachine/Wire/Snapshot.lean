import ZMachine.Machine
import ZMachine.Json.Parser
import ZMachine.Json.Printer
import ZMachine.Wire.Variable

/-!
# Stack and streams on the wire

The stack and the output streams are records of numbers.  Frames and tables are listed from the
outermost to the innermost.

    Stack.ofJson? s.toJson = some s        OutputStreams.ofJson? s.toJson = some s
-/

namespace ZMachine

def Frame.toJson (f : Frame) : Json :=
  .obj [("return_pc", .doubleWord f.returnPc), ("storer", Variable.optionToJson f.storer),
    ("locals", .list .word f.locals), ("arg_count", .byte f.argCount),
    ("stack_base", .nat f.stackBase)]

def Frame.ofJson? (v : Json) : Option Frame := do
  let f ← v.record? ["return_pc", "storer", "locals", "arg_count", "stack_base"] 5
  return {
    returnPc := ← Json.need f "return_pc" Json.uint32?
    storer := ← Json.want f "storer" none Variable.optionOfJson?
    locals := ← Json.need f "locals" (Json.list? Json.uint16?)
    argCount := ← Json.need f "arg_count" Json.uint8?
    stackBase := ← Json.need f "stack_base" Json.size? }

def Stack.toJson (s : Stack) : Json :=
  .obj [("stack", .list .word s.values.toList), ("frames", .list Frame.toJson s.frames.reverse)]

def Stack.ofJson? (v : Json) : Option Stack := do
  let f ← v.record? ["stack", "frames"] 2
  let values ← Json.need f "stack" (Json.list? Json.uint16?)
  let frames ← Json.need f "frames" (Json.list? Frame.ofJson?)
  return { values := values.toArray, frames := frames.reverse }

def TableStream.toJson (t : TableStream) : Json :=
  .obj [("addr", .doubleWord t.address), ("written", .word t.written)]

def TableStream.ofJson? (v : Json) : Option TableStream := do
  let f ← v.record? ["addr", "written"] 2
  return ⟨← Json.need f "addr" Json.uint32?, ← Json.need f "written" Json.uint16?⟩

def OutputStreams.toJson (s : OutputStreams) : Json :=
  .obj [("screen", .bool s.screen), ("tables", .list TableStream.toJson s.tables.reverse)]

def OutputStreams.ofJson? (v : Json) : Option OutputStreams := do
  let f ← v.record? ["screen", "tables"] 2
  let screen ← Json.need f "screen" Json.bool?
  let tables ← Json.need f "tables" (Json.list? TableStream.ofJson?)
  return { screen, tables := tables.reverse }

/-- The bytes of a value without white space. -/
def Json.compactBytes (v : Json) : List UInt8 :=
  v.compact.toUTF8.toList

end ZMachine
