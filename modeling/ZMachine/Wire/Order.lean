import ZMachine.Order
import ZMachine.Wire.Variable

/-!
# Orders on the wire

An order is an object whose member `code` names it, followed by its fields.  An array of the name
and the fields is read as well.  All of an order is read, so nothing in it may be malformed.

    ofJson? o.toJson = some o
-/

namespace ZMachine

/-! ## Choices inside a record -/

/-- A name without contents: a string, or an object with one member that is `null` or, where
`emptyObject` says so, an object without members. -/
def Json.name? (emptyObject : Bool) : Json → Option String
  | .object [(name, .object [])] => if emptyObject then name else none
  | v => v.unitChoice?

def StreamTarget.name : StreamTarget → String
  | main => "main"
  | status => "status"

def StreamTarget.ofJson? (v : Json) : Option StreamTarget :=
  match v.name? true with
  | some "main" => some .main
  | some "status" => some .status
  | _ => none

namespace Order

/-! ## Writing -/

/-- The fields of an order after its name. -/
def fields : Order → List (String × Json)
  | stream target text style =>
    [("to", .str target.name), ("text", .str text), ("style", .word style)]
  | splitWindow lines => [("lines", .word lines)]
  | eraseWindow window => [("window", .integer window.toInt)]
  | setCursor row col => [("row", .word row), ("col", .word col)]
  | setColour foreground background =>
    [("foreground", .word foreground), ("background", .word background)]
  | read buffer parse length storer time routine =>
    [("buffer", .doubleWord buffer), ("parse", .doubleWord parse), ("len", .byte length),
      ("storer", storer.toJson), ("time", .word time), ("routine", .word routine)]
  | char storer time routine =>
    [("storer", storer.toJson), ("time", .word time), ("routine", .word routine)]
  | save data storer =>
    [("data", .list .byte data), ("storer", Variable.optionToJson storer)]
  | restore storer => [("storer", Variable.optionToJson storer)]
  | tick | restart | quit => []

def toJson (o : Order) : Json :=
  .obj (("code", .str o.code) :: o.fields)

/-! ## Reading -/

/-- The names of an order's fields, and how many of them an array must hold. -/
def shape (code : String) : Option (List String × Nat) :=
  match code with
  | "stream" => some (["to", "text", "style"], 2)
  | "split_window" => some (["lines"], 1)
  | "erase_window" => some (["window"], 1)
  | "set_cursor" => some (["row", "col"], 2)
  | "set_colour" => some (["foreground", "background"], 2)
  | "read" => some (["buffer", "parse", "len", "storer", "time", "routine"], 4)
  | "char" => some (["storer", "time", "routine"], 1)
  | "save" => some (["data", "storer"], 2)
  | "restore" => some (["storer"], 1)
  | "tick" | "restart" | "quit" => some ([], 0)
  | _ => none

def ofFields? (code : String) (f : Json.Fields) : Option Order := do
  let word (name : String) := Json.need f name Json.uint16?
  let extra (name : String) := Json.want f name 0 Json.uint16?
  let target := Json.want f "storer" none Variable.optionOfJson?
  match code with
  | "stream" =>
    return stream (← Json.need f "to" StreamTarget.ofJson?) (← Json.need f "text" Json.string?)
      (← extra "style")
  | "split_window" => return splitWindow (← word "lines")
  | "erase_window" => return eraseWindow (← Json.need f "window" Json.int16?)
  | "set_cursor" => return setCursor (← word "row") (← word "col")
  | "set_colour" => return setColour (← word "foreground") (← word "background")
  | "read" =>
    return read (← Json.need f "buffer" Json.uint32?) (← Json.need f "parse" Json.uint32?)
      (← Json.need f "len" Json.uint8?) (← Json.need f "storer" Variable.ofJson?)
      (← extra "time") (← extra "routine")
  | "char" =>
    return char (← Json.need f "storer" Variable.ofJson?) (← extra "time") (← extra "routine")
  | "save" => return save (← Json.need f "data" (Json.list? Json.uint8?)) (← target)
  | "restore" => return restore (← target)
  | "tick" => return tick
  | "restart" => return restart
  | "quit" => return quit
  | _ => none

def ofJson? (v : Json) : Option Order := do
  guard (v.readable Json.maxDepth)
  match v with
  | .object members =>
    let code ← Json.need (← Json.objectFields ["code"] members) "code" Json.string?
    let (known, required) ← shape code
    ofFields? code (← v.record? known required)
  | .array (first :: rest) =>
    let code ← first.string?
    let (known, required) ← shape code
    ofFields? code (← (Json.array rest).record? known required)
  | _ => none

end Order
end ZMachine
