import ZMachine.Event
import ZMachine.Wire.Config
import ZMachine.Json.Parser
import ZMachine.Wire.Order

/-!
# Events on the wire

An event is an object whose member `code` names it, beside its fields and, if the host wants, new
settings in the member `env`.  Instead of its name its number may be given, counted from 0.  Unknown
members are passed over, but nothing outside the settings may be malformed.

    Envelope.ofJson? e.toJson = some e
-/

namespace ZMachine

/-! ## Keys -/

/-- The keys that carry nothing, by name. -/
def Key.named : List (String × Key) :=
  [("enter", enter), ("escape", escape), ("backspace", backspace), ("delete", delete),
    ("up", up), ("down", down), ("left", left), ("right", right)]

def Key.toJson : Key → Json
  | char c => .obj [("char", .str c.toString)]
  | function n => .obj [("function", .byte n)]
  | enter => .str "enter"
  | escape => .str "escape"
  | backspace => .str "backspace"
  | delete => .str "delete"
  | up => .str "up"
  | down => .str "down"
  | left => .str "left"
  | right => .str "right"

def Json.char? (v : Json) : Option Char :=
  match v.string?.map String.toList with
  | some [c] => some c
  | _ => none

/-- A key; inside an event an empty object may stand for no contents. -/
def Key.ofJson? (emptyObject : Bool) : Json → Option Key
  | .object [(some "char", v)] => v.char?.map char
  | .object [(some "function", v)] => v.uint8?.map function
  | v => (v.name? emptyObject).bind fun name => named.lookup name

/-! ## Fields -/

def StoreResult.toJson (r : StoreResult) : Json :=
  .obj [("storer", r.storer.toJson), ("value", .word r.value)]

def StoreResult.ofJson? (v : Json) : Option StoreResult := do
  let f ← v.record? ["storer", "value"] 2
  return ⟨← Json.need f "storer" Variable.ofJson?, ← Json.need f "value" Json.uint16?⟩

def LineInput.fields (i : LineInput) : List (String × Json) :=
  [("response", .str i.response), ("terminator", .byte i.terminator),
    ("buffer", .doubleWord i.buffer), ("parse", .doubleWord i.parse), ("len", .byte i.length),
    ("storer", i.storer.toJson)]

def LineInput.ofFields? (f : Json.Fields) : Option LineInput := do
  return {
    response := ← Json.need f "response" Json.string?
    terminator := ← Json.want f "terminator" 13 Json.uint8?
    buffer := ← Json.need f "buffer" Json.uint32?
    parse := ← Json.want f "parse" 0 Json.uint32?
    length := ← Json.need f "len" Json.uint8?
    storer := ← Json.need f "storer" Variable.ofJson? }

namespace Event

/-- The fields of an event after its name. -/
def fields : Event → List (String × Json)
  | load data => [("data", .list .byte data)]
  | restart => []
  | restore data storer =>
    [("data", .option (.list .byte) data), ("storer", Variable.optionToJson storer)]
  | read input => input.fields
  | char key storer => [("key", key.toJson), ("storer", storer.toJson)]
  | resume result => [("result", .option StoreResult.toJson result)]

def names : List String :=
  ["load", "restart", "restore", "read", "char", "resume"]

/-- The name of an event, given as such or by its number. -/
def name? : Json → Option String
  | .text s => s
  | .integer n => if 0 ≤ n then names[n.toNat]? else none
  | _ => none

def fieldNames (name : String) : List String :=
  match name with
  | "load" => ["data"]
  | "restore" => ["data", "storer"]
  | "read" => ["response", "terminator", "buffer", "parse", "len", "storer"]
  | "char" => ["key", "storer"]
  | "resume" => ["result"]
  | _ => []

def ofFields? (name : String) (f : Json.Fields) : Option Event := do
  match name with
  | "load" => return load (← Json.need f "data" (Json.list? Json.uint8?))
  | "restart" => return restart
  | "restore" =>
    return restore (← Json.want f "data" none (Json.option? (Json.list? Json.uint8?)))
      (← Json.want f "storer" none Variable.optionOfJson?)
  | "read" => return read (← LineInput.ofFields? f)
  | "char" =>
    return char (← Json.need f "key" (Key.ofJson? true)) (← Json.need f "storer" Variable.ofJson?)
  | "resume" => return resume (← Json.want f "result" none (Json.option? StoreResult.ofJson?))
  | _ => none

end Event

namespace Envelope

def toJson (e : Envelope) : Json :=
  let env := match e.env with
    | some p => [("env", p.toJson)]
    | none => []
  .obj (("code", .str e.event.name) :: (e.event.fields ++ env))

/-- Whether a member that is no settings can be read. -/
def memberReadable : Option String × Json → Bool
  | (name, v) => name == some "env" || v.readable (Json.maxDepth - 1)

def ofJson? : Json → Option Envelope
  | .object members => do
    guard (members.all memberReadable)
    let f ← Json.objectFields ["code", "env"] members
    let name ← Json.need f "code" Event.name?
    let f ← Json.objectFields (Event.fieldNames name) members
    let event ← Event.ofFields? name f
    let env ← Json.want f "env" none (Json.option? Patch.ofJson?)
    return { event, env }
  | _ => none

def ofText? (text : String) : Option Envelope :=
  (Json.parseText text).bind ofJson?

end Envelope
end ZMachine
