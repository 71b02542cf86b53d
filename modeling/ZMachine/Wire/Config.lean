import ZMachine.Config
import ZMachine.Json.Reader

/-!
# Settings on the wire

Settings are a record.  In full settings a field that is not written has its default; in a patch
it is unset, and so is one written as `null`.
-/

namespace ZMachine

/-- The names of the settings, in order. -/
def Config.fieldNames : List String :=
  ["width", "timed", "security_override", "undo_depth", "time_slice_ms"]

def Config.toJson (c : Config) : Json :=
  .obj [("width", .byte c.width), ("timed", .bool c.timed),
    ("security_override", .bool c.securityOverride), ("undo_depth", .nat c.undoDepth),
    ("time_slice_ms", .nat c.timeSliceMs)]

def Config.ofJson? (v : Json) : Option Config := do
  let fields ← v.record? fieldNames 0
  let standard : Config := {}
  return {
    width := ← Json.want fields "width" standard.width Json.uint8?
    timed := ← Json.want fields "timed" standard.timed Json.bool?
    securityOverride :=
      ← Json.want fields "security_override" standard.securityOverride Json.bool?
    undoDepth := ← Json.want fields "undo_depth" standard.undoDepth Json.size?
    timeSliceMs := ← Json.want fields "time_slice_ms" standard.timeSliceMs Json.size? }

def Patch.toJson (p : Patch) : Json :=
  .obj [("width", .option .byte p.width), ("timed", .option .bool p.timed),
    ("security_override", .option .bool p.securityOverride),
    ("undo_depth", .option .nat p.undoDepth), ("time_slice_ms", .option .nat p.timeSliceMs)]

def Patch.ofJson? (v : Json) : Option Patch := do
  let fields ← v.record? Config.fieldNames 0
  return {
    width := ← Json.want fields "width" none (Json.option? Json.uint8?)
    timed := ← Json.want fields "timed" none (Json.option? Json.bool?)
    securityOverride := ← Json.want fields "security_override" none (Json.option? Json.bool?)
    undoDepth := ← Json.want fields "undo_depth" none (Json.option? Json.size?)
    timeSliceMs := ← Json.want fields "time_slice_ms" none (Json.option? Json.size?) }

end ZMachine
