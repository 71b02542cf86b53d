import ZMachine.Header
import ZMachine.Json.Basic

/-!
# The header on the wire

The header as a record of numbers, for people who want to look at a story; the serial number is a
list of six bytes.
-/

namespace ZMachine.Header

def toJson (h : Header) : Json :=
  .obj [("version", .byte h.version), ("release", .word h.release),
    ("serial", .list .byte h.serial.toList), ("checksum", .word h.checksum),
    ("file_length", .nat h.fileLength), ("high_memory", .nat h.highMemory),
    ("initial_pc", .doubleWord h.initialPc), ("dictionary", .nat h.dictionary),
    ("property_defaults", .nat h.propertyDefaults), ("objects", .nat h.objects),
    ("globals", .nat h.globals), ("static_memory", .nat h.staticMemory),
    ("abbreviations", .nat h.abbreviations), ("alphabet_table", .nat h.alphabetTable),
    ("terminating_chars", .nat h.terminatingChars), ("extension", .nat h.extension),
    ("extension_count", .nat h.extensionCount),
    ("packing_multiplier", .nat h.packingMultiplier)]

end ZMachine.Header
