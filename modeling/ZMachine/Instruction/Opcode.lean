/-!
# Operations of the machine

An operation is looked up by its class and number.  The table is that of versions 5 and 8: where
a number has no entry, the operation was moved or dropped before version 5.

An operation may store a result, branch, or carry its text inline; which it does is a property of
the operation alone and decides what follows its operands in the encoding.  `endsUnit` marks the
operations after which execution may go on somewhere else than at the next instruction, or stop
for the host; every operation that branches is one of them.
-/

namespace ZMachine

/-- The class an operation number is looked up in. -/
inductive OpClass where
  | twoOp
  | oneOp
  | zeroOp
  | varOp
  | extOp
deriving DecidableEq, Repr, Inhabited

/-- The operations of versions 5 and 8. -/
inductive Opcode where
  -- two operands
  | je | jl | jg | decChk | incChk | jin | test | or | and | testAttr | setAttr
  | clearAttr | store | insertObj | loadw | loadb | getProp | getPropAddr | getNextProp
  | add | sub | mul | div | mod | call2s | call2n | setColour | throwFrame
  -- one operand
  | jz | getSibling | getChild | getParent | getPropLen | inc | dec | printAddr | call1s
  | removeObj | printObj | ret | jump | printPaddr | load | call1n
  -- no operands
  | rtrue | rfalse | print | printRet | nop | restart | retPopped | catchFrame | quit
  | newLine | verify | piracy
  -- any number of operands
  | callVs | storew | storeb | putProp | aread | printChar | printNum | random | push
  | pull | splitWindow | setWindow | callVs2 | eraseWindow | eraseLine | setCursor
  | getCursor | setTextStyle | bufferMode | outputStream | inputStream | soundEffect
  | readChar | scanTable | not | callVn | callVn2 | tokenise | encodeText | copyTable
  | printTable | checkArgCount
  -- the extended set
  | save | restore | logShift | artShift | setFont | saveUndo | restoreUndo | printUnicode
  | checkUnicode
deriving DecidableEq, Repr, Inhabited

namespace Opcode

/-! ## The table -/

/-- Operations 0 to 28 of the class with two operands. -/
def twoOpTable : List (Option Opcode) :=
  [none, some .je, some .jl, some .jg, some .decChk, some .incChk, some .jin, some .test,
    some .or, some .and, some .testAttr, some .setAttr, some .clearAttr, some .store,
    some .insertObj, some .loadw, some .loadb, some .getProp, some .getPropAddr,
    some .getNextProp, some .add, some .sub, some .mul, some .div, some .mod, some .call2s,
    some .call2n, some .setColour, some .throwFrame]

/-- Operations 0 to 15 of the class with one operand. -/
def oneOpTable : List (Option Opcode) :=
  [some .jz, some .getSibling, some .getChild, some .getParent, some .getPropLen, some .inc,
    some .dec, some .printAddr, some .call1s, some .removeObj, some .printObj, some .ret,
    some .jump, some .printPaddr, some .load, some .call1n]

/-- Operations 0 to 15 of the class without operands. -/
def zeroOpTable : List (Option Opcode) :=
  [some .rtrue, some .rfalse, some .print, some .printRet, some .nop, none, none, some .restart,
    some .retPopped, some .catchFrame, some .quit, some .newLine, none, some .verify, none,
    some .piracy]

/-- Operations 0 to 31 of the class with any number of operands. -/
def varOpTable : List (Option Opcode) :=
  [some .callVs, some .storew, some .storeb, some .putProp, some .aread, some .printChar,
    some .printNum, some .random, some .push, some .pull, some .splitWindow, some .setWindow,
    some .callVs2, some .eraseWindow, some .eraseLine, some .setCursor, some .getCursor,
    some .setTextStyle, some .bufferMode, some .outputStream, some .inputStream,
    some .soundEffect, some .readChar, some .scanTable, some .not, some .callVn, some .callVn2,
    some .tokenise, some .encodeText, some .copyTable, some .printTable, some .checkArgCount]

/-- Operations 0 to 12 of the extended class. -/
def extOpTable : List (Option Opcode) :=
  [some .save, some .restore, some .logShift, some .artShift, some .setFont, none, none, none,
    none, some .saveUndo, some .restoreUndo, some .printUnicode, some .checkUnicode]

def table : OpClass → List (Option Opcode)
  | .twoOp => twoOpTable
  | .oneOp => oneOpTable
  | .zeroOp => zeroOpTable
  | .varOp => varOpTable
  | .extOp => extOpTable

def lookup (cls : OpClass) (number : UInt8) : Option Opcode :=
  ((table cls)[number.toNat]?).join

/-! ## Properties of an operation -/

/-- Whether a variable to store the result in follows the operands. -/
def stores : Opcode → Bool
  | .or | .and | .loadw | .loadb | .getProp | .getPropAddr | .getNextProp | .add | .sub | .mul
  | .div | .mod | .call2s | .getSibling | .getChild | .getParent | .getPropLen | .call1s | .load
  | .catchFrame | .callVs | .aread | .random | .callVs2 | .readChar | .scanTable | .not | .save
  | .restore | .logShift | .artShift | .setFont | .saveUndo | .restoreUndo | .checkUnicode => true
  | _ => false

/-- Whether a branch follows the operands. -/
def branches : Opcode → Bool
  | .je | .jl | .jg | .decChk | .incChk | .jin | .test | .testAttr | .jz | .getSibling | .getChild
  | .verify | .piracy | .scanTable | .checkArgCount => true
  | _ => false

/-- Whether a z-string follows the operands. -/
def hasText : Opcode → Bool
  | .print | .printRet => true
  | _ => false

/-- Operations other than branches that leave the straight line: calls, returns, jumps, and
those that ask the host for something. -/
def leaves : Opcode → Bool
  | .jump | .call2s | .call2n | .call1s | .call1n | .callVs | .callVs2 | .callVn | .callVn2 | .ret
  | .rtrue | .rfalse | .printRet | .retPopped | .throwFrame | .restart | .quit | .aread
  | .readChar | .save | .restore | .saveUndo | .restoreUndo => true
  | _ => false

/-- Whether execution may go on elsewhere after this operation. -/
def endsUnit (op : Opcode) : Bool :=
  op.branches || op.leaves

/-- The name of an operation in assembly listings. -/
def mnemonic : Opcode → String
  | .je => "je"
  | .jl => "jl"
  | .jg => "jg"
  | .decChk => "dec_chk"
  | .incChk => "inc_chk"
  | .jin => "jin"
  | .test => "test"
  | .or => "or"
  | .and => "and"
  | .testAttr => "test_attr"
  | .setAttr => "set_attr"
  | .clearAttr => "clear_attr"
  | .store => "store"
  | .insertObj => "insert_obj"
  | .loadw => "loadw"
  | .loadb => "loadb"
  | .getProp => "get_prop"
  | .getPropAddr => "get_prop_addr"
  | .getNextProp => "get_next_prop"
  | .add => "add"
  | .sub => "sub"
  | .mul => "mul"
  | .div => "div"
  | .mod => "mod"
  | .call2s => "call_2s"
  | .call2n => "call_2n"
  | .setColour => "set_colour"
  | .throwFrame => "throw"
  | .jz => "jz"
  | .getSibling => "get_sibling"
  | .getChild => "get_child"
  | .getParent => "get_parent"
  | .getPropLen => "get_prop_len"
  | .inc => "inc"
  | .dec => "dec"
  | .printAddr => "print_addr"
  | .call1s => "call_1s"
  | .removeObj => "remove_obj"
  | .printObj => "print_obj"
  | .ret => "ret"
  | .jump => "jump"
  | .printPaddr => "print_paddr"
  | .load => "load"
  | .call1n => "call_1n"
  | .rtrue => "rtrue"
  | .rfalse => "rfalse"
  | .print => "print"
  | .printRet => "print_ret"
  | .nop => "nop"
  | .restart => "restart"
  | .retPopped => "ret_popped"
  | .catchFrame => "catch"
  | .quit => "quit"
  | .newLine => "new_line"
  | .verify => "verify"
  | .piracy => "piracy"
  | .callVs => "call_vs"
  | .storew => "storew"
  | .storeb => "storeb"
  | .putProp => "put_prop"
  | .aread => "aread"
  | .printChar => "print_char"
  | .printNum => "print_num"
  | .random => "random"
  | .push => "push"
  | .pull => "pull"
  | .splitWindow => "split_window"
  | .setWindow => "set_window"
  | .callVs2 => "call_vs2"
  | .eraseWindow => "erase_window"
  | .eraseLine => "erase_line"
  | .setCursor => "set_cursor"
  | .getCursor => "get_cursor"
  | .setTextStyle => "set_text_style"
  | .bufferMode => "buffer_mode"
  | .outputStream => "output_stream"
  | .inputStream => "input_stream"
  | .soundEffect => "sound_effect"
  | .readChar => "read_char"
  | .scanTable => "scan_table"
  | .not => "not"
  | .callVn => "call_vn"
  | .callVn2 => "call_vn2"
  | .tokenise => "tokenise"
  | .encodeText => "encode_text"
  | .copyTable => "copy_table"
  | .printTable => "print_table"
  | .checkArgCount => "check_arg_count"
  | .save => "save"
  | .restore => "restore"
  | .logShift => "log_shift"
  | .artShift => "art_shift"
  | .setFont => "set_font"
  | .saveUndo => "save_undo"
  | .restoreUndo => "restore_undo"
  | .printUnicode => "print_unicode"
  | .checkUnicode => "check_unicode"

end Opcode

namespace OpClass

def name : OpClass → String
  | .twoOp => "TwoOp"
  | .oneOp => "OneOp"
  | .zeroOp => "ZeroOp"
  | .varOp => "Var"
  | .extOp => "Ext"

end OpClass
end ZMachine
