import ZMachine.Instruction.Opcode

/-!
# The operations as an author lists them

The class and the number an operation is written with, and what stands behind its operands.  It is
the table of versions 5 and 8 read the other way, one line for an operation:

    lookup cls number = some op   ↔   op is listed with cls and number

and `stores`, `branches` and `hasText` say what the `sequel` of the line says.
-/

namespace ZMachine

/-- What stands behind the operands. -/
inductive Sequel where
  | nothing
  | result
  | branch
  /-- The variable of the result, then the branch. -/
  | resultBranch
  | text
deriving DecidableEq, Repr

namespace Sequel

def hasResult : Sequel → Bool
  | result | resultBranch => true
  | _ => false

def hasBranch : Sequel → Bool
  | branch | resultBranch => true
  | _ => false

def hasText : Sequel → Bool
  | text => true
  | _ => false

end Sequel

/-- A line of the table. -/
structure Listing where
  cls : OpClass
  number : UInt8
  sequel : Sequel
deriving DecidableEq, Repr

namespace Opcode

def listing : Opcode → Listing
  -- two operands
  | je => ⟨.twoOp, 1, .branch⟩
  | jl => ⟨.twoOp, 2, .branch⟩
  | jg => ⟨.twoOp, 3, .branch⟩
  | decChk => ⟨.twoOp, 4, .branch⟩
  | incChk => ⟨.twoOp, 5, .branch⟩
  | jin => ⟨.twoOp, 6, .branch⟩
  | test => ⟨.twoOp, 7, .branch⟩
  | or => ⟨.twoOp, 8, .result⟩
  | and => ⟨.twoOp, 9, .result⟩
  | testAttr => ⟨.twoOp, 10, .branch⟩
  | setAttr => ⟨.twoOp, 11, .nothing⟩
  | clearAttr => ⟨.twoOp, 12, .nothing⟩
  | store => ⟨.twoOp, 13, .nothing⟩
  | insertObj => ⟨.twoOp, 14, .nothing⟩
  | loadw => ⟨.twoOp, 15, .result⟩
  | loadb => ⟨.twoOp, 16, .result⟩
  | getProp => ⟨.twoOp, 17, .result⟩
  | getPropAddr => ⟨.twoOp, 18, .result⟩
  | getNextProp => ⟨.twoOp, 19, .result⟩
  | add => ⟨.twoOp, 20, .result⟩
  | sub => ⟨.twoOp, 21, .result⟩
  | mul => ⟨.twoOp, 22, .result⟩
  | div => ⟨.twoOp, 23, .result⟩
  | mod => ⟨.twoOp, 24, .result⟩
  | call2s => ⟨.twoOp, 25, .result⟩
  | call2n => ⟨.twoOp, 26, .nothing⟩
  | setColour => ⟨.twoOp, 27, .nothing⟩
  | throwFrame => ⟨.twoOp, 28, .nothing⟩
  -- one operand
  | jz => ⟨.oneOp, 0, .branch⟩
  | getSibling => ⟨.oneOp, 1, .resultBranch⟩
  | getChild => ⟨.oneOp, 2, .resultBranch⟩
  | getParent => ⟨.oneOp, 3, .result⟩
  | getPropLen => ⟨.oneOp, 4, .result⟩
  | inc => ⟨.oneOp, 5, .nothing⟩
  | dec => ⟨.oneOp, 6, .nothing⟩
  | printAddr => ⟨.oneOp, 7, .nothing⟩
  | call1s => ⟨.oneOp, 8, .result⟩
  | removeObj => ⟨.oneOp, 9, .nothing⟩
  | printObj => ⟨.oneOp, 10, .nothing⟩
  | ret => ⟨.oneOp, 11, .nothing⟩
  | jump => ⟨.oneOp, 12, .nothing⟩
  | printPaddr => ⟨.oneOp, 13, .nothing⟩
  | load => ⟨.oneOp, 14, .result⟩
  | call1n => ⟨.oneOp, 15, .nothing⟩
  -- no operands
  | rtrue => ⟨.zeroOp, 0, .nothing⟩
  | rfalse => ⟨.zeroOp, 1, .nothing⟩
  | print => ⟨.zeroOp, 2, .text⟩
  | printRet => ⟨.zeroOp, 3, .text⟩
  | nop => ⟨.zeroOp, 4, .nothing⟩
  | restart => ⟨.zeroOp, 7, .nothing⟩
  | retPopped => ⟨.zeroOp, 8, .nothing⟩
  | catchFrame => ⟨.zeroOp, 9, .result⟩
  | quit => ⟨.zeroOp, 10, .nothing⟩
  | newLine => ⟨.zeroOp, 11, .nothing⟩
  | verify => ⟨.zeroOp, 13, .branch⟩
  | piracy => ⟨.zeroOp, 15, .branch⟩
  -- any number of operands
  | callVs => ⟨.varOp, 0, .result⟩
  | storew => ⟨.varOp, 1, .nothing⟩
  | storeb => ⟨.varOp, 2, .nothing⟩
  | putProp => ⟨.varOp, 3, .nothing⟩
  | aread => ⟨.varOp, 4, .result⟩
  | printChar => ⟨.varOp, 5, .nothing⟩
  | printNum => ⟨.varOp, 6, .nothing⟩
  | random => ⟨.varOp, 7, .result⟩
  | push => ⟨.varOp, 8, .nothing⟩
  | pull => ⟨.varOp, 9, .nothing⟩
  | splitWindow => ⟨.varOp, 10, .nothing⟩
  | setWindow => ⟨.varOp, 11, .nothing⟩
  | callVs2 => ⟨.varOp, 12, .result⟩
  | eraseWindow => ⟨.varOp, 13, .nothing⟩
  | eraseLine => ⟨.varOp, 14, .nothing⟩
  | setCursor => ⟨.varOp, 15, .nothing⟩
  | getCursor => ⟨.varOp, 16, .nothing⟩
  | setTextStyle => ⟨.varOp, 17, .nothing⟩
  | bufferMode => ⟨.varOp, 18, .nothing⟩
  | outputStream => ⟨.varOp, 19, .nothing⟩
  | inputStream => ⟨.varOp, 20, .nothing⟩
  | soundEffect => ⟨.varOp, 21, .nothing⟩
  | readChar => ⟨.varOp, 22, .result⟩
  | scanTable => ⟨.varOp, 23, .resultBranch⟩
  | not => ⟨.varOp, 24, .result⟩
  | callVn => ⟨.varOp, 25, .nothing⟩
  | callVn2 => ⟨.varOp, 26, .nothing⟩
  | tokenise => ⟨.varOp, 27, .nothing⟩
  | encodeText => ⟨.varOp, 28, .nothing⟩
  | copyTable => ⟨.varOp, 29, .nothing⟩
  | printTable => ⟨.varOp, 30, .nothing⟩
  | checkArgCount => ⟨.varOp, 31, .branch⟩
  -- the extended set
  | save => ⟨.extOp, 0, .result⟩
  | restore => ⟨.extOp, 1, .result⟩
  | logShift => ⟨.extOp, 2, .result⟩
  | artShift => ⟨.extOp, 3, .result⟩
  | setFont => ⟨.extOp, 4, .result⟩
  | saveUndo => ⟨.extOp, 9, .result⟩
  | restoreUndo => ⟨.extOp, 10, .result⟩
  | printUnicode => ⟨.extOp, 11, .nothing⟩
  | checkUnicode => ⟨.extOp, 12, .result⟩

/-! ## The tables of the decoder -/

theorem stores_eq (op : Opcode) : op.stores = op.listing.sequel.hasResult := by
  cases op <;> rfl

theorem branches_eq (op : Opcode) : op.branches = op.listing.sequel.hasBranch := by
  cases op <;> rfl

theorem hasText_eq (op : Opcode) : op.hasText = op.listing.sequel.hasText := by
  cases op <;> rfl

/-- Where an operation stands in its table is its number. -/
theorem listing_of_table : ∀ cls, ∀ n < (table cls).length, ∀ op ∈ ((table cls)[n]?).join,
    op.listing.cls = cls ∧ op.listing.number.toNat = n := by
  intro cls
  cases cls <;> decide

/-- A number of a class is the number of the operation listed with it, and of no other. -/
theorem lookup_eq_some_iff {cls : OpClass} {number : UInt8} {op : Opcode} :
    lookup cls number = some op ↔ ∃ sequel, op.listing = ⟨cls, number, sequel⟩ := by
  constructor
  · intro h
    obtain ⟨hlt, -⟩ := List.getElem?_eq_some_iff.1 (Option.join_eq_some_iff.1 h)
    obtain ⟨rfl, hnumber⟩ := listing_of_table cls number.toNat hlt op h
    obtain rfl := UInt8.toNat_inj.1 hnumber
    exact ⟨op.listing.sequel, rfl⟩
  · rintro ⟨sequel, hlisted⟩
    obtain rfl := congrArg Listing.cls hlisted
    obtain rfl := congrArg Listing.number hlisted
    cases op <;> rfl

/-- Only a print and a print that returns carry their text. -/
theorem sequel_eq_text_iff {op : Opcode} :
    op.listing.sequel = .text ↔ op = .print ∨ op = .printRet := by
  cases op <;> decide

end Opcode
end ZMachine
