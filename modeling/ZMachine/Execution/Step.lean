import ZMachine.Arithmetic
import ZMachine.Execution.Table
import ZMachine.Instruction.Basic

/-!
# Execution of an instruction

`step` evaluates the operands from left to right, each stack operand taking the value on top, and
then does what the operation says.  Before it, the pc was set to the next instruction; only an
operation that ends a unit changes it or asks the host for something.

Operands that are missing count as 0, except where an operation cannot do without them.
-/

namespace ZMachine

open Context

namespace Instruction

def operandValues : List Operand → Exec (List UInt16)
  | [] => return []
  | .const v :: rest => return v :: (← operandValues rest)
  | .var source :: rest => do
    let v ← onMachine (Machine.readVar source)
    return v :: (← operandValues rest)

/-- Refuses an instruction with fewer than `n` operands. -/
def need (i : Instruction) (ops : List UInt16) (n : Nat) : Exec Unit :=
  if ops.length < n then throw (.missingOperands i.opcode i.address n ops.length) else return

def branchIf (i : Instruction) (condition : Bool) : Exec Unit :=
  match i.branch with
  | some b => Context.branch b condition
  | none => return

/-- Adds a signed number to a variable and answers its new value. -/
def stepVariable (number delta : UInt16) : Exec UInt16 := do
  let v : Variable := ⟨lowByte number⟩
  let value := (← onMachine (Machine.readIndirect v)) + delta
  onMachine (Machine.writeIndirect v value)
  return value

/-- Whether an instruction is about object 0, which a correct story never is. -/
def isAboutNothing (opcode : Opcode) (ops : List UInt16) : Bool :=
  let a := ops.getD 0 0
  match opcode with
  | .jin | .testAttr | .setAttr | .clearAttr | .removeObj | .getParent | .getSibling | .getChild
  | .getProp | .getPropAddr | .getNextProp | .printObj => a == 0
  | .insertObj => a == 0 || ops.getD 1 0 == 0
  | .putProp => a == 0 && 3 ≤ ops.length
  | _ => false

/-- Whether an output stream is provided. -/
def isProvided (stream : Int) : Bool :=
  [0, 1, -1, 3, -3].contains stream

/-- Whether a number is a character other than a control character. -/
def isPrintable (n : Nat) : Bool :=
  n.isValidChar && !(n < 32 || (127 ≤ n && n < 160))

/-- Does what an instruction says, for the given values of its operands. -/
def perform (config : Config) (i : Instruction) (ops : List UInt16) : Exec Unit := do
  let a := ops.getD 0 0
  let b := ops.getD 1 0
  let c := ops.getD 2 0
  let d := ops.getD 3 0
  let result := Context.store i.store
  match i.opcode with
  -- arithmetic and logic
  | .add => result (a + b)
  | .sub => result (a - b)
  | .mul => result (a * b)
  | .div =>
    i.need ops 2
    if b = 0 then throw (.divisionByZero i.address)
    result (Arithmetic.quotient a b)
  | .mod =>
    i.need ops 2
    if b = 0 then throw (.divisionByZero i.address)
    result (Arithmetic.remainder a b)
  | .or => result (a ||| b)
  | .and => result (a &&& b)
  | .not => result (~~~a)
  | .logShift => result (Arithmetic.shift false a b)
  | .artShift => result (Arithmetic.shift true a b)
  -- comparisons
  | .je =>
    i.need ops 1
    i.branchIf ((ops.drop 1).contains a)
  | .jl => i.branchIf (signed a < signed b)
  | .jg => i.branchIf (signed b < signed a)
  | .jz => i.branchIf (a == 0)
  | .test => i.branchIf (a &&& b == b)
  | .decChk =>
    let value ← stepVariable a (-1)
    i.branchIf (signed value < signed b)
  | .incChk =>
    let value ← stepVariable a 1
    i.branchIf (signed b < signed value)
  | .jump => jump (.ofInt (i.next.toNat + signed a - 2))
  -- variables
  | .store => onMachine (Machine.writeIndirect ⟨lowByte a⟩ b)
  | .load => result (← onMachine (Machine.readIndirect ⟨lowByte a⟩))
  | .inc => let _ ← stepVariable a 1
  | .dec => let _ ← stepVariable a (-1)
  | .push => onMachine (Machine.onStack (Stack.push a))
  | .pull =>
    let value ← onMachine (Machine.onStack Stack.pop)
    onMachine (Machine.writeIndirect ⟨lowByte a⟩ value)
  | .loadw => result (← ask fun m _ => m.read16 (a + 2 * b).toNat)
  | .loadb => result (← ask fun m _ => m.read8 (a + b).toNat).toUInt16
  | .storew =>
    i.need ops 3
    onMemory (Memory.write16 (a + 2 * b).toNat c)
  | .storeb =>
    i.need ops 3
    onMemory (Memory.write8 (a + b).toNat (lowByte c))
  -- calls and returns
  | .call1s | .call2s | .callVs | .callVs2 | .call1n | .call2n | .callVn | .callVn2 =>
    i.need ops 1
    call a (ops.drop 1) i.store
  | .ret => ret a
  | .rtrue => ret 1
  | .rfalse => ret 0
  | .retPopped => ret (← onMachine (Machine.onStack Stack.pop))
  | .catchFrame => result (← catchCookie)
  | .throwFrame => throwTo a b
  | .checkArgCount => i.branchIf (a ≤ (← argCount).toUInt16)
  -- objects
  | .jin => i.branchIf ((← onMachine (Machine.askObjects fun t m => t.parent m a)) == b)
  | .testAttr => i.branchIf (← onMachine (Machine.askObjects fun t m => t.testAttribute m a b))
  | .setAttr => onMachine (Machine.onObjects fun t => t.setAttribute a b true)
  | .clearAttr => onMachine (Machine.onObjects fun t => t.setAttribute a b false)
  | .insertObj => onMachine (Machine.onObjects fun t => t.insert a b)
  | .removeObj => onMachine (Machine.onObjects fun t => t.remove a)
  | .getParent => result (← onMachine (Machine.askObjects fun t m => t.parent m a))
  | .getSibling =>
    let o ← onMachine (Machine.askObjects fun t m => t.sibling m a)
    result o
    i.branchIf (o != 0)
  | .getChild =>
    let o ← onMachine (Machine.askObjects fun t m => t.child m a)
    result o
    i.branchIf (o != 0)
  | .getProp => result (← onMachine (Machine.askObjects fun t m => t.getProperty m a b))
  | .getPropAddr => result (← onMachine (Machine.askObjects fun t m => t.propertyAddress m a b))
  | .getPropLen => result (← ask fun m _ => ObjectTable.propertyLength m a)
  | .getNextProp => result (← onMachine (Machine.askObjects fun t m => t.nextProperty m a b))
  | .putProp =>
    i.need ops 3
    onMachine (Machine.onObjects fun t => t.putProperty a b c)
  -- text
  | .print | .printRet =>
    if let some address := i.text then
      let _ ← printZString address.toNat
    if i.opcode = .printRet then
      Context.print "\n"
      ret 1
  | .printAddr => let _ ← printZString a.toNat
  | .printPaddr => let _ ← printZString ((← get).machine.header.unpack a)
  | .printObj =>
    if let some address ← onMachine (Machine.askObjects fun t m => t.shortName m a) then
      let _ ← printZString address
  | .printChar => printZscii a
  | .printNum => Context.print (toString (signed a))
  | .printUnicode => Context.print (ExtraChars.charOr '?' a.toNat).toString
  | .checkUnicode => result (if isPrintable a.toNat then 3 else 0)
  | .newLine => Context.print "\n"
  | .printTable =>
    i.need ops 2
    let rows := if 2 < ops.length then c.toNat else 1
    Table.print b.toNat d.toNat true rows a.toNat
  -- screen
  | .splitWindow => onWindow (.splitWindow a)
  | .setWindow => onWindow (.setWindow a)
  | .eraseWindow => onWindow (.eraseWindow a.toInt16)
  | .eraseLine => if a = 1 then onWindow .eraseLine
  | .setCursor => if 0 < signed a then onWindow (.setCursor a b)
  | .getCursor =>
    let (row, col) := (← get).window.cursor
    onMemory (Memory.write16 a.toNat row)
    onMemory (Memory.write16 (a.toNat + 2) col)
  | .setTextStyle => onWindow (.setStyle a)
  | .setColour => onWindow (.setColour a b)
  | .setFont => result (if a = 0 ∨ a = 1 ∨ a = 4 then 1 else 0)
  | .outputStream =>
    onMachine (Machine.selectStream (signed a) b.toUInt32)
    if !isProvided (signed a) then note .streamUnknown
  | .bufferMode | .inputStream | .soundEffect | .nop => return
  -- tables
  | .scanTable =>
    i.need ops 3
    let form := if 3 < ops.length then d else 0x82
    let found ← ask fun m _ => Table.scan m a form c.toNat b.toNat
    let address : UInt16 := .ofNat (found.getD 0)
    result address
    i.branchIf (address != 0)
  | .copyTable =>
    i.need ops 3
    onMemory (Table.copy a b c)
  | .random =>
    if 0 < signed a then result (← draw a.toNat)
    else
      onMachine (modify fun s => { s with random := .ofSeed (signed a).natAbs })
      result 0
  | .verify =>
    let s := (← get).machine
    i.branchIf (s.checksum == s.header.checksum)
  | .piracy => i.branchIf true
  -- input and dictionary
  | .tokenise =>
    i.need ops 2
    let h := (← get).machine.header
    onMemory (ZMachine.tokenise h a.toNat b.toNat c.toNat (d != 0))
    note .lineSplit
  | .encodeText =>
    i.need ops 4
    let source ← ask fun m _ => m.readBytes (a.toNat + c.toNat) b.toNat
    let alphabet ← ask Alphabet.ofStory
    onMemory (Memory.writeBytes d.toNat (ZString.dictionaryForm alphabet source))
  | .aread =>
    i.need ops 1
    let length ← ask fun m _ => m.read8 a.toNat
    request (.read a.toUInt32 b.toUInt32 length (i.store.getD .stack) c d)
  | .readChar => request (.char (i.store.getD .stack) b c)
  -- saving and the end
  | .save =>
    if !ops.isEmpty then result 0
    else
      let s := (← get).machine
      match (Snapshot.capture s i.store).encode s.story with
      | .ok data => request (.save data i.store)
      | .error e => throw (.save e)
  | .restore => if !ops.isEmpty then result 0 else request (.restore i.store)
  | .saveUndo => saveUndo i.store
  | .restoreUndo => restoreUndo config i.store
  | .restart => request .restart
  | .quit => request .quit

def step (config : Config) (i : Instruction) : Exec Unit := do
  let ops ← operandValues i.operands
  if isAboutNothing i.opcode ops then note .objectMissing
  i.perform config ops

end Instruction
end ZMachine
