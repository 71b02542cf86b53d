import ZMachine.Path

/-!
# Command-line arguments

The words of a command line are read from left to right.  A word is an option, the value of the
option before it, a subcommand or the story; after two dashes alone every word is a value.  The
general options may stand before or after the subcommand:

    general options     --config PATH   --width N   --timed   --security-override   --help
    program             [STORY]  --version
    run                 STORY    --save-dir PATH
    serve, info         STORY

A value stands in the next word or after an equals sign.  It is looked at when the next option or
value of the same level comes, or at the end, so a request for help is heeded only if nothing
before it on its own level was wrong.  Paths must not step up to a parent folder.
-/

namespace ZMachine.Command

/-- The settings given on the command line. -/
structure Overrides where
  /-- The path of a settings file. -/
  config : Option String := none
  width : Option UInt8 := none
  timed : Bool := false
  securityOverride : Bool := false
deriving DecidableEq, Repr, Inhabited

inductive Job where
  | run (story saveFolder : String)
  | serve (story : String)
  | info (story : String)
  /-- Nothing: neither a subcommand nor a story was given. -/
  | none
deriving DecidableEq, Repr, Inhabited

structure Arguments where
  job : Job
  overrides : Overrides
deriving DecidableEq, Repr, Inhabited

/-- The levels of the command line, each with a page of help. -/
inductive Page where
  | program
  | run
  | serve
  | info
  | help
deriving DecidableEq, Repr, Inhabited

/-- Why there is nothing to be done. -/
inductive Refusal where
  | usage
  | help (page : Page)
  | version
deriving DecidableEq, Repr, Inhabited

/-! ## Values -/

/-- The places that a value can go to. -/
inductive Slot where
  | story
  | config
  | width
  | saveFolder
deriving DecidableEq, Repr

/-- A path that stays below its folder. -/
def path? (text : String) : Option String :=
  if Path.stepsUp text then none else some text

/-- A number of characters, perhaps with a sign. -/
def width? (text : String) : Option UInt8 :=
  let (negative, digits) := match text.toList with
    | '-' :: rest => (true, rest)
    | '+' :: rest => (false, rest)
    | chars => (false, chars)
  let n := digits.foldl (fun n c => 10 * n + (c.toNat - '0'.toNat)) 0
  if digits.isEmpty ∨ digits.any (!·.isDigit) then none
  else if negative ∧ n ≠ 0 then none
  else if n < 256 then some (.ofNat n)
  else none

/-! ## One level -/

structure Level where
  page : Page
  story : Option String := none
  saveFolder : Option String := none
  overrides : Overrides := {}
  /-- A place and the value for it, which has not been looked at yet. -/
  pending : Option (Slot × Option String) := none
  /-- Whether every word is a value from here on. -/
  literal : Bool := false
deriving DecidableEq, Repr

namespace Level

/-- Puts a value into a place, which must be empty. -/
def store (slot : Slot) (text : String) (l : Level) : Option Level :=
  match slot with
  | .story =>
    if l.story.isSome then none else (path? text).map fun p => { l with story := some p }
  | .saveFolder =>
    if l.saveFolder.isSome then none else (path? text).map fun p => { l with saveFolder := some p }
  | .config =>
    if l.overrides.config.isSome then none
    else (path? text).map fun p => { l with overrides.config := some p }
  | .width =>
    if l.overrides.width.isSome then none
    else (width? text).map fun n => { l with overrides.width := some n }

/-- Looks at the value that waits. -/
def settle (l : Level) : Except Refusal Level :=
  match l.pending with
  | none => .ok l
  | some (slot, some text) =>
    match { l with pending := none }.store slot text with
    | some l => .ok l
    | none => .error .usage
  | some (_, none) => .error .usage

/-- Whether the next word is to be the value of an option. -/
def awaits (l : Level) : Bool :=
  match l.pending with
  | some (_, none) => true
  | _ => false

/-- Takes in the story. -/
def positional (word : String) (l : Level) : Except Refusal Level := do
  let l ← l.settle
  if l.story.isSome then throw .usage
  return { l with pending := some (.story, some word) }

def valued (slot : Slot) (value : Option String) (l : Level) : Except Refusal Level := do
  let l ← l.settle
  match value with
  | none => return { l with pending := some (slot, none) }
  | some text => match l.store slot text with
    | some l => return l
    | none => throw .usage

/-- Turns on a switch that is off. -/
def switch (isOn : Bool) (turnOn : Level → Level) (value : Option String) (l : Level) :
    Except Refusal Level := do
  if value.isSome then throw .usage
  let l ← l.settle
  if isOn then throw .usage
  return turnOn l

/-- Gives up for a page of help or the version. -/
def notice (answer : Refusal) (value : Option String) (l : Level) : Except Refusal Level := do
  if value.isSome then throw .usage
  let _ ← l.settle
  throw answer

def long (name : String) (value : Option String) (l : Level) : Except Refusal Level :=
  match name with
  | "help" => l.notice (.help l.page) value
  | "version" => if l.page = .program then l.notice .version value else .error .usage
  | "timed" => l.switch l.overrides.timed (fun l => { l with overrides.timed := true }) value
  | "security-override" =>
    l.switch l.overrides.securityOverride
      (fun l => { l with overrides.securityOverride := true }) value
  | "config" => l.valued .config value
  | "width" => l.valued .width value
  | "save-dir" => if l.page = .run then l.valued .saveFolder value else .error .usage
  | _ => .error .usage

/-- Takes in options by their letters.  Either of the two that there are ends the reading. -/
def short (letters : List Char) (l : Level) : Except Refusal Level :=
  match letters with
  | 'h' :: _ => l.notice (.help l.page) none
  | 'V' :: _ => if l.page = .program then l.notice .version none else .error .usage
  | _ => .error .usage

/-- Takes in a word that is no option. -/
def plain (word : String) (l : Level) : Except Refusal Level :=
  match l.pending with
  | some (slot, none) => .ok { l with pending := some (slot, some word) }
  | _ => l.positional word

def word (text : String) (l : Level) : Except Refusal Level :=
  if l.literal then l.positional text
  else match text.toList with
    | ['-', '-'] => .ok { l with literal := true }
    | '-' :: '-' :: chars =>
      match chars.span (· ≠ '=') with
      | (name, _ :: value) => l.long (.ofList name) (some (.ofList value))
      | (name, []) => l.long (.ofList name) none
    | '-' :: c :: rest => l.short (c :: rest)
    | _ => l.plain text

end Level

/-! ## The whole line -/

def subcommand? (word : String) : Option Page :=
  match word with
  | "run" => some .run
  | "serve" => some .serve
  | "info" => some .info
  | "help" => some .help
  | _ => none

/-- The page of help that words after the subcommand `help` ask for. -/
def helpFor (words : List String) : Refusal :=
  match words with
  | [] => .help .program
  | [word] => match subcommand? word with
    | some page => .help page
    | none => .usage
  | _ => .usage

/-- Whether a word is looked at as a subcommand. -/
def Level.takesSubcommand (l : Level) : Bool :=
  l.page = .program && !l.literal && !l.awaits

/-- Reads the words of a level, and those of the level of its subcommand. -/
def readLevel (l : Level) : List String → Except Refusal (Level × Option Level)
  | [] => do return (← l.settle, none)
  | word :: rest =>
    match if l.takesSubcommand then subcommand? word else none with
    | some .help => throw (helpFor rest)
    | some page => do
      let (inner, _) ← readLevel { page } rest
      return (← l.settle, some inner)
    | none => do readLevel (← l.word word) rest

/-- The settings of two levels, of which the inner one goes first. -/
def Overrides.over (inner outer : Overrides) : Overrides where
  config := inner.config.or outer.config
  width := inner.width.or outer.width
  timed := inner.timed || outer.timed
  securityOverride := inner.securityOverride || outer.securityOverride

/-- The folder for save files where none is given. -/
def defaultSaveFolder : String := "."

def Level.job (l : Level) : Except Refusal Job :=
  match l.page, l.story with
  | .run, some story => .ok (.run story (l.saveFolder.getD defaultSaveFolder))
  | .serve, some story => .ok (.serve story)
  | .info, some story => .ok (.info story)
  | .program, some story => .ok (.run story defaultSaveFolder)
  | .program, none => .ok .none
  | _, _ => .error .usage

def Arguments.parse (words : List String) : Except Refusal Arguments := do
  let (outer, inner) ← readLevel { page := .program } words
  match inner with
  | some inner => return ⟨← inner.job, inner.overrides.over outer.overrides⟩
  | none => return ⟨← outer.job, outer.overrides⟩

end ZMachine.Command
