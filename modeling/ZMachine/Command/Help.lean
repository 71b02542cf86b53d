import ZMachine.Command.Arguments

/-!
# Help

The pages of help.  A page says what its level is for, how it is called, and lists subcommands,
arguments and options in two columns; the second column starts two blanks after the longest entry
of the first.
-/

namespace ZMachine.Command

def versionLine : String := "zvm 0.1.3\n"

/-- A row of a table: an entry and what it means. -/
structure Row where
  entry : String
  meaning : String
deriving DecidableEq, Repr

namespace Row

/-- Lines with the meanings below each other. -/
def lines (rows : List Row) : String :=
  let column := (rows.map (·.entry.length)).foldl max 0 + 2
  rows.foldl (fun text row =>
    text ++ "  " ++ row.entry ++ "".pushn ' ' (column - row.entry.length) ++ row.meaning ++ "\n") ""

/-- A table under its title; nothing if it is empty. -/
def table (title : String) (rows : List Row) : String :=
  if rows.isEmpty then "" else "\n" ++ title ++ ":\n" ++ lines rows

end Row

namespace Page

def purpose : Page → String
  | program => "Z-machine (v5/v8) story player"
  | run => "Play a story in the terminal"
  | serve => "Speak the host protocol as JSON lines on stdin/stdout"
  | info => "Print the story header"
  | help => "Print this message or the help of the given subcommand(s)"

def usage : Page → String
  | program => "zvm [OPTIONS] [STORY] [COMMAND]"
  | run => "zvm run [OPTIONS] <STORY>"
  | serve => "zvm serve [OPTIONS] <STORY>"
  | info => "zvm info [OPTIONS] <STORY>"
  | help => "zvm help [OPTIONS] [COMMAND]..."

def subcommands : Page → List Row
  | program =>
    [⟨"run", purpose run⟩, ⟨"serve", purpose serve⟩, ⟨"info", purpose info⟩,
      ⟨"help", purpose help⟩]
  | _ => []

def arguments : Page → List Row
  | program => [⟨"[STORY]", "Story to play when no subcommand is given"⟩]
  | help => [⟨"[COMMAND]...", "Print help for the subcommand(s)"⟩]
  | _ => [⟨"<STORY>", ""⟩]

def options (p : Page) : List Row :=
  [⟨"    --config <CONFIG>", "TOML file with engine settings; flags below override it"⟩]
    ++ (if p = run then
      [⟨"    --save-dir <SAVE_DIR>", "Directory that holds `.zsav` files [default: .]"⟩] else [])
    ++ [⟨"    --width <WIDTH>", "Screen width in characters"⟩,
      ⟨"    --timed", "Advertise timed input"⟩,
      ⟨"    --security-override", "Claim standard revision 1.2"⟩]
    ++ (if p = help then [] else [⟨"-h, --help", "Print help"⟩])
    ++ (if p = program then [⟨"-V, --version", "Print version"⟩] else [])

def text (p : Page) : String :=
  p.purpose ++ "\n\nUsage: " ++ p.usage ++ "\n"
    ++ Row.table "Commands" p.subcommands
    ++ Row.table "Arguments" p.arguments
    ++ Row.table "Options" p.options

end Page

/-- What is printed when a command line is not understood. -/
def usageReport : String :=
  "error: the arguments were not understood\n\nUsage: " ++ Page.program.usage
    ++ "\n\nFor more information, try '--help'.\n"

end ZMachine.Command
