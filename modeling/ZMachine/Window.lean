import ZMachine.Order

/-!
# The screen

The screen has a main window and an upper window.  Text for the main window is kept in runs of
one style and becomes orders; text for the upper window becomes the status line.  A run becomes an
order when it is closed, by text of another style or by a call that makes an order of its own; so
orders come out in the order of the calls that made them, but for one: moving the cursor makes an
order and closes nothing, and it comes out before the run that was printed by then.

    print w s; print w t       one run, when the style is the same and nothing closed the first
-/

namespace ZMachine

/-- What was sent to the screen and not yet handed to the host. -/
structure Window where
  orders : Array Order := #[]
  /-- Text of the main window that may still grow, and its style. -/
  run : String := ""
  runStyle : UInt16 := 0
  style : UInt16 := 0
  /-- The selected window. -/
  window : UInt16 := 0
  status : String := ""
  cursor : UInt16 × UInt16 := (1, 1)
deriving DecidableEq, Inhabited

namespace Window

def upper : UInt16 := 1

/-- The sum of two numbers, or the largest word if it is too large. -/
def saturatingAdd (a b : UInt16) : UInt16 :=
  if a.toNat + b.toNat < 65536 then a + b else 65535

/-- Turns the run into an order. -/
def closeRun (w : Window) : Window :=
  if w.run.isEmpty then w
  else { w with orders := w.orders.push (.stream .main w.run w.runStyle), run := "" }

/-- Adds an order after the text printed so far. -/
def emit (order : Order) (w : Window) : Window :=
  let w := w.closeRun
  { w with orders := w.orders.push order }

def print (text : String) (w : Window) : Window :=
  if text.isEmpty then w
  else if w.window = upper then
    { w with
      status := w.status ++ text
      cursor := (w.cursor.1, saturatingAdd w.cursor.2 (.ofNat text.length)) }
  else
    let w := if w.style = w.runStyle then w else { w.closeRun with runStyle := w.style }
    { w with run := w.run ++ text }

/-- Selects a window; the upper one is entered at its first place. -/
def setWindow (window : UInt16) (w : Window) : Window :=
  { w with window, cursor := if window = upper then (1, 1) else w.cursor }

def splitWindow (lines : UInt16) (w : Window) : Window :=
  w.emit (.splitWindow lines)

/-- Erases a window; the upper window takes the status line with it, and so do all windows. -/
def eraseWindow (window : Int16) (w : Window) : Window :=
  let w := w.closeRun
  let w := if window < 0 ∨ window = 1 then { w with status := "" } else w
  { w with orders := w.orders.push (.eraseWindow window) }

/-- Erases the status line, if the upper window is selected. -/
def eraseLine (w : Window) : Window :=
  if w.window = upper then { w with status := "" } else w

/-- Moves the cursor of the upper window.  Text of a lower row is a line of its own.  The text of
the main window is not closed. -/
def setCursor (row col : UInt16) (w : Window) : Window :=
  if w.window ≠ upper then w
  else
    { w with
      status := if w.cursor.1 < row ∧ ¬ w.status.isEmpty then w.status.push '\n' else w.status
      cursor := (row, col)
      orders := w.orders.push (.setCursor row col) }

/-- Adds a style to those in effect; style 0 takes all away. -/
def setStyle (style : UInt16) (w : Window) : Window :=
  { w with style := if style = 0 then 0 else w.style ||| style }

def setColour (foreground background : UInt16) (w : Window) : Window :=
  w.emit (.setColour foreground background)

/-- The orders so far, which are thereby handed over. -/
def flush (w : Window) : List Order × Window :=
  let w := w.closeRun
  (w.orders.toList, { w with orders := #[] })

/-- The status line so far, which is thereby handed over. -/
def takeStatus (w : Window) : Option String × Window :=
  if w.status.isEmpty then (none, w) else (some w.status, { w with status := "" })

end Window
end ZMachine
