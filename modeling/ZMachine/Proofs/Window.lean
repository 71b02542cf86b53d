import ZMachine.Window

/-!
# What the screen is told and what it hands over

The screen changes by calls only.  Each call sends some characters to the main window, or none, and
what was sent and not yet handed over is pending, in orders and in the run that may still grow:

    pending (play calls w) = pending w ++ sent calls w

What a call sends depends on the settings of the screen, which window is selected and in which
style, and so does what becomes of the settings.  What is pending has no influence on either.
-/

namespace ZMachine

/-- A character of the main window with its style. -/
abbrev Glyph := Char × UInt16

/-- The characters of a text in one style. -/
def glyphsOf (text : String) (style : UInt16) : List Glyph :=
  text.toList.map (·, style)

@[simp] theorem glyphsOf_append (s t : String) (style : UInt16) :
    glyphsOf (s ++ t) style = glyphsOf s style ++ glyphsOf t style := by
  simp [glyphsOf]

@[simp] theorem glyphsOf_empty (style : UInt16) : glyphsOf "" style = [] := rfl

namespace Order

/-- What an order writes in the main window. -/
def glyphs : Order → List Glyph
  | stream .main text style => glyphsOf text style
  | _ => []

/-- Whether an order is for the main window or sets the screen. -/
def isOutput : Order → Bool
  | stream .main .. | splitWindow _ | eraseWindow _ | setCursor .. | setColour .. => true
  | _ => false

end Order

/-- What orders write in the main window, one after another. -/
def mainText (orders : List Order) : List Glyph :=
  orders.flatMap Order.glyphs

@[simp] theorem mainText_append (before later : List Order) :
    mainText (before ++ later) = mainText before ++ mainText later :=
  List.flatMap_append

@[simp] theorem mainText_singleton (order : Order) : mainText [order] = order.glyphs := by
  simp [mainText]

namespace Window

/-! ## Calls -/

/-- What a story can tell the screen. -/
inductive Call where
  | print (text : String)
  | setWindow (window : UInt16)
  | splitWindow (lines : UInt16)
  | eraseWindow (window : Int16)
  | eraseLine
  | setCursor (row col : UInt16)
  | setStyle (style : UInt16)
  | setColour (foreground background : UInt16)
deriving DecidableEq, Repr

/-- What a call makes of the screen. -/
def Call.apply : Call → Window → Window
  | print text => Window.print text
  | setWindow window => Window.setWindow window
  | splitWindow lines => Window.splitWindow lines
  | eraseWindow window => Window.eraseWindow window
  | eraseLine => Window.eraseLine
  | setCursor row col => Window.setCursor row col
  | setStyle style => Window.setStyle style
  | setColour foreground background => Window.setColour foreground background

/-- What a call sends to the main window. -/
def Call.sent (w : Window) : Call → List Glyph
  | print text => if w.window = upper then [] else glyphsOf text w.style
  | _ => []

/-- The screen after some calls. -/
def play : List Call → Window → Window
  | [], w => w
  | call :: rest, w => play rest (call.apply w)

/-- What some calls send to the main window. -/
def sent : List Call → Window → List Glyph
  | [], _ => []
  | call :: rest, w => call.sent w ++ sent rest (call.apply w)

theorem play_append (before later : List Call) (w : Window) :
    play (before ++ later) w = play later (play before w) := by
  induction before generalizing w with
  | nil => rfl
  | cons call rest ih => exact ih _

theorem sent_append (before later : List Call) (w : Window) :
    sent (before ++ later) w = sent before w ++ sent later (play before w) := by
  induction before generalizing w with
  | nil => rfl
  | cons call rest ih => exact (congrArg _ (ih _)).trans (List.append_assoc _ _ _).symm

/-- What was sent to the main window and not yet handed over. -/
def pending (w : Window) : List Glyph :=
  mainText w.orders.toList ++ glyphsOf w.run w.runStyle

/-- What the calls to come depend on. -/
structure Settings where
  runStyle : UInt16
  style : UInt16
  window : UInt16
  cursor : UInt16 × UInt16

/-- The settings of a screen. -/
def settings (w : Window) : Settings where
  runStyle := w.runStyle
  style := w.style
  window := w.window
  cursor := w.cursor

/-- All that is pending for the screen shows something or sets it. -/
def Orderly (w : Window) : Prop :=
  ∀ order ∈ w.orders, order.isOutput = true

/-- Nothing is pending, neither for the screen nor for the status line. -/
def Idle (w : Window) : Prop :=
  w.orders = #[] ∧ w.run = "" ∧ w.status = ""

/-! ## Closing the run -/

theorem closeRun_settings (w : Window) : w.closeRun.settings = w.settings := by
  unfold closeRun
  split <;> rfl

theorem closeRun_status (w : Window) : w.closeRun.status = w.status := by
  unfold closeRun
  split <;> rfl

theorem closeRun_run (w : Window) : w.closeRun.run = "" := by
  unfold closeRun
  split
  · next h => exact String.isEmpty_iff.1 h
  · rfl

/-- The text of the run is text of an order then. -/
theorem closeRun_pending (w : Window) : mainText w.closeRun.orders.toList = w.pending := by
  unfold closeRun pending
  split
  · next h => simp [String.isEmpty_iff.1 h]
  · simp [Order.glyphs]

theorem Orderly.closeRun {w : Window} (h : w.Orderly) : w.closeRun.Orderly := by
  unfold Window.closeRun
  split
  · exact h
  · intro order horder
    rcases Array.mem_push.1 horder with hold | rfl
    · exact h order hold
    · rfl

/-! ## What a call does -/

theorem emit_settings (order : Order) (w : Window) : (w.emit order).settings = w.settings :=
  w.closeRun_settings

/-- An order that writes nothing comes after the text. -/
theorem emit_pending {order : Order} (horder : order.glyphs = []) (w : Window) :
    (w.emit order).pending = w.pending := by
  unfold emit
  unfold pending
  simp [closeRun_run, closeRun_pending, horder, pending]

theorem Orderly.emit {w : Window} (h : w.Orderly) (order : Order)
    (horder : order.isOutput = true) : (w.emit order).Orderly := by
  intro o ho
  rcases Array.mem_push.1 ho with hold | rfl
  · exact h.closeRun o hold
  · exact horder

/-- Erasing a window is an order like others, but for the status line. -/
theorem eraseWindow_eq (window : Int16) (w : Window) :
    w.eraseWindow window =
      { w with status := if window < 0 ∨ window = 1 then "" else w.status }.emit
        (.eraseWindow window) := by
  unfold eraseWindow emit closeRun
  dsimp only
  by_cases hline : window < 0 ∨ window = 1
  · rw [if_pos hline, if_pos hline]
    split <;> rfl
  · rw [if_neg hline, if_neg hline]

/-- The screen that a text for the main window is added to: the run has its style. -/
def styled (w : Window) : Window :=
  if w.style = w.runStyle then w else { w.closeRun with runStyle := w.style }

theorem print_upper {text : String} {w : Window} (htext : text ≠ "") (hwindow : w.window = upper) :
    w.print text =
      { w with
        status := w.status ++ text
        cursor := (w.cursor.1, saturatingAdd w.cursor.2 (.ofNat text.length)) } := by
  unfold print
  rw [if_neg (fun h => htext (String.isEmpty_iff.1 h)), if_pos hwindow]

theorem print_main {text : String} {w : Window} (htext : text ≠ "") (hwindow : w.window ≠ upper) :
    w.print text = { w.styled with run := w.styled.run ++ text } := by
  unfold print
  rw [if_neg (fun h => htext (String.isEmpty_iff.1 h)), if_neg hwindow]
  rfl

theorem styled_settings (w : Window) : w.styled.settings = { w.settings with runStyle := w.style } := by
  unfold styled
  split
  · next h =>
    unfold settings
    rw [h]
  · have hsettings := w.closeRun_settings
    unfold settings at hsettings ⊢
    injection hsettings with _ hstyle hwindow hcursor
    rw [hstyle, hwindow, hcursor]

theorem styled_pending (w : Window) : w.styled.pending = w.pending := by
  unfold styled
  split
  · rfl
  · have hclosed : ({ w.closeRun with runStyle := w.style } : Window).pending =
        mainText w.closeRun.orders.toList ++ glyphsOf w.closeRun.run w.style := rfl
    rw [hclosed, closeRun_run, closeRun_pending, glyphsOf_empty, List.append_nil]

theorem Orderly.styled {w : Window} (h : w.Orderly) : w.styled.Orderly := by
  unfold Window.styled
  split
  · exact h
  · exact h.closeRun

/-- A call adds what it sends to what is pending. -/
theorem apply_pending (call : Call) (w : Window) :
    (call.apply w).pending = w.pending ++ call.sent w := by
  cases call with
  | print text =>
    show (w.print text).pending = w.pending ++ if w.window = upper then [] else glyphsOf text w.style
    by_cases htext : text = ""
    · subst htext
      simp [print]
    by_cases hwindow : w.window = upper
    · rw [if_pos hwindow, List.append_nil]
      rw [print_upper htext hwindow]
      rfl
    · have hstyle : w.styled.runStyle = w.style := congrArg Settings.runStyle w.styled_settings
      have hprint : (w.print text).pending =
          mainText w.styled.orders.toList ++ glyphsOf (w.styled.run ++ text) w.styled.runStyle := by
        rw [print_main htext hwindow]
        rfl
      rw [if_neg hwindow, hprint, glyphsOf_append, ← List.append_assoc, hstyle]
      refine congrArg (· ++ _) ?_
      rw [← styled_pending, ← hstyle]
      rfl
  | splitWindow | setColour =>
    exact (emit_pending rfl w).trans (List.append_nil _).symm
  | eraseWindow window =>
    refine Eq.trans ?_ (List.append_nil _).symm
    show (w.eraseWindow window).pending = w.pending
    rw [eraseWindow_eq, emit_pending rfl]
    rfl
  | eraseLine =>
    show (w.eraseLine).pending = w.pending ++ []
    rw [List.append_nil]
    unfold eraseLine
    split <;> rfl
  | setCursor row col =>
    show (w.setCursor row col).pending = w.pending ++ []
    rw [List.append_nil]
    unfold setCursor
    split
    · rfl
    · simp [pending, Order.glyphs]
  | setWindow | setStyle => exact (List.append_nil _).symm

/-- What a call makes of the settings depends on them alone. -/
theorem apply_settings (call : Call) {v w : Window} (h : v.settings = w.settings) :
    (call.apply v).settings = (call.apply w).settings := by
  have hwindow : v.window = w.window := congrArg Settings.window h
  cases call with
  | print text =>
    show (v.print text).settings = (w.print text).settings
    by_cases htext : text = ""
    · subst htext
      exact h
    by_cases hupper : w.window = upper
    · rw [print_upper htext hupper, print_upper htext (hwindow.trans hupper)]
      exact congrArg (fun s : Settings =>
        { s with cursor := (s.cursor.1, saturatingAdd s.cursor.2 (.ofNat text.length)) }) h
    · rw [print_main htext hupper, print_main htext (hwindow ▸ hupper)]
      show v.styled.settings = w.styled.settings
      rw [styled_settings, styled_settings]
      exact congrArg (fun s : Settings => { s with runStyle := s.style }) h
  | setWindow window =>
    exact congrArg (fun s : Settings =>
      { s with window, cursor := if window = upper then (1, 1) else s.cursor }) h
  | splitWindow | setColour =>
    exact (emit_settings _ v).trans (h.trans (emit_settings _ w).symm)
  | eraseWindow window =>
    show (v.eraseWindow window).settings = (w.eraseWindow window).settings
    rw [eraseWindow_eq, eraseWindow_eq, emit_settings, emit_settings]
    exact h
  | eraseLine =>
    have hline (u : Window) : u.eraseLine.settings = u.settings := by
      unfold Window.eraseLine
      split <;> rfl
    exact (hline v).trans (h.trans (hline w).symm)
  | setCursor row col =>
    show (v.setCursor row col).settings = (w.setCursor row col).settings
    unfold Window.setCursor
    by_cases hupper : w.window ≠ upper
    · rw [if_pos hupper, if_pos (hwindow ▸ hupper)]
      exact h
    · rw [if_neg hupper, if_neg (hwindow ▸ hupper)]
      exact congrArg (fun s : Settings => { s with cursor := (row, col) }) h
  | setStyle style =>
    exact congrArg (fun s : Settings =>
      { s with style := if style = 0 then 0 else s.style ||| style }) h

/-- What a call sends depends on the settings alone. -/
theorem sent_settings (call : Call) {v w : Window} (h : v.settings = w.settings) :
    call.sent v = call.sent w := by
  cases call with
  | print text =>
    exact congrArg (fun s : Settings =>
      if s.window = upper then [] else glyphsOf text s.style) h
  | _ => rfl

/-- A call adds only orders that show something or set the screen. -/
theorem Orderly.apply {w : Window} (h : w.Orderly) (call : Call) : (call.apply w).Orderly := by
  cases call with
  | print text =>
    show (w.print text).Orderly
    by_cases htext : text = ""
    · subst htext
      exact h
    by_cases hupper : w.window = upper
    · rw [print_upper htext hupper]
      exact h
    · rw [print_main htext hupper]
      exact h.styled
  | splitWindow lines => exact h.emit (.splitWindow lines) rfl
  | setColour foreground background => exact h.emit (.setColour foreground background) rfl
  | eraseWindow window =>
    show (w.eraseWindow window).Orderly
    rw [eraseWindow_eq]
    have herased : Orderly { w with status := if window < 0 ∨ window = 1 then "" else w.status } := h
    exact herased.emit (.eraseWindow window) rfl
  | eraseLine =>
    show w.eraseLine.Orderly
    unfold Window.eraseLine
    split <;> exact h
  | setCursor row col =>
    show (w.setCursor row col).Orderly
    unfold Window.setCursor
    split
    · exact h
    · intro order horder
      rcases Array.mem_push.1 horder with hold | rfl
      · exact h order hold
      · rfl
  | setWindow | setStyle => exact h

/-! ## What some calls do -/

theorem play_pending (calls : List Call) (w : Window) :
    (play calls w).pending = w.pending ++ sent calls w := by
  induction calls generalizing w with
  | nil => exact (List.append_nil _).symm
  | cons call rest ih =>
    unfold play sent
    rw [ih, apply_pending, List.append_assoc]

theorem sent_of_settings (calls : List Call) {v w : Window} (h : v.settings = w.settings) :
    sent calls v = sent calls w := by
  induction calls generalizing v w with
  | nil => rfl
  | cons call rest ih =>
    unfold sent
    rw [sent_settings call h, ih (apply_settings call h)]

theorem Orderly.play {w : Window} (h : w.Orderly) (calls : List Call) :
    (Window.play calls w).Orderly := by
  induction calls generalizing w with
  | nil => exact h
  | cons call rest ih => exact ih (h.apply call)

end Window
end ZMachine
