import Mathlib.Data.List.Chain
import ZMachine.Proofs.Window

/-!
# The order in which the screen hands over

A call asks for one order at most: a text for the main window, or a change of the screen.  What was
asked for should be handed over in the order of the calls, with texts joined that stand side by side
in one style:

    (play calls {}).flush.1 = joined (asked calls {})

The screen holds back the text that may still grow.  A change closes that text and comes after it,
with one exception: a move of the cursor goes ahead of the text.  So the equation holds exactly if
nowhere a move of the cursor directly follows a text.  Apart from those moves the order is always
that of the calls, and so is the order of the changes among themselves.
-/

namespace ZMachine

namespace Order

/-! ## Texts side by side -/

/-- Whether an order is a text for the main window. -/
def isText : Order → Bool
  | stream .main .. => true
  | _ => false

/-- Whether an order moves the cursor. -/
def isCursor : Order → Bool
  | setCursor .. => true
  | _ => false

theorem isText_eq_false {order : Order}
    (h : ∀ text style, order = stream .main text style → False) : order.isText = false := by
  unfold isText
  split
  · next text style => exact (h text style rfl).elim
  · rfl

/-- A text in front of orders; with a text of its style it becomes one. -/
def joinText (text : String) (style : UInt16) : List Order → List Order
  | stream .main more style' :: rest =>
    if style = style' then stream .main (text ++ more) style :: rest
    else stream .main text style :: stream .main more style' :: rest
  | rest => stream .main text style :: rest

/-- Orders with the texts joined that stand side by side in one style. -/
def joined : List Order → List Order
  | [] => []
  | stream .main text style :: rest => joinText text style (joined rest)
  | order :: rest => order :: joined rest

/-- No move of the cursor directly follows a text. -/
def MovesApart (orders : List Order) : Prop :=
  orders.IsChain fun order next => order.isText = true → next.isCursor = false

variable {text more : String} {style style' : UInt16} {order : Order} {rest : List Order}

/-- A text stays in front, whatever it is joined with. -/
theorem joinText_eq (text : String) (style : UInt16) (rest : List Order) :
    ∃ more later, joinText text style rest = stream .main (text ++ more) style :: later := by
  unfold joinText
  split
  · next more style' later =>
    split
    · exact ⟨more, later, rfl⟩
    · exact ⟨"", stream .main more style' :: later, by rw [String.append_empty]⟩
  · exact ⟨"", rest, by rw [String.append_empty]⟩

theorem joinText_joinText (text more : String) (style : UInt16) (rest : List Order) :
    joinText text style (joinText more style rest) = joinText (text ++ more) style rest := by
  conv => enter [1, 3]; unfold joinText
  conv => rhs; unfold joinText
  split
  · split
    · next h => simp [joinText, String.append_assoc]
    · simp [joinText]
  · simp [joinText]

theorem joinText_of_not_text (h : order.isText = false) (text : String) (style : UInt16)
    (rest : List Order) :
    joinText text style (order :: rest) = stream .main text style :: order :: rest := by
  unfold joinText
  split
  · next heq =>
    cases heq
    cases h
  · rfl

theorem joined_of_not_text (h : order.isText = false) (rest : List Order) :
    joined (order :: rest) = order :: joined rest := by
  cases order with
  | stream target text style =>
    cases target with
    | main => cases h
    | status => rfl
  | _ => rfl

theorem joined_other (h : style ≠ style') (text more : String) (rest : List Order) :
    joined (stream .main text style :: stream .main more style' :: rest) =
      stream .main text style :: joined (stream .main more style' :: rest) := by
  obtain ⟨more', later, hjoin⟩ := joinText_eq more style' (joined rest)
  have hrest : joined (stream .main more style' :: rest) = stream .main (more ++ more') style' :: later :=
    hjoin
  show joinText text style (joined (stream .main more style' :: rest)) = _
  rw [hrest]
  exact if_neg h

theorem movesApart_of_not_text (h : order.isText = false) :
    MovesApart (order :: rest) ↔ MovesApart rest := by
  cases rest with
  | nil => simp [MovesApart]
  | cons next rest => simp [MovesApart, h]

/-- Where nothing moves the cursor, no move follows a text. -/
theorem movesApart_of_no_moves {orders : List Order} (h : ∀ order ∈ orders, order.isCursor = false) :
    MovesApart orders :=
  List.Pairwise.isChain <|
    List.pairwise_of_forall_mem_list fun _ _ next hnext _ => h next hnext

/-! ## Holding a text back -/

/-- The text that is held back, if there is one. -/
def held : Option (String × UInt16) → List Order
  | none => []
  | some (text, style) => [stream .main text style]

/-- What is handed over for orders that are asked for while a text is held back. -/
def gather (run : Option (String × UInt16)) : List Order → List Order
  | [] => held run
  | stream .main more style' :: rest =>
    match run with
    | none => gather (some (more, style')) rest
    | some (text, style) =>
      if style = style' then gather (some (text ++ more, style)) rest
      else stream .main text style :: gather (some (more, style')) rest
  | order :: rest =>
    if order.isCursor then order :: gather run rest else held run ++ order :: gather none rest

/-- A change of the screen comes after the text that was held back. -/
theorem gather_change (htext : order.isText = false) (hcursor : order.isCursor = false)
    (run : Option (String × UInt16)) (rest : List Order) :
    gather run (order :: rest) = held run ++ order :: gather none rest := by
  cases order with
  | stream target text style =>
    cases target with
    | main => cases htext
    | status => rfl
  | setCursor row col => cases hcursor
  | _ => rfl

/-- A change keeps what was before it from what comes after it. -/
theorem joined_change (h : order.isText = false) (run : Option (String × UInt16))
    (rest : List Order) : joined (held run ++ order :: rest) = held run ++ order :: joined rest := by
  cases run with
  | none => exact joined_of_not_text h rest
  | some run =>
    show joinText run.1 run.2 (joined (order :: rest)) = _
    rw [joined_of_not_text h]
    exact joinText_of_not_text h run.1 run.2 (joined rest)

theorem movesApart_change (htext : order.isText = false) (hcursor : order.isCursor = false)
    (run : Option (String × UInt16)) : MovesApart (held run ++ order :: rest) ↔ MovesApart rest := by
  refine Iff.trans ?_ (movesApart_of_not_text htext)
  cases run with
  | none => exact Iff.rfl
  | some run => simp [MovesApart, held, hcursor]

/-- What is held back comes out in turn exactly if no move of the cursor goes ahead of it. -/
theorem gather_eq_joined_iff (run : Option (String × UInt16)) (orders : List Order) :
    gather run orders = joined (held run ++ orders) ↔ MovesApart (held run ++ orders) := by
  fun_induction gather run orders with
  | case1 run => cases run <;> simp [held, joined, joinText, MovesApart]
  | case2 more style' rest ih => exact ih
  | case3 more rest text style ih =>
    have hjoined : joined (held (some (text, style)) ++ stream .main more style :: rest) =
        joined (held (some (text ++ more, style)) ++ rest) :=
      joinText_joinText text more style (joined rest)
    have hapart : MovesApart (held (some (text, style)) ++ stream .main more style :: rest) ↔
        MovesApart (held (some (text ++ more, style)) ++ rest) := by
      cases rest <;> simp [MovesApart, held, isText, isCursor]
    rw [hjoined, hapart]
    exact ih
  | case4 more style' rest text style h ih =>
    have hjoined : joined (held (some (text, style)) ++ stream .main more style' :: rest) =
        stream .main text style :: joined (held (some (more, style')) ++ rest) :=
      joined_other h text more rest
    have hapart : MovesApart (held (some (text, style)) ++ stream .main more style' :: rest) ↔
        MovesApart (held (some (more, style')) ++ rest) := by
      simp [MovesApart, held, isCursor]
    rw [hjoined, hapart, List.cons_inj_right]
    exact ih
  | case5 run order rest htext hcursor ih =>
    have horder := isText_eq_false htext
    rw [joined_change horder]
    cases run with
    | none =>
      show _ ↔ MovesApart (order :: rest)
      rw [movesApart_of_not_text horder]
      exact (List.cons_inj_right order).trans ih
    | some run =>
      -- The move goes ahead of a text, on the left as on the right.
      have hahead : ¬ MovesApart (held (some run) ++ order :: rest) := by
        simp [MovesApart, held, isText, hcursor]
      refine iff_of_false (fun h => ?_) hahead
      obtain ⟨rfl, -⟩ := List.cons.inj h
      cases hcursor
  | case6 run order rest htext hcursor ih =>
    have horder := isText_eq_false htext
    rw [joined_change horder, movesApart_change horder (Bool.eq_false_iff.2 hcursor),
      List.append_cancel_left_eq, List.cons_inj_right]
    exact ih

/-- The changes come in turn, wherever texts are held back. -/
theorem gather_changes (run : Option (String × UInt16)) (orders : List Order) :
    (gather run orders).filter (fun order => !order.isText) =
      orders.filter (fun order => !order.isText) := by
  have hheld (run : Option (String × UInt16)) :
      (held run).filter (fun order => !order.isText) = [] := by
    cases run <;> rfl
  fun_induction gather run orders with
  | case1 run => exact hheld run
  | case2 more style' rest ih => exact ih
  | case3 more rest text style ih => exact ih
  | case4 more style' rest text style h ih => exact ih
  | case5 run order rest htext hcursor ih => rw [List.filter_cons, List.filter_cons, ih]
  | case6 run order rest htext hcursor ih =>
    rw [List.filter_append, hheld, List.nil_append, List.filter_cons, List.filter_cons, ih]

/-- But for the moves of the cursor, all comes as if there were none. -/
theorem gather_but_moves (run : Option (String × UInt16)) (orders : List Order) :
    (gather run orders).filter (fun order => !order.isCursor) =
      gather run (orders.filter (fun order => !order.isCursor)) := by
  have hheld (run : Option (String × UInt16)) :
      (held run).filter (fun order => !order.isCursor) = held run := by
    cases run <;> rfl
  fun_induction gather run orders with
  | case1 run => exact hheld run
  | case2 more style' rest ih => exact ih
  | case3 more rest text style ih => exact ih.trans (if_pos rfl).symm
  | case4 more style' rest text style h ih =>
    exact (congrArg (stream .main text style :: ·) ih).trans (if_neg h).symm
  | case5 run order rest htext hcursor ih =>
    rw [List.filter_cons_of_neg (by simp [hcursor]), List.filter_cons_of_neg (by simp [hcursor])]
    exact ih
  | case6 run order rest htext hcursor ih =>
    rw [List.filter_append, hheld, List.filter_cons_of_pos (by simp [hcursor]),
      List.filter_cons_of_pos (by simp [hcursor]), ih]
    exact (gather_change (isText_eq_false htext) (Bool.eq_false_iff.2 hcursor) _ _).symm

end Order

namespace Window

/-! ## What the calls ask for -/

/-- Where a story writes, and in which style. -/
structure Pen where
  window : UInt16 := 0
  style : UInt16 := 0

/-- What a call makes of the pen. -/
def Pen.next (pen : Pen) : Call → Pen
  | .setWindow window => { pen with window }
  | .setStyle style => { pen with style := if style = 0 then 0 else pen.style ||| style }
  | _ => pen

/-- What a call asks the host for.  To print nothing asks for nothing. -/
def Pen.asks (pen : Pen) : Call → List Order
  | .print text =>
    if text = "" ∨ pen.window = upper then [] else [.stream .main text pen.style]
  | .splitWindow lines => [.splitWindow lines]
  | .eraseWindow window => [.eraseWindow window]
  | .setCursor row col => if pen.window = upper then [.setCursor row col] else []
  | .setColour foreground background => [.setColour foreground background]
  | .setWindow _ | .eraseLine | .setStyle _ => []

/-- What some calls ask the host for. -/
def asked : List Call → Pen → List Order
  | [], _ => []
  | call :: rest, pen => pen.asks call ++ asked rest (pen.next call)

/-- The pen of a screen. -/
def pen (w : Window) : Pen where
  window := w.window
  style := w.style

/-- The text that a screen holds back. -/
def run? (w : Window) : Option (String × UInt16) :=
  if w.run = "" then none else some (w.run, w.runStyle)

theorem run?_of_empty {w : Window} (h : w.run = "") : w.run? = none :=
  if_pos h

theorem run?_of_print {w : Window} (run : String) {text : String} (h : text ≠ "")
    (hrun : w.run = run ++ text) : w.run? = some (run ++ text, w.runStyle) := by
  unfold run?
  rw [hrun, if_neg (fun hempty => h (String.append_eq_empty_iff.1 hempty).2)]

theorem closeRun_pen (w : Window) : w.closeRun.pen = w.pen := by
  unfold closeRun
  split <;> rfl

theorem closeRun_orders (w : Window) :
    w.closeRun.orders.toList = w.orders.toList ++ Order.held w.run? := by
  unfold closeRun run?
  by_cases h : w.run = ""
  · rw [if_pos h, if_pos (String.isEmpty_iff.2 h)]
    exact (List.append_nil _).symm
  · rw [if_neg h, if_neg (fun hempty => h (String.isEmpty_iff.1 hempty))]
    exact Array.toList_push

theorem flush_orders (w : Window) : w.flush.1 = w.orders.toList ++ Order.held w.run? :=
  w.closeRun_orders

theorem apply_pen (call : Call) (w : Window) : (call.apply w).pen = w.pen.next call := by
  cases call with
  | print text =>
    show (w.print text).pen = w.pen
    by_cases htext : text = ""
    · subst htext
      rfl
    by_cases hupper : w.window = upper
    · rw [print_upper htext hupper]
      rfl
    · rw [print_main htext hupper]
      show w.styled.pen = w.pen
      unfold styled
      split
      · rfl
      · exact w.closeRun_pen
  | splitWindow | setColour => exact w.closeRun_pen
  | eraseWindow window =>
    show (w.eraseWindow window).pen = w.pen
    rw [eraseWindow_eq]
    exact closeRun_pen _
  | eraseLine =>
    show w.eraseLine.pen = w.pen
    unfold eraseLine
    split <;> rfl
  | setCursor row col =>
    show (w.setCursor row col).pen = w.pen
    unfold setCursor
    split <;> rfl
  | setWindow | setStyle => rfl

/-- A text that is printed in the main window is held back, alone or with what was. -/
theorem print_orders {text : String} {w : Window} (htext : text ≠ "") (hupper : w.window ≠ upper)
    (orders : List Order) :
    (w.print text).orders.toList ++ Order.gather (w.print text).run? orders =
      w.orders.toList ++ Order.gather w.run? (.stream .main text w.style :: orders) := by
  have hprint := print_main htext hupper
  have hrun : (w.print text).run? = some (w.styled.run ++ text, w.styled.runStyle) := by
    rw [hprint]
    exact run?_of_print w.styled.run htext rfl
  rw [hrun, hprint]
  by_cases hstyle : w.style = w.runStyle
  · have hstyled : w.styled = w := if_pos hstyle
    rw [hstyled, hstyle]
    by_cases hempty : w.run = ""
    · rw [run?_of_empty hempty, hempty, String.empty_append]
      rfl
    · have hheld : w.run? = some (w.run, w.runStyle) := if_neg hempty
      rw [hheld]
      exact congrArg (_ ++ ·) (if_pos rfl).symm
  · have hstyled : w.styled = { w.closeRun with runStyle := w.style } := if_neg hstyle
    rw [hstyled]
    show w.closeRun.orders.toList ++ Order.gather (some (w.closeRun.run ++ text, w.style)) orders = _
    rw [closeRun_run, String.empty_append, closeRun_orders, List.append_assoc]
    by_cases hempty : w.run = ""
    · rw [run?_of_empty hempty]
      rfl
    · have hheld : w.run? = some (w.run, w.runStyle) := if_neg hempty
      rw [hheld]
      exact congrArg (_ ++ ·) (if_neg (Ne.symm hstyle)).symm

/-- A change of the screen comes after what is held back. -/
theorem emit_orders {order : Order} (htext : order.isText = false) (hcursor : order.isCursor = false)
    (w : Window) (orders : List Order) :
    (w.emit order).orders.toList ++ Order.gather (w.emit order).run? orders =
      w.orders.toList ++ Order.gather w.run? (order :: orders) := by
  have hrun : (w.emit order).run? = none := run?_of_empty w.closeRun_run
  rw [hrun, Order.gather_change htext hcursor]
  show (w.closeRun.orders.push order).toList ++ _ = _
  rw [Array.toList_push, closeRun_orders, List.append_assoc, List.append_assoc]
  rfl

/-- What a call asks for comes after what is held back, and is held back itself if it is a text. -/
theorem apply_orders (call : Call) (w : Window) (orders : List Order) :
    (call.apply w).orders.toList ++ Order.gather (call.apply w).run? orders =
      w.orders.toList ++ Order.gather w.run? (w.pen.asks call ++ orders) := by
  cases call with
  | print text =>
    show (w.print text).orders.toList ++ Order.gather (w.print text).run? orders = _
    by_cases htext : text = ""
    · subst htext
      rfl
    by_cases hupper : w.window = upper
    · have hasks : w.pen.asks (.print text) = [] := if_pos (Or.inr hupper)
      rw [print_upper htext hupper, hasks]
      rfl
    · have hasks : w.pen.asks (.print text) = [.stream .main text w.style] :=
        if_neg (not_or.2 ⟨htext, hupper⟩)
      rw [hasks]
      exact print_orders htext hupper orders
  | splitWindow lines => exact emit_orders rfl rfl w orders
  | setColour foreground background => exact emit_orders rfl rfl w orders
  | eraseWindow window =>
    show (w.eraseWindow window).orders.toList ++ Order.gather (w.eraseWindow window).run? orders = _
    rw [eraseWindow_eq]
    exact emit_orders rfl rfl _ orders
  | eraseLine =>
    show w.eraseLine.orders.toList ++ Order.gather w.eraseLine.run? orders = _
    unfold eraseLine
    split <;> rfl
  | setCursor row col =>
    show (w.setCursor row col).orders.toList ++ Order.gather (w.setCursor row col).run? orders = _
    unfold setCursor
    by_cases hupper : w.window = upper
    · have hasks : w.pen.asks (.setCursor row col) = [.setCursor row col] := if_pos hupper
      rw [hasks, if_neg (not_not.2 hupper)]
      show (w.orders.push (.setCursor row col)).toList ++ _ = _
      rw [Array.toList_push, List.append_assoc]
      rfl
    · have hasks : w.pen.asks (.setCursor row col) = [] := if_neg hupper
      rw [hasks, if_pos hupper]
      rfl
  | setWindow | setStyle => rfl

/-- All that is handed over in the end, from what the calls ask for. -/
theorem play_orders (calls : List Call) (w : Window) :
    (play calls w).flush.1 = w.orders.toList ++ Order.gather w.run? (asked calls w.pen) := by
  induction calls generalizing w with
  | nil => exact w.flush_orders
  | cons call rest ih =>
    unfold play asked
    rw [ih, apply_pen, apply_orders]

/-! ## A screen from its beginning -/

/-- What some calls ask of a new screen is handed over in their order, with texts joined that stand
side by side in one style, exactly if no move of the cursor directly follows a text.  But for the
moves of the cursor it always is, and the changes of the screen always come in the order of the
calls. -/
theorem flush_in_order_iff (calls : List Call) :
    ((play calls {}).flush.1 = Order.joined (asked calls {}) ↔
        Order.MovesApart (asked calls {})) ∧
      (play calls {}).flush.1.filter (fun order => !order.isCursor) =
        Order.joined ((asked calls {}).filter fun order => !order.isCursor) ∧
      (play calls {}).flush.1.filter (fun order => !order.isText) =
        (asked calls {}).filter fun order => !order.isText := by
  have hflush : (play calls {}).flush.1 = Order.gather none (asked calls {}) := play_orders calls {}
  rw [hflush, Order.gather_but_moves, Order.gather_changes]
  refine ⟨Order.gather_eq_joined_iff none _, ?_, rfl⟩
  refine (Order.gather_eq_joined_iff none _).2 ?_
  refine Order.movesApart_of_no_moves fun order horder => ?_
  exact Bool.not_eq_true' _ ▸ (List.mem_filter.1 horder).2

/-- A text that is printed before the cursor of the upper window is moved comes after that move. -/
theorem flush_not_always_in_order :
    (play [.print "x", .setWindow 1, .setCursor 1 1] {}).flush.1 =
        [.setCursor 1 1, .stream .main "x" 0] ∧
      (play [.print "x", .setWindow 1, .setCursor 1 1] {}).flush.1 ≠
        Order.joined (asked [.print "x", .setWindow 1, .setCursor 1 1] {}) := by
  decide

end Window
end ZMachine
