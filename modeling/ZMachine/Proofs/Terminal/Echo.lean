import Mathlib.Data.List.TakeDrop
import ZMachine.Terminal.Script
import ZMachine.Proofs.Engine.Batch
import ZMachine.Proofs.Window.Emission

/-!
# What a session shows

A session shows the main text of a story in outputs and prompts.  The engine prints a typed line
again, in the window that is selected, and the player has seen the line already.  So of the text of
each exchange the echo should be left out, and nothing else:

    shown transcript = the text of each exchange after its echo, one after another

The session does not know where the engine prints the line.  It drops the line from the next main
text that begins with it.  If the line was read in the main window, that is the echo.  If it was read
in the upper window there is no echo in the main text, and what is dropped is the story's own.  The
equation fails exactly if that comes to pass, and then something is missing, but nothing is shown
twice or out of turn.
-/

namespace ZMachine

/-! ## The texts of a batch -/

/-- The text that an order has for the main window. -/
def Order.text? : Order → Option String
  | stream .main text _ => some text
  | _ => none

/-- The main texts of a batch, one after another. -/
def mainTexts (batch : List Order) : List String :=
  batch.filterMap Order.text?

theorem mainTexts_append (before later : List Order) :
    mainTexts (before ++ later) = mainTexts before ++ mainTexts later :=
  List.filterMap_append

theorem Order.text?_of_change {order : Order} (h : order.isText = false) : order.text? = none := by
  cases order with
  | stream target text style =>
    cases target with
    | main => cases h
    | status => rfl
  | _ => rfl

theorem Order.text?_eq_some {order : Order} {text : String} (h : order.text? = some text) :
    ∃ style, order = stream .main text style := by
  unfold text? at h
  split at h
  · cases h
    exact ⟨_, rfl⟩
  · cases h

/-- The text that is held back begins the first one that is handed over. -/
theorem Order.gather_held {run : Option (String × UInt16)} {text : String} {style : UInt16}
    (hrun : run = some (text, style)) (orders : List Order) :
    ∃ more later, mainTexts (gather run orders) = (text ++ more) :: later := by
  fun_induction gather run orders generalizing text style with
  | case1 run =>
    subst hrun
    exact ⟨"", [], by rw [String.append_empty]; rfl⟩
  | case2 more style' rest ih => cases hrun
  | case3 more rest text style ih =>
    cases hrun
    obtain ⟨last, later, hlater⟩ := ih rfl
    exact ⟨more ++ last, later, by rw [hlater, String.append_assoc]⟩
  | case4 more style' rest text style h ih =>
    cases hrun
    exact ⟨"", mainTexts (gather (some (more, style')) rest), by rw [String.append_empty]; rfl⟩
  | case5 run order rest htext hcursor ih =>
    obtain ⟨more, later, hlater⟩ := ih hrun
    refine ⟨more, later, ?_⟩
    unfold mainTexts at hlater ⊢
    rw [List.filterMap_cons_none (text?_of_change (isText_eq_false htext)), hlater]
  | case6 run order rest htext hcursor ih =>
    subst hrun
    exact ⟨"", mainTexts (order :: gather none rest), by rw [String.append_empty]; rfl⟩

namespace Engine

/-- A typed line that is shown in the main window comes before all that the story prints. -/
theorem asked_echo (i : LineInput) {pen : Window.Pen} (hmain : pen.window ≠ Window.upper)
    (story : List Window.Call) :
    ∃ orders, Order.gather none (Window.asked ((Event.read i).echo ++ story) pen) =
      Order.gather (some (i.response ++ "\n", pen.style)) orders := by
  refine ⟨Window.asked story pen, ?_⟩
  have hbreak : pen.asks (.print "\n") = [.stream .main "\n" pen.style] :=
    if_neg (not_or.2 ⟨by decide, hmain⟩)
  show Order.gather none (pen.asks (.print i.response) ++ (pen.asks (.print "\n") ++ _)) = _
  rw [hbreak]
  by_cases hempty : i.response = ""
  · have hnone : pen.asks (.print i.response) = [] := if_pos (Or.inl hempty)
    rw [hnone, hempty, String.empty_append]
    rfl
  · have hline : pen.asks (.print i.response) = [.stream .main i.response pen.style] :=
      if_neg (not_or.2 ⟨hempty, hmain⟩)
    rw [hline]
    exact if_pos rfl

/-- The texts that answer a line which was read in the main window begin with that line. -/
theorem mainTexts_of_read {units : Config → Nat} {i : LineInput} {env : Option Patch} {e e' : Engine}
    {batch : List Order} (h : handleWithin units ⟨.read i, env⟩ e = .ok batch e')
    (hmain : e.window.window ≠ Window.upper) :
    ∃ more later, mainTexts batch = (i.response ++ "\n" ++ more) :: later := by
  rcases handleWithin_eq_ok h with ⟨-, -, data, hload⟩ | ⟨e₁, hbegin, hrun⟩
  · cases hload
  obtain ⟨r, control, last, hr, hloop, rfl, -⟩ := run_eq_ok hrun
  obtain ⟨horders, hempty, -⟩ := opening_idle ⟨.read i, env⟩ e
  have hwindow : (opening ⟨.read i, env⟩ e).pen.window ≠ Window.upper := by
    have hsettings : (opening ⟨.read i, env⟩ e).settings = e.window.settings :=
      (congrArg Window.settings (ready_window _ e)).trans (settled_settings e.window)
    have hsame : (opening ⟨.read i, env⟩ e).window = e.window.window :=
      congrArg Window.Settings.window hsettings
    exact fun hupper => hmain (hsame.symm.trans hupper)
  have hcalls : ∃ story, calls units ⟨.read i, env⟩ e = (Event.read i).echo ++ story := by
    unfold calls
    rw [hbegin]
    exact ⟨_, rfl⟩
  obtain ⟨story, hcalls⟩ := hcalls
  obtain ⟨orders, hasked⟩ := asked_echo i hwindow story
  have hflush : last.context.window.closeRun.orders.toList =
      Order.gather (some (i.response ++ "\n", (opening ⟨.read i, env⟩ e).pen.style)) orders := by
    have hplay := Window.play_orders (calls units ⟨.read i, env⟩ e) (opening ⟨.read i, env⟩ e)
    rw [← closing_window hbegin hr hloop, horders, Window.run?_of_empty hempty, hcalls, hasked] at hplay
    exact hplay
  obtain ⟨more, later, hlater⟩ := Order.gather_held rfl orders
  refine ⟨more, later ++ mainTexts (statusOrders last.context.window) ++ mainTexts [control], ?_⟩
  rw [deliver_eq, mainTexts_append, mainTexts_append, hflush, hlater]
  rfl

end Engine

namespace Terminal

/-! ## What is shown -/

/-- The main text that an entry shows. -/
def Entry.shown : Entry → List Char
  | text shown => shown.toList
  | prompt asked => asked.toList
  | status _ => []

/-- The main text that a transcript, the newest entry first, shows. -/
def shown (transcript : List Entry) : List Char :=
  transcript.reverse.flatMap Entry.shown

theorem shown_cons (entry : Entry) (transcript : List Entry) :
    shown (entry :: transcript) = shown transcript ++ entry.shown := by
  simp [shown]

/-- What is left of some texts when a line is awaited that may begin the first one. -/
def kept (awaited : Option (List Char)) : List String → List Char
  | [] => []
  | text :: rest => Session.withoutEcho awaited text.toList ++ rest.flatMap String.toList

theorem kept_none (texts : List String) : kept none texts = texts.flatMap String.toList := by
  cases texts <;> rfl

namespace Session

/-- The main text that was shown and what waits to be. -/
def out (s : Session) : List Char :=
  shown s.transcript ++ s.pending

theorem emitText_keeps (chars : List Char) (s : Session) :
    (s.emitText chars).pending = s.pending ∧ (s.emitText chars).echo = s.echo := by
  unfold emitText
  split <;> exact ⟨rfl, rfl⟩

theorem emitText_shown (chars : List Char) (s : Session) :
    shown (s.emitText chars).transcript = shown s.transcript ++ chars := by
  unfold emitText
  split
  · next h => rw [List.isEmpty_iff.1 h, List.append_nil]
  · show shown (.text (.ofList chars) :: s.transcript) = _
    rw [shown_cons]
    exact congrArg (_ ++ ·) String.toList_ofList

theorem splitAfterBreak_append (chars : List Char) :
    (Text.splitAfterBreak chars).1 ++ (Text.splitAfterBreak chars).2 = chars := by
  unfold Text.splitAfterBreak
  rw [List.span_eq_takeWhile_dropWhile]
  dsimp only
  rw [← List.reverse_append, List.takeWhile_append_dropWhile, List.reverse_reverse]

/-- Main text is taken in without the line that was awaited, if it begins with it. -/
theorem write_out (chars : List Char) (s : Session) :
    (s.write chars).out = s.out ++ withoutEcho s.echo chars ∧ (s.write chars).echo = none := by
  have hsplit := splitAfterBreak_append (s.pending ++ withoutEcho s.echo chars)
  unfold write
  generalize Text.splitAfterBreak (s.pending ++ withoutEcho s.echo chars) = split at hsplit
  obtain ⟨whole, rest⟩ := split
  dsimp only at hsplit ⊢
  obtain ⟨hpending, hecho⟩ := emitText_keeps whole { s with echo := none, pending := rest }
  refine ⟨?_, hecho⟩
  unfold out
  rw [hpending, emitText_shown]
  show shown s.transcript ++ whole ++ rest = _
  rw [List.append_assoc, hsplit, ← List.append_assoc]

/-- An order that writes nothing in the main window shows nothing of it. -/
theorem showOrder_out {order : Order} (h : order.text? = none) (s : Session) :
    (s.showOrder order).out = s.out ∧ (s.showOrder order).echo = s.echo := by
  have hpass : (if order.isControl then s else s.passOver).out = s.out ∧
      (if order.isControl then s else s.passOver).echo = s.echo := by
    split <;> exact ⟨rfl, rfl⟩
  cases order with
  | stream target text style =>
    cases target with
    | main => cases h
    | status =>
      show (s.showStatus text).out = s.out ∧ (s.showStatus text).echo = s.echo
      unfold showStatus
      split
      · exact ⟨rfl, rfl⟩
      · refine ⟨?_, rfl⟩
        show shown (.status text :: s.transcript) ++ s.pending = s.out
        rw [shown_cons]
        exact congrArg (· ++ s.pending) (List.append_nil _)
  | _ => exact hpass

/-- Showing a batch adds what is left of its texts. -/
theorem showAll_out (batch : List Order) (s : Session) :
    (s.showAll batch).out = s.out ++ kept s.echo (mainTexts batch) ∧
      (s.showAll batch).echo = if mainTexts batch = [] then s.echo else none := by
  induction batch generalizing s with
  | nil => exact ⟨(List.append_nil _).symm, rfl⟩
  | cons order rest ih =>
    obtain ⟨hout, hecho⟩ := ih (s.showOrder order)
    show ((s.showOrder order).showAll rest).out = _ ∧ ((s.showOrder order).showAll rest).echo = _
    rw [hout, hecho]
    cases htext : order.text? with
    | none =>
      have hrest : mainTexts (order :: rest) = mainTexts rest := List.filterMap_cons_none htext
      obtain ⟨hsame, hawaits⟩ := showOrder_out htext s
      rw [hrest, hsame, hawaits]
      exact ⟨rfl, rfl⟩
    | some text =>
      have hrest : mainTexts (order :: rest) = text :: mainTexts rest := List.filterMap_cons_some htext
      have hwrite : s.showOrder order = s.write text.toList := by
        obtain ⟨style, rfl⟩ := Order.text?_eq_some htext
        rfl
      obtain ⟨hsame, hawaits⟩ := s.write_out text.toList
      rw [hrest, hwrite, hsame, hawaits, kept_none]
      refine ⟨List.append_assoc _ _ _, ?_⟩
      rw [if_neg (List.cons_ne_nil text (mainTexts rest))]
      split <;> rfl

theorem finish_out (s : Session) :
    s.finish.out = s.out ∧ s.finish.echo = s.echo ∧ s.finish.pending = [] := by
  obtain ⟨hpending, hecho⟩ := emitText_keeps s.pending { s with pending := [] }
  refine ⟨?_, hecho, hpending⟩
  unfold out finish
  rw [hpending, emitText_shown, List.append_nil]

/-- Nothing is lost where a session stops, and nothing waits where it ends. -/
theorem stopAt_out (control : Option Order) (s : Session) :
    (s.stopAt control).2.out = s.out ∧ (s.stopAt control).2.echo = s.echo ∧
      ((s.stopAt control).1 = .over → (s.stopAt control).2.pending = []) := by
  have hask : s.ask.out = s.out := by
    show shown (.prompt (.ofList s.pending) :: s.transcript) ++ [] = _
    rw [shown_cons, List.append_nil]
    exact congrArg (_ ++ ·) String.toList_ofList
  obtain ⟨hfinish, hecho, hpending⟩ := s.finish_out
  cases control with
  | none => exact ⟨hfinish, hecho, fun _ => hpending⟩
  | some control =>
    cases control with
    | quit => exact ⟨hfinish, hecho, fun _ => hpending⟩
    | read | char => exact ⟨hask, rfl, nofun⟩
    | _ => exact ⟨rfl, rfl, nofun⟩

end Session

/-! ## Exchanges -/

/-- An event that a session sent to its engine, and the batch that came back. -/
structure Exchange where
  /-- How far the story may run. -/
  units : Config → Nat
  event : Event
  /-- The engine that took the event. -/
  engine : Engine
  batch : List Order

namespace Exchange

/-- The main text that came back. -/
def text (x : Exchange) : List Char :=
  (mainTexts x.batch).flatMap String.toList

/-- What the engine itself prints of a typed line in the main window. -/
def echo (x : Exchange) : List Char :=
  (Window.sent x.event.echo x.engine.window).map Prod.fst

/-- The line that a session awaits after the event. -/
def line? (x : Exchange) : Option (List Char) :=
  match x.event with
  | .read input => some (input.response.toList ++ ['\n'])
  | _ => none

/-- The batch is what the engine answers. -/
def Answered (x : Exchange) : Prop :=
  ∃ e, Engine.handleWithin x.units { event := x.event } x.engine = .ok x.batch e

end Exchange

/-- An event and what the engine answers; a fault has no batch. -/
def exchange (units : Config → Nat) (event : Event) (engine : Engine) : Exchange where
  units
  event
  engine
  batch := match Engine.handleWithin units { event } engine with
    | .ok batch _ => batch
    | .error .. => []

/-- The exchanges of a session from where it stands. -/
def exchangesFrom (slices : Nat → Config → Nat) :
    (turns : Nat) → Script → Stand × Session → List Exchange
  | turns + 1, k, (.waiting control, s) =>
    match Session.eventOf control (k.answer control).1 with
    | some event =>
      exchange (slices turns) event s.engine ::
        exchangesFrom slices turns (k.answer control).2
          (s.advanceWithin (slices turns) control (k.answer control).1)
    | none => []
  | _, _, _ => []

/-- The exchanges of a session from the start of the story. -/
def exchanges (slices : Nat → Config → Nat) (turns : Nat) (engine : Engine) (k : Script) :
    List Exchange :=
  exchange (slices turns) .restart engine ::
    exchangesFrom slices turns k (Session.startWithin (slices turns) engine)

/-- What a session that awaits a line shows of some exchanges. -/
def keptOf (awaited : Option (List Char)) : List Exchange → List Char
  | [] => []
  | x :: rest =>
    let awaited := x.line?.or awaited
    kept awaited (mainTexts x.batch) ++
      keptOf (if mainTexts x.batch = [] then awaited else none) rest

theorem expectEcho_out (units : Config → Nat) (event : Event) (s : Session) :
    (s.expectEcho event).out = s.out ∧ (s.expectEcho event).engine = s.engine ∧
      (s.expectEcho event).echo = (exchange units event s.engine).line?.or s.echo := by
  cases event <;> exact ⟨rfl, rfl, rfl⟩

/-- A turn ends in a fault, or the engine answers and what is left of the texts is shown. -/
theorem turn_out (units : Config → Nat) (event : Event) (s : Session) :
    (∃ fault, (s.turn units event).1 = .failed fault) ∨
      (exchange units event s.engine).Answered ∧
        (s.turn units event).2.out =
          s.out ++ kept s.echo (mainTexts (exchange units event s.engine).batch) ∧
        (s.turn units event).2.echo =
          (if mainTexts (exchange units event s.engine).batch = [] then s.echo else none) ∧
        ((s.turn units event).1 = .over → (s.turn units event).2.pending = []) := by
  unfold Session.turn exchange Exchange.Answered
  cases h : Engine.handleWithin units { event } s.engine with
  | error fault engine => exact .inl ⟨fault, rfl⟩
  | ok batch engine =>
    dsimp only
    obtain ⟨hshow, hawaits⟩ := ({ s with engine } : Session).showAll_out batch
    obtain ⟨hstop, hecho, hpending⟩ :=
      (({ s with engine } : Session).showAll batch).stopAt_out (batch.find? Order.isControl)
    exact .inr ⟨⟨engine, rfl⟩, hstop.trans hshow, hecho.trans hawaits, hpending⟩

theorem playWithin_failed (slices : Nat → Config → Nat) (turns : Nat) (k : Script) (fault : Fault) (s : Session) :
    playWithin slices turns k (.failed fault, s) = (k, .failed fault, s) := by
  cases turns <;> rfl

theorem playWithin_over (slices : Nat → Config → Nat) (turns : Nat) (k : Script) (s : Session) :
    playWithin slices turns k (.over, s) = (k, .over, s) := by
  cases turns <;> rfl

/-- A session that comes to its end shows what is left of the texts of its exchanges. -/
theorem playWithin_out (slices : Nat → Config → Nat) (turns : Nat) (k : Script) (stand : Stand) (s : Session)
    (hclosed : stand = .over → s.pending = [])
    (hover : (playWithin slices turns k (stand, s)).2.1 = .over) :
    (∀ x ∈ exchangesFrom slices turns k (stand, s), x.Answered) ∧
      shown (playWithin slices turns k (stand, s)).2.2.transcript =
        s.out ++ keptOf s.echo (exchangesFrom slices turns k (stand, s)) := by
  have hend (s : Session) (h : s.pending = []) : shown s.transcript = s.out ++ keptOf s.echo [] := by
    unfold Session.out keptOf
    rw [h, List.append_nil, List.append_nil]
  induction turns generalizing k stand s with
  | zero =>
    cases stand with
    | waiting | failed => cases hover
    | «over» => exact ⟨fun _ hx => (List.not_mem_nil hx).elim, hend s (hclosed rfl)⟩
  | succ turns ih =>
    cases stand with
    | failed => cases hover
    | «over» => exact ⟨fun _ hx => (List.not_mem_nil hx).elim, hend s (hclosed rfl)⟩
    | waiting control =>
      have hplay : playWithin slices (turns + 1) k (.waiting control, s) =
          playWithin slices turns (k.answer control).2 (s.advanceWithin (slices turns) control (k.answer control).1) := rfl
      rw [hplay] at hover ⊢
      unfold exchangesFrom
      cases hevent : Session.eventOf control (k.answer control).1 with
      | none =>
        have hadvance : s.advanceWithin (slices turns) control (k.answer control).1 = (.over, s.finish) := by
          unfold Session.advanceWithin
          rw [hevent]
        obtain ⟨hfinish, -, hpending⟩ := s.finish_out
        rw [hadvance, playWithin_over, ← hfinish]
        exact ⟨fun _ hx => (List.not_mem_nil hx).elim, hend s.finish hpending⟩
      | some event =>
        have hadvance : s.advanceWithin (slices turns) control (k.answer control).1 = (s.expectEcho event).turn (slices turns) event := by
          unfold Session.advanceWithin
          rw [hevent]
        rw [hadvance] at hover ⊢
        dsimp only
        obtain ⟨hsame, hengine, hline⟩ := expectEcho_out (slices turns) event s
        rcases turn_out (slices turns) event (s.expectEcho event) with ⟨fault, hfault⟩ | ⟨hanswered, hout, hecho, hpending⟩
        · generalize (s.expectEcho event).turn (slices turns) event = next at hover hfault
          obtain ⟨stand, s'⟩ := next
          cases hfault
          rw [playWithin_failed] at hover
          cases hover
        · rw [hengine] at hanswered hout hecho
          obtain ⟨hrest, hshown⟩ := ih (k.answer control).2 _ _ hpending hover
          refine ⟨?_, ?_⟩
          · intro x hx
            rcases List.mem_cons.1 hx with rfl | hx
            · exact hanswered
            · exact hrest x hx
          · rw [hshown, hout, hecho, hsame, hline, List.append_assoc]
            rfl

/-! ## Lines that are awaited -/

/-- The first main text of some exchanges, as far as no line is typed. -/
def firstText (xs : List Exchange) : Option String :=
  (xs.takeWhile fun x => x.line?.isNone).findSome? fun x => (mainTexts x.batch).head?

/-- A line that was read in the upper window, where it leaves the main window as it is, begins the
next main text of the story. -/
def Mistakes (x : Exchange) (later : List Exchange) : Prop :=
  x.engine.window.window = Window.upper ∧
    ∃ line text, x.line? = some line ∧
      (mainTexts x.batch).head?.or (firstText later) = some text ∧ line <+: text.toList

/-- Somewhere text of the story is taken for an echo. -/
def Mistaken (xs : List Exchange) : Prop :=
  ∃ x later, x :: later <:+ xs ∧ Mistakes x later

/-- The awaited line begins the next main text, and that belongs to the story. -/
def Falls (awaited : Option (List Char)) (next : Option String) : Prop :=
  ∃ line text, awaited = some line ∧ next = some text ∧ line <+: text.toList

/-- The text of an exchange without the echo. -/
def Exchange.unechoed (x : Exchange) : List Char :=
  x.text.drop x.echo.length

theorem mistaken_cons (x : Exchange) (rest : List Exchange) :
    Mistaken (x :: rest) ↔ Mistakes x rest ∨ Mistaken rest := by
  unfold Mistaken
  constructor
  · rintro ⟨y, later, hsuffix, hmistakes⟩
    rcases List.suffix_cons_iff.1 hsuffix with heq | hsuffix
    · obtain ⟨rfl, rfl⟩ := List.cons.inj heq
      exact .inl hmistakes
    · exact .inr ⟨y, later, hsuffix, hmistakes⟩
  · rintro (hmistakes | ⟨y, later, hsuffix, hmistakes⟩)
    · exact ⟨x, rest, List.suffix_refl _, hmistakes⟩
    · exact ⟨y, later, hsuffix.trans (List.suffix_cons x rest), hmistakes⟩

/-- Two parts that each fall short at most are all there only if both are. -/
theorem append_eq_iff {a a' b b' : List Char} (ha : a.Sublist a') (hb : b.Sublist b') :
    a ++ b = a' ++ b' ↔ a = a' ∧ b = b' := by
  constructor
  · intro h
    have hlength := congrArg List.length h
    rw [List.length_append, List.length_append] at hlength
    have hale := ha.length_le
    have hble := hb.length_le
    exact ⟨ha.eq_of_length (by omega), hb.eq_of_length (by omega)⟩
  · rintro ⟨rfl, rfl⟩
    rfl

theorem withoutEcho_sublist (awaited : Option (List Char)) (chars : List Char) :
    (Session.withoutEcho awaited chars).Sublist chars := by
  cases awaited with
  | none => exact List.Sublist.refl chars
  | some line =>
    show ((line.isPrefixOf? chars).getD chars).Sublist chars
    cases h : line.isPrefixOf? chars with
    | none => exact List.Sublist.refl chars
    | some rest =>
      rw [← List.isPrefixOf?_eq_some_iff_append_eq.1 h]
      exact List.sublist_append_right line rest

theorem withoutEcho_drops {line chars : List Char} (h : line <+: chars) :
    Session.withoutEcho (some line) chars = chars.drop line.length := by
  obtain ⟨rest, rfl⟩ := h
  show (line.isPrefixOf? (line ++ rest)).getD (line ++ rest) = _
  rw [List.isPrefixOf?_eq_some_iff_append_eq.2 rfl, List.drop_left]
  rfl

theorem withoutEcho_eq_iff {awaited : Option (List Char)} (h : awaited ≠ some []) (text : String) :
    Session.withoutEcho awaited text.toList = text.toList ↔ ¬ Falls awaited (some text) := by
  constructor
  · rintro heq ⟨line, text', rfl, htext, hline⟩
    obtain rfl : text = text' := Option.some.inj htext
    rw [withoutEcho_drops hline] at heq
    have hlength := congrArg List.length heq
    have hle := hline.length_le
    have hpos : 0 < line.length := List.length_pos_of_ne_nil fun hnil => h (congrArg some hnil)
    rw [List.length_drop] at hlength
    omega
  · intro hnot
    cases awaited with
    | none => rfl
    | some line =>
      cases hrest : line.isPrefixOf? text.toList with
      | none =>
        show (line.isPrefixOf? text.toList).getD text.toList = _
        rw [hrest]
        rfl
      | some rest =>
        exact absurd ⟨line, text, rfl, rfl, rest, List.isPrefixOf?_eq_some_iff_append_eq.1 hrest⟩ hnot

theorem map_glyphsOf (text : String) (style : UInt16) :
    (glyphsOf text style).map Prod.fst = text.toList := by
  unfold glyphsOf
  rw [List.map_map]
  exact List.map_id _

/-- The echo is sent to the window that is selected. -/
theorem sent_echo (i : LineInput) (w : Window) :
    (Window.sent (Event.read i).echo w).map Prod.fst =
      if w.window = Window.upper then [] else i.response.toList ++ ['\n'] := by
  have hwindow : (w.print i.response).window = w.window :=
    congrArg Window.Pen.window (Window.apply_pen (.print i.response) w)
  show ((if w.window = Window.upper then [] else glyphsOf i.response w.style) ++
    ((if (w.print i.response).window = Window.upper then []
      else glyphsOf "\n" (w.print i.response).style) ++ [])).map Prod.fst = _
  rw [hwindow, List.append_nil]
  by_cases hupper : w.window = Window.upper
  · rw [if_pos hupper, if_pos hupper, if_pos hupper]
    rfl
  · rw [if_neg hupper, if_neg hupper, if_neg hupper, List.map_append, map_glyphsOf, map_glyphsOf]
    rfl

/-- What may come of an event: no line is awaited; or a line that is not shown in the main window; or
a line with which the next main text begins. -/
theorem Exchange.Answered.cases {x : Exchange} (h : x.Answered) :
    (x.line? = none ∧ x.echo = []) ∨
      ∃ line, line ≠ [] ∧ x.line? = some line ∧
        (x.engine.window.window = Window.upper ∧ x.echo = [] ∨
          x.engine.window.window ≠ Window.upper ∧ x.echo = line ∧
            ∃ text later, mainTexts x.batch = text :: later ∧ line <+: text.toList) := by
  obtain ⟨units, event, engine, batch⟩ := x
  obtain ⟨e, hanswer⟩ := h
  cases event with
  | read i =>
    refine .inr ⟨i.response.toList ++ ['\n'], by simp, rfl, ?_⟩
    by_cases hupper : engine.window.window = Window.upper
    · exact .inl ⟨hupper, (sent_echo i engine.window).trans (if_pos hupper)⟩
    · obtain ⟨more, later, htexts⟩ := Engine.mainTexts_of_read hanswer hupper
      refine .inr ⟨hupper, (sent_echo i engine.window).trans (if_neg hupper), _, later, htexts, ?_⟩
      rw [String.toList_append, String.toList_append]
      exact List.prefix_append _ _
  | _ => exact .inl ⟨rfl, rfl⟩

theorem firstText_of_untyped {x : Exchange} (h : x.line? = none) (rest : List Exchange) :
    firstText (x :: rest) = (mainTexts x.batch).head?.or (firstText rest) := by
  unfold firstText
  rw [List.takeWhile_cons_of_pos (by rw [h]; rfl), List.findSome?_cons]
  cases (mainTexts x.batch).head? <;> rfl

theorem firstText_of_typed {x : Exchange} {line : List Char} (h : x.line? = some line)
    (rest : List Exchange) : firstText (x :: rest) = none := by
  unfold firstText
  rw [List.takeWhile_cons_of_neg (by rw [h]; exact Bool.false_ne_true)]
  rfl

theorem mistakes_iff_falls {x : Exchange} {line : List Char} (h : x.line? = some line)
    (hupper : x.engine.window.window = Window.upper) (later : List Exchange) :
    Mistakes x later ↔ Falls (some line) ((mainTexts x.batch).head?.or (firstText later)) := by
  unfold Mistakes Falls
  rw [h]
  exact and_iff_right hupper

theorem not_falls_none (awaited : Option (List Char)) : ¬ Falls awaited none := by
  rintro ⟨line, text, -, htext, -⟩
  cases htext

theorem not_falls_unawaited (next : Option String) : ¬ Falls none next := by
  rintro ⟨line, text, hline, -⟩
  cases hline

theorem kept_sublist (awaited : Option (List Char)) (texts : List String) :
    (kept awaited texts).Sublist (texts.flatMap String.toList) := by
  cases texts with
  | nil => exact List.Sublist.refl _
  | cons text rest => exact (withoutEcho_sublist awaited text.toList).append (List.Sublist.refl _)

theorem kept_eq_iff {awaited : Option (List Char)} (h : awaited ≠ some []) (texts : List String) :
    kept awaited texts = texts.flatMap String.toList ↔ ¬ Falls awaited texts.head? := by
  cases texts with
  | nil => exact iff_of_true rfl (not_falls_none awaited)
  | cons text rest =>
    refine Iff.trans ?_ (withoutEcho_eq_iff h text)
    show _ ++ rest.flatMap String.toList = text.toList ++ rest.flatMap String.toList ↔ _
    exact List.append_left_inj _

/-- What is shown of some exchanges is part of their text without the echoes.  It is all of that exactly
if no line that is awaited begins a text of the story. -/
theorem keptOf_unechoed (awaited : Option (List Char)) (hawaited : awaited ≠ some [])
    (xs : List Exchange) (hxs : ∀ x ∈ xs, x.Answered) :
    (keptOf awaited xs).Sublist (xs.flatMap Exchange.unechoed) ∧
      (keptOf awaited xs = xs.flatMap Exchange.unechoed ↔
        ¬ Falls awaited (firstText xs) ∧ ¬ Mistaken xs) := by
  induction xs generalizing awaited with
  | nil =>
    refine ⟨List.Sublist.refl _, iff_of_true rfl ⟨not_falls_none awaited, ?_⟩⟩
    rintro ⟨x, later, hsuffix, -⟩
    cases List.suffix_nil.1 hsuffix
  | cons x rest ih =>
    have hrest := fun y hy => hxs y (List.mem_cons_of_mem x hy)
    obtain ⟨hpart, hall⟩ := ih none nofun hrest
    -- An exchange without an echo, after which a line may be awaited.
    have hplain (a : Option (List Char)) (ha : a ≠ some []) (hecho : x.echo = []) :
        (kept a (mainTexts x.batch) ++
            keptOf (if mainTexts x.batch = [] then a else none) rest).Sublist
          (x.unechoed ++ rest.flatMap Exchange.unechoed) ∧
        (kept a (mainTexts x.batch) ++ keptOf (if mainTexts x.batch = [] then a else none) rest =
            x.unechoed ++ rest.flatMap Exchange.unechoed ↔
          ¬ Falls a ((mainTexts x.batch).head?.or (firstText rest)) ∧ ¬ Mistaken rest) := by
      have hunechoed : x.unechoed = (mainTexts x.batch).flatMap String.toList := by
        unfold Exchange.unechoed
        rw [hecho]
        rfl
      rw [hunechoed]
      cases htexts : mainTexts x.batch with
      | nil => exact ih a ha hrest
      | cons text more =>
        rw [if_neg (List.cons_ne_nil text more)]
        have hkept := kept_sublist a (text :: more)
        refine ⟨hkept.append hpart, ?_⟩
        rw [append_eq_iff hkept hpart, hall, kept_eq_iff ha]
        exact and_congr_right fun _ => and_iff_right (not_falls_unawaited _)
    rw [mistaken_cons, List.flatMap_cons]
    unfold keptOf
    dsimp only
    rcases (hxs x List.mem_cons_self).cases with ⟨hline, hecho⟩ | ⟨line, hne, hline, hcase⟩
    · -- Nothing is typed: what was awaited still is.
      have hright : ¬ Mistakes x rest := by
        rintro ⟨-, line, text, hsome, -⟩
        cases hline.symm.trans hsome
      obtain ⟨hsub, hiff⟩ := hplain awaited hawaited hecho
      rw [hline, Option.none_or, firstText_of_untyped hline, or_iff_right hright]
      exact ⟨hsub, hiff⟩
    rw [hline, firstText_of_typed hline, Option.some_or]
    rcases hcase with ⟨hupper, hecho⟩ | ⟨hmain, hecho, text, later, htexts, hbegins⟩
    · -- A line that is not shown: from now on it is awaited in vain.
      obtain ⟨hsub, hiff⟩ := hplain (some line) (fun h => hne (Option.some.inj h)) hecho
      refine ⟨hsub, hiff.trans ?_⟩
      rw [← mistakes_iff_falls hline hupper, not_or]
      exact (and_iff_right (not_falls_none awaited)).symm
    · -- A line that is shown: the next text begins with it, as it should.
      have hright : ¬ Mistakes x rest := fun h => hmain h.1
      have hkept : kept (some line) (mainTexts x.batch) = x.unechoed := by
        unfold Exchange.unechoed Exchange.text
        rw [hecho, htexts, List.flatMap_cons, List.drop_append_of_le_length hbegins.length_le,
          ← withoutEcho_drops hbegins]
        rfl
      rw [hkept, htexts, if_neg (List.cons_ne_nil text later), or_iff_right hright,
        List.append_right_inj, hall]
      refine ⟨(List.Sublist.refl _).append hpart, ?_⟩
      exact and_congr_left fun _ => iff_of_true (not_falls_unawaited _) (not_falls_none awaited)

/-! ## Sessions -/

/-- A session that comes to its end, whatever its time slices were, shows the main text of its
exchanges once, each without the echo that the engine printed at its beginning, exactly if no line that
was read in the upper window begins a later text of the story.  In any case it shows nothing else, and
nothing twice or out of turn. -/
theorem shown_unechoed_iff (slices : Nat → Config → Nat) (turns : Nat) (engine : Engine) (k : Script)
    (hover : (playStoryWithin slices turns engine k).2.1 = .over) :
    (∀ x ∈ exchanges slices turns engine k, x.Answered ∧ x.echo <+: x.text) ∧
      (shown (playStoryWithin slices turns engine k).2.2.transcript =
          (exchanges slices turns engine k).flatMap (fun x => x.text.drop x.echo.length) ↔
        ¬ Mistaken (exchanges slices turns engine k)) ∧
      (shown (playStoryWithin slices turns engine k).2.2.transcript).Sublist
        ((exchanges slices turns engine k).flatMap fun x => x.text.drop x.echo.length) := by
  have hplayed : (∀ x ∈ exchanges slices turns engine k, x.Answered) ∧
      shown (playStoryWithin slices turns engine k).2.2.transcript = keptOf none (exchanges slices turns engine k) := by
    unfold playStoryWithin exchanges Session.startWithin at *
    rcases turn_out (slices turns) .restart { engine } with ⟨fault, hfault⟩ | ⟨hanswered, hout, hecho, hpending⟩
    · generalize ({ engine } : Session).turn (slices turns) .restart = next at hover hfault
      obtain ⟨stand, s⟩ := next
      cases hfault
      rw [playWithin_failed] at hover
      cases hover
    · obtain ⟨hrest, hshown⟩ := playWithin_out slices turns k _ _ hpending hover
      refine ⟨List.forall_mem_cons.2 ⟨hanswered, hrest⟩, ?_⟩
      rw [hshown, hout, hecho]
      rfl
  obtain ⟨hanswered, hshown⟩ := hplayed
  obtain ⟨hsub, hall⟩ := keptOf_unechoed none nofun _ hanswered
  rw [hshown]
  refine ⟨fun x hx => ⟨hanswered x hx, ?_⟩, hall.trans (and_iff_right (not_falls_unawaited _)), hsub⟩
  rcases (hanswered x hx).cases with ⟨-, hecho⟩ | ⟨line, -, -, ⟨-, hecho⟩ | ⟨-, hecho, hfirst⟩⟩
  · rw [hecho]
    exact List.nil_prefix
  · rw [hecho]
    exact List.nil_prefix
  · obtain ⟨text, later, htexts, hbegins⟩ := hfirst
    unfold Exchange.text
    rw [hecho, htexts]
    exact hbegins.trans (List.prefix_append _ _)

/-- Whether a session has come to its end. -/
def Stand.isOver : Stand → Bool
  | .over => true
  | _ => false

theorem Stand.eq_over {stand : Stand} (h : stand.isOver = true) : stand = .over := by
  cases stand with
  | «over» => rfl
  | waiting | failed => cases h

/-- A player who types one line and then leaves. -/
def oneLine : Script :=
  { lines := ["go"] }

/-- An engine that runs a story block by block. -/
def engineOf (story : List UInt8) : Engine :=
  .ofStory { timeSliceMs := 0 } ⟨0⟩ story

/-- Each time slice has one block less than the one before. -/
def shorterSlices (turns : Nat) (_ : Config) : Nat :=
  turns + 1

theorem shown_unechoed_parrot :
    (playStoryWithin shorterSlices 2 (engineOf Engine.parrotStory) oneLine).2.1 = .over ∧
      (exchanges shorterSlices 2 (engineOf Engine.parrotStory) oneLine).flatMap Exchange.text =
        "Hgo\n".toList ∧
      shown (playStoryWithin shorterSlices 2 (engineOf Engine.parrotStory) oneLine).2.2.transcript =
        "H".toList ∧
      ¬ Mistaken (exchanges shorterSlices 2 (engineOf Engine.parrotStory) oneLine) := by
  have hover : (playStoryWithin shorterSlices 2 (engineOf Engine.parrotStory) oneLine).2.1 =
      .over :=
    Stand.eq_over (by decide +kernel)
  have hshown : shown
      (playStoryWithin shorterSlices 2 (engineOf Engine.parrotStory) oneLine).2.2.transcript =
        "H".toList := by
    decide +kernel
  have htext : (exchanges shorterSlices 2 (engineOf Engine.parrotStory) oneLine).flatMap
      (fun x => x.text.drop x.echo.length) = "H".toList := by
    decide +kernel
  obtain ⟨-, hall, -⟩ := shown_unechoed_iff _ _ _ _ hover
  exact ⟨hover, by decide +kernel, hshown, hall.1 (hshown.trans htext.symm)⟩

/-- A story that reads a line with the upper window selected, into the buffer at 0x60, and prints "go"
in the main window, whatever the line was. -/
def guideStory : List UInt8 :=
  Engine.storyOf ([0xEB, 0x7F, 1, 0xE4, 0x0F, 0, 0x60, 0, 0, 0, 0xEB, 0x7F, 0, 0xE5, 0x7F, 0x67, 0xE5,
    0x7F, 0x6F, 0xBB, 0xBA] ++ List.replicate 11 0 ++ [10] ++ List.replicate 11 0)

/-- The line was read in the upper window, and the story's own text goes missing. -/
theorem shown_not_always_unechoed :
    (playStory 2 (engineOf guideStory) oneLine).2.1 = .over ∧
      (exchanges (fun _ => Config.sliceUnits) 2 (engineOf guideStory) oneLine).flatMap
        (fun x => x.text.drop x.echo.length) = "go\n".toList ∧
      shown (playStory 2 (engineOf guideStory) oneLine).2.2.transcript = [] :=
  ⟨Stand.eq_over (by decide +kernel), by decide +kernel, by decide +kernel⟩

end Terminal
end ZMachine
