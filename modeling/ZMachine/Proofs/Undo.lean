import Mathlib.Data.List.Induction
import Mathlib.Data.List.Infix
import Mathlib.Order.Basic
import ZMachine.Proofs.Action
import ZMachine.Undo

/-!
# The undo history as a stack

Whatever is done with a history is done at the same time with a stack that keeps everything.  The
history is the newest part of that stack:

    (u.act a).entries = (a.onStack u.entries).take (u.act a).depth       if u fits
    ((ofDepth depth).after actions).entries <+: Action.stack actions

A push makes way for a checkpoint only if there are exactly as many as there is room for, so both rest
on there never being more.  That is so in a history that is made, and every action preserves it.
-/

namespace ZMachine
namespace Undo

variable {u v w : Undo}

/-! ## Room -/

/-- There is room for a checkpoint, and for all that there are. -/
def Fits (u : Undo) : Prop :=
  0 < u.depth ∧ u.entries.length ≤ u.depth

theorem fits_ofDepth (depth : Nat) : (ofDepth depth).Fits :=
  ⟨Nat.lt_of_lt_of_le Nat.zero_lt_one (Nat.le_max_left 1 depth), Nat.zero_le _⟩

theorem push_of_lt (h : u.length < u.depth) (p : Snapshot) :
    (u.push p).entries = p :: u.entries := by
  show (p :: if u.length = u.depth then u.entries.dropLast else u.entries) = _
  rw [if_neg (Nat.ne_of_lt h)]

theorem push_of_full (h : u.length = u.depth) (p : Snapshot) :
    (u.push p).entries = p :: u.entries.dropLast := by
  show (p :: if u.length = u.depth then u.entries.dropLast else u.entries) = _
  rw [if_pos h]

/-- A push leaves the newest of the checkpoints below the new one. -/
theorem push_entries (u : Undo) (p : Snapshot) :
    ∃ kept, kept <+: u.entries ∧ (u.push p).entries = p :: kept := by
  by_cases hfull : u.length = u.depth
  · exact ⟨_, List.dropLast_prefix _, push_of_full hfull p⟩
  · refine ⟨_, List.prefix_rfl, ?_⟩
    show (p :: if u.length = u.depth then u.entries.dropLast else u.entries) = _
    rw [if_neg hfull]

theorem pop_eq_none : u.pop = none ↔ u.entries = [] := by
  unfold pop
  cases u.entries <;> simp

theorem pop_eq_some {p : Snapshot} (h : u.pop = some (p, v)) :
    u.entries = p :: v.entries ∧ v.depth = u.depth := by
  unfold pop at h
  cases hentries : u.entries with
  | nil =>
    rw [hentries] at h
    cases h
  | cons q rest =>
    rw [hentries] at h
    cases h
    exact ⟨rfl, rfl⟩

/-- Checkpoints that there is room for stay. -/
theorem Fits.setDepth_entries (h : u.Fits) {depth : Nat} (hdepth : u.depth ≤ max 1 depth) :
    (u.setDepth depth).entries = u.entries :=
  List.take_of_length_le (h.2.trans hdepth)

/-! ## Actions -/

/-- What can be done with a history. -/
inductive Action where
  | push (p : Snapshot)
  | pop
  | setDepth (depth : Nat)
  | clear

/-- Does it; a history without checkpoints stays as it is when one is taken. -/
def act (u : Undo) : Action → Undo
  | .push p => u.push p
  | .pop => u.pop.elim u Prod.snd
  | .setDepth depth => u.setDepth depth
  | .clear => u.clear

/-- The history after some actions. -/
def after (u : Undo) (actions : List Action) : Undo :=
  actions.foldl act u

namespace Action

/-- What an action does with a stack that keeps everything, the newest first. -/
def onStack (stack : List Snapshot) : Action → List Snapshot
  | .push p => p :: stack
  | .pop => stack.tail
  | .setDepth _ => stack
  | .clear => []

/-- That stack after some actions. -/
def stack (actions : List Action) : List Snapshot :=
  actions.foldl onStack []

/-- The depth that was asked for last. -/
def asked (depth : Nat) : Action → Nat
  | .setDepth depth => depth
  | .push _ | .pop | .clear => depth

end Action

/-- An action that needs more room than there is. -/
def Exceeds (u : Undo) : Action → Prop
  | .push _ => u.depth < u.length + 1
  | .setDepth depth => max 1 depth < u.length
  | .pop | .clear => False

theorem act_pop (u : Undo) : u.act .pop = { u with entries := u.entries.tail } := by
  obtain ⟨entries, depth⟩ := u
  cases entries <;> rfl

theorem length_tail_le (entries : List Snapshot) : entries.tail.length ≤ entries.length :=
  (List.tail_sublist entries).length_le

/-- An action on a history that fits is the action on the stack, cut to the room there is then. -/
theorem Fits.act_entries (h : u.Fits) (a : Action) :
    (u.act a).entries = (a.onStack u.entries).take (u.act a).depth := by
  obtain ⟨hroom, hlength⟩ := h
  cases a with
  | push p =>
    -- a history that fits is full just if its length is the depth, which is what a push looks at
    show (u.push p).entries = (p :: u.entries).take u.depth
    rcases Nat.lt_or_eq_of_le hlength with hlt | hfull
    · rw [push_of_lt hlt, List.take_of_length_le (Nat.succ_le_of_lt hlt)]
    · obtain ⟨n, hn⟩ := Nat.exists_eq_add_of_le' hroom
      rw [push_of_full hfull, List.dropLast_eq_take, hfull, hn, List.take_succ_cons,
        Nat.add_sub_cancel]
  | pop =>
    rw [act_pop]
    refine (List.take_of_length_le ?_).symm
    exact (length_tail_le _).trans hlength
  | setDepth depth => rfl
  | clear => exact List.take_nil.symm

theorem Fits.act (h : u.Fits) (a : Action) : (u.act a).Fits := by
  refine ⟨?_, ?_⟩
  · cases a with
    | pop =>
      rw [act_pop]
      exact h.1
    | setDepth depth => exact (fits_ofDepth depth).1
    | push | clear => exact h.1
  · rw [h.act_entries]
    exact List.length_take_le _ _

theorem Fits.exceeds_iff (h : u.Fits) (a : Action) :
    u.Exceeds a ↔ (u.act a).depth < (a.onStack u.entries).length := by
  cases a with
  | push | setDepth => exact Iff.rfl
  | pop =>
    rw [act_pop]
    exact iff_of_false not_false (Nat.not_lt.2 ((length_tail_le _).trans h.2))
  | clear => exact iff_of_false not_false (Nat.not_lt_zero _)

/-- What an action loses is the oldest part, and nothing is lost unless the action needs more room than
there is; then all the room is taken. -/
theorem Fits.act_loses (h : u.Fits) (a : Action) :
    ∃ lost, a.onStack u.entries = (u.act a).entries ++ lost ∧ (lost ≠ [] ↔ u.Exceeds a) ∧
      (u.Exceeds a → (u.act a).length = (u.act a).depth) := by
  refine ⟨(a.onStack u.entries).drop (u.act a).depth, ?_, ?_, fun hexceeds => ?_⟩
  · rw [h.act_entries, List.take_append_drop]
  · rw [h.exceeds_iff, Ne, List.drop_eq_nil_iff, Nat.not_le]
  · rw [h.exceeds_iff] at hexceeds
    rw [length, h.act_entries, List.length_take_of_le (Nat.le_of_lt hexceeds)]

/-! ## Any number of actions -/

/-- An action takes newest parts of a stack to newest parts. -/
theorem Action.onStack_prefix {part stack : List Snapshot} (h : part <+: stack) (a : Action) :
    a.onStack part <+: a.onStack stack := by
  cases a with
  | push p => exact (List.prefix_cons_inj p).2 h
  | pop =>
    show part.tail <+: stack.tail
    rw [← List.drop_one, ← List.drop_one]
    exact h.drop 1
  | setDepth => exact h
  | clear => exact List.prefix_rfl

theorem after_concat (u : Undo) (actions : List Action) (a : Action) :
    u.after (actions ++ [a]) = (u.after actions).act a :=
  List.foldl_append

theorem Action.stack_concat (actions : List Action) (a : Action) :
    stack (actions ++ [a]) = a.onStack (stack actions) :=
  List.foldl_append

theorem Fits.after (h : u.Fits) (actions : List Action) : (u.after actions).Fits := by
  induction actions using List.reverseRecOn with
  | nil => exact h
  | append_singleton actions a ih =>
    rw [after_concat]
    exact ih.act a

/-- The depth is what was asked for last, and at least one. -/
theorem after_depth (depth : Nat) (actions : List Action) :
    ((ofDepth depth).after actions).depth = max 1 (actions.foldl Action.asked depth) := by
  induction actions using List.reverseRecOn with
  | nil => rfl
  | append_singleton actions a ih =>
    rw [after_concat, List.foldl_append]
    cases a with
    | pop =>
      rw [act_pop]
      exact ih
    | setDepth => rfl
    | push | clear => exact ih

/-- The checkpoints are the newest of the stack, in its order. -/
theorem after_entries (depth : Nat) (actions : List Action) :
    ((ofDepth depth).after actions).entries <+: Action.stack actions := by
  induction actions using List.reverseRecOn with
  | nil => exact List.prefix_rfl
  | append_singleton actions a ih =>
    rw [after_concat, Action.stack_concat, ((fits_ofDepth depth).after actions).act_entries]
    exact (List.take_prefix _ _).trans (Action.onStack_prefix ih a)

/-- Nothing is lost as long as no action needs more room than there is. -/
theorem after_entries_of_room {depth : Nat} {actions : List Action}
    (h : ∀ before a later, actions = before ++ a :: later →
      ¬ ((ofDepth depth).after before).Exceeds a) :
    ((ofDepth depth).after actions).entries = Action.stack actions := by
  induction actions using List.reverseRecOn with
  | nil => rfl
  | append_singleton actions a ih =>
    have hwhole := ih (fun before b later hsplit =>
      h before b (later ++ [a]) (by rw [hsplit, List.append_assoc, List.cons_append]))
    obtain ⟨lost, hlost, hexceeds, -⟩ := ((fits_ofDepth depth).after actions).act_loses a
    have hnone : lost = [] := Classical.not_not.1 fun hne => h actions a [] rfl (hexceeds.1 hne)
    rw [after_concat, Action.stack_concat, ← hwhole, hlost, hnone, List.append_nil]

/-- A history that is the newest part of a stack: there is room for it, what is taken from it is the
newest of the stack, and an action loses the oldest checkpoints only, and only those there is no room
for. -/
structure NewestOf (u : Undo) (stack : List Snapshot) : Prop where
  newest : u.entries <+: stack
  room : u.length ≤ u.depth
  pop : ∀ p v, u.pop = some (p, v) → stack.head? = some p
  loses : ∀ a : Action, ∃ lost, a.onStack u.entries = (u.act a).entries ++ lost ∧
    (lost ≠ [] ↔ u.Exceeds a) ∧ (u.Exceeds a → (u.act a).length = (u.act a).depth)

theorem after_newestOf (depth : Nat) (actions : List Action) :
    ((ofDepth depth).after actions).NewestOf (Action.stack actions) where
  newest := after_entries depth actions
  room := ((fits_ofDepth depth).after actions).2
  pop := by
    intro p v hpop
    have hnewest := after_entries depth actions
    rw [(pop_eq_some hpop).1] at hnewest
    obtain ⟨older, holder⟩ := hnewest
    rw [← holder]
    rfl
  loses := ((fits_ofDepth depth).after actions).act_loses

example (p q r s : Snapshot) :
    ((ofDepth 0).after [.push p, .push q, .setDepth 4, .push r, .pop, .push s]).entries = [s, q] :=
  rfl

/-! ## Histories made of others -/

/-- Some actions make one history of another. -/
def Becomes (u v : Undo) : Prop :=
  ∃ actions, v = u.after actions

theorem becomes_refl (u : Undo) : u.Becomes u :=
  ⟨[], rfl⟩

theorem becomes_of_eq (h : v = u) : u.Becomes v :=
  h ▸ becomes_refl u

theorem becomes_act (u : Undo) (a : Action) : u.Becomes (u.act a) :=
  ⟨[a], rfl⟩

theorem becomes_of_pop {p : Snapshot} (h : u.pop = some (p, v)) : u.Becomes v := by
  refine ⟨[.pop], ?_⟩
  show v = u.pop.elim u Prod.snd
  rw [h]
  rfl

theorem Becomes.trans (h : u.Becomes v) (h' : v.Becomes w) : u.Becomes w := by
  obtain ⟨first, rfl⟩ := h
  obtain ⟨second, rfl⟩ := h'
  exact ⟨first ++ second, List.foldl_append.symm⟩

theorem Becomes.fits (h : u.Becomes v) (hu : u.Fits) : v.Fits := by
  obtain ⟨actions, rfl⟩ := h
  exact hu.after actions

instance isPreorder_becomes {σ : Type} (f : σ → Undo) :
    IsPreorder σ (fun s s' => (f s).Becomes (f s')) where
  refl s := becomes_refl (f s)
  trans _ _ _ := Becomes.trans

end Undo
end ZMachine
