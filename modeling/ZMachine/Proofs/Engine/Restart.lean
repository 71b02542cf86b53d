import ZMachine.Proofs.Engine.History
import ZMachine.Proofs.Header

/-!
# Restarts that fail

A restart makes a machine from the loaded story, puts it in the place of the old one, and then
brings its header up to date.  So there are three ways for it to end:

    fresh e = .error fault              restart e = .error fault e
    fresh e = .ok s, FlagsFit           restart e = .ok () e'         e' has the machine s
    fresh e = .ok s, not FlagsFit       restart e = .error _ e'       e' has the machine s

In the first case nothing has happened.  In the last one the old machine and its checkpoints are gone
all the same: a story whose header extension is cut off cannot be started, but takes the place of the
one that was running.
-/

namespace ZMachine.Engine

section
variable {e : Engine} {s : Machine} (hfresh : e.fresh = .ok s)
include hfresh

/-- A machine that has just been made has all bytes of the header. -/
theorem layout_le_of_fresh : Layout.size ≤ s.memory.size := by
  obtain ⟨hsound, -⟩ := fresh_eq_ok hfresh
  rw [hsound.2]
  exact Header.size_of_parse hsound.1

theorem restart_of_fit (hfit : s.header.FlagsFit s.memory.size) :
    ∃ memory, restart e =
      .ok () { e.install s with machine := some { s with random := {}, memory } } := by
  obtain ⟨memory, hsync, -⟩ := Machine.syncHeader_eq_ok (layout_le_of_fresh hfresh) hfit e.config
  refine ⟨memory, ?_⟩
  rw [restart_of_fresh hfresh, onMachine_run rfl, hsync]

theorem restart_of_not_fit (hfit : ¬ s.header.FlagsFit s.memory.size) :
    ∃ memory, restart e =
      .error (.outOfRange ⟨s.header.extensionAddress Layout.flags3Word, 2, s.memory.size⟩)
        { e.install s with machine := some { s with random := {}, memory } } := by
  obtain ⟨memory, hsync⟩ := Machine.syncHeader_eq_error (layout_le_of_fresh hfresh) hfit e.config
  refine ⟨memory, ?_⟩
  rw [restart_of_fresh hfresh, onMachine_run rfl, hsync]

/-- A restart that gets as far as a machine completes just if the header of that machine can be
brought up to date. -/
theorem restart_eq_ok_iff : (∃ e', restart e = .ok () e') ↔ s.header.FlagsFit s.memory.size := by
  by_cases hfit : s.header.FlagsFit s.memory.size
  · obtain ⟨memory, hrestart⟩ := restart_of_fit hfresh hfit
    exact ⟨fun _ => hfit, fun _ => ⟨_, hrestart⟩⟩
  · obtain ⟨memory, hrestart⟩ := restart_of_not_fit hfresh hfit
    constructor
    · rintro ⟨e', hok⟩
      rw [hrestart] at hok
      cases hok
    · exact fun h => absurd h hfit

end

/-- What a restart that fails before the story runs has done.  The event ends with its fault, and the
story and the blocks are as they were.  If no machine could be made, the old one is still there, and
so are its checkpoints, as far as the settings that come with the event leave room for them.  If one
was made, its header reaches out of the memory, and it has taken the place of the old one. -/
theorem failed_restart {env : Option Patch} {e e' : Engine} {fault : Fault}
    (h : begin ⟨.restart, env⟩ e = .error fault e') :
    (∀ units, handleWithin units ⟨.restart, env⟩ e = .error fault e') ∧
      e'.story = e.story ∧ e'.cache = e.cache ∧
      ((e.fresh = .error fault ∧ e'.machine = e.machine ∧
          e'.undo = env.elim e.undo (fun p => e.undo.setDepth (e.config.apply p).undoDepth)) ∨
        ∃ s memory, e.fresh = .ok s ∧ ¬ s.header.FlagsFit s.memory.size ∧
          fault = .outOfRange
            ⟨s.header.extensionAddress Layout.flags3Word, 2, s.memory.size⟩ ∧
          e'.machine = some { s with random := {}, memory } ∧ e'.undo.entries = []) := by
  refine ⟨handleWithin_of_fault h, ?_⟩
  obtain ⟨hmachine, hstory, hcache⟩ := ready_kept ⟨.restart, env⟩ e
  have hundo := ready_undo ⟨.restart, env⟩ e
  have hsame := fresh_ready ⟨.restart, env⟩ e
  rw [begin_restart] at h
  cases hfresh : e.fresh with
  | error cause =>
    rw [hfresh] at hsame
    rw [bind_error (restart_of_not_fresh hsame)] at h
    cases h
    exact ⟨hstory, hcache, .inl ⟨rfl, hmachine, hundo⟩⟩
  | ok s =>
    rw [hfresh] at hsame
    by_cases hfit : s.header.FlagsFit s.memory.size
    · obtain ⟨memory, hrestart⟩ := restart_of_fit hsame hfit
      rw [bind_ok hrestart] at h
      cases h
    · obtain ⟨memory, hrestart⟩ := restart_of_not_fit hsame hfit
      rw [bind_error hrestart] at h
      cases h
      exact ⟨hstory, hcache, .inr ⟨s, memory, rfl, hfit, rfl, rfl, rfl⟩⟩

/-- A story that loops is running when a story of version 6 is loaded. -/
def refusedTurns : List Turn :=
  oneByOne [.load loopStory, .restart, .load ((storyOf []).set 0 6)]

theorem failed_restart_of_version_six :
    ∃ e', begin ⟨.restart, none⟩ (after refusedTurns (ofConfig {} ⟨0⟩)) =
        .error (.unsupportedVersion 6) e' ∧
      e'.machine = (after refusedTurns (ofConfig {} ⟨0⟩)).machine ∧
      e'.undo = (after refusedTurns (ofConfig {} ⟨0⟩)).undo ∧
      e'.cache = (after refusedTurns (ofConfig {} ⟨0⟩)).cache := by
  have hfault : fault? (begin ⟨.restart, none⟩ (after refusedTurns (ofConfig {} ⟨0⟩))) =
      some (.unsupportedVersion 6) := by
    decide +kernel
  have h := eq_error_of_fault? hfault
  obtain ⟨-, -, hcache, ⟨-, hmachine, hundo⟩ | ⟨s, memory, -, -, hcause, -⟩⟩ := failed_restart h
  · exact ⟨_, h, hmachine, hundo, hcache⟩
  · cases hcause

/-- A story that loops is running when a story is loaded that ends after the number of words of its
header extension. -/
def cutTurns : List Turn :=
  oneByOne [.load loopStory, .restart,
    .load ((storyOf [0xBA, 0, 0, 0, 0, 4]).set 0x37 0x44)]

/-- The restart then fails, and the loop is gone. -/
theorem failed_restart_not_always_undone :
    ¬ ∀ (config : Config) (entropy : Entropy) (turns : List Turn) (fault : Fault) (e' : Engine),
      begin ⟨.restart, none⟩ (after turns (ofConfig config entropy)) = .error fault e' →
        e'.machine = (after turns (ofConfig config entropy)).machine ∧
        e'.undo = (after turns (ofConfig config entropy)).undo ∧
        e'.cache = (after turns (ofConfig config entropy)).cache := by
  intro h
  have hfault : fault? (begin ⟨.restart, none⟩ (after cutTurns (ofConfig {} ⟨0⟩))) =
      some (.outOfRange ⟨0x4C, 2, 0x46⟩) := by
    decide +kernel
  have hgone : (endState (begin ⟨.restart, none⟩ (after cutTurns (ofConfig {} ⟨0⟩)))).machine ≠
      (after cutTurns (ofConfig {} ⟨0⟩)).machine := by
    decide +kernel
  exact hgone (h {} ⟨0⟩ cutTurns _ _ (eq_error_of_fault? hfault)).1

end ZMachine.Engine
