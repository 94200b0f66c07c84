import MissionShell.Proofs.Session.History

/-!
# Recalling the history

Recalling walks through the history between its oldest entry and the place behind its newest one, and
stays there when a move would lead out of it. Nothing but the cursor moves, so two opposite moves undo
each other unless the first one was stopped.

* `Session.Move`, `Session.Move.target` : the moves, and where they lead;
* `Session.move_eq` : what a move answers and what it leaves;
* `Session.last_walk` : what some moves leave;
* `Session.answers_walk_back` : the answers while moving back;
* `Session.Recalls`, `Session.recalls_performed` : recalling in every session.
-/

namespace MissionShell.Session

/-! ## Moves -/

inductive Move where
  | back
  | on
deriving DecidableEq

def move (s : Session) : Move → Option String × Session
  | .back => s.recallPrevious
  | .on => s.recallNext

def walk (s : Session) : List Move → List (Option String) × Session
  | [] => ([], s)
  | m :: moves =>
    let (answer, next) := s.move m
    let (answers, last) := next.walk moves
    (answer :: answers, last)

namespace Move

def shift : Move → Int
  | back => -1
  | on => 1

@[simp] theorem shift_back : back.shift = -1 := rfl

@[simp] theorem shift_on : on.shift = 1 := rfl

/-- The place that a move leads to from place `i` of a history of `n` entries. Place `n` is behind the
newest entry. -/
def target (n i : Nat) (m : Move) : Nat := (max 0 (min (n : Int) (i + m.shift))).toNat

theorem target_le (n i : Nat) (m : Move) : m.target n i ≤ n := by
  unfold target
  omega

theorem target_back {n i : Nat} (hi : i ≤ n) : back.target n i = i - 1 := by
  rw [target, shift_back]
  omega

theorem target_on (n i : Nat) : on.target n i = min (i + 1) n := by
  rw [target, shift_on]
  omega

end Move

section Walk
variable {s : Session} (hs : s.cursor ≤ s.history.length)
include hs

/-- A move answers with the entry at the place that it leads to. -/
theorem move_eq (m : Move) :
    s.move m = (s.history[m.target s.history.length s.cursor]?,
      { s with cursor := m.target s.history.length s.cursor }) := by
  cases m with
  | back => rw [Move.target_back hs, move, recallPrevious]
  | on =>
    rw [Move.target_on, move, recallNext]
    split_ifs with hnext
    · rw [Nat.min_eq_left hnext.le]
    · rw [Nat.min_eq_right (Nat.not_lt.mp hnext), List.getElem?_eq_none le_rfl]

/-- A run of moves is a walk of the cursor. -/
theorem last_walk (moves : List Move) :
    (s.walk moves).2 =
      { s with cursor := moves.foldl (Move.target s.history.length) s.cursor } := by
  induction moves generalizing s with
  | nil => rfl
  | cons m moves ih =>
    rw [walk, move_eq hs]
    exact ih (Move.target_le _ _ m)

/-- Moving back answers with the entries before the cursor, and with the oldest one ever after. -/
theorem answers_walk_back (k : Nat) :
    (s.walk (List.replicate k .back)).1 =
      ((s.history.take s.cursor).reverse.take k).map some ++
        List.replicate (k - s.cursor) s.history.head? := by
  induction k generalizing s with
  | zero => simp [walk]
  | succ k ih =>
    rw [List.replicate_succ, walk, move_eq hs]
    dsimp only
    rw [ih (Move.target_le _ _ .back), Move.target_back hs]
    dsimp only
    cases hcursor : s.cursor with
    | zero => simp [List.replicate_succ, List.head?_eq_getElem?]
    | succ i =>
      have hi : i < s.history.length := by omega
      rw [Nat.add_sub_cancel, List.take_succ_eq_append_getElem hi, List.reverse_append,
        List.getElem?_eq_getElem hi, Nat.add_sub_add_right]
      rfl

end Walk

/-! ## Sessions -/

structure Recalls (s : Session) : Prop where
  back_cursor : (s.recallPrevious.2.cursor : Int) = max ((s.cursor : Int) - 1) 0
  back_entry : s.history ≠ [] → ∃ h : s.recallPrevious.2.cursor < s.history.length,
    s.recallPrevious.1 = some s.history[s.recallPrevious.2.cursor]
  back_none : s.recallPrevious.1 = none ↔ s.history = []
  on_cursor : s.recallNext.2.cursor = min (s.cursor + 1) s.history.length
  on_entry : s.recallNext.2.cursor ≠ s.history.length →
    ∃ h : s.recallNext.2.cursor < s.history.length,
      s.recallNext.1 = some s.history[s.recallNext.2.cursor]
  on_none : s.recallNext.1 = none ↔ s.recallNext.2.cursor = s.history.length
  walk : ∀ moves, (s.walk moves).2 =
    { s with cursor := moves.foldl (Move.target s.history.length) s.cursor }
  on_undoes_back : 0 < s.cursor → s.recallPrevious.2.recallNext.2 = s
  back_undoes_on : s.cursor < s.history.length → s.recallNext.2.recallPrevious.2 = s
  newest_first : ∀ line k, ((s.process line).2.walk (List.replicate k .back)).1 =
    ((s.process line).2.history.reverse.take k).map some ++
      List.replicate (k - (s.process line).2.history.length) (s.process line).2.history.head?

section Recalls
variable {s : Session} (hs : s.cursor ≤ s.history.length)
include hs

theorem recallNext_eq :
    s.recallNext = (s.history[min (s.cursor + 1) s.history.length]?,
      { s with cursor := min (s.cursor + 1) s.history.length }) := by
  rw [← Move.target_on]
  exact move_eq hs .on

theorem recallNext_recallPrevious (hpos : 0 < s.cursor) : s.recallPrevious.2.recallNext.2 = s := by
  have hplace : min (s.cursor - 1 + 1) s.history.length = s.cursor := by omega
  rw [recallPrevious, recallNext_eq ((Nat.sub_le _ _).trans hs)]
  dsimp only
  rw [hplace]

theorem recallPrevious_recallNext (hlt : s.cursor < s.history.length) :
    s.recallNext.2.recallPrevious.2 = s := by
  have hplace : min (s.cursor + 1) s.history.length - 1 = s.cursor := by omega
  rw [recallNext_eq hs, recallPrevious]
  dsimp only
  rw [hplace]

theorem recalls_of_le : s.Recalls where
  back_cursor := by
    rw [recallPrevious]
    dsimp only
    omega
  back_entry hne := by
    have hpos : 0 < s.history.length := List.length_pos_iff.mpr hne
    have hlt : s.cursor - 1 < s.history.length := by omega
    exact ⟨hlt, List.getElem?_eq_getElem hlt⟩
  back_none := by
    rw [recallPrevious, List.getElem?_eq_none_iff, ← List.length_eq_zero_iff]
    omega
  on_cursor := by rw [recallNext_eq hs]
  on_entry hne := by
    rw [recallNext_eq hs] at hne ⊢
    have hlt : min (s.cursor + 1) s.history.length < s.history.length :=
      lt_of_le_of_ne (Nat.min_le_right _ _) hne
    exact ⟨hlt, List.getElem?_eq_getElem hlt⟩
  on_none := by
    rw [recallNext_eq hs, List.getElem?_eq_none_iff]
    dsimp only
    omega
  walk := last_walk hs
  on_undoes_back := recallNext_recallPrevious hs
  back_undoes_on := recallPrevious_recallNext hs
  newest_first line k := by
    have hcursor := s.cursor_process line
    rw [answers_walk_back hcursor.le, hcursor, List.take_length]

/-- The cursor does not leave the history. -/
theorem cursor_act_le (a : Action) : (s.act a).cursor ≤ (s.act a).history.length := by
  cases a with
  | process line => exact (s.cursor_process line).le
  | recallPrevious => exact (Nat.sub_le _ _).trans hs
  | recallNext =>
    rw [act, recallNext_eq hs]
    exact Nat.min_le_right _ _
  | search | clearLog | addLine => exact hs

theorem cursor_performed_le (actions : List Action) :
    (s.performed actions).cursor ≤ (s.performed actions).history.length := by
  induction actions generalizing s with
  | nil => exact hs
  | cons a actions ih => exact ih (cursor_act_le hs a)

end Recalls

/-- **Recalling is a walk that stops at both ends of the history**, in a session from any snapshot and after
any actions. Behind a line, moving back shows the newest entries first and then the oldest one again and
again. -/
theorem recalls_performed (fs : Filesystem) (actions : List Action) :
    ((opened fs).performed actions).Recalls :=
  recalls_of_le (cursor_performed_le (Nat.le_refl 0) actions)

/-- A session that has kept two lines: back beyond the oldest one, and on again to where it began. -/
theorem recalls_performed_seed :
    ((opened .seed).performed [.process "ls", .process "pwd"]).recallPrevious.2.recallNext.2 =
        (opened .seed).performed [.process "ls", .process "pwd"] ∧
      (((opened .seed).performed [.process "ls"]).process "pwd").2.history = ["ls", "pwd"] ∧
      ((((opened .seed).performed [.process "ls"]).process "pwd").2.walk
        (List.replicate 4 .back)).1 = [some "pwd", some "ls", some "ls", some "ls"] := by
  have htwo := recalls_performed .seed [.process "ls", .process "pwd"]
  have hone := recalls_performed .seed [.process "ls"]
  refine ⟨htwo.on_undoes_back (by decide +kernel), by decide +kernel, ?_⟩
  rw [hone.newest_first]
  decide +kernel

end MissionShell.Session
