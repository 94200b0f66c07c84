import MissionShell.Proofs.Filesystem.Persistence

/-!
# Identity of snapshots

In a branching run two snapshots are the same one if they stand in the same directory and the latest
operation on their derivations that rebuilt anything is one and the same. Operations that rebuild
nothing, and moving away and back, lead to the snapshot one had.

* `Filesystem.rebuilds`, `Filesystem.idle` : which operations rebuild a snapshot, and which ones do
  nothing;
* `Timeline.Chronicle`, `Timeline.chronicle` : a run with the derivation of each snapshot;
* `Timeline.Chronicle.origin` : the latest operation on a derivation that rebuilt the snapshot;
* `Timeline.Chronicle.Sound`, `Timeline.Chronicle.Sound.enter` : what the numbers of the copies say
  of the derivations, before and after one more operation;
* `Timeline.identifies_of_reachable` : what identity means in every run.
-/

namespace MissionShell

/-! ## Copies -/

namespace Copies

theorem renumber_self (c : Copies) (fresh : Nat) : c.renumber c fresh = c := by
  rw [renumber, if_pos rfl, if_pos rfl, if_pos rfl]

/-- A new copy of the tree or of the history is the newest copy of all. -/
theorem newest_renumber {base c : Copies} {fresh : Nat} (hfresh : base.newest < fresh)
    (hne : c.tree ≠ base.tree ∨ c.history ≠ base.history) :
    (base.renumber c fresh).newest = fresh := by
  unfold newest at *
  rcases hne with htree | hhistory
  · simp only [renumber, if_neg htree]
    split_ifs <;> omega
  · simp only [renumber, if_neg hhistory]
    split_ifs <;> omega

end Copies

namespace Filesystem

/-- Whether an operation rebuilds a part of the snapshot. Moving about never does, and directories
and files that cannot be made or removed do not. -/
def rebuilds (fs : Filesystem) : Operation → Bool
  | .makeDirectory text => (fs.makeDirectory? text).isOk
  | .changeDirectory _ => false
  | .touch _ | .write _ _ | .record _ => true
  | .remove name => (fs.file? fs.cwd name).isSome

/-- Whether an operation does nothing: the directory cannot be made, there is no directory to move to
or one is there already, or there is no file to remove. -/
def idle (fs : Filesystem) : Operation → Bool
  | .makeDirectory text => !(fs.makeDirectory? text).isOk
  | .changeDirectory text => !fs.hasDirectory (fs.resolve text) || fs.resolve text = fs.cwd
  | .touch _ | .write _ _ | .record _ => false
  | .remove name => !(fs.file? fs.cwd name).isSome

theorem makeDirectory_of_not_isOk {fs : Filesystem} {text : String}
    (h : (fs.makeDirectory? text).isOk = false) : fs.makeDirectory text = fs := by
  unfold makeDirectory
  cases hmade : fs.makeDirectory? text with
  | error cause => rfl
  | ok next =>
    rw [hmade] at h
    cases h

/-- An operation that rebuilds nothing can only move about. -/
theorem apply_of_not_rebuilds {fs : Filesystem} {op : Operation} (h : fs.rebuilds op = false) :
    fs.apply op = { fs with cwd := (fs.apply op).cwd } := by
  cases op with
  | makeDirectory text => rw [apply, makeDirectory_of_not_isOk h]
  | changeDirectory text =>
    rw [apply, changeDirectory_eq]
    split_ifs <;> rfl
  | touch | write | record => cases h
  | remove name =>
    rw [rebuilds] at h
    rw [apply, remove, h]
    rfl

theorem not_rebuilds_of_idle {fs : Filesystem} {op : Operation} (h : fs.idle op = true) :
    fs.rebuilds op = false := by
  cases op with
  | makeDirectory | remove => simpa [idle, rebuilds] using h
  | changeDirectory => rfl
  | touch | write | record => cases h

theorem apply_of_idle {fs : Filesystem} {op : Operation} (h : fs.idle op = true) :
    fs.apply op = fs := by
  cases op with
  | makeDirectory text => exact makeDirectory_of_not_isOk (by simpa [idle] using h)
  | changeDirectory text =>
    rw [apply, changeDirectory_eq]
    split_ifs with hthere
    · have hcwd : fs.resolve text = fs.cwd := by simpa [idle, hthere] using h
      rw [hcwd]
    · rfl
  | touch | write | record => cases h
  | remove name =>
    rw [idle, Bool.not_eq_true'] at h
    rw [apply, remove, h]
    rfl

theorem copies_modify_ne (fs : Filesystem) (p : Path) (f : Directory → Directory) :
    (fs.modify p f).copies.tree ≠ fs.copies.tree := Nat.succ_ne_self _

/-- An operation that rebuilds a snapshot copies the tree or the history. -/
theorem WellFormed.copies_of_rebuilds {fs : Filesystem} (hwf : fs.WellFormed) {op : Operation}
    (h : fs.rebuilds op = true) :
    (fs.apply op).copies.tree ≠ fs.copies.tree ∨ (fs.apply op).copies.history ≠ fs.copies.history := by
  have hwrite : ∀ name content, (fs.write name content).copies.tree ≠ fs.copies.tree := by
    intro name content
    rw [write_eq hwf.cwd]
    exact copies_modify_ne _ _ _
  cases op with
  | makeDirectory text =>
    left
    rw [Filesystem.apply, Filesystem.makeDirectory]
    cases hmade : fs.makeDirectory? text with
    | error cause =>
      rw [rebuilds, hmade] at h
      cases h
    | ok next =>
      obtain ⟨parent, name, d, -, -, -, -, rfl⟩ := makeDirectory?_cases hmade
      exact fs.copies_modify_ne parent (·.enroll name)
  | changeDirectory text => cases h
  | touch name =>
    rw [Filesystem.apply, touch_eq_write]
    exact Or.inl (hwrite name "")
  | write name content => exact Or.inl (hwrite name content)
  | remove name =>
    left
    have hthere : (fs.file? fs.cwd name).isSome = true := h
    rw [Filesystem.apply, Filesystem.remove, if_pos hthere]
    exact copies_modify_ne _ _ _
  | record entry => exact Or.inr (Nat.succ_ne_self _)

theorem sameSnapshot_iff {fs gs : Filesystem} :
    fs.sameSnapshot gs = true ↔ fs.copies = gs.copies ∧ fs.cwd = gs.cwd := by
  simp [sameSnapshot]

theorem sameSnapshot_refl (fs : Filesystem) : fs.sameSnapshot fs = true :=
  sameSnapshot_iff.mpr ⟨rfl, rfl⟩

theorem equivalence_sameSnapshot :
    Equivalence fun fs gs : Filesystem => fs.sameSnapshot gs = true where
  refl := sameSnapshot_refl
  symm h := by
    obtain ⟨hcopies, hcwd⟩ := sameSnapshot_iff.mp h
    exact sameSnapshot_iff.mpr ⟨hcopies.symm, hcwd.symm⟩
  trans h h' := by
    obtain ⟨hcopies, hcwd⟩ := sameSnapshot_iff.mp h
    obtain ⟨hcopies', hcwd'⟩ := sameSnapshot_iff.mp h'
    exact sameSnapshot_iff.mpr ⟨hcopies.trans hcopies', hcwd.trans hcwd'⟩

end Filesystem

namespace Timeline

/-! ## Runs and derivations -/

structure Application where
  base : Nat
  op : Filesystem.Operation

/-- An operation as it occurred in a run: the snapshot that it was applied to, and the number of the
one that it made. -/
structure Occurrence where
  number : Nat
  base : Filesystem
  op : Filesystem.Operation

def Occurrence.rebuilds (o : Occurrence) : Bool := o.base.rebuilds o.op

/-- A run with the operations that each snapshot was derived by, the latest first. -/
structure Chronicle where
  timeline : Timeline
  derivation : Nat → List Occurrence := fun _ => []

namespace Chronicle

def enter (c : Chronicle) (a : Application) : Chronicle where
  timeline := c.timeline.apply a.base a.op
  derivation := match c.timeline.snapshots[a.base]? with
    | some base => Function.update c.derivation c.timeline.snapshots.length
        (⟨c.timeline.snapshots.length, base, a.op⟩ :: c.derivation a.base)
    | none => c.derivation

/-- The latest operation on the derivation of the snapshot number `k` that rebuilt anything, by the
number of the snapshot that it made. -/
def origin (c : Chronicle) (k : Nat) : Option Nat :=
  ((c.derivation k).find? Occurrence.rebuilds).map (·.number)

end Chronicle

def chronicle (fs : Filesystem) (run : List Application) : Chronicle :=
  run.foldl Chronicle.enter { timeline := start fs }

/-! ## One operation -/

def added (t : Timeline) (base next : Filesystem) : Filesystem :=
  { next with copies := base.copies.renumber next.copies (t.latest + 1) }

theorem snapshots_extend (t : Timeline) (base next : Filesystem) :
    (t.extend base next).snapshots = t.snapshots ++ [t.added base next] := rfl

theorem apply_of_some {t : Timeline} {i : Nat} {base : Filesystem} (h : t.snapshots[i]? = some base)
    (op : Filesystem.Operation) : t.apply i op = t.extend base (base.apply op) := by
  rw [apply, h]

/-- What shares all copies is added as it is. -/
theorem added_of_copies {base next : Filesystem} (h : next.copies = base.copies) (t : Timeline) :
    t.added base next = next := by
  rw [added, h, Copies.renumber_self, ← h]

namespace Chronicle

section Enter
variable {c : Chronicle} {a : Application} {base : Filesystem}
  (hbase : c.timeline.snapshots[a.base]? = some base)
include hbase

theorem derivation_enter :
    (c.enter a).derivation = Function.update c.derivation c.timeline.snapshots.length
      (⟨c.timeline.snapshots.length, base, a.op⟩ :: c.derivation a.base) := by
  rw [enter, hbase]

theorem origin_enter_old {k : Nat} (hk : k ≠ c.timeline.snapshots.length) :
    (c.enter a).origin k = c.origin k := by
  rw [origin, derivation_enter hbase, Function.update_of_ne hk, origin]

theorem origin_enter_new :
    (c.enter a).origin c.timeline.snapshots.length =
      if base.rebuilds a.op then some c.timeline.snapshots.length else c.origin a.base := by
  rw [origin, derivation_enter hbase, Function.update_self, List.find?_cons, Occurrence.rebuilds]
  cases base.rebuilds a.op <;> rfl

theorem snapshots_enter :
    (c.enter a).timeline.snapshots =
      c.timeline.snapshots ++ [c.timeline.added base (base.apply a.op)] := by
  rw [enter, apply_of_some hbase, snapshots_extend]

theorem getElem?_enter_old {k : Nat} {s : Filesystem} (hs : c.timeline.snapshots[k]? = some s) :
    (c.enter a).timeline.snapshots[k]? = some s := by
  obtain ⟨hk, -⟩ := List.getElem?_eq_some_iff.mp hs
  rw [snapshots_enter hbase, List.getElem?_append_left hk, hs]

theorem getElem?_enter_new :
    (c.enter a).timeline.snapshots[c.timeline.snapshots.length]? =
      some (c.timeline.added base (base.apply a.op)) := by
  rw [snapshots_enter hbase, List.getElem?_concat_length]

end Enter

/-! ## What the numbers of the copies say -/

/-- The snapshot `s`, number `k` of the run, is the one its origin made, seen from another place, and
the number of its newest copy tells that origin. -/
structure Tracked (c : Chronicle) (first k : Nat) (s : Filesystem) : Prop where
  wellFormed : s.WellFormed
  newest : s.copies.newest = first + (c.origin k).getD 0
  positive : ∀ m, c.origin k = some m → 0 < m
  rebuilt : ∃ o, c.timeline.snapshots[(c.origin k).getD 0]? = some o ∧ s = { o with cwd := s.cwd }

/-- Every snapshot is tracked, and no copy has a number above the latest one. -/
structure Sound (c : Chronicle) (first : Nat) : Prop where
  latest : c.timeline.latest + 1 = first + c.timeline.snapshots.length
  tracked : ∀ k s, c.timeline.snapshots[k]? = some s → c.Tracked first k s

theorem Tracked.getD_lt {c : Chronicle} {first k : Nat} {s : Filesystem} (h : c.Tracked first k s) :
    (c.origin k).getD 0 < c.timeline.snapshots.length := by
  obtain ⟨o, ho, -⟩ := h.rebuilt
  exact (List.getElem?_eq_some_iff.mp ho).1

theorem sound_start {fs : Filesystem} (h : fs.WellFormed) :
    Chronicle.Sound { timeline := start fs } fs.copies.newest where
  latest := rfl
  tracked k s hs := by
    obtain ⟨rfl, rfl⟩ : k = 0 ∧ fs = s := by simpa [start, List.getElem?_singleton] using hs
    exact ⟨h, rfl, nofun, fs, rfl, rfl⟩

section Enter
variable {c : Chronicle} {a : Application} {base : Filesystem}
  (hbase : c.timeline.snapshots[a.base]? = some base)
include hbase

theorem Tracked.enter {first k : Nat} {s : Filesystem} (h : c.Tracked first k s)
    (hs : c.timeline.snapshots[k]? = some s) : (c.enter a).Tracked first k s := by
  obtain ⟨hk, -⟩ := List.getElem?_eq_some_iff.mp hs
  have horigin : (c.enter a).origin k = c.origin k := origin_enter_old hbase hk.ne
  obtain ⟨o, ho, heq⟩ := h.rebuilt
  refine ⟨h.wellFormed, ?_, ?_, ?_⟩
  · rw [horigin, h.newest]
  · rw [horigin]
    exact h.positive
  · rw [horigin]
    exact ⟨o, getElem?_enter_old hbase ho, heq⟩

/-- The snapshot that an operation adds shares all copies with the one before it, or it holds a copy
that is newer than all others. -/
theorem Sound.tracked_added {first : Nat} (h : c.Sound first) :
    (c.enter a).Tracked first c.timeline.snapshots.length
      (c.timeline.added base (base.apply a.op)) := by
  have htracked := h.tracked _ _ hbase
  have hlast := getElem?_enter_new hbase
  have hwf : (c.timeline.added base (base.apply a.op)).WellFormed :=
    (htracked.wellFormed.apply a.op).of_directories rfl (htracked.wellFormed.apply a.op).cwd
  have horigin := origin_enter_new hbase
  cases hop : base.rebuilds a.op with
  | false =>
    rw [hop, if_neg Bool.false_ne_true] at horigin
    have hmoved := Filesystem.apply_of_not_rebuilds hop
    have hcopies : (base.apply a.op).copies = base.copies := by rw [hmoved]
    rw [added_of_copies hcopies] at hwf hlast ⊢
    obtain ⟨o, ho, heq⟩ := htracked.rebuilt
    refine ⟨hwf, ?_, ?_, ?_⟩
    · rw [horigin, hcopies, htracked.newest]
    · rw [horigin]
      exact htracked.positive
    · rw [horigin]
      refine ⟨o, getElem?_enter_old hbase ho, ?_⟩
      rw [hmoved, heq]
  | true =>
    rw [hop, if_pos rfl] at horigin
    have hlt := htracked.getD_lt
    have hlatest := h.latest
    have hfresh : base.copies.newest < c.timeline.latest + 1 := by
      rw [htracked.newest]
      omega
    refine ⟨hwf, ?_, ?_, ?_⟩
    · rw [horigin, added, Copies.newest_renumber hfresh (htracked.wellFormed.copies_of_rebuilds hop)]
      exact hlatest
    · intro m hm
      rw [horigin, Option.some.injEq] at hm
      omega
    · rw [horigin]
      exact ⟨_, hlast, rfl⟩

end Enter

theorem enter_of_none {c : Chronicle} {a : Application} (h : c.timeline.snapshots[a.base]? = none) :
    c.enter a = c := by
  rw [enter, apply, h]

theorem Sound.enter {c : Chronicle} {first : Nat} (h : c.Sound first) (a : Application) :
    (c.enter a).Sound first := by
  cases hbase : c.timeline.snapshots[a.base]? with
  | none =>
    rw [enter_of_none hbase]
    exact h
  | some base =>
    refine ⟨?_, fun k s hs => ?_⟩
    · have hlatest := h.latest
      rw [snapshots_enter hbase, Chronicle.enter, apply_of_some hbase, List.length_append,
        List.length_singleton]
      change c.timeline.latest + 1 + 1 = _
      omega
    · rcases lt_or_ge k c.timeline.snapshots.length with hk | hk
      · rw [snapshots_enter hbase, List.getElem?_append_left hk] at hs
        exact (h.tracked k s hs).enter hbase hs
      · have hnew := hs
        rw [snapshots_enter hbase, List.getElem?_append_right hk, List.getElem?_singleton] at hnew
        split_ifs at hnew with hzero
        obtain rfl : k = c.timeline.snapshots.length := by omega
        rw [← Option.some.inj hnew]
        exact h.tracked_added hbase

theorem sound_chronicle {fs : Filesystem} (h : fs.WellFormed) (run : List Application) :
    (chronicle fs run).Sound fs.copies.newest := by
  induction run using List.reverseRecOn with
  | nil => exact sound_start h
  | append_singleton run a ih =>
    rw [chronicle, List.foldl_append]
    exact ih.enter a

/-! ## Identity -/

/-- The first snapshot has number zero, and no operation made it. -/
theorem Tracked.origin_eq {c : Chronicle} {first i j : Nat} {a b : Filesystem}
    (ha : c.Tracked first i a) (hb : c.Tracked first j b)
    (h : (c.origin i).getD 0 = (c.origin j).getD 0) : c.origin i = c.origin j := by
  cases hi : c.origin i with
  | none =>
    cases hj : c.origin j with
    | none => rfl
    | some n =>
      have hpos := hb.positive n hj
      rw [hi, hj, Option.getD_none, Option.getD_some] at h
      omega
  | some m =>
    have hpos := ha.positive m hi
    cases hj : c.origin j with
    | none =>
      rw [hi, hj, Option.getD_none, Option.getD_some] at h
      omega
    | some n =>
      rw [hi, hj, Option.getD_some, Option.getD_some] at h
      rw [h]

/-- Snapshots with one origin are what it made, seen from two places. -/
theorem Tracked.eq_of_origin {c : Chronicle} {first i j : Nat} {a b : Filesystem}
    (ha : c.Tracked first i a) (hb : c.Tracked first j b) (h : c.origin i = c.origin j) :
    a = { b with cwd := a.cwd } := by
  obtain ⟨o, ho, haeq⟩ := ha.rebuilt
  obtain ⟨o', ho', hbeq⟩ := hb.rebuilt
  rw [h, ho', Option.some.injEq] at ho
  rw [haeq, hbeq, ho]

theorem Sound.sameSnapshot_iff {c : Chronicle} {first : Nat} (h : c.Sound first) {i j : Nat}
    {a b : Filesystem} (ha : c.timeline.snapshots[i]? = some a)
    (hb : c.timeline.snapshots[j]? = some b) :
    a.sameSnapshot b = true ↔ a.cwd = b.cwd ∧ c.origin i = c.origin j := by
  have hatracked := h.tracked i a ha
  have hbtracked := h.tracked j b hb
  rw [Filesystem.sameSnapshot_iff]
  constructor
  · rintro ⟨hcopies, hcwd⟩
    refine ⟨hcwd, hatracked.origin_eq hbtracked ?_⟩
    have hnewest := hatracked.newest
    rw [hcopies, hbtracked.newest] at hnewest
    omega
  · rintro ⟨hcwd, horigin⟩
    rw [hatracked.eq_of_origin hbtracked horigin]
    exact ⟨rfl, hcwd⟩

theorem Sound.eq_of_sameSnapshot {c : Chronicle} {first : Nat} (h : c.Sound first) {i j : Nat}
    {a b : Filesystem} (ha : c.timeline.snapshots[i]? = some a)
    (hb : c.timeline.snapshots[j]? = some b) (hsame : a.sameSnapshot b = true) : a = b := by
  obtain ⟨hcwd, horigin⟩ := (h.sameSnapshot_iff ha hb).mp hsame
  rw [(h.tracked i a ha).eq_of_origin (h.tracked j b hb) horigin, hcwd]

/-- What identity means in a run: which snapshots are the same one, that these are equal in all they
hold, and which operations lead to the snapshot that one had. -/
structure Identifies (c : Chronicle) : Prop where
  same_iff : ∀ i j a b, c.timeline.snapshots[i]? = some a → c.timeline.snapshots[j]? = some b →
    (a.sameSnapshot b = true ↔ a.cwd = b.cwd ∧ c.origin i = c.origin j)
  equivalence : Equivalence fun a b : Filesystem => a.sameSnapshot b = true
  equal : ∀ a ∈ c.timeline.snapshots, ∀ b ∈ c.timeline.snapshots, a.sameSnapshot b = true → a = b
  idle : ∀ i a op, c.timeline.snapshots[i]? = some a → a.idle op = true →
    ∃ b, (c.timeline.apply i op).snapshots = c.timeline.snapshots ++ [b] ∧
      a.sameSnapshot b = true
  back : ∀ i a away back, c.timeline.snapshots[i]? = some a →
    (a.changeDirectory away).resolve back = a.cwd →
    ∃ b d, ((c.timeline.apply i (.changeDirectory away)).apply c.timeline.snapshots.length
        (.changeDirectory back)).snapshots = c.timeline.snapshots ++ [b, d] ∧
      b = a.changeDirectory away ∧ a.sameSnapshot d = true

end Chronicle

theorem snapshots_apply_of_not_rebuilds {t : Timeline} {i : Nat} {base : Filesystem}
    (h : t.snapshots[i]? = some base) (op : Filesystem.Operation) (hop : base.rebuilds op = false) :
    (t.apply i op).snapshots = t.snapshots ++ [base.apply op] := by
  have hcopies : (base.apply op).copies = base.copies := by
    rw [Filesystem.apply_of_not_rebuilds hop]
  rw [apply_of_some h, snapshots_extend, added_of_copies hcopies]

/-- Moving away and back leads to the snapshot that one had. -/
theorem changeDirectory_back {fs : Filesystem} (hwf : fs.WellFormed) {away back : String}
    (h : (fs.changeDirectory away).resolve back = fs.cwd) :
    (fs.changeDirectory away).changeDirectory back = fs := by
  have hthere : (fs.changeDirectory away).hasDirectory fs.cwd = true :=
    Filesystem.hasDirectory_apply hwf.cwd (.changeDirectory away)
  rw [Filesystem.changeDirectory_eq, h, if_pos hthere, Filesystem.changeDirectory_eq]
  split_ifs <;> rfl

/-- **Two snapshots are the same one** if and only if they stand in the same directory and have the
same origin, in every branching run from a snapshot that operations can make. -/
theorem identifies_of_reachable {fs : Filesystem} (h : fs.Reachable) (run : List Application) :
    (chronicle fs run).Identifies := by
  have hsound := Chronicle.sound_chronicle h.wellFormed run
  refine ⟨fun i j a b => hsound.sameSnapshot_iff, Filesystem.equivalence_sameSnapshot, ?_, ?_, ?_⟩
  · intro a ha b hb
    obtain ⟨i, hi⟩ := List.mem_iff_getElem?.mp ha
    obtain ⟨j, hj⟩ := List.mem_iff_getElem?.mp hb
    exact hsound.eq_of_sameSnapshot hi hj
  · intro i a op ha hidle
    have hsame := Filesystem.apply_of_idle hidle
    refine ⟨a, ?_, a.sameSnapshot_refl⟩
    rw [snapshots_apply_of_not_rebuilds ha op (Filesystem.not_rebuilds_of_idle hidle), hsame]
  · intro i a away back ha hback
    have hfirst := snapshots_apply_of_not_rebuilds ha (.changeDirectory away) rfl
    have hbase : ((chronicle fs run).timeline.apply i (.changeDirectory away)).snapshots[
        (chronicle fs run).timeline.snapshots.length]? = some (a.changeDirectory away) := by
      rw [hfirst, List.getElem?_concat_length]
      rfl
    have hsecond := snapshots_apply_of_not_rebuilds hbase (.changeDirectory back) rfl
    refine ⟨a.changeDirectory away, a, ?_, rfl, a.sameSnapshot_refl⟩
    rw [hsecond, hfirst, List.append_assoc]
    have hreturn : (a.changeDirectory away).apply (.changeDirectory back) = a :=
      changeDirectory_back (hsound.tracked i a ha).wellFormed hback
    rw [hreturn]
    rfl

def twoBranches : List Application := [
  ⟨0, .write "plan" "go"⟩,
  ⟨0, .write "plan" "go"⟩,
  ⟨1, .changeDirectory "/home"⟩,
  ⟨3, .changeDirectory "user"⟩,
  ⟨2, .remove "nothing"⟩,
  ⟨5, .makeDirectory "ops"⟩]

theorem identifies_twoBranches :
    Filesystem.seed.Reachable ∧ (chronicle .seed twoBranches).Identifies :=
  ⟨.seed, identifies_of_reachable .seed twoBranches⟩

end Timeline

end MissionShell
