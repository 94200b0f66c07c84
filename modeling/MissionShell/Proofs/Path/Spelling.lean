import MissionShell.Path
import MissionShell.Proofs.Text.Words
import Mathlib.Data.List.Basic
import Mathlib.Data.List.Induction

/-!
# Proper paths and their spellings

A path made of names has one canonical spelling, and every spelling read from such a path leads to
such a path again.

* `Path.IsName`, `Path.Proper` : what can stand in a path, and the paths made of it;
* `Path.Proper.resolve` : every spelling leads from a proper path to a proper path;
* `Path.parse_toString` : reading the canonical spelling gives the path back;
* `Path.resolve_append_slash` : a text behind a spelling is read from where the spelling leads;
* `Path.Canonical` : what a canonical spelling looks like, said of its text alone;
* `Path.spellChild`, `Path.spellParent`, `Path.spellName` : the child, the parent and the name of a
  path, computed on its spelling.
-/

namespace MissionShell.Path

/-! ## Names -/

/-- A segment that leads to a child: it holds something and no slash, and is neither `.` nor `..`. -/
structure IsName (s : String) : Prop where
  ne_empty : s ≠ ""
  ne_dot : s ≠ "."
  ne_up : s ≠ ".."
  slash_notMem : '/' ∉ s.toList

instance (s : String) : Decidable (IsName s) :=
  decidable_of_iff (s ≠ "" ∧ s ≠ "." ∧ s ≠ ".." ∧ '/' ∉ s.toList)
    ⟨fun ⟨hempty, hdot, hup, hslash⟩ => ⟨hempty, hdot, hup, hslash⟩,
      fun h => ⟨h.ne_empty, h.ne_dot, h.ne_up, h.slash_notMem⟩⟩

def Proper (p : Path) : Prop := ∀ s ∈ p.segments, IsName s

theorem proper_root : root.Proper := by simp [Proper, root]

theorem Proper.child {p : Path} (hp : p.Proper) {s : String} (hs : IsName s) :
    (p.child s).Proper := by
  intro t ht
  rcases List.mem_append.mp ht with ht | ht
  · exact hp t ht
  · exact List.mem_singleton.mp ht ▸ hs

theorem Proper.parent {p : Path} (hp : p.Proper) : p.parent.Proper :=
  fun s hs => hp s (List.dropLast_sublist _ |>.mem hs)

theorem Proper.name {p : Path} (hp : p.Proper) {s : String} (hs : p.name? = some s) : IsName s :=
  hp s (List.mem_of_getLast? hs)

@[simp] theorem child_ne_root (p : Path) (s : String) : p.child s ≠ root := by
  simp [child, root]

@[simp] theorem parent_child (p : Path) (s : String) : (p.child s).parent = p := by
  simp [child, Path.parent]

@[simp] theorem name?_child (p : Path) (s : String) : (p.child s).name? = some s := by
  simp [child, name?]

@[simp] theorem parent_root : root.parent = root := rfl

/-- A path other than the root is a child of its parent. -/
theorem exists_eq_child {p : Path} (hp : p ≠ root) : ∃ s, p = p.parent.child s := by
  have hne : p.segments ≠ [] := fun h => hp (congrArg Path.mk h)
  exact ⟨p.segments.getLast hne, congrArg Path.mk (List.dropLast_append_getLast hne).symm⟩

theorem child_inj {p q : Path} {s t : String} : p.child s = q.child t ↔ p = q ∧ s = t := by
  constructor
  · intro h
    have hp := congrArg Path.parent h
    have hs := congrArg Path.name? h
    simp only [parent_child, name?_child, Option.some.injEq] at hp hs
    exact ⟨hp, hs⟩
  · rintro ⟨rfl, rfl⟩
    rfl

/-- Every path is reached from the root by steps down. -/
theorem childInduction {motive : Path → Prop} (root : motive root)
    (child : ∀ p s, motive p → motive (p.child s)) (p : Path) : motive p := by
  obtain ⟨segments⟩ := p
  induction segments using List.reverseRecOn with
  | nil => exact root
  | append_singleton segments s ih => exact child ⟨segments⟩ s ih

/-! ## Reading a spelling -/

/-- A piece of a text that was cut at the characters of a class holds none of them. -/
theorem notMem_of_mem_splitOnP {p : Char → Bool} {c : Char} (hc : p c = true) :
    ∀ (cs : List Char), ∀ r ∈ cs.splitOnP p, c ∉ r
  | [], r, hr => by
    rw [List.splitOnP_nil, List.mem_singleton] at hr
    simp [hr]
  | x :: cs, r, hr => by
    rw [List.splitOnP_cons_eq_if_modifyHead] at hr
    obtain ⟨q, qs, hq⟩ := List.exists_cons_of_ne_nil (List.splitOnP_ne_nil p cs)
    have ih := notMem_of_mem_splitOnP hc cs
    rw [hq] at hr ih
    split at hr
    · rcases List.mem_cons.mp hr with rfl | hr
      · simp
      · exact ih r hr
    · next hx =>
      rcases List.mem_cons.mp hr with rfl | hr
      · rintro (_ | ⟨_, hmem⟩)
        · exact hx hc
        · exact ih q List.mem_cons_self hmem
      · exact ih r (List.mem_cons_of_mem _ hr)

theorem mem_split {text s : String} (hs : s ∈ split text) : s ≠ "" ∧ '/' ∉ s.toList := by
  obtain ⟨r, hr, rfl⟩ := List.mem_map.mp hs
  have hmem := (List.mem_filter.mp hr).1
  refine ⟨?_, ?_⟩
  · simpa using Text.ne_nil_of_mem_runs hr
  · simpa using notMem_of_mem_splitOnP (c := '/') (by simp) _ r hmem

theorem Proper.step {p : Path} (hp : p.Proper) {s : String} (hs : s ≠ "" ∧ '/' ∉ s.toList) :
    (p.step s).Proper := by
  unfold Path.step
  split_ifs with hdot hup
  · exact hp
  · exact hp.parent
  · exact hp.child ⟨hs.1, hdot, hup, hs.2⟩

theorem Proper.foldl_step {p : Path} (hp : p.Proper) :
    ∀ (names : List String), (∀ s ∈ names, s ≠ "" ∧ '/' ∉ s.toList) →
      (names.foldl Path.step p).Proper
  | [], _ => hp
  | s :: names, h =>
    (hp.step (h s List.mem_cons_self)).foldl_step names fun t ht => h t (List.mem_cons_of_mem _ ht)

theorem Proper.follow {p : Path} (hp : p.Proper) (text : String) : (p.follow text).Proper :=
  hp.foldl_step _ fun _ hs => mem_split hs

/-- Every spelling leads from a proper path to a proper path. -/
theorem Proper.resolve {p : Path} (hp : p.Proper) (text : String) : (p.resolve text).Proper := by
  unfold Path.resolve
  split_ifs
  · exact proper_root.follow text
  · exact hp.follow text

/-! ## Canonical spellings -/

/-- Names are taken one after the other, each a step down. -/
theorem foldl_step_names (p : Path) :
    ∀ (names : List String), (∀ s ∈ names, IsName s) → names.foldl step p = ⟨p.segments ++ names⟩
  | [], _ => by simp
  | s :: names, h => by
    have hs := h s List.mem_cons_self
    have hstep : p.step s = p.child s := by rw [step, if_neg hs.ne_dot, if_neg hs.ne_up]
    rw [List.foldl_cons, hstep, foldl_step_names _ names fun t ht => h t (List.mem_cons_of_mem _ ht)]
    simp [child]

theorem IsName.isRun {s : String} (hs : IsName s) : Text.IsRun (· = '/') s := by
  refine ⟨hs.ne_empty, fun c hc => ?_⟩
  simpa using fun h : c = '/' => hs.slash_notMem (h ▸ hc)

theorem follow_name (p : Path) {s : String} (hs : IsName s) : p.follow s = p.child s := by
  have hsplit : split s = [s] := by
    rw [split, hs.isRun.runs_eq, List.map_singleton, s.ofList_toList]
  rw [follow, hsplit, List.foldl_cons, List.foldl_nil, step, if_neg hs.ne_dot, if_neg hs.ne_up]

/-- A name leads to the child of that name. -/
theorem resolve_name (p : Path) {s : String} (hs : IsName s) : p.resolve s = p.child s := by
  have hrelative : isAbsolute s = false := by
    rw [isAbsolute, decide_eq_false_iff_not]
    exact fun hhead => hs.slash_notMem (List.mem_of_head? hhead)
  rw [resolve, hrelative, if_neg Bool.false_ne_true, follow_name p hs]

theorem toList_toString (p : Path) :
    p.toString.toList = '/' :: ("/".intercalate p.segments).toList := by
  simp [Path.toString]

theorem split_toString {p : Path} (hp : p.Proper) : split p.toString = p.segments := by
  have hslash : decide ('/' = '/') = true := by decide
  rw [split, toList_toString, Text.runs_cons (by simp),
    Text.runs_intercalate hslash rfl fun s hs => (hp s hs).isRun]
  simp [Function.comp_def]

/-- Reading the canonical spelling of a path gives the path back. -/
theorem parse_toString {p : Path} (hp : p.Proper) : parse p.toString = p := by
  rw [parse, follow, split_toString hp, foldl_step_names _ _ hp]
  simp [root]

theorem isAbsolute_toString (p : Path) : isAbsolute p.toString = true := by
  simp [isAbsolute, toList_toString]

/-- A canonical spelling means the same wherever it is read. -/
theorem resolve_toString (p : Path) {q : Path} (hq : q.Proper) : p.resolve q.toString = q := by
  rw [resolve, isAbsolute_toString, if_pos rfl, parse_toString hq]

/-- A slash cuts a spelling in two. -/
theorem split_append_slash (text rest : String) :
    split (text ++ "/" ++ rest) = split text ++ split rest := by
  have hlist : (text ++ "/" ++ rest).toList = text.toList ++ '/' :: rest.toList := by simp
  rw [split, hlist, Text.runs_append_cons _ _ _ (by simp), List.map_append, split, split]

theorem follow_append_slash (p : Path) (text rest : String) :
    p.follow (text ++ "/" ++ rest) = (p.follow text).follow rest := by
  simp only [follow, split_append_slash, List.foldl_append]

theorem head?_toList_append {text : String} (htext : text ≠ "") (rest : String) :
    (text ++ rest).toList.head? = text.toList.head? := by
  rw [String.toList_append]
  exact List.head?_append_of_ne_nil _ fun h => htext (String.toList_eq_nil_iff.mp h)

/-- Behind a spelling and a slash, a text is read from where the spelling leads. -/
theorem resolve_append_slash (p : Path) {text : String} (htext : text ≠ "") (rest : String) :
    p.resolve (text ++ "/" ++ rest) = (p.resolve text).follow rest := by
  have habsolute : isAbsolute (text ++ "/" ++ rest) = isAbsolute text := by
    rw [isAbsolute, String.append_assoc, head?_toList_append htext, isAbsolute]
  unfold resolve
  rw [habsolute]
  split_ifs
  · exact follow_append_slash root text rest
  · exact follow_append_slash p text rest

theorem toString_ne_empty (p : Path) : p.toString ≠ "" := by
  intro h
  have hlist := congrArg String.toList h
  rw [toList_toString] at hlist
  exact List.cons_ne_nil _ _ hlist

theorem toString_inj {p q : Path} (hp : p.Proper) (hq : q.Proper) :
    p.toString = q.toString ↔ p = q := by
  constructor
  · intro h
    rw [← parse_toString hp, h, parse_toString hq]
  · rintro rfl
    rfl

/-! ## What a canonical spelling looks like -/

structure Canonical (text : String) : Prop where
  absolute : text.toList.head? = some '/'
  names : text ≠ "/" → ∀ s ∈ text.toList.tail.splitOn '/', s ≠ [] ∧ s ≠ ['.'] ∧ s ≠ ['.', '.']
  ending : text ≠ "/" → text.toList.getLast? ≠ some '/'

theorem IsName.toList_ne {s : String} (hs : IsName s) :
    s.toList ≠ [] ∧ s.toList ≠ ['.'] ∧ s.toList ≠ ['.', '.'] := by
  refine ⟨fun h => hs.ne_empty ?_, fun h => hs.ne_dot ?_, fun h => hs.ne_up ?_⟩
  all_goals rw [← s.ofList_toList, h]

theorem splitOn_intercalate_names {names : List String} (hne : names ≠ [])
    (h : ∀ s ∈ names, IsName s) :
    ("/".intercalate names).toList.splitOn '/' = names.map String.toList :=
  Text.splitOn_intercalate rfl hne fun s hs => (h s hs).slash_notMem

def spellChild (text name : String) : String :=
  if text = "/" then "/" ++ name else text ++ "/" ++ name

def spellParent (text : String) : String :=
  let before := ((text.toList.reverse.dropWhile (· ≠ '/')).drop 1).reverse
  if before = [] then "/" else String.ofList before

def spellName (text : String) : String :=
  String.ofList (text.toList.reverse.takeWhile (· ≠ '/')).reverse

theorem toString_eq_slash {p : Path} (hp : p.Proper) : p.toString = "/" ↔ p = root := by
  rw [← toString_root, toString_inj hp proper_root]

theorem toString_child {p : Path} (hp : p.Proper) (s : String) :
    (p.child s).toString = spellChild p.toString s := by
  unfold spellChild
  split_ifs with h
  · rw [(toString_eq_slash hp).mp h]
    simp [Path.toString, Path.child, root]
  · have hne : p.segments ≠ [] := fun hnil => h ((toString_eq_slash hp).mpr (congrArg Path.mk hnil))
    rw [Path.toString, Path.child, String.intercalate_append_of_ne_nil hne (by simp)]
    simp [Path.toString, String.append_assoc]

theorem toList_spellChild (text s : String) :
    (spellChild text s).toList = (if text = "/" then [] else text.toList) ++ '/' :: s.toList := by
  unfold spellChild
  split_ifs <;> simp

theorem spellParent_spellChild {text s : String} (htext : text ≠ "") (hs : '/' ∉ s.toList) :
    spellParent (spellChild text s) = text := by
  have hdrop : (spellChild text s).toList.reverse.dropWhile (· ≠ '/') =
      '/' :: (if text = "/" then [] else text.toList).reverse := by
    rw [toList_spellChild, List.reverse_append, List.reverse_cons, List.append_assoc,
      List.dropWhile_append_of_pos fun c hc => ?_]
    · simp
    · simpa using fun h : c = '/' => hs (h ▸ List.mem_reverse.mp hc)
  simp only [spellParent, hdrop, List.drop_succ_cons, List.drop_zero, List.reverse_reverse]
  split_ifs with hslash hnil hnil
  · exact hslash.symm
  · exact absurd rfl hnil
  · exact absurd (String.toList_inj.mp hnil) htext
  · exact text.ofList_toList

theorem spellName_of_suffix {text s : String} (hs : '/' ∉ s.toList)
    (h : '/' :: s.toList <:+ text.toList) : spellName text = s := by
  obtain ⟨before, hbefore⟩ := h
  have htake : text.toList.reverse.takeWhile (· ≠ '/') = s.toList.reverse := by
    rw [← hbefore, List.reverse_append, List.reverse_cons, List.append_assoc,
      List.takeWhile_append_of_pos fun c hc => ?_]
    · simp
    · simpa using fun h : c = '/' => hs (h ▸ List.mem_reverse.mp hc)
  rw [spellName, htake, List.reverse_reverse, s.ofList_toList]

theorem spellName_spellChild (text : String) {s : String} (hs : '/' ∉ s.toList) :
    spellName (spellChild text s) = s :=
  spellName_of_suffix hs ⟨_, (toList_spellChild text s).symm⟩

/-- A path has the name that its spelling ends in. -/
theorem suffix_toString_iff {p : Path} (hp : p.Proper) {s : String} (hs : IsName s) :
    '/' :: s.toList <:+ p.toString.toList ↔ p.name? = some s := by
  constructor
  · intro h
    have hroot : p ≠ root := by
      rintro rfl
      have hlength : s.toList.length + 1 ≤ 1 := h.length_le
      exact hs.toList_ne.1 (List.length_eq_zero_iff.mp (by omega))
    obtain ⟨t, ht⟩ := exists_eq_child hroot
    have hname : IsName t := hp.name (by rw [ht, name?_child])
    have hspell : spellName p.toString = t := by
      rw [ht, toString_child hp.parent, spellName_spellChild _ hname.slash_notMem]
    rw [ht, name?_child, ← hspell, spellName_of_suffix hs.slash_notMem h]
  · intro h
    obtain ⟨t, ht⟩ := exists_eq_child (p := p) (by rintro rfl; cases h)
    rw [ht, name?_child, Option.some_inj] at h
    rw [ht, h, toString_child hp.parent, toList_spellChild]
    exact List.suffix_append _ _

theorem canonical_toString {p : Path} (hp : p.Proper) : Canonical p.toString := by
  refine ⟨by simp [toList_toString], fun hslash s hs => ?_, fun hslash => ?_⟩
  · have hne : p.segments ≠ [] := fun h => hslash ((toString_eq_slash hp).mpr (congrArg Path.mk h))
    rw [toList_toString, List.tail_cons, splitOn_intercalate_names hne hp] at hs
    obtain ⟨t, ht, rfl⟩ := List.mem_map.mp hs
    exact (hp t ht).toList_ne
  · obtain ⟨s, hs⟩ := exists_eq_child fun h => hslash ((toString_eq_slash hp).mpr h)
    have hname : IsName s := hp.name (by rw [hs, name?_child])
    rw [hs, toString_child hp.parent, toList_spellChild, List.append_cons,
      List.getLast?_append_of_ne_nil _ hname.toList_ne.1]
    exact fun hlast => hname.slash_notMem (List.mem_of_getLast? hlast)

end MissionShell.Path
