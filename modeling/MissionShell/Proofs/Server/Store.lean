import MissionShell.Server.Store
import Mathlib.Data.List.Basic
import Mathlib.Logic.Function.Basic

/-!
# Engines by session

What the operations on the store do to the engine of each session, said through `Store.engine?`, and to
the identifiers of the sessions.

* `Store.engine?_put` : the use of one session;
* `Store.create_of_ok`, `Store.withSession_cases`, `Store.remove_cases` : when an operation succeeds
  and what becomes of all engines;
* `Store.ids`, `Store.mem_ids_iff` : the identifiers of the live sessions;
* `Store.ids_create`, `Store.ids_withSession`, `Store.ids_remove`, `Store.size_sweep` : what becomes of
  them.
-/

namespace MissionShell.Store

theorem engine?_append (s : Store) (e : StoreEntry) (id : Uuid) :
    (Store.mk (s.entries ++ [e])).engine? id =
      (s.engine? id).or (if id = e.id then some e.engine else none) := by
  unfold engine? entry?
  rw [List.find?_append, Option.map_or]
  congr 1
  by_cases h : e.id = id
  · simp [h]
  · simp [h, Ne.symm h]

def put (s : Store) (now : Nat) (id : Uuid) (engine : Engine) : Store :=
  ⟨s.entries.map fun x => if x.id = id then ⟨id, engine, now⟩ else x⟩

theorem engine?_put {s : Store} {id : Uuid} {e : Engine} (h : s.engine? id = some e) (now : Nat)
    (engine : Engine) :
    (s.put now id engine).engine? = Function.update s.engine? id (some engine) := by
  funext other
  have hpred : ((fun x : StoreEntry => decide (x.id = other)) ∘
      fun x => if x.id = id then ⟨id, engine, now⟩ else x) = fun x => decide (x.id = other) := by
    funext x
    by_cases hx : x.id = id <;> simp [hx]
  rw [Function.update_apply]
  unfold engine? entry? put at *
  rw [List.find?_map, hpred, Option.map_map]
  split_ifs with hother
  · subst hother
    obtain ⟨x, hx, -⟩ := Option.map_eq_some_iff.mp h
    have hid : x.id = other := by simpa using List.find?_some hx
    simp [hx, hid]
  · cases hfind : s.entries.find? fun x => decide (x.id = other) with
    | none => rfl
    | some x =>
      have hid : x.id ≠ id := by
        have hx : x.id = other := by simpa using List.find?_some hfind
        rw [hx]
        exact hother
      simp [hid]

theorem engine?_filter (s : Store) (id : Uuid) :
    (Store.mk (s.entries.filter (·.id ≠ id))).engine? = Function.update s.engine? id none := by
  funext other
  rw [Function.update_apply]
  unfold engine? entry?
  rw [List.find?_filter]
  split_ifs with hother
  · subst hother
    simp
  · congr 2
    funext x
    by_cases hx : x.id = other <;> simp [hx, hother]

/-! ## The operations -/

theorem create_of_error {quest : Option String} {error : QuestError}
    (h : Engine.start quest = .error error) (s : Store) (now : Nat) (id : Uuid) :
    s.create now id quest = .error error := by
  rw [create, h]
  rfl

theorem create_of_ok {quest : Option String} {e : Engine} (h : Engine.start quest = .ok e) (s : Store)
    (now : Nat) (id : Uuid) :
    ∃ next, s.create now id quest = .ok next ∧
      ∀ other, next.engine? other = (s.engine? other).or (if other = id then some e else none) := by
  rw [create, h]
  exact ⟨_, rfl, s.engine?_append ⟨id, e, now⟩⟩

theorem withSession_cases {α : Type} (s : Store) (now : Nat) (id : Uuid) (f : Engine → α × Engine) :
    (s.engine? id = none ∧ s.withSession now id f = .error (notFound id)) ∨
      ∃ e next, s.engine? id = some e ∧ s.withSession now id f = .ok ((f e).1, next) ∧
        next.engine? = Function.update s.engine? id (some (f e).2) := by
  unfold withSession
  cases hentry : s.entry? id with
  | none => exact Or.inl ⟨by rw [engine?, hentry]; rfl, rfl⟩
  | some x =>
    have hengine : s.engine? id = some x.engine := by rw [engine?, hentry]; rfl
    exact Or.inr ⟨x.engine, s.put now id (f x.engine).2, hengine, rfl, engine?_put hengine now _⟩

theorem remove_cases (s : Store) (id : Uuid) :
    (s.engine? id = none ∧ s.remove id = .error (notFound id)) ∨
      ∃ e next, s.engine? id = some e ∧ s.remove id = .ok next ∧
        next.engine? = Function.update s.engine? id none := by
  unfold remove
  cases hentry : s.entry? id with
  | none => exact Or.inl ⟨by rw [engine?, hentry]; rfl, rfl⟩
  | some x =>
    have hengine : s.engine? id = some x.engine := by rw [engine?, hentry]; rfl
    exact Or.inr ⟨x.engine, _, hengine, rfl, s.engine?_filter id⟩

/-! ## Identifiers -/

def ids (s : Store) : List Uuid := s.entries.map (·.id)

theorem length_ids (s : Store) : s.ids.length = s.size := List.length_map _

theorem mem_ids_iff {s : Store} {id : Uuid} : id ∈ s.ids ↔ ∃ e, s.engine? id = some e := by
  have hentry : id ∈ s.ids ↔ (s.entry? id).isSome = true := by simp [ids, entry?]
  rw [hentry, engine?, ← Option.isSome_map (f := (·.engine)), Option.isSome_iff_exists]

theorem notMem_ids_iff {s : Store} {id : Uuid} : id ∉ s.ids ↔ s.engine? id = none := by
  rw [mem_ids_iff, Option.eq_none_iff_forall_ne_some, not_exists]

theorem ids_create {s next : Store} {now : Nat} {id : Uuid} {quest : Option String}
    (h : s.create now id quest = .ok next) : next.ids = s.ids ++ [id] := by
  rw [create] at h
  cases hstart : Engine.start quest with
  | error error =>
    rw [hstart] at h
    cases h
  | ok e =>
    rw [hstart] at h
    rw [← Except.ok.inj h, ids, List.map_append]
    rfl

theorem ids_withSession {α : Type} {s next : Store} {now : Nat} {id : Uuid} {f : Engine → α × Engine}
    {a : α} (h : s.withSession now id f = .ok (a, next)) : next.ids = s.ids := by
  unfold withSession at h
  split at h
  · cases h
  · have hnext : _ = next := congrArg Prod.snd (Except.ok.inj h)
    rw [← hnext, ids, ids, List.map_map]
    refine List.map_congr_left fun x _ => ?_
    by_cases hx : x.id = id <;> simp [hx]

theorem ids_remove {s next : Store} {id : Uuid} (h : s.remove id = .ok next) :
    next.ids = s.ids.filter (· ≠ id) := by
  unfold remove at h
  split_ifs at h
  rw [← Except.ok.inj h, ids, ids, List.filter_map]
  rfl

theorem ids_sweep_sublist (s : Store) (now maxIdle : Nat) :
    (s.sweep now maxIdle).ids.Sublist s.ids := List.filter_sublist.map _

/-- A sweep counts the sessions that it drops. -/
theorem size_sweep (s : Store) (now maxIdle : Nat) :
    (s.sweep now maxIdle).size + s.swept now maxIdle = s.size := by
  have hle : (s.sweep now maxIdle).size ≤ s.size := by
    rw [← length_ids, ← length_ids]
    exact (s.ids_sweep_sublist now maxIdle).length_le
  rw [swept]
  omega

/-- Of distinct identifiers, removing one leaves one less. -/
theorem length_filter_ne {ids : List Uuid} (hdistinct : ids.Nodup) {id : Uuid} (hid : id ∈ ids) :
    (ids.filter (· ≠ id)).length + 1 = ids.length := by
  have herase : ids.filter (· ≠ id) = ids.erase id := by
    rw [hdistinct.erase_eq_filter]
    exact List.filter_congr fun x _ => decide_not
  have hpos := List.length_pos_of_mem hid
  rw [herase, List.length_erase_of_mem hid]
  omega

end MissionShell.Store
