import MissionShell.Net.Uuid
import MissionShell.Proofs.Text.Digits
import MissionShell.Proofs.Text.Words
import Mathlib.Algebra.GroupWithZero.Nat

/-!
# Identifiers and their spelling

* `Uuid.forall_mem_toString` : the characters that an identifier is spelled with;
* `Uuid.parse?_toString` : an identifier is read back from its five groups of digits.
-/

namespace MissionShell.Uuid

@[simp] theorem length_digits (id : Uuid) : id.digits.length = 32 := Text.length_hexFixed _ _

theorem ofDigits?_digits (id : Uuid) : ofDigits? id.digits = some id := by
  have hvalue : Text.number? 16 id.digits = some id.bits.toNat := by
    rw [digits, Text.number?_hexFixed (by decide), Nat.mod_eq_of_lt]
    exact id.bits.isLt
  rw [ofDigits?, if_pos id.length_digits, hvalue, Option.map_some, BitVec.ofNat_toNat,
    BitVec.setWidth_eq]

/-! ## Groups -/

theorem map_length_cut {lengths : List Nat} {cs : List Char} (h : lengths.sum ≤ cs.length) :
    (cut lengths cs).map List.length = lengths := by
  induction lengths generalizing cs with
  | nil => rfl
  | cons n lengths ih =>
    rw [List.sum_cons] at h
    rw [cut, List.map_cons, List.length_take, ih (by rw [List.length_drop]; omega),
      Nat.min_eq_left (by omega)]

theorem flatten_cut (lengths : List Nat) (cs : List Char) :
    (cut lengths cs).flatten = cs.take lengths.sum := by
  induction lengths generalizing cs with
  | nil => rfl
  | cons n lengths ih => rw [cut, List.flatten_cons, ih, List.sum_cons, List.take_add]

theorem mem_of_mem_cut {lengths : List Nat} {cs group : List Char} (h : group ∈ cut lengths cs)
    {c : Char} (hc : c ∈ group) : c ∈ cs := by
  have hflat : c ∈ (cut lengths cs).flatten := List.mem_flatten.mpr ⟨group, h, hc⟩
  rw [flatten_cut] at hflat
  exact List.mem_of_mem_take hflat

/-! ## The spelling -/

theorem toList_toString (id : Uuid) :
    id.toString.toList = ['-'].intercalate (cut groupLengths id.digits) := by
  rw [Uuid.toString, String.toList_intercalate, List.map_map]
  simp

theorem length_toString (id : Uuid) : id.toString.toList.length = 36 := by
  rw [toList_toString]
  simp [cut, groupLengths, List.intercalate]

/-- An identifier is spelled with small digits of base sixteen and hyphens. -/
theorem forall_mem_toString {p : Char → Prop} (hhyphen : p '-') (hdigit : ∀ d < 16, p (Text.hexDigit d))
    (id : Uuid) : ∀ c ∈ id.toString.toList, p c := by
  intro c hc
  by_cases hne : c = '-'
  · exact hne ▸ hhyphen
  · rw [Uuid.toString] at hc
    obtain ⟨s, hs, hmem⟩ := Text.exists_mem_of_mem_intercalate (by simpa using hne) hc
    obtain ⟨group, hgroup, rfl⟩ := List.mem_map.mp hs
    rw [String.toList_ofList] at hmem
    obtain ⟨d, hd, rfl⟩ := Text.exists_of_mem_hexFixed (mem_of_mem_cut hgroup hmem)
    exact hdigit d hd

theorem hyphen_notMem_group {id : Uuid} {group : List Char} (h : group ∈ cut groupLengths id.digits) :
    '-' ∉ group := by
  intro hmem
  obtain ⟨d, hd, hhyphen⟩ := Text.exists_of_mem_hexFixed (mem_of_mem_cut h hmem)
  have hall : ∀ d < 16, '-' ≠ Text.hexDigit d := by decide
  exact hall d hd hhyphen

theorem ofGroups?_toString (id : Uuid) : ofGroups? id.toString.toList = some id := by
  have hgroups : id.toString.toList.splitOn '-' = cut groupLengths id.digits := by
    rw [Uuid.toString, Text.splitOn_intercalate rfl (by simp [cut, groupLengths])]
    · simp [Function.comp_def]
    · simpa using fun _ => hyphen_notMem_group
  have hlength : groupLengths.sum = id.digits.length := id.length_digits.symm
  rw [ofGroups?, hgroups, if_pos (map_length_cut (Nat.le_of_eq hlength)), flatten_cut, hlength,
    List.take_length, ofDigits?_digits]

/-- An identifier is spelled without braces and without a name in front of it. -/
theorem unwrap_toString (id : Uuid) : unwrap id.toString.toList = id.toString.toList := by
  have hne : id.toString.toList ≠ [] := List.ne_nil_of_length_pos (by rw [length_toString]; decide)
  obtain ⟨c, cs, hspelled⟩ := List.exists_cons_of_ne_nil hne
  have hfirst : c ≠ '\x7b' ∧ c.toLower ≠ 'u' := by
    have hall : ∀ c ∈ id.toString.toList, c ≠ '\x7b' ∧ c.toLower ≠ 'u' :=
      forall_mem_toString (by decide) (by decide) id
    exact hall c (hspelled ▸ List.mem_cons_self)
  rw [hspelled, unwrap, if_neg (by simp [hfirst.1]), if_neg]
  intro hname
  exact hfirst.2 (List.cons.inj hname).1

/-- An identifier is read back from its spelling. -/
theorem parse?_toString (id : Uuid) : parse? id.toString.toList = some id := by
  have hdigits : ofDigits? id.toString.toList = none := by
    rw [ofDigits?, if_neg (by rw [length_toString]; decide)]
  rw [parse?, hdigits, unwrap_toString, ofGroups?_toString]
  rfl

end MissionShell.Uuid
