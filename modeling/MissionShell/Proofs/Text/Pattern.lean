import Mathlib.Data.List.Forall2

/-!
# Patterns of repeated classes

A pattern is a row of pieces, each a class of characters with bounds on how many of them it takes. A
search fits the pieces one after the other, tries the numbers that a piece may take in the order that the
piece prefers, and comes back to try the next one when the rest of the text does not fit.

* `Text.stretches` : the front parts of a text that lie in a class, shortest first;
* `Text.Piece`, `Text.Piece.ways` : a piece of a pattern, and the ways to fit it in order of preference;
* `Text.search` : the first fit of a pattern to a whole text, piece by piece;
* `Text.Fits` : what a fit is, whichever comes first;
* `Text.search_sound`, `Text.exists_search` : the search finds fits only, and it finds one if there is one;
* `Text.length_le_of_search` : a first piece that prefers few characters gets no more than in any fit.
-/

namespace MissionShell.Text

/-- The ways to cut a text in two where the front part lies in the class `p`, shortest front first. -/
def stretches (p : Char → Bool) : List Char → List (List Char × List Char)
  | [] => [([], [])]
  | c :: cs => ([], c :: cs) :: if p c then (stretches p cs).map fun w => (c :: w.1, w.2) else []

/-- A class of characters with the least and, if there is one, the greatest number of them to be taken. -/
structure Piece where
  accepts : Char → Bool
  least : Nat
  most : Option Nat
  prefersFew : Bool

namespace Piece

def allows (q : Piece) (n : Nat) : Bool := q.least ≤ n && q.most.all (n ≤ ·)

/-- The ways to fit the piece to the front of a text, in the order in which they are tried. -/
def ways (q : Piece) (cs : List Char) : List (List Char × List Char) :=
  let found := (stretches q.accepts cs).filter fun w => q.allows w.1.length
  if q.prefersFew then found else found.reverse

structure Takes (q : Piece) (part : List Char) : Prop where
  allowed : q.allows part.length = true
  accepted : ∀ c ∈ part, q.accepts c = true

end Piece

/-- The parts of a text that the pieces of a pattern take, where they are first found to fit all of it. -/
def search : List Piece → List Char → Option (List (List Char))
  | [], [] => some []
  | [], _ :: _ => none
  | q :: qs, cs => (q.ways cs).findSome? fun w => (search qs w.2).map (w.1 :: ·)

abbrev Fits (qs : List Piece) (parts : List (List Char)) : Prop := List.Forall₂ Piece.Takes qs parts

/-! ## The ways to fit one piece -/

theorem mem_stretches {p : Char → Bool} {cs : List Char} {w : List Char × List Char} :
    w ∈ stretches p cs ↔ w.1 ++ w.2 = cs ∧ ∀ c ∈ w.1, p c = true := by
  obtain ⟨part, rest⟩ := w
  induction cs generalizing part with
  | nil =>
    rw [stretches, List.mem_singleton, Prod.mk.injEq, List.append_eq_nil_iff]
    refine ⟨fun h => ⟨h, fun c hc => ?_⟩, And.left⟩
    simp [h.1] at hc
  | cons x cs ih =>
    rw [stretches, List.mem_cons]
    cases part with
    | nil => split_ifs <;> simp
    | cons y part =>
      have hstart : (y :: part) ++ rest = x :: cs ↔ y = x ∧ part ++ rest = cs := by
        rw [List.cons_append, List.cons.injEq]
      rw [hstart, List.forall_mem_cons]
      constructor
      · rintro (hempty | hlonger)
        · cases hempty
        · split_ifs at hlonger with hx
          · obtain ⟨w, hw, heq⟩ := List.mem_map.mp hlonger
            cases heq
            obtain ⟨hcs, hall⟩ := (ih w.1).mp hw
            exact ⟨⟨rfl, hcs⟩, hx, hall⟩
          · cases hlonger
      · rintro ⟨⟨rfl, hcs⟩, hy, hall⟩
        rw [if_pos hy]
        exact Or.inr (List.mem_map_of_mem (f := fun w : List Char × List Char => (y :: w.1, w.2))
          ((ih part).mpr ⟨hcs, hall⟩))

theorem pairwise_stretches (p : Char → Bool) (cs : List Char) :
    (stretches p cs).Pairwise fun v w => v.1.length < w.1.length := by
  induction cs with
  | nil => exact List.pairwise_singleton _ _
  | cons x cs ih =>
    rw [stretches, List.pairwise_cons]
    split_ifs
    · refine ⟨fun w hw => ?_, List.pairwise_map.mpr (ih.imp fun h => by simpa using h)⟩
      obtain ⟨v, -, rfl⟩ := List.mem_map.mp hw
      exact Nat.succ_pos _
    · exact ⟨fun w hw => absurd hw (List.not_mem_nil), .nil⟩

namespace Piece
variable {q : Piece} {cs : List Char}

theorem mem_ways {w : List Char × List Char} :
    w ∈ q.ways cs ↔ w.1 ++ w.2 = cs ∧ q.Takes w.1 := by
  have hfound : w ∈ (stretches q.accepts cs).filter (fun w => q.allows w.1.length) ↔
      w.1 ++ w.2 = cs ∧ q.Takes w.1 := by
    rw [List.mem_filter, mem_stretches]
    exact ⟨fun h => ⟨h.1.1, h.2, h.1.2⟩, fun h => ⟨⟨h.1, h.2.accepted⟩, h.2.allowed⟩⟩
  unfold ways
  dsimp only
  split_ifs
  · exact hfound
  · rw [List.mem_reverse, hfound]

theorem pairwise_ways (hq : q.prefersFew = true) (cs : List Char) :
    (q.ways cs).Pairwise fun v w => v.1.length < w.1.length := by
  rw [ways, if_pos hq]
  exact (pairwise_stretches q.accepts cs).filter _

end Piece

/-! ## The search -/

/-- What is found is a fit to the whole text. -/
theorem search_sound {qs : List Piece} {cs : List Char} {parts : List (List Char)}
    (h : search qs cs = some parts) : Fits qs parts ∧ parts.flatten = cs := by
  induction qs generalizing cs parts with
  | nil =>
    cases cs with
    | nil =>
      cases h
      exact ⟨.nil, rfl⟩
    | cons c cs => cases h
  | cons q qs ih =>
    obtain ⟨w, hw, hrest⟩ := List.exists_of_findSome?_eq_some h
    obtain ⟨rest, hsearch, rfl⟩ := Option.map_eq_some_iff.mp hrest
    obtain ⟨hcs, htakes⟩ := Piece.mem_ways.mp hw
    obtain ⟨hfits, hflat⟩ := ih hsearch
    exact ⟨.cons htakes hfits, by rw [List.flatten_cons, hflat, hcs]⟩

/-- A text that can be fitted is fitted, be it in another way. -/
theorem exists_search {qs : List Piece} {parts : List (List Char)} (h : Fits qs parts) :
    ∃ found, search qs parts.flatten = some found := by
  induction h with
  | nil => exact ⟨[], rfl⟩
  | cons htakes _ ih =>
    rename_i q part qs parts _
    obtain ⟨found, hfound⟩ := ih
    have hway : (part, parts.flatten) ∈ q.ways (part ++ parts.flatten) :=
      Piece.mem_ways.mpr ⟨rfl, htakes⟩
    rw [List.flatten_cons, search, ← Option.isSome_iff_exists, List.findSome?_isSome_iff]
    exact ⟨_, hway, by rw [hfound]; rfl⟩

/-- A first piece that prefers few characters takes no more of them than in any other fit. -/
theorem length_le_of_search {q : Piece} (hq : q.prefersFew = true) {qs : List Piece}
    {part other : List Char} {parts others : List (List Char)}
    (h : search (q :: qs) (other :: others).flatten = some (part :: parts))
    (hother : Fits (q :: qs) (other :: others)) : part.length ≤ other.length := by
  obtain ⟨htakes, hothers⟩ := List.forall₂_cons.mp hother
  obtain ⟨tried, w, later, hways, hw, hfailed⟩ := List.findSome?_eq_some_iff.mp h
  obtain ⟨rest, -, hparts⟩ := Option.map_eq_some_iff.mp hw
  have hpart : w.1 = part := (List.cons.inj hparts).1
  have hmem : (other, others.flatten) ∈ q.ways (other :: others).flatten :=
    Piece.mem_ways.mpr ⟨rfl, htakes⟩
  have horder := Piece.pairwise_ways hq (other :: others).flatten
  rw [hways] at hmem horder
  -- the other fit was not tried before, since it would have been the first
  rcases List.mem_append.mp hmem with hbefore | hmem
  · obtain ⟨found, hfound⟩ := exists_search hothers
    have hnone := hfailed _ hbefore
    rw [hfound] at hnone
    cases hnone
  · rw [← hpart]
    rcases List.mem_cons.mp hmem with rfl | hlater
    · exact Nat.le_refl _
    · have hafter := (List.pairwise_cons.mp (List.pairwise_append.mp horder).2.1).1
      exact Nat.le_of_lt (hafter _ hlater)

end MissionShell.Text
