import MissionShell.Proofs.Binary64
import MissionShell.Proofs.Quest.Run
import Mathlib.Tactic.Positivity

/-!
# Percentages

The share of the completed steps is computed in doubles. For up to `2 ^ 46` steps only its quotient is
rounded, and too little for the percentage to notice: a quotient that is below a half is so far below
it that the next smaller double is nearer.

* `Progress.share_bounds` : where the quotient lies;
* `Progress.halfUp_of_rounds` : the percentage does not notice the rounding;
* `Progress.percentage_eq` : the percentage in integers;
* `Quest.Furthers`, `Engine.furthers_call`, `Engine.furthers_after` : no line takes a completed step back;
* `Engine.percentage_exact` : the percentage, and that it never decreases.
-/

namespace MissionShell

namespace Progress
open Binary64

/-! ## The quotient -/

theorem isDouble_natCast {n : Nat} (h : n < 2 ^ 53) : IsDouble n := by
  have hcast : ((n : Int) : Rat) = n := Int.cast_natCast n
  rw [← hcast]
  exact isDouble_intCast (by rw [Nat.abs_cast]; exact_mod_cast h)

theorem nearest_natCast {n : Nat} (h : n < 2 ^ 53) : nearest n = n :=
  (rounds_nearest (Nat.cast_nonneg n)).eq (isDouble_natCast h)

/-- A half below an integer is a double. -/
theorem isDouble_sub_half {m : Nat} (hm : m ≤ 100) : IsDouble ((m : Rat) - 1 / 2) := by
  refine ⟨2 * m - 1, -1, by rw [abs_lt]; omega, ?_⟩
  push_cast
  rw [zpow_neg_one]
  ring

/-- So is what is so little less than a half above an integer. -/
theorem isDouble_below_half {m : Nat} (hm : m ≤ 100) :
    IsDouble ((m : Rat) + 1 / 2 - 1 / 2 ^ 46) := by
  refine ⟨(2 * m + 1) * 2 ^ 45 - 1, -46, by rw [abs_lt]; omega, ?_⟩
  push_cast
  rw [zpow_neg]
  norm_num
  ring

/-- The nearest integer is the same before and after rounding, if the number is not as near to the half
above it as the next smaller double. -/
theorem halfUp_of_rounds {x y : Rat} (h : Rounds x y) {m : Nat} (hm : m ≤ 100)
    (hlower : (m : Rat) - 1 / 2 ≤ x) (hupper : x < m + 1 / 2 - 1 / 2 ^ 47) : halfUp y = m := by
  rw [halfUp_eq_iff, Int.cast_natCast]
  refine ⟨h.le_of_le (isDouble_sub_half hm) hlower, ?_⟩
  exact h.lt_of_lt (isDouble_below_half hm) (by norm_num) (by norm_num at hupper ⊢; linarith)

/-- The quotient is below the half above it by an integer over `2 * t`, and by an even one if `t` is even,
so by more than half of what parts the doubles there. -/
theorem share_bounds {c t : Nat} (ht : 0 < t) (hbound : t ≤ 2 ^ 46) :
    (((200 * c + t) / (2 * t) : Nat) : Rat) - 1 / 2 ≤ 100 * c / t ∧
      (100 * c / t : Rat) < ((200 * c + t) / (2 * t) : Nat) + 1 / 2 - 1 / 2 ^ 47 := by
  have hpos : (0 : Rat) < t := Nat.cast_pos.mpr ht
  have hdivision := Nat.div_add_mod (200 * c + t) (2 * t)
  have hremainder := Nat.mod_lt (200 * c + t) (by omega : 0 < 2 * t)
  generalize (200 * c + t) / (2 * t) = m at *
  generalize (200 * c + t) % (2 * t) = r at *
  have hlower : 2 * t * m ≤ 200 * c + t := by omega
  have hupper : 2 ^ 46 * (200 * c) + t < 2 ^ 46 * (2 * t * m + t) := by
    rcases hbound.lt_or_eq with hlt | rfl
    · omega
    · -- at the bound the quotient of an odd integer would be a tie
      omega
  rw [← Nat.cast_le (α := Rat)] at hlower
  rw [← Nat.cast_lt (α := Rat)] at hupper
  push_cast at hlower hupper
  constructor
  · rw [le_div_iff₀ hpos]
    linarith
  · rw [div_lt_iff₀ hpos]
    linarith

/-- The percentage in integers. -/
theorem percentage_eq {c t : Nat} (hc : c ≤ t) (ht : 0 < t) (hbound : t ≤ 2 ^ 46) :
    (Progress.mk c t).percentage = (200 * c + t) / (2 * t) := by
  have hshare : Rounds (100 * c / t) (nearest (100 * c / t)) := rounds_nearest (by positivity)
  have hscaled : nearest (100 * nearest c) = 100 * c := by
    have hcast : ((100 * c : Nat) : Rat) = 100 * c := by push_cast; rfl
    rw [nearest_natCast (by omega), ← hcast, nearest_natCast (by omega)]
  have hle : (200 * c + t) / (2 * t) ≤ 100 := by
    rw [Nat.div_le_iff_le_mul_add_pred (by omega)]
    omega
  obtain ⟨hlower, hupper⟩ := share_bounds (c := c) ht hbound
  unfold percentage
  dsimp only
  rw [if_neg ht.ne', hscaled, nearest_natCast (by omega), halfUp_of_rounds hshare hle hlower hupper,
    Int.toNat_natCast, Nat.min_eq_left]
  exact hle.trans (by decide)

structure Rounded (t : Nat) : Prop where
  exact : ∀ c ≤ t, (Progress.mk c t).percentage = (200 * c + t) / (2 * t)
  zero : (Progress.mk 0 t).percentage = 0
  full : (Progress.mk t t).percentage = 100
  le_hundred : ∀ c ≤ t, (Progress.mk c t).percentage ≤ 100
  monotone : ∀ c d, c ≤ d → d ≤ t → (Progress.mk c t).percentage ≤ (Progress.mk d t).percentage

theorem rounded {t : Nat} (ht : 0 < t) (hbound : t ≤ 2 ^ 46) : Rounded t := by
  have hexact : ∀ c ≤ t, (Progress.mk c t).percentage = (200 * c + t) / (2 * t) :=
    fun c hc => percentage_eq hc ht hbound
  have hmonotone : ∀ c d, c ≤ d → d ≤ t →
      (Progress.mk c t).percentage ≤ (Progress.mk d t).percentage := by
    intro c d hcd hd
    rw [hexact c (hcd.trans hd), hexact d hd]
    exact Nat.div_le_div_right (by omega)
  have hfull : (Progress.mk t t).percentage = 100 := by
    rw [hexact t le_rfl, Nat.div_eq_iff (by omega)]
    omega
  refine ⟨hexact, ?_, hfull, fun c hc => hfull ▸ hmonotone c t hc le_rfl, hmonotone⟩
  rw [hexact 0 (Nat.zero_le t), Nat.div_eq_of_lt (by omega)]

end Progress

/-! ## Runs of a quest -/

/-- The quest `r` has as many steps as `q`, and no fewer of them are completed. -/
structure Quest.Furthers (q r : Quest) : Prop where
  total : r.progress.total = q.progress.total
  completed : q.progress.completed ≤ r.progress.completed

namespace Quest

theorem Furthers.refl (q : Quest) : q.Furthers q := ⟨rfl, le_rfl⟩

theorem Furthers.trans {q r s : Quest} (h : q.Furthers r) (h' : r.Furthers s) : q.Furthers s :=
  ⟨h'.total.trans h.total, h.completed.trans h'.completed⟩

theorem completed_le_total (q : Quest) : q.progress.completed ≤ q.progress.total :=
  List.countP_le_length

theorem Furthers.percentage_le {q r : Quest} (h : q.Furthers r)
    (hrounded : Progress.Rounded q.progress.total) :
    q.progress.percentage ≤ r.progress.percentage := by
  have hle := r.completed_le_total
  have hr : r.progress = ⟨r.progress.completed, q.progress.total⟩ := by rw [← h.total]
  rw [h.total] at hle
  rw [hr]
  exact hrounded.monotone _ _ h.completed hle

theorem furthers_completeStep (q : Quest) : q.Furthers q.completeStep := by
  unfold completeStep
  split
  · exact .refl q
  · next step hstep =>
    have hlt : q.cursor < q.steps.length := (List.getElem?_eq_some_iff.mp hstep).1
    refine ⟨List.length_set, ?_⟩
    simp only [progress, List.countP_set hlt, ↓reduceIte]
    split_ifs <;> omega

end Quest

namespace Engine

/-- A call that neither begins the quest anew nor starts another one takes no step back. -/
theorem furthers_call {e : Engine} {p : Playthrough} (hp : e.playthrough = some p) {c : Call}
    (hstays : c.Stays) (hreset : c ≠ .reset) :
    ∃ next, (e.call c).playthrough = some next ∧ p.quest.Furthers next.quest := by
  cases c with
  | submit line =>
    refine ⟨(p.submit line).2, by rw [call, submit, hp], ?_⟩
    rcases p.quest_submit line with hsame | ⟨-, hnext⟩
    · rw [hsame]
      exact .refl _
    · rw [hnext]
      exact p.quest.furthers_completeStep
  | check line => exact ⟨p, hp, .refl _⟩
  | reset => exact absurd rfl hreset
  | startQuest id =>
    obtain ⟨error, herror⟩ := hstays
    rw [call_startQuest_of_error herror]
    exact ⟨p, hp, .refl _⟩

theorem furthers_after {e : Engine} {p : Playthrough} (hp : e.playthrough = some p)
    {calls : List Call} (hcalls : ∀ c ∈ calls, c.Stays ∧ c ≠ .reset) :
    ∃ last, (e.after calls).playthrough = some last ∧ p.quest.Furthers last.quest := by
  induction calls generalizing e p with
  | nil => exact ⟨p, hp, .refl _⟩
  | cons c calls ih =>
    obtain ⟨⟨hstays, hreset⟩, hrest⟩ := List.forall_mem_cons.mp hcalls
    obtain ⟨next, hnext, hfurther⟩ := furthers_call hp hstays hreset
    obtain ⟨last, hlast, hfurthest⟩ := ih hnext hrest
    exact ⟨last, hlast, hfurther.trans hfurthest⟩

theorem progress_of_playthrough {e : Engine} {p : Playthrough} (hp : e.playthrough = some p) :
    e.progress = p.quest.progress := by
  rw [progress, quest?, hp]
  rfl

/-- **The percentage is that of exact rounding.** Up to `2 ^ 46` steps, the doubles in which it is computed
cannot be told from rational numbers. While a quest is played it does not go down. -/
theorem percentage_exact {t : Nat} (ht : 0 < t) (hbound : t ≤ 2 ^ 46) :
    Progress.Rounded t ∧
      ∀ (e : Engine) (calls : List Call), e.progress.total = t →
        (∀ c ∈ calls, c.Stays ∧ c ≠ .reset) →
          e.progress.percentage ≤ (e.after calls).progress.percentage := by
  have hrounded := Progress.rounded ht hbound
  refine ⟨hrounded, fun e calls htotal hcalls => ?_⟩
  cases hp : e.playthrough with
  | none =>
    -- no quest has no steps
    rw [progress, quest?, hp] at htotal
    exact absurd htotal ht.ne
  | some p =>
    obtain ⟨last, hlast, hfurther⟩ := furthers_after hp hcalls
    rw [progress_of_playthrough hp] at htotal ⊢
    rw [progress_of_playthrough hlast]
    exact hfurther.percentage_le (htotal.symm ▸ hrounded)

/-- The quotient that is nearest to a half below it, of as many steps as there may be, and the next one; and the
first step of a quest. -/
theorem percentage_exact_bound :
    0 < 2 ^ 46 ∧ 2 ^ 46 ≤ 2 ^ 46 ∧
      (Progress.mk 51721026970583 (2 ^ 46)).percentage = 73 ∧
      (Progress.mk 51721026970584 (2 ^ 46)).percentage = 74 ∧
      (new.load Mission.first).progress.total = 11 ∧
      (new.load Mission.first).progress.percentage ≤
        ((new.load Mission.first).after [.submit "ssh"]).progress.percentage := by
  obtain ⟨hrounded, -⟩ := percentage_exact (t := 2 ^ 46) (by decide) le_rfl
  obtain ⟨-, hruns⟩ := percentage_exact (t := 11) (by decide) (by decide)
  refine ⟨by decide, le_rfl, hrounded.exact _ (by decide), hrounded.exact _ (by decide), rfl,
    hruns _ _ rfl ?_⟩
  intro c hc
  rw [List.mem_singleton.mp hc]
  exact ⟨trivial, Call.noConfusion⟩

end Engine

end MissionShell
