/-!
# Blank characters, words and trimming

* `isBlank` : the characters that separate words (the White_Space property);
* `runs p cs` : the maximal nonempty stretches of `cs` without a character of class `p`;
* `words` : the runs between blanks;
* `trimStart`, `trimEnd`, `trim` : a text without the blanks at its ends.
-/

namespace MissionShell.Text

/-- The 25 characters with the White_Space property. -/
def isBlank (c : Char) : Bool :=
  let n := c.toNat
  n == 0x20 || (0x09 ≤ n && n ≤ 0x0D) || n == 0x85 || n == 0xA0 || n == 0x1680 ||
    (0x2000 ≤ n && n ≤ 0x200A) || n == 0x2028 || n == 0x2029 || n == 0x202F || n == 0x205F ||
    n == 0x3000

theorem isBlank_space : isBlank ' ' = true := by decide

/-! ## Runs -/

def runs (p : Char → Bool) (cs : List Char) : List (List Char) :=
  (cs.splitOnP p).filter (!·.isEmpty)

theorem runs_nil (p : Char → Bool) : runs p [] = [] := by simp [runs]

theorem ne_nil_of_mem_runs {p : Char → Bool} {cs r : List Char} (h : r ∈ runs p cs) : r ≠ [] := by
  simpa using (List.mem_filter.1 h).2

theorem runs_append_cons (p : Char → Bool) (xs ys : List Char) {sep : Char} (h : p sep = true) :
    runs p (xs ++ sep :: ys) = runs p xs ++ runs p ys := by
  simp [runs, List.splitOnP_append_cons xs ys h]

def words (text : String) : List String :=
  (runs isBlank text.toList).map String.ofList

/-! ## Trimming -/

def trimStart (cs : List Char) : List Char := cs.dropWhile isBlank

def trimEnd (cs : List Char) : List Char := (trimStart cs.reverse).reverse

def trim (text : String) : String := String.ofList (trimEnd (trimStart text.toList))

end MissionShell.Text
