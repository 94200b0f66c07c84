import MissionShell.Config
import MissionShell.Proofs.Text.Digits
import MissionShell.Proofs.Text.Spacing
import Mathlib.Algebra.Group.Nat.Defs

/-!
# What settings are accepted

The address is read first, so a bad one is the error whatever stands in the other setting. Both are read
without the blanks around them, and an error shows what was found with its blanks.

* `Config.WritesSeconds`, `Config.seconds?_eq_some_iff` : the texts that are read as a number of seconds;
* `Config.GivesAddress`, `Config.GivesIdle` : what each setting says, with its default;
* `Config.readAddress_eq_error_iff`, `Config.readIdle_eq_error_iff` : what is refused of each setting;
* `Config.load_eq_ok_iff`, `Config.load_eq_error_iff` : both settings together;
* `Config.Loads`, `Config.loads_exactly` : what becomes of all settings.
-/

namespace MissionShell

namespace ConfigError

def setting : ConfigError → String
  | invalidAddress _ => Config.addressVariable
  | invalidSeconds _ => Config.idleVariable

def value : ConfigError → String
  | invalidAddress value => value
  | invalidSeconds value => value

theorem exists_message_eq (e : ConfigError) :
    ∃ reason, e.message = "invalid " ++ e.setting ++ " value '" ++ e.value ++ "': " ++ reason := by
  cases e with
  | invalidAddress value =>
    refine ⟨"invalid socket address syntax", ?_⟩
    rw [String.append_assoc]
    rfl
  | invalidSeconds value =>
    refine ⟨"expected a positive number of seconds", ?_⟩
    rw [String.append_assoc]
    rfl

end ConfigError

namespace Config

/-! ## Seconds -/

/-- The text consists of digits of `n`, perhaps behind a plus sign, and `n` is a number of seconds that
there may be. -/
def WritesSeconds (text : String) (n : Nat) : Prop :=
  ∃ sign ∈ ["", "+"], ∃ digits, text = sign ++ digits ∧ Text.Denotes digits n ∧ 0 < n ∧ n < 2 ^ 64

theorem filter_number?_eq_some_iff {digits : String} {n : Nat} :
    (Text.number? 10 digits.toList).filter (fun n => 0 < n && n < UInt64.size) = some n ↔
      Text.Denotes digits n ∧ 0 < n ∧ n < 2 ^ 64 := by
  rw [Option.filter_eq_some_iff, Text.number?_eq_some_iff]
  simp [UInt64.size]

theorem seconds?_plus (digits : String) :
    seconds? ("+" ++ digits).toList =
      (Text.number? 10 digits.toList).filter fun n => 0 < n && n < UInt64.size := by
  rw [String.toList_append]
  rfl

theorem seconds?_of_head?_ne {cs : List Char} (h : cs.head? ≠ some '+') :
    seconds? cs = (Text.number? 10 cs).filter fun n => 0 < n && n < UInt64.size := by
  unfold seconds?
  split
  · exact absurd rfl h
  · rfl

theorem seconds?_eq_some_iff {text : String} {n : Nat} :
    seconds? text.toList = some n ↔ WritesSeconds text n := by
  constructor
  · intro h
    by_cases hplus : text.toList.head? = some '+'
    · obtain ⟨cs, hcs⟩ := List.head?_eq_some_iff.mp hplus
      have htext : text = "+" ++ String.ofList cs := by
        simp [← String.toList_inj, hcs]
      rw [htext, seconds?_plus, filter_number?_eq_some_iff] at h
      exact ⟨"+", by simp, _, htext, h⟩
    · rw [seconds?_of_head?_ne hplus, filter_number?_eq_some_iff] at h
      exact ⟨"", by simp, text, by simp, h⟩
  · rintro ⟨sign, hsign, digits, rfl, h⟩
    rcases List.mem_pair.mp hsign with rfl | rfl
    · rw [String.empty_append]
      -- Digits do not start with a sign, so none is taken off them.
      have hplus : digits.toList.head? ≠ some '+' := by
        intro hhead
        have hdigit := h.1.isDigit '+' (List.mem_of_head? hhead)
        cases hdigit
      rwa [seconds?_of_head?_ne hplus, filter_number?_eq_some_iff]
    · rwa [seconds?_plus, filter_number?_eq_some_iff]

theorem seconds?_eq_none_iff {text : String} :
    seconds? text.toList = none ↔ ¬ ∃ n, WritesSeconds text n := by
  simp [← seconds?_eq_some_iff, Option.eq_none_iff_forall_ne_some]

example : ["", "+", "++5", "-5", "5 5", "+000", "18446744073709551616"].all
    (fun text => seconds? text.toList = none) = true := by decide

theorem WritesSeconds.isWord {text : String} {n : Nat} (h : WritesSeconds text n) : Text.IsWord text := by
  obtain ⟨sign, hsign, digits, rfl, hdigits, -, -⟩ := h
  refine ⟨fun hempty => hdigits.ne_empty (String.append_eq_empty_iff.mp hempty).2, fun c hc => ?_⟩
  rw [String.toList_append] at hc
  rcases List.mem_append.mp hc with hc | hc
  · rcases List.mem_pair.mp hsign with rfl | rfl
    · simp at hc
    · rw [List.mem_singleton.mp hc]
      decide
  · exact Text.isBlank_of_isDigit (hdigits.isDigit c hc)

/-- Blanks around a number of seconds do not matter, and there are none in it. -/
theorem WritesSeconds.trim_eq {text : String} {n : Nat} (h : WritesSeconds text n) :
    Text.trim text = text := h.isWord.bare.trim_eq

/-- A number of seconds may be written as usual, with any zeros before it. -/
theorem writesSeconds_toString {sign : String} (hsign : sign ∈ ["", "+"]) (zeros : Nat) {n : Nat}
    (hpos : 0 < n) (hlt : n < 2 ^ 64) :
    WritesSeconds (sign ++ (String.ofList (List.replicate zeros '0') ++ toString n)) n :=
  ⟨sign, hsign, _, rfl, Text.denotes_toString zeros n, hpos, hlt⟩

/-! ## One setting -/

/-- The address setting, or else the default, reads as `address` without the blanks around it. -/
def GivesAddress (found : Option String) (address : SocketAddress) : Prop :=
  SocketAddress.parse? (Text.trim (found.getD defaultAddress)) = some address

/-- The idle setting writes `n` seconds without the blanks around it, or else `n` is the default. -/
inductive GivesIdle : Option String → Nat → Prop where
  | absent : GivesIdle none defaultIdle
  | written {text : String} {n : Nat} (h : WritesSeconds (Text.trim text) n) : GivesIdle (some text) n

theorem givesIdle_some_iff {text : String} {n : Nat} :
    GivesIdle (some text) n ↔ WritesSeconds (Text.trim text) n :=
  ⟨fun | .written h => h, .written⟩

theorem parse?_defaultAddress :
    SocketAddress.parse? (Text.trim defaultAddress) = some (.v4 ⟨0, 0, 0, 0⟩ 3000) := rfl

theorem readAddress_eq_ok_iff {found : Option String} {address : SocketAddress} :
    readAddress found = .ok address ↔ GivesAddress found address := by
  unfold GivesAddress
  cases hread : SocketAddress.parse? (Text.trim (found.getD defaultAddress)) with
  | none => simp [readAddress, hread]
  | some read => simp [readAddress, hread]

/-- The default is an address, so only a text that was found can be refused. -/
theorem readAddress_eq_error_iff {found : Option String} {e : ConfigError} :
    readAddress found = .error e ↔ ∃ text, found = some text ∧
      SocketAddress.parse? (Text.trim text) = none ∧ e = .invalidAddress text := by
  cases found with
  | none => simp [readAddress, parse?_defaultAddress]
  | some text =>
    cases hread : SocketAddress.parse? (Text.trim text) with
    | none => simp [readAddress, hread, eq_comm]
    | some read => simp [readAddress, hread]

theorem readIdle_eq_ok_iff {found : Option String} {n : Nat} :
    readIdle found = .ok n ↔ GivesIdle found n := by
  cases found with
  | none =>
    constructor
    · rintro ⟨⟩
      exact .absent
    · rintro ⟨⟩
      rfl
  | some text =>
    rw [givesIdle_some_iff, ← seconds?_eq_some_iff]
    cases hread : seconds? (Text.trim text).toList with
    | none => simp [readIdle, hread]
    | some m => simp [readIdle, hread]

theorem readIdle_eq_error_iff {found : Option String} {e : ConfigError} :
    readIdle found = .error e ↔ ∃ text, found = some text ∧
      (¬ ∃ n, WritesSeconds (Text.trim text) n) ∧ e = .invalidSeconds text := by
  cases found with
  | none => simp [readIdle]
  | some text =>
    simp only [Option.some.injEq, exists_eq_left', ← seconds?_eq_none_iff]
    cases hread : seconds? (Text.trim text).toList with
    | none => simp [readIdle, hread, eq_comm]
    | some m => simp [readIdle, hread]

theorem GivesIdle.bounds {found : Option String} {n : Nat} (h : GivesIdle found n) :
    0 < n ∧ n < 2 ^ 64 := by
  cases h with
  | absent => decide
  | written h =>
    obtain ⟨sign, -, digits, -, -, hpos, hlt⟩ := h
    exact ⟨hpos, hlt⟩

/-! ## Both settings -/

theorem load_eq_ok_iff {lookup : String → Option String} {config : Config} :
    load lookup = .ok config ↔ GivesAddress (lookup addressVariable) config.address ∧
      GivesIdle (lookup idleVariable) config.sessionIdle := by
  rw [← readAddress_eq_ok_iff, ← readIdle_eq_ok_iff, load]
  cases readAddress (lookup addressVariable) with
  | error e => simp [bind, Except.bind]
  | ok address =>
    cases readIdle (lookup idleVariable) with
    | error e => simp [bind, Except.bind]
    | ok n =>
      cases config
      simp [bind, Except.bind]

/-- An error is about a text that was found, and about the idle time only behind a good address. -/
theorem load_eq_error_iff {lookup : String → Option String} {e : ConfigError} :
    load lookup = .error e ↔
      (∃ text, lookup addressVariable = some text ∧ SocketAddress.parse? (Text.trim text) = none ∧
        e = .invalidAddress text) ∨
      (∃ address, GivesAddress (lookup addressVariable) address) ∧
        ∃ text, lookup idleVariable = some text ∧ (¬ ∃ n, WritesSeconds (Text.trim text) n) ∧
          e = .invalidSeconds text := by
  simp only [← readAddress_eq_error_iff, ← readAddress_eq_ok_iff, ← readIdle_eq_error_iff]
  unfold load
  cases readAddress (lookup addressVariable) with
  | error e' => simp [bind, Except.bind]
  | ok address =>
    cases readIdle (lookup idleVariable) with
    | error e' => simp [bind, Except.bind]
    | ok n => simp [bind, Except.bind]

theorem setting_of_load_eq_error {lookup : String → Option String} {e : ConfigError}
    (h : load lookup = .error e) : lookup e.setting = some e.value := by
  rcases load_eq_error_iff.mp h with ⟨text, hfound, -, rfl⟩ | ⟨-, text, hfound, -, rfl⟩
  · exact hfound
  · exact hfound

/-! ## Blanks around the texts -/

theorem mapError_bind {ε ε' α β : Type} (x : Except ε α) (f : α → Except ε β) (g : ε → ε') :
    (x >>= f).mapError g = x.mapError g >>= fun a => (f a).mapError g := by
  cases x <;> rfl

theorem mapError_readAddress {found padded : Option String} (h : Option.Rel Text.Padded found padded) :
    (readAddress padded).mapError ConfigError.setting = (readAddress found).mapError ConfigError.setting := by
  cases h with
  | none => rfl
  | @some text line h =>
    simp only [readAddress, Option.getD_some, h.trim_eq]
    cases SocketAddress.parse? (Text.trim text) <;> rfl

theorem mapError_readIdle {found padded : Option String} (h : Option.Rel Text.Padded found padded) :
    (readIdle padded).mapError ConfigError.setting = (readIdle found).mapError ConfigError.setting := by
  cases h with
  | none => rfl
  | @some text line h =>
    simp only [readIdle, h.trim_eq]
    cases seconds? (Text.trim text).toList <;> rfl

theorem mapError_load {lookup other : String → Option String}
    (haddress : Option.Rel Text.Padded (lookup addressVariable) (other addressVariable))
    (hidle : Option.Rel Text.Padded (lookup idleVariable) (other idleVariable)) :
    (load other).mapError ConfigError.setting = (load lookup).mapError ConfigError.setting := by
  simp only [load, mapError_bind, mapError_readAddress haddress, mapError_readIdle hidle]

/-! ## Every lookup -/

/-- What becomes of the settings that `lookup` finds. -/
structure Loads (lookup : String → Option String) : Prop where
  /-- The configuration is what the settings say. -/
  ok_iff : ∀ config, load lookup = .ok config ↔
    GivesAddress (lookup addressVariable) config.address ∧
      GivesIdle (lookup idleVariable) config.sessionIdle
  succeeds_iff : (∃ config, load lookup = .ok config) ↔
    (∃ address, GivesAddress (lookup addressVariable) address) ∧ ∃ n, GivesIdle (lookup idleVariable) n
  /-- A bad address is the error whatever the idle time is. -/
  invalidAddress_iff : ∀ text, load lookup = .error (.invalidAddress text) ↔
    lookup addressVariable = some text ∧ SocketAddress.parse? (Text.trim text) = none
  invalidSeconds_iff : ∀ text, load lookup = .error (.invalidSeconds text) ↔
    (∃ address, GivesAddress (lookup addressVariable) address) ∧
      lookup idleVariable = some text ∧ ¬ ∃ n, WritesSeconds (Text.trim text) n
  /-- An error names its setting and shows the text as it was found there. -/
  shows : ∀ e, load lookup = .error e → lookup e.setting = some e.value ∧
    ∃ reason, e.message = "invalid " ++ e.setting ++ " value '" ++ e.value ++ "': " ++ reason
  bounds : ∀ config, load lookup = .ok config → 0 < config.sessionIdle ∧ config.sessionIdle < 2 ^ 64
  /-- Every number of seconds can be set, with a plus sign or without, behind any zeros. -/
  numeral : ∀ address sign zeros n, GivesAddress (lookup addressVariable) address → sign ∈ ["", "+"] →
    lookup idleVariable = some (sign ++ (String.ofList (List.replicate zeros '0') ++ toString n)) →
    0 < n → n < 2 ^ 64 → load lookup = .ok ⟨address, n⟩
  /-- Blanks around the texts change neither a configuration nor the setting at fault. -/
  unchanged : ∀ other, Option.Rel Text.Padded (lookup addressVariable) (other addressVariable) →
    Option.Rel Text.Padded (lookup idleVariable) (other idleVariable) →
    (load other).mapError ConfigError.setting = (load lookup).mapError ConfigError.setting

/-- **Accepted settings**, and what becomes of all others. -/
theorem loads_exactly (lookup : String → Option String) : Loads lookup where
  ok_iff _ := load_eq_ok_iff
  succeeds_iff := by
    constructor
    · rintro ⟨config, h⟩
      obtain ⟨haddress, hidle⟩ := load_eq_ok_iff.mp h
      exact ⟨⟨_, haddress⟩, _, hidle⟩
    · rintro ⟨⟨address, haddress⟩, n, hidle⟩
      exact ⟨⟨address, n⟩, load_eq_ok_iff.mpr ⟨haddress, hidle⟩⟩
  invalidAddress_iff text := by
    rw [load_eq_error_iff]
    constructor
    · rintro (⟨_, hfound, hrefused, ⟨⟩⟩ | ⟨-, _, -, -, ⟨⟩⟩)
      exact ⟨hfound, hrefused⟩
    · rintro ⟨hfound, hrefused⟩
      exact .inl ⟨text, hfound, hrefused, rfl⟩
  invalidSeconds_iff text := by
    rw [load_eq_error_iff]
    constructor
    · rintro (⟨_, -, -, ⟨⟩⟩ | ⟨haddress, _, hfound, hrefused, ⟨⟩⟩)
      exact ⟨haddress, hfound, hrefused⟩
    · rintro ⟨haddress, hfound, hrefused⟩
      exact .inr ⟨haddress, text, hfound, hrefused, rfl⟩
  shows e h := ⟨setting_of_load_eq_error h, e.exists_message_eq⟩
  bounds config h := (load_eq_ok_iff.mp h).2.bounds
  numeral address sign zeros n haddress hsign hfound hpos hlt := by
    have hwrites := writesSeconds_toString hsign zeros hpos hlt
    refine load_eq_ok_iff.mpr ⟨haddress, ?_⟩
    rw [hfound]
    exact .written (hwrites.trim_eq.symm ▸ hwrites)
  unchanged _ haddress hidle := mapError_load haddress hidle

def settings (address idle : Option String) (name : String) : Option String :=
  if name = addressVariable then address else if name = idleVariable then idle else none

theorem loads_exactly_edges :
    load (settings (some "127.0.0.1:8080") (some "+00018446744073709551615")) =
        .ok ⟨.v4 ⟨127, 0, 0, 1⟩ 8080, 2 ^ 64 - 1⟩ ∧
      (load (settings (some " 127.0.0.1:8080\n") (some "\t+00018446744073709551615"))).mapError
        ConfigError.setting = .ok ⟨.v4 ⟨127, 0, 0, 1⟩ 8080, 2 ^ 64 - 1⟩ ∧
      load (settings (some " localhost") (some "0")) = .error (.invalidAddress " localhost") ∧
      load (settings none (some "18446744073709551616 ")) =
        .error (.invalidSeconds "18446744073709551616 ") := by
  have hmost : load (settings (some "127.0.0.1:8080") (some "+00018446744073709551615")) =
      .ok ⟨.v4 ⟨127, 0, 0, 1⟩ 8080, 2 ^ 64 - 1⟩ :=
    (loads_exactly _).numeral _ "+" 3 _ rfl (by decide) (by decide) (by decide) (by decide)
  have haddress : Text.Padded "127.0.0.1:8080" " 127.0.0.1:8080\n" :=
    ⟨" ", "\n", by decide, by decide, by decide⟩
  have hidle : Text.Padded "+00018446744073709551615" "\t+00018446744073709551615" :=
    ⟨"\t", "", by decide, by decide, by decide⟩
  have hpadded := (loads_exactly (settings (some "127.0.0.1:8080") (some "+00018446744073709551615"))).unchanged
    (settings (some " 127.0.0.1:8080\n") (some "\t+00018446744073709551615")) (.some haddress) (.some hidle)
  refine ⟨hmost, hpadded.trans ?_, ?_, ?_⟩
  · rw [hmost]
    rfl
  · exact ((loads_exactly _).invalidAddress_iff _).mpr ⟨rfl, rfl⟩
  · refine ((loads_exactly _).invalidSeconds_iff _).mpr ⟨⟨_, parse?_defaultAddress⟩, rfl, ?_⟩
    exact seconds?_eq_none_iff.mp (by decide)

end Config

end MissionShell
