import MissionShell.Http.Route
import MissionShell.Proofs.Net.Uuid

/-!
# Routes to sessions

* `Route.segments_path` : the segments of a target that is spelled with plain ones;
* `Route.percentDecode_of_notMem` : a segment without escapes stands for itself;
* `Route.ofTarget?_session`, `Route.ofTarget?_commands`, `Route.ofTarget?_reset` : the targets of a
  session, spelled with its identifier.
-/

namespace MissionShell.Route

/-- A segment that neither ends nor divides a path. -/
def IsPlain (s : String) : Prop := ∀ c ∈ s.toList, c ≠ '/' ∧ endsPath c = false

instance (s : String) : Decidable (IsPlain s) := List.decidableBAll _ s.toList

section Plain
variable {s : String} {rest : List String} (h : ∀ t ∈ "" :: s :: rest, IsPlain t)
include h

theorem path_intercalate : path ("/".intercalate ("" :: s :: rest)) =
    ("/".intercalate ("" :: s :: rest)).toList := by
  have hslash : ("/".intercalate ("" :: s :: rest)).toList =
      '/' :: ("/".intercalate (s :: rest)).toList := by
    simp [String.intercalate_cons_cons]
  rw [path, hslash, dropHost, ← hslash, List.takeWhile_eq_self_iff]
  intro c hc
  by_cases hc' : c = '/'
  · rw [hc']
    decide
  · obtain ⟨t, ht, hmem⟩ := Text.exists_mem_of_mem_intercalate (by simpa using hc') hc
    rw [(h t ht c hmem).2]
    rfl

/-- A target that is put together from plain segments, the first of them empty, has these. -/
theorem segments_path : ((path ("/".intercalate ("" :: s :: rest))).splitOn '/').map String.ofList =
    "" :: s :: rest := by
  rw [path_intercalate h, Text.splitOn_intercalate rfl (List.cons_ne_nil _ _), List.map_map]
  · simp [Function.comp_def]
  · exact fun t ht hmem => (h t ht '/' hmem).1 rfl

end Plain

theorem percentDecode_of_notMem {cs : List Char} (h : '%' ∉ cs) : percentDecode cs = cs := by
  fun_induction percentDecode cs with
  | case1 a b cs | case2 a b cs => exact absurd List.mem_cons_self h
  | case3 c cs _ ih => rw [ih (List.not_mem_of_not_mem_cons h)]
  | case4 => rfl

/-! ## The targets of a session -/

theorem isPlain_toString (id : Uuid) : IsPlain id.toString :=
  Uuid.forall_mem_toString (by decide) (by decide) id

theorem isPlain_targets (id : Uuid) {rest : List String} (h : ∀ t ∈ rest, IsPlain t) :
    ∀ t ∈ "" :: "api" :: "sessions" :: id.toString :: rest, IsPlain t := by
  have hnames : IsPlain "" ∧ IsPlain "api" ∧ IsPlain "sessions" := by decide
  simp only [List.forall_mem_cons]
  exact ⟨hnames.1, hnames.2.1, hnames.2.2, isPlain_toString id, h⟩

theorem percentDecode_toString (id : Uuid) : percentDecode id.toString.toList = id.toString.toList :=
  percentDecode_of_notMem fun hmem =>
    Uuid.forall_mem_toString (p := (· ≠ '%')) (by decide) (by decide) id '%' hmem rfl

theorem ofTarget?_session (id : Uuid) :
    ofTarget? ("/api/sessions/" ++ id.toString) = some (.session id.toString.toList) := by
  have htarget : "/api/sessions/" ++ id.toString =
      "/".intercalate ["", "api", "sessions", id.toString] := by
    simp [← String.toList_inj, String.intercalate_cons_cons]
  have hne : id.toString ≠ "" := by
    intro hempty
    have hlength := id.length_toString
    rw [hempty] at hlength
    cases hlength
  rw [htarget, ofTarget?, segments_path (isPlain_targets id (List.forall_mem_nil _))]
  exact if_neg hne

theorem ofTarget?_commands (id : Uuid) :
    ofTarget? ("/api/sessions/" ++ id.toString ++ "/commands") =
      some (.commands id.toString.toList) := by
  have htarget : "/api/sessions/" ++ id.toString ++ "/commands" =
      "/".intercalate ["", "api", "sessions", id.toString, "commands"] := by
    simp [← String.toList_inj, String.intercalate_cons_cons]
  rw [htarget, ofTarget?, segments_path (isPlain_targets id (by decide))]
  rfl

theorem ofTarget?_reset (id : Uuid) :
    ofTarget? ("/api/sessions/" ++ id.toString ++ "/reset") = some (.reset id.toString.toList) := by
  have htarget : "/api/sessions/" ++ id.toString ++ "/reset" =
      "/".intercalate ["", "api", "sessions", id.toString, "reset"] := by
    simp [← String.toList_inj, String.intercalate_cons_cons]
  rw [htarget, ofTarget?, segments_path (isPlain_targets id (by decide))]
  rfl

end MissionShell.Route
