import ApiClientGen.Naming.ParameterName
import ApiClientGen.Proofs.TextRuns

/-!
# Names reduced to their runs

The name of a parameter is read once, from the front, and an underscore is
written in front of a letter or number if something else stands before it and if
anything has been written at all.  What is written in this way are the runs of
letters and numbers with single underscores between them.  So the identifier
depends on the runs only, whatever stands between them and around them.
-/

namespace ApiClientGen
namespace Naming

open Text (isAlphanumeric RunsOf AreRuns)

/-! ## Reading a name -/

/-- Another character, and the end of the name, are read in the same way with
and without a gap before them. -/
theorem sanitizeFrom_of_gap_ahead {rest : List Char}
    (hend : ∀ c ∈ rest.head?, isAlphanumeric c = false) (started gap : Bool) :
    sanitizeFrom started gap rest = sanitizeFrom started true rest := by
  cases rest with
  | nil => rfl
  | cons c rest =>
      have hc : ¬isAlphanumeric c = true := Bool.eq_false_iff.mp (hend c rfl)
      rw [sanitizeFrom, if_neg hc, sanitizeFrom, if_neg hc]

/-- Inside a run, all characters are written as they are. -/
theorem sanitizeFrom_append {run : List Char}
    (hrun : ∀ c ∈ run, isAlphanumeric c = true) (rest : List Char) :
    sanitizeFrom true false (run ++ rest) =
      run ++ sanitizeFrom true false rest := by
  induction run with
  | nil => rfl
  | cons c run ih =>
      obtain ⟨hc, hrun⟩ := List.forall_mem_cons.mp hrun
      rw [List.cons_append, sanitizeFrom, if_pos hc, ih hrun]
      rfl

/-- A run is written as it is, behind an underscore if there is a gap to what
has been written before; and what follows it is separated from it. -/
theorem sanitizeFrom_run {run rest : List Char} (hne : run ≠ [])
    (hrun : ∀ c ∈ run, isAlphanumeric c = true)
    (hend : ∀ c ∈ rest.head?, isAlphanumeric c = false) (started gap : Bool) :
    sanitizeFrom started gap (run ++ rest) =
      (if gap && started then '_' :: run else run) ++
        sanitizeFrom true true rest := by
  cases run with
  | nil => exact absurd rfl hne
  | cons c run =>
      obtain ⟨hc, hrun⟩ := List.forall_mem_cons.mp hrun
      rw [List.cons_append, sanitizeFrom, if_pos hc, sanitizeFrom_append hrun,
        sanitizeFrom_of_gap_ahead hend true false]
      cases gap && started <;> rfl

/-- Once something has been written, each run that comes behind a gap gets an
underscore. -/
theorem sanitizeFrom_started {name : List Char} {runs : List (List Char)}
    (hruns : RunsOf isAlphanumeric name runs) :
    sanitizeFrom true true name = runs.flatMap (['_'] ++ ·) := by
  induction hruns with
  | nil => rfl
  | gap hc _ ih => rw [sanitizeFrom, if_neg (Bool.eq_false_iff.mp hc), ih]
  | run hne hrun hend _ ih => rw [sanitizeFrom_run hne hrun hend, ih]; rfl

/-- As long as nothing has been written, a gap leaves no trace, so only the runs
behind the first one get an underscore. -/
theorem sanitizeFrom_not_started {name : List Char} {runs : List (List Char)}
    (hruns : RunsOf isAlphanumeric name runs) (gap : Bool) :
    sanitizeFrom false gap name = ['_'].intercalate runs := by
  induction hruns generalizing gap with
  | nil => rfl
  | gap hc _ ih => rw [sanitizeFrom, if_neg (Bool.eq_false_iff.mp hc), ih]
  | run hne hrun hend hrest =>
      rw [sanitizeFrom_run hne hrun hend, sanitizeFrom_started hrest,
        Text.intercalate_cons, Bool.and_false, if_neg Bool.false_ne_true]

/-! ## Sanitized names -/

theorem sanitize_eq_intercalate {name : List Char} {runs : List (List Char)}
    (hruns : RunsOf isAlphanumeric name runs) :
    sanitize name = ['_'].intercalate runs :=
  sanitizeFrom_not_started hruns false

theorem isAlphanumeric_underscore : isAlphanumeric '_' = false := by decide

/-- A name and its sanitized form have the same runs. -/
theorem runsOf_sanitize {name : List Char} {runs : List (List Char)}
    (hruns : RunsOf isAlphanumeric name runs) :
    RunsOf isAlphanumeric (sanitize name) runs := by
  rw [sanitize_eq_intercalate hruns]
  exact hruns.areRuns.runsOf_intercalate isAlphanumeric_underscore

theorem sanitize_eq_sanitize_iff {name other : List Char}
    {runs : List (List Char)} (hruns : RunsOf isAlphanumeric name runs) :
    sanitize other = sanitize name ↔ RunsOf isAlphanumeric other runs := by
  constructor
  · intro hsame
    have hother := runsOf_sanitize (Text.runsOf_runs isAlphanumeric other)
    rw [hsame, Text.runsOf_iff, (runsOf_sanitize hruns).runs_eq] at hother
    exact Text.runsOf_iff.mpr hother.symm
  · intro hother
    rw [sanitize_eq_intercalate hother, sanitize_eq_intercalate hruns]

/-- The words of a name are cut from its runs, so sanitizing it first makes no
difference to them. -/
theorem nameWords_sanitize (name : List Char) :
    nameWords (sanitize name) = nameWords name := by
  have hruns := runsOf_sanitize (Text.runsOf_runs isAlphanumeric name)
  exact congrArg (List.flatMap (caseWords [] .none)) hruns.runs_eq

/-- A name is sanitized to its runs of letters and numbers, of which it has
exactly one list, with single underscores between them: each underscore stands
behind a letter or number and in front of one.  Just the names with the same
runs are sanitized to the same text, and they get the same identifier. -/
theorem identifier_follows_runs (name : String) :
    ∃ runs, (∀ rs, RunsOf isAlphanumeric name.toList rs ↔ rs = runs) ∧
      sanitize name.toList = ['_'].intercalate runs ∧
      (∀ front back, sanitize name.toList = front ++ '_' :: back →
        (∃ c ∈ front.getLast?, isAlphanumeric c = true) ∧
          ∃ c ∈ back.head?, isAlphanumeric c = true) ∧
      ∀ other : String,
        (RunsOf isAlphanumeric other.toList runs ↔
          sanitize other.toList = sanitize name.toList) ∧
          (RunsOf isAlphanumeric other.toList runs →
            parameterIdentifier other = parameterIdentifier name) := by
  have hruns := Text.runsOf_runs isAlphanumeric name.toList
  refine ⟨Text.runs isAlphanumeric name.toList, fun rs => ?_,
    sanitize_eq_intercalate hruns, fun front back hsplit => ?_,
    fun other => ⟨(sanitize_eq_sanitize_iff hruns).symm, fun hother => ?_⟩⟩
  · rw [Text.runsOf_iff, eq_comm]
  · rw [sanitize_eq_intercalate hruns] at hsplit
    exact hruns.areRuns.kept_around_separator isAlphanumeric_underscore hsplit
  · rw [parameterIdentifier, (sanitize_eq_sanitize_iff hruns).mpr hother,
      ← parameterIdentifier]

/-- Names with other characters in front, behind and several times between,
underscores among them. -/
theorem identifier_follows_runs_separators :
    RunsOf isAlphanumeric "__X - request__ID-".toList
      ["X".toList, "request".toList, "ID".toList] ∧
      sanitize "__X - request__ID-".toList = "X_request_ID".toList ∧
      parameterIdentifier "__X - request__ID-" =
        parameterIdentifier "X_request.ID" := by
  have hother : RunsOf isAlphanumeric "__X - request__ID-".toList
      ["X".toList, "request".toList, "ID".toList] :=
    Text.runsOf_iff.mpr (by decide)
  have hname : RunsOf isAlphanumeric "X_request.ID".toList
      ["X".toList, "request".toList, "ID".toList] :=
    Text.runsOf_iff.mpr (by decide)
  obtain ⟨runs, hunique, hjoined, -, hothers⟩ :=
    identifier_follows_runs "X_request.ID"
  obtain rfl := (hunique _).mp hname
  obtain ⟨hsame, hidentifier⟩ := hothers "__X - request__ID-"
  refine ⟨hother, ?_, hidentifier hother⟩
  rw [hsame.mp hother, hjoined]
  decide

end Naming
end ApiClientGen
