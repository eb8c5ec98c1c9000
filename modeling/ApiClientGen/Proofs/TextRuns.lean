import ApiClientGen.Proofs.TextPieces
import Mathlib.Data.List.TakeWhile

/-!
# Runs of a text

The runs of a text are its maximal parts whose characters are all kept.  They
are described by how the text is put together from them and from what stands
between them, and every text has exactly one list of runs: the pieces between
the other characters, without the empty ones.
-/

namespace ApiClientGen
namespace Text

variable {kept : Char → Bool}

/-! ## The runs of a text -/

/-- The runs of a text: its maximal parts of kept characters, in order. -/
inductive RunsOf (kept : Char → Bool) :
    List Char → List (List Char) → Prop where
  | nil : RunsOf kept [] []
  | gap {c : Char} {rest : List Char} {runs : List (List Char)}
      (hc : kept c = false) (hrest : RunsOf kept rest runs) :
      RunsOf kept (c :: rest) runs
  | run {run rest : List Char} {runs : List (List Char)} (hne : run ≠ [])
      (hrun : ∀ c ∈ run, kept c = true)
      (hend : ∀ c ∈ rest.head?, kept c = false)
      (hrest : RunsOf kept rest runs) : RunsOf kept (run ++ rest) (run :: runs)

/-- The pieces of a text between the characters that are not kept, without the
empty ones. -/
def runs (kept : Char → Bool) (cs : List Char) : List (List Char) :=
  (pieces (!kept ·) cs).filter (!·.isEmpty)

theorem runs_cons_of_not_kept {c : Char} (hc : kept c = false)
    (rest : List Char) :
    runs kept (c :: rest) = runs kept rest := by
  simp [runs, pieces, hc]

/-- A part of kept characters is the first run, if it ends at another character
or with the text. -/
theorem runs_append {run rest : List Char} (hne : run ≠ [])
    (hrun : ∀ c ∈ run, kept c = true)
    (hend : ∀ c ∈ rest.head?, kept c = false) :
    runs kept (run ++ rest) = run :: runs kept rest := by
  have hpieces : pieces (!kept ·) run = [run] :=
    pieces_of_forall_not_cut fun c hc => by rw [hrun c hc, Bool.not_true]
  cases rest with
  | nil => simp [runs, hpieces, hne, pieces]
  | cons c rest =>
      have hc : kept c = false := hend c rfl
      rw [runs_cons_of_not_kept hc, runs, runs,
        pieces_append_cut (by rw [hc, Bool.not_false]), hpieces]
      simp [hne]

theorem RunsOf.runs_eq {cs : List Char} {rs : List (List Char)}
    (hruns : RunsOf kept cs rs) :
    runs kept cs = rs := by
  induction hruns with
  | nil => rfl
  | gap hc _ ih => rw [runs_cons_of_not_kept hc, ih]
  | run hne hrun hend _ ih => rw [runs_append hne hrun hend, ih]

/-- A text that begins with a kept character begins with a run. -/
theorem exists_run {c : Char} (hc : kept c = true) (rest : List Char) :
    ∃ run back,
      c :: rest = run ++ back ∧ run ≠ [] ∧ (∀ d ∈ run, kept d = true) ∧
        ∀ d ∈ back.head?, kept d = false := by
  refine ⟨(c :: rest).takeWhile kept, (c :: rest).dropWhile kept,
    List.takeWhile_append_dropWhile.symm, by simp [hc],
    fun d hd => List.mem_takeWhile_imp hd, fun d hd => ?_⟩
  have hfirst := List.head?_dropWhile_not kept (c :: rest)
  rwa [Option.mem_def.mp hd] at hfirst

/-- Every text has runs: behind the leading characters that are not kept, the
part up to the next such character is the first one. -/
theorem runsOf_runs (kept : Char → Bool) (cs : List Char) :
    RunsOf kept cs (runs kept cs) := by
  induction hlength :
      cs.length using Nat.strong_induction_on generalizing cs with
  | _ length ih =>
      cases cs with
      | nil => exact .nil
      | cons c rest =>
          cases hc : kept c with
          | false =>
              rw [runs_cons_of_not_kept hc]
              exact .gap hc (ih rest.length (by simp [← hlength]) rest rfl)
          | true =>
              obtain ⟨run, back, hsplit, hne, hrun, hend⟩ := exists_run hc rest
              have hshorter : back.length < length := by
                have hlengths := congrArg List.length hsplit
                have hpositive := List.length_pos_of_ne_nil hne
                rw [List.length_append] at hlengths
                omega
              rw [hsplit, runs_append hne hrun hend]
              exact .run hne hrun hend (ih back.length hshorter back rfl)

theorem runsOf_iff {cs : List Char} {rs : List (List Char)} :
    RunsOf kept cs rs ↔ runs kept cs = rs :=
  ⟨RunsOf.runs_eq, fun hruns => hruns ▸ runsOf_runs kept cs⟩

/-- What a list of runs has to be, whatever text it is of. -/
def AreRuns (kept : Char → Bool) (rs : List (List Char)) : Prop :=
  ∀ run ∈ rs, run ≠ [] ∧ ∀ c ∈ run, kept c = true

theorem RunsOf.areRuns {cs : List Char} {rs : List (List Char)}
    (hruns : RunsOf kept cs rs) :
    AreRuns kept rs := by
  induction hruns with
  | nil => exact List.forall_mem_nil _
  | gap _ _ ih => exact ih
  | run hne hrun _ _ ih => exact List.forall_mem_cons.mpr ⟨⟨hne, hrun⟩, ih⟩

/-! ## Joined runs -/

theorem intercalate_cons (separator part : List Char)
    (parts : List (List Char)) :
    separator.intercalate (part :: parts) =
      part ++ parts.flatMap (separator ++ ·) := by
  induction parts generalizing part with
  | nil => simp
  | cons next others ih =>
      rw [List.intercalate_cons_cons, ih, List.flatMap_cons, List.append_assoc];
        simp

section Joined

variable {separator : Char} {rs : List (List Char)}
    (hseparator : kept separator = false) (hrs : AreRuns kept rs)

include hseparator hrs

/-- Runs with separators between them are the runs of what they make. -/
theorem AreRuns.runsOf_intercalate :
    RunsOf kept ([separator].intercalate rs) rs := by
  induction rs with
  | nil => exact .nil
  | cons run rest ih =>
      obtain ⟨⟨hne, hrun⟩, hrest⟩ := List.forall_mem_cons.mp hrs
      by_cases hlast : rest = []
      · have hend : ∀ c ∈ ([] : List Char).head?, kept c = false := by simp
        rw [hlast, List.intercalate_singleton]
        simpa using RunsOf.run hne hrun hend .nil
      · rw [List.intercalate_cons_of_ne_nil hlast, List.append_assoc]
        exact .run hne hrun (by simp [hseparator]) (.gap hseparator (ih hrest))

/-- A separator between runs stands behind a kept character and in front of
one. -/
theorem AreRuns.kept_around_separator {front back : List Char}
    (hsplit : [separator].intercalate rs = front ++ separator :: back) :
    (∃ c ∈ front.getLast?, kept c = true) ∧
      ∃ c ∈ back.head?, kept c = true := by
  induction rs generalizing front with
  | nil => simp at hsplit
  | cons run rest ih =>
      obtain ⟨⟨hne, hrun⟩, hrest⟩ := List.forall_mem_cons.mp hrs
      have houtside : separator ∉ run := fun hmem =>
        by simp [hrun separator hmem] at hseparator
      cases rest with
      | nil =>
          rw [List.intercalate_singleton] at hsplit
          exact absurd (by simp [hsplit]) houtside
      | cons next others =>
          rw [List.intercalate_cons_cons, List.append_assoc,
            List.singleton_append] at hsplit
          rcases append_cons_cases hsplit with
            ⟨rfl, rfl⟩ | ⟨between, rfl, hback⟩ | ⟨between, rfl, -⟩
          · obtain ⟨⟨hnext, hkept⟩, -⟩ := List.forall_mem_cons.mp hrest
            rw [intercalate_cons, List.head?_append_of_ne_nil next hnext]
            exact ⟨⟨run.getLast hne, List.getLast?_eq_some_getLast hne,
              hrun _ (List.getLast_mem hne)⟩,
              ⟨next.head hnext, List.head?_eq_some_head hnext,
                hkept _ (List.head_mem hnext)⟩⟩
          · obtain ⟨⟨c, hlast, hc⟩, hfirst⟩ := ih hrest hback
            have hfront : c ∈ (run ++ separator :: between).getLast? :=
              List.mem_getLast?_append_of_mem_getLast?
                (List.mem_getLast?_cons hlast)
            exact ⟨⟨c, hfront, hc⟩, hfirst⟩
          · exact absurd (by simp) houtside

end Joined

end Text
end ApiClientGen
