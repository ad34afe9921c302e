import UploadRunner.Text.Separated

/-! The parts of a list that is cut at a separator. -/

namespace UploadRunner

variable {α : Type} [DecidableEq α] {separator : α}

theorem separatedBy_ne_nil (separator : α) (values : List α) :
    separatedBy separator values ≠ [] := by
  cases values with
  | nil => exact List.cons_ne_nil _ _
  | cons value rest =>
      rw [separatedBy]
      split
      · exact List.cons_ne_nil _ _
      · split <;> exact List.cons_ne_nil _ _

theorem separatedBy_separator (rest : List α) :
    separatedBy separator (separator :: rest) = [] :: separatedBy separator rest := by
  rw [separatedBy, if_pos rfl]

theorem separatedBy_cons {value : α} (other : value ≠ separator) {rest part : List α}
    {parts : List (List α)} (separated : separatedBy separator rest = part :: parts) :
    separatedBy separator (value :: rest) = (value :: part) :: parts := by
  rw [separatedBy, if_neg other, separated]

theorem separatedBy_append (left right : List α) :
    separatedBy separator (left ++ separator :: right) =
      separatedBy separator left ++ separatedBy separator right := by
  induction left with
  | nil => exact separatedBy_separator right
  | cons value left induction =>
      by_cases isSeparator : value = separator
      · rw [isSeparator, List.cons_append, separatedBy_separator, separatedBy_separator, induction,
          List.cons_append]
      · rcases List.exists_cons_of_ne_nil (separatedBy_ne_nil separator left) with
          ⟨part, parts, separated⟩
        rw [separated, List.cons_append] at induction
        rw [List.cons_append, separatedBy_cons isSeparator induction,
          separatedBy_cons isSeparator separated, List.cons_append]

theorem separatedBy_of_notMem {part : List α} (whole : separator ∉ part) :
    separatedBy separator part = [part] := by
  induction part with
  | nil => rfl
  | cons value part induction =>
      rw [List.mem_cons, not_or] at whole
      exact separatedBy_cons (Ne.symm whole.1) (induction whole.2)

theorem separatedBy_intercalate {parts : List (List α)} (nonempty : parts ≠ [])
    (whole : ∀ part ∈ parts, separator ∉ part) :
    separatedBy separator ([separator].intercalate parts) = parts := by
  induction parts with
  | nil => exact absurd rfl nonempty
  | cons part parts induction =>
      have first := separatedBy_of_notMem (whole part List.mem_cons_self)
      cases parts with
      | nil => rw [List.intercalate_singleton, first]
      | cons next parts =>
          have others := induction (List.cons_ne_nil next parts)
            fun other member => whole other (List.mem_cons_of_mem part member)
          rw [List.intercalate_cons_cons, List.append_assoc, List.singleton_append,
            separatedBy_append, first, others, List.singleton_append]

theorem separatedBy_append_of_notMem {part : List α} (whole : separator ∉ part)
    (rest : List α) :
    ∃ more parts, separatedBy separator (part ++ rest) = (part ++ more) :: parts := by
  induction part with
  | nil =>
      rcases List.exists_cons_of_ne_nil (separatedBy_ne_nil separator rest) with
        ⟨first, parts, separated⟩
      exact ⟨first, parts, separated⟩
  | cons value part induction =>
      rw [List.mem_cons, not_or] at whole
      rcases induction whole.2 with ⟨more, parts, separated⟩
      exact ⟨more, parts, separatedBy_cons (Ne.symm whole.1) separated⟩

theorem mem_zip_tail_of_infix {α : Type} {first second : α} {values : List α}
    (contained : [first, second] <:+: values) : (first, second) ∈ values.zip values.tail := by
  rcases contained with ⟨front, behind, rfl⟩
  induction front with
  | nil => exact List.mem_cons_self
  | cons value front induction =>
      cases front with
      | nil => exact List.mem_cons_of_mem _ List.mem_cons_self
      | cons next front => exact List.mem_cons_of_mem _ induction

/-- Two parts that stand behind one another in a list, each behind a separator, are
neighbours among its parts; the second may go on. -/
theorem neighbours_of_infix {first second values : List α} (firstWhole : separator ∉ first)
    (secondWhole : separator ∉ second)
    (contained : separator :: first ++ separator :: second <:+: values) :
    ∃ more, (first, second ++ more) ∈
      (separatedBy separator values).zip (separatedBy separator values).tail := by
  rcases contained with ⟨front, behind, rfl⟩
  rcases separatedBy_append_of_notMem secondWhole behind with ⟨more, parts, separated⟩
  refine ⟨more, mem_zip_tail_of_infix ⟨separatedBy separator front, parts, ?_⟩⟩
  have arranged : front ++ (separator :: first ++ separator :: second) ++ behind =
      front ++ separator :: (first ++ separator :: (second ++ behind)) := by
    simp
  rw [arranged, separatedBy_append, separatedBy_append, separatedBy_of_notMem firstWhole, separated]
  simp

end UploadRunner
