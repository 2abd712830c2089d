namespace SourceSimilarity.Text

variable {α : Type} [BEq α] [LawfulBEq α] {separator : α}

theorem splitOn_append_of_notMem {part : List α} (notMem : separator ∉ part) (text : List α) :
    (part ++ text).splitOn separator = (text.splitOn separator).modifyHead (part ++ ·) := by
  induction part with
  | nil => cases parts : text.splitOn separator <;> simp [parts]
  | cons c part ih =>
    rw [List.mem_cons, not_or] at notMem
    have other : (c == separator) = false := beq_eq_false_iff_ne.mpr (Ne.symm notMem.1)
    rw [List.cons_append, List.splitOn_cons_eq_if_modifyHead, other, if_neg Bool.false_ne_true,
      ih notMem.2, List.modifyHead_modifyHead]
    rfl

theorem notMem_of_mem_splitOn {text part : List α} (member : part ∈ text.splitOn separator) :
    separator ∉ part := by
  induction text generalizing part with
  | nil => simp_all
  | cons c text ih =>
    rw [List.splitOn_cons_eq_if_modifyHead] at member
    split at member
    · rcases List.mem_cons.mp member with rfl | later
      · exact List.not_mem_nil
      · exact ih later
    · rename_i other
      obtain ⟨first, rest, parts⟩ := List.exists_cons_of_ne_nil (List.splitOn_ne_nil separator text)
      rw [parts, List.modifyHead_cons, List.mem_cons] at member
      rcases member with rfl | later
      · refine List.not_mem_cons_of_ne_of_not_mem (fun same => other (beq_iff_eq.mpr same.symm)) ?_
        exact ih (by rw [parts]; exact List.mem_cons_self)
      · exact ih (by rw [parts]; exact .tail _ later)

end SourceSimilarity.Text
