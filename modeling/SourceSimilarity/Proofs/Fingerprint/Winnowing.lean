import SourceSimilarity.Fingerprint.Winnowing
import Mathlib.Data.List.Infix
import Mathlib.Order.Defs.LinearOrder

namespace SourceSimilarity.Fingerprint

/-- That a selection represents the window which starts at a position. -/
structure Selection.Represents (selection : Selection) (start : Nat) (window : List Int) : Prop where
  start_le : start ≤ selection.position
  lt_stop : selection.position < start + window.length
  member : selection.hash ∈ window
  least : ∀ hash ∈ window, selection.hash ≤ hash

theorem Selection.Represents.first {start : Nat} {hash : Int} {rest : List Int}
    (least : ∀ other ∈ rest, hash ≤ other) :
    (⟨start, hash⟩ : Selection).Represents start (hash :: rest) := by
  refine ⟨Nat.le_refl start, by simp, List.mem_cons_self, ?_⟩
  intro other member
  rcases List.mem_cons.mp member with rfl | inside
  · exact Int.le_refl other
  · exact least other inside

theorem Selection.Represents.cons {selection : Selection} {start : Nat} {hash : Int}
    {rest : List Int} (represents : selection.Represents (start + 1) rest)
    (keep : selection.hash ≤ hash) : selection.Represents start (hash :: rest) := by
  have startLe := represents.start_le
  have ltStop := represents.lt_stop
  refine ⟨by omega, by rw [List.length_cons]; omega, List.mem_cons_of_mem _ represents.member, ?_⟩
  intro other member
  rcases List.mem_cons.mp member with rfl | inside
  · exact keep
  · exact represents.least other inside

theorem rightmostMin?_eq_none {start : Nat} {window : List Int} :
    rightmostMin? start window = none ↔ window = [] := by
  cases window with
  | nil => exact ⟨fun _ => rfl, fun _ => rfl⟩
  | cons hash rest =>
      refine ⟨fun found => ?_, fun empty => by cases empty⟩
      rw [rightmostMin?] at found
      split at found
      · cases found
      · split at found <;> cases found

theorem rightmostMin?_represents {start : Nat} {window : List Int} {lowest : Selection}
    (found : rightmostMin? start window = some lowest) : lowest.Represents start window := by
  induction window generalizing start lowest with
  | nil => cases found
  | cons hash rest ih =>
      cases later : rightmostMin? (start + 1) rest with
      | none =>
          have alone : rest = [] := rightmostMin?_eq_none.mp later
          simp only [rightmostMin?, later, Option.some.injEq] at found
          subst found alone
          exact .first (by simp)
      | some best =>
          have inRest : best.Represents (start + 1) rest := ih later
          by_cases keep : best.hash ≤ hash
          · simp only [rightmostMin?, later, if_pos keep, Option.some.injEq] at found
            subst found
            exact inRest.cons keep
          · simp only [rightmostMin?, later, if_neg keep, Option.some.injEq] at found
            subst found
            refine .first fun other inside => ?_
            exact Int.le_trans (Int.le_of_not_le keep) (inRest.least other inside)

theorem exists_represents (start : Nat) {window : List Int} (nonempty : window ≠ []) :
    ∃ lowest, rightmostMin? start window = some lowest ∧ lowest.Represents start window := by
  cases found : rightmostMin? start window with
  | none => exact absurd (rightmostMin?_eq_none.mp found) nonempty
  | some lowest => exact ⟨lowest, rfl, rightmostMin?_represents found⟩

theorem Selection.Represents.of_serves {held lowest : Selection} {start : Nat} {window : List Int}
    (represents : lowest.Represents start window) (serves : held.serves start lowest = true)
    (before : held.position < start + window.length) : held.Represents start window := by
  simp only [Selection.serves, Bool.and_eq_true, decide_eq_true_eq, beq_iff_eq] at serves
  obtain ⟨startLe, equal⟩ := serves
  refine ⟨startLe, before, ?_, ?_⟩
  · rw [equal]
    exact represents.member
  · rw [equal]
    exact represents.least

theorem windows_eq {w : Nat} (wide : 1 ≤ w) {hashes : List Int} (nonempty : hashes ≠ []) :
    windows w hashes =
      (List.range (hashes.length - w + 1)).map fun start => (hashes.drop start).take w := by
  induction hashes with
  | nil => exact absurd rfl nonempty
  | cons hash rest ih =>
      rw [windows, List.range_succ_eq_map, List.map_cons, List.drop_zero, List.map_map,
        List.length_cons]
      by_cases enough : w ≤ rest.length
      · have more : rest ≠ [] := by
          rintro rfl
          rw [List.length_nil] at enough
          omega
        have follow : (rest.drop (w - 1)).isEmpty = false := by
          rw [List.isEmpty_eq_false_iff, ne_eq, List.drop_eq_nil_iff]
          omega
        rw [follow, if_neg (by simp), ih more, Nat.sub_add_comm enough]
        rfl
      · have last : (rest.drop (w - 1)).isEmpty = true := by
          rw [List.isEmpty_iff, List.drop_eq_nil_iff]
          omega
        rw [last, if_pos rfl, Nat.sub_eq_zero_of_le (by omega)]
        rfl

theorem length_of_mem_windows {w : Nat} (wide : 1 ≤ w) {hashes window : List Int}
    (member : window ∈ windows w hashes) : window.length = min w hashes.length := by
  by_cases empty : hashes = []
  · subst empty
    cases member
  · rw [windows_eq wide empty, List.mem_map] at member
    obtain ⟨start, inside, rfl⟩ := member
    rw [List.mem_range] at inside
    rw [List.length_take, List.length_drop]
    omega

theorem subset_of_mem_windows {w : Nat} (wide : 1 ≤ w) {hashes window : List Int}
    (member : window ∈ windows w hashes) : window ⊆ hashes := by
  by_cases empty : hashes = []
  · subst empty
    cases member
  · rw [windows_eq wide empty, List.mem_map] at member
    obtain ⟨start, -, rfl⟩ := member
    exact ((List.take_sublist w _).trans (List.drop_sublist start hashes)).subset

section

variable {start : Nat} {held : Option Selection} {first : List Int} {lowest : Selection}

theorem recordFrom_of_served (found : rightmostMin? start first = some lowest)
    (served : held.any (·.serves start lowest) = true) (later : List (List Int)) :
    recordFrom start held (first :: later) = recordFrom (start + 1) held later := by
  simp only [recordFrom, found, served, if_true]

theorem recordFrom_of_not_served (found : rightmostMin? start first = some lowest)
    (served : ¬ held.any (·.serves start lowest) = true) (later : List (List Int)) :
    recordFrom start held (first :: later) =
      lowest :: recordFrom (start + 1) (some lowest) later := by
  simp only [recordFrom, found, served, if_false, Bool.false_eq_true]

end

theorem recordFrom_represents {length : Nat} (positive : 1 ≤ length) {later : List (List Int)}
    {start : Nat} {held : Option Selection}
    (lengths : ∀ window ∈ later, window.length = length)
    (before : ∀ selection ∈ held, selection.position < start + length)
    {i : Nat} {window : List Int} (at_i : later[i]? = some window) :
    ∃ selection ∈ held.toList ++ recordFrom start held later,
      selection.Represents (start + i) window := by
  induction later generalizing start held i with
  | nil => cases at_i
  | cons first later ih =>
      have firstLength : first.length = length := lengths first List.mem_cons_self
      have laterLengths : ∀ window ∈ later, window.length = length :=
        fun window member => lengths window (List.mem_cons_of_mem first member)
      have nonempty : first ≠ [] := by
        rintro rfl
        rw [List.length_nil] at firstLength
        omega
      obtain ⟨lowest, found, represents⟩ := exists_represents start nonempty
      by_cases served : held.any (·.serves start lowest) = true
      · rw [recordFrom_of_served found served]
        cases i with
        | zero =>
            obtain rfl : first = window := Option.some.inj at_i
            cases held with
            | none => cases served
            | some selection =>
                -- what is held came from an earlier window, so it lies before the end of this one
                refine ⟨selection, by simp, represents.of_serves (by simpa using served) ?_⟩
                rw [firstLength]
                exact before selection rfl
        | succ i =>
            have stillBefore : ∀ selection ∈ held, selection.position < start + 1 + length :=
              fun selection member => by have := before selection member; omega
            rw [← Nat.add_assoc, Nat.add_right_comm]
            exact ih laterLengths stillBefore at_i
      · rw [recordFrom_of_not_served found served]
        cases i with
        | zero =>
            obtain rfl : first = window := Option.some.inj at_i
            exact ⟨lowest, by simp, represents⟩
        | succ i =>
            have stillBefore : ∀ selection ∈ some lowest, selection.position < start + 1 + length := by
              rintro _ ⟨rfl⟩
              have := represents.lt_stop
              omega
            obtain ⟨selection, member, here⟩ := ih laterLengths stillBefore at_i
            rw [Nat.add_right_comm, Nat.add_assoc] at here
            exact ⟨selection, List.mem_append_right _ (by simpa using member), here⟩

theorem exists_window_of_mem_recordFrom {later : List (List Int)} {start : Nat}
    {held : Option Selection} {selection : Selection}
    (member : selection ∈ recordFrom start held later) :
    ∃ window ∈ later, selection.hash ∈ window := by
  induction later generalizing start held with
  | nil => cases member
  | cons first later ih =>
      rw [recordFrom] at member
      split at member
      · obtain ⟨window, inside, here⟩ := ih member
        exact ⟨window, List.mem_cons_of_mem first inside, here⟩
      · split at member
        · obtain ⟨window, inside, here⟩ := ih member
          exact ⟨window, List.mem_cons_of_mem first inside, here⟩
        · rcases List.mem_cons.mp member with rfl | recorded
          · rename_i found _
            exact ⟨first, List.mem_cons_self, (rightmostMin?_represents found).member⟩
          · obtain ⟨window, inside, here⟩ := ih recorded
            exact ⟨window, List.mem_cons_of_mem first inside, here⟩

theorem exists_selection {w : Nat} (wide : 1 ≤ w) {hashes : List Int} (nonempty : hashes ≠ [])
    {start : Nat} (inside : start ≤ hashes.length - w) :
    ∃ selection ∈ selections w hashes, selection.Represents start ((hashes.drop start).take w) := by
  have positive : 1 ≤ min w hashes.length := by
    have := List.length_pos_of_ne_nil nonempty
    omega
  have at_start : (windows w hashes)[start]? = some ((hashes.drop start).take w) := by
    rw [windows_eq wide nonempty, List.getElem?_map, List.getElem?_range (by omega)]
    rfl
  have recorded : ∃ selection ∈ (none : Option Selection).toList ++ selections w hashes,
      selection.Represents (0 + start) ((hashes.drop start).take w) :=
    recordFrom_represents positive (fun window => length_of_mem_windows wide) (by simp) at_start
  rw [Nat.zero_add, Option.toList_none, List.nil_append] at recorded
  exact recorded

theorem winnow_subset {w : Nat} (wide : 1 ≤ w) (hashes : List Int) : winnow w hashes ⊆ hashes := by
  intro hash member
  obtain ⟨selection, recorded, rfl⟩ := List.mem_map.mp member
  obtain ⟨window, inside, here⟩ := exists_window_of_mem_recordFrom recorded
  exact subset_of_mem_windows wide inside here

theorem winnow_ne_nil {w : Nat} (wide : 1 ≤ w) {hashes : List Int} (nonempty : hashes ≠ []) :
    winnow w hashes ≠ [] := by
  obtain ⟨selection, member, -⟩ := exists_selection wide nonempty (Nat.zero_le _)
  exact List.ne_nil_of_mem (List.mem_map_of_mem member)

theorem length_recordFrom_le (start : Nat) (held : Option Selection) (later : List (List Int)) :
    (recordFrom start held later).length ≤ later.length := by
  fun_induction recordFrom start held later with
  | case1 => exact Nat.le_refl _
  | case2 start held window later found ih => exact Nat.le_succ_of_le ih
  | case3 start held window later lowest found served ih => exact Nat.le_succ_of_le ih
  | case4 start held window later lowest found served ih => exact Nat.succ_le_succ ih

theorem length_windows_le (w : Nat) (hashes : List Int) : (windows w hashes).length ≤ hashes.length := by
  induction hashes with
  | nil => exact Nat.le_refl _
  | cons hash rest ih =>
      rw [windows, List.length_cons, List.length_cons]
      split
      · exact Nat.succ_le_succ (Nat.zero_le _)
      · exact Nat.succ_le_succ ih

theorem length_winnow_le (w : Nat) (hashes : List Int) : (winnow w hashes).length ≤ hashes.length := by
  rw [winnow, List.length_map]
  exact (length_recordFrom_le _ _ _).trans (length_windows_le w hashes)

theorem exists_least_of_consecutive {w : Nat} (wide : 1 ≤ w) {hashes window : List Int}
    (inside : window <:+: hashes) (length : window.length = w) :
    ∃ least ∈ winnow w hashes, least ∈ window ∧ ∀ hash ∈ window, least ≤ hash := by
  obtain ⟨front, back, rfl⟩ := inside
  have here : ((front ++ window ++ back).drop front.length).take w = window := by
    rw [List.append_assoc, List.drop_left, List.take_left' length]
  have nonempty : front ++ window ++ back ≠ [] := by
    intro empty
    simp only [List.append_eq_nil_iff] at empty
    rw [empty.1.2, List.length_nil] at length
    omega
  have fits : front.length ≤ (front ++ window ++ back).length - w := by
    rw [List.length_append, List.length_append]
    omega
  obtain ⟨selection, member, represents⟩ := exists_selection wide nonempty fits
  rw [here] at represents
  exact ⟨selection.hash, List.mem_map_of_mem member, represents.member, represents.least⟩

end SourceSimilarity.Fingerprint
