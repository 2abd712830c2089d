import SourceSimilarity.Proofs.Fingerprint.Winnowing
import Mathlib.Data.List.Chain
import Mathlib.Order.Fin.Basic

/-!
A selected place is kept from window to window as long as it holds the minimum. The window in which
it no longer does supersedes it by its rightmost minimum, and then no place up to the superseded one
holds the minimum of that window, for the superseded one would be a minimum there as well. So each
selected place supersedes the one before it, and all that is said of them follows from this.
-/

namespace SourceSimilarity.Fingerprint

variable {hashes : List Int} {w start : Nat}

/-- The hash at this place is the least in the window of `w` hashes from `start` on, or in what
there is of that window. -/
structure IsLeastIn (hashes : List Int) (w start : Nat) (place : Fin hashes.length) : Prop where
  start_le : start ≤ place
  lt_stop : place < start + w
  least : ∀ other : Fin hashes.length, start ≤ other → other < start + w →
    hashes[place] ≤ hashes[other]

/-- The hash at this place is the least in the window, and greater ones follow it there. -/
structure IsRightmostIn (hashes : List Int) (w start : Nat) (place : Fin hashes.length) : Prop
    extends IsLeastIn hashes w start place where
  greater_after : ∀ other : Fin hashes.length, place < other → other < start + w →
    hashes[place] < hashes[other]

/-- Places that represent all windows of `w` hashes: each window by its minimum, none of the places
without a window that needs it, and no two of them further apart than a window is long. -/
structure RobustCover (hashes : List Int) (w : Nat) (places : List (Fin hashes.length)) : Prop where
  nonempty : places ≠ []
  sorted : places.Pairwise (· < ·)
  covers : ∀ start ≤ hashes.length - w, ∃ place ∈ places, IsLeastIn hashes w start place
  needed : ∀ front place back, places = front ++ place :: back →
    ∃ start ≤ hashes.length - w, IsRightmostIn hashes w start place ∧
      ∀ earlier ∈ front, ¬IsLeastIn hashes w start earlier
  starts : ∀ place ∈ places.head?, place < w
  close : places.IsChain fun place next : Fin hashes.length => next ≤ place.val + w
  ends : ∀ place ∈ places.getLast?, hashes.length - w ≤ place

def selectionAt (hashes : List Int) (place : Fin hashes.length) : Selection :=
  ⟨place, hashes[place]⟩

theorem getElem?_window {place : Fin hashes.length} (startLe : start ≤ place)
    (ltStop : place < start + w) :
    ((hashes.drop start).take w)[place - start]? = some hashes[place] := by
  rw [List.getElem?_take_of_lt (by omega), List.getElem?_drop, Nat.add_sub_cancel' startLe]
  exact List.getElem?_eq_getElem place.isLt

theorem exists_place_of_window {i : Nat} {hash : Int}
    (here : ((hashes.drop start).take w)[i]? = some hash) :
    ∃ place : Fin hashes.length, place.val = start + i ∧ i < w ∧ hashes[place] = hash := by
  rw [List.getElem?_take, Option.ite_none_right_eq_some, List.getElem?_drop] at here
  obtain ⟨inside, here⟩ := here
  obtain ⟨bound, here⟩ := List.getElem?_eq_some_iff.mp here
  exact ⟨⟨start + i, bound⟩, rfl, inside, here⟩

theorem rightmostMin?_stands {window : List Int} {lowest : Selection}
    (found : rightmostMin? start window = some lowest) :
    ∃ i, lowest.position = start + i ∧ window[i]? = some lowest.hash ∧
      ∀ j hash, i < j → window[j]? = some hash → lowest.hash < hash := by
  induction window generalizing start lowest with
  | nil => cases found
  | cons first rest ih =>
      cases later : rightmostMin? (start + 1) rest with
      | none =>
          have alone : rest = [] := rightmostMin?_eq_none.mp later
          simp only [rightmostMin?, later, Option.some.injEq] at found
          subst found alone
          refine ⟨0, rfl, rfl, fun j hash after here => ?_⟩
          cases j with
          | zero => cases after
          | succ j => cases here
      | some best =>
          by_cases keep : best.hash ≤ first
          · simp only [rightmostMin?, later, if_pos keep, Option.some.injEq] at found
            subst found
            obtain ⟨i, position, stands, greater⟩ := ih later
            refine ⟨i + 1, by omega, stands, fun j hash after here => ?_⟩
            cases j with
            | zero => cases after
            | succ j => exact greater j hash (by omega) here
          · simp only [rightmostMin?, later, if_neg keep, Option.some.injEq] at found
            subst found
            refine ⟨0, rfl, rfl, fun j hash after here => ?_⟩
            cases j with
            | zero => cases after
            | succ j =>
                have atLeast := (rightmostMin?_represents later).least hash
                  (List.mem_of_getElem? here)
                exact Int.lt_of_lt_of_le (Int.lt_of_not_ge keep) atLeast

theorem isRightmostIn_of_found {lowest : Selection}
    (found : rightmostMin? start ((hashes.drop start).take w) = some lowest) :
    ∃ place, lowest = selectionAt hashes place ∧ IsRightmostIn hashes w start place := by
  obtain ⟨i, position, stands, greater⟩ := rightmostMin?_stands found
  obtain ⟨place, value, inside, hash⟩ := exists_place_of_window stands
  have same : lowest = selectionAt hashes place := by
    rw [selectionAt, hash, value, ← position]
  subst same
  refine ⟨place, rfl, ⟨by omega, by omega, fun other startLe ltStop => ?_⟩,
    fun other after ltStop => ?_⟩
  · exact (rightmostMin?_represents found).least _
      (List.mem_of_getElem? (getElem?_window startLe ltStop))
  · have after : place.val < other.val := after
    exact greater (other - start) _ (by omega) (getElem?_window (by omega) ltStop)

theorem exists_rightmost (wide : 1 ≤ w) (inside : start < hashes.length) :
    ∃ place, rightmostMin? start ((hashes.drop start).take w) = some (selectionAt hashes place) ∧
      IsRightmostIn hashes w start place := by
  have nonempty : (hashes.drop start).take w ≠ [] := by
    rw [← List.length_pos_iff, List.length_take, List.length_drop]
    omega
  obtain ⟨lowest, found, -⟩ := exists_represents start nonempty
  obtain ⟨place, rfl, rightmost⟩ := isRightmostIn_of_found found
  exact ⟨place, found, rightmost⟩

/-- A window supersedes the place held before it: that is a minimum of the window before, but of
this one no more, and the other is its rightmost minimum. -/
def Supersedes (hashes : List Int) (w : Nat) (held next : Fin hashes.length) : Prop :=
  ∃ start < hashes.length - w, IsLeastIn hashes w start held ∧
    ¬IsLeastIn hashes w (start + 1) held ∧ IsRightmostIn hashes w (start + 1) next

namespace Supersedes

variable {held next : Fin hashes.length}

theorem needed (supersedes : Supersedes hashes w held next) :
    ∃ start ≤ hashes.length - w, IsRightmostIn hashes w start next ∧
      ∀ earlier ≤ held, ¬IsLeastIn hashes w start earlier := by
  obtain ⟨start, inside, before, gone, rightmost⟩ := supersedes
  refine ⟨start + 1, inside, rightmost, fun earlier upTo least => gone ?_⟩
  have upTo : earlier.val ≤ held.val := upTo
  have earlierStart := least.start_le
  have heldStop := before.lt_stop
  have heldLeast : hashes[held] ≤ hashes[earlier] :=
    before.least earlier (by omega) (by omega)
  exact ⟨by omega, by omega, fun other startLe ltStop =>
    heldLeast.trans (least.least other startLe ltStop)⟩

theorem lt (supersedes : Supersedes hashes w held next) : held < next := by
  obtain ⟨start, -, rightmost, none⟩ := supersedes.needed
  exact Fin.not_le.mp fun upTo => none next upTo rightmost.toIsLeastIn

theorem le_add (supersedes : Supersedes hashes w held next) : next ≤ held.val + w := by
  obtain ⟨start, -, before, -, rightmost⟩ := supersedes
  have heldStart := before.start_le
  have nextStop := rightmost.lt_stop
  omega

end Supersedes

theorem serves_iff {held lowest : Fin hashes.length} (before : IsLeastIn hashes w start held)
    (rightmost : IsRightmostIn hashes w (start + 1) lowest) :
    (some (selectionAt hashes held)).any (·.serves (start + 1) (selectionAt hashes lowest)) = true ↔
      IsLeastIn hashes w (start + 1) held := by
  have heldStop := before.lt_stop
  simp only [Option.any_some, Selection.serves, selectionAt, Bool.and_eq_true, decide_eq_true_eq,
    beq_iff_eq]
  constructor
  · rintro ⟨startLe, same⟩
    refine ⟨startLe, by omega, fun other inside ltStop => ?_⟩
    rw [same]
    exact rightmost.least other inside ltStop
  · intro least
    exact ⟨least.start_le, le_antisymm
      (least.least lowest rightmost.start_le rightmost.lt_stop)
      (rightmost.least held least.start_le least.lt_stop)⟩

theorem recordFrom_superseding (wide : 1 ≤ w) {count : Nat} {held : Fin hashes.length}
    (before : IsLeastIn hashes w start held) (inside : start + count = hashes.length - w) :
    ∃ places, recordFrom (start + 1) (some (selectionAt hashes held))
        ((List.range' (start + 1) count).map fun first => (hashes.drop first).take w) =
          places.map (selectionAt hashes) ∧
      (held :: places).IsChain (Supersedes hashes w) ∧
      ∀ last ∈ (held :: places).getLast?, IsLeastIn hashes w (hashes.length - w) last := by
  induction count generalizing start held with
  | zero =>
      refine ⟨[], rfl, .singleton held, ?_⟩
      rintro last ⟨rfl⟩
      rwa [← inside]
  | succ count ih =>
      have next : start + 1 < hashes.length := by omega
      obtain ⟨lowest, found, rightmost⟩ := exists_rightmost wide next
      rw [List.range'_succ, List.map_cons]
      by_cases kept : IsLeastIn hashes w (start + 1) held
      · rw [recordFrom_of_served found ((serves_iff before rightmost).mpr kept)]
        exact ih kept (by omega)
      · rw [recordFrom_of_not_served found (mt (serves_iff before rightmost).mp kept)]
        obtain ⟨places, recorded, chain, last⟩ := ih rightmost.toIsLeastIn (by omega)
        refine ⟨lowest :: places, by rw [recorded, List.map_cons], ?_, ?_⟩
        · have supersedes : Supersedes hashes w held lowest :=
            ⟨start, by omega, before, kept, rightmost⟩
          exact .cons_cons supersedes chain
        · rwa [List.getLast?_cons_cons]

/-- What is selected are places, the first of them the rightmost minimum of the first window. -/
theorem exists_superseding (wide : 1 ≤ w) (nonempty : hashes ≠ []) :
    ∃ first places, selections w hashes = (first :: places).map (selectionAt hashes) ∧
      IsRightmostIn hashes w 0 first ∧
      (first :: places).IsChain (Supersedes hashes w) ∧
      ∀ last ∈ (first :: places).getLast?, IsLeastIn hashes w (hashes.length - w) last := by
  obtain ⟨first, found, rightmost⟩ :=
    exists_rightmost wide (List.length_pos_of_ne_nil nonempty)
  obtain ⟨places, recorded, chain, last⟩ :=
    recordFrom_superseding wide rightmost.toIsLeastIn (Nat.zero_add _)
  refine ⟨first, places, ?_, rightmost, chain, last⟩
  rw [selections, windows_eq wide nonempty, List.range_eq_range', List.range'_succ, List.map_cons,
    recordFrom_of_not_served found (by simp), recorded, List.map_cons]

theorem isLeastIn_of_represents {place : Fin hashes.length}
    (represents : (selectionAt hashes place).Represents start ((hashes.drop start).take w)) :
    IsLeastIn hashes w start place := by
  have ltStop := represents.lt_stop
  have length := List.length_take_le w (hashes.drop start)
  refine ⟨represents.start_le, ?_, fun other startLe ltStop => ?_⟩
  · change place.val < _ at ltStop
    omega
  · exact represents.least _ (List.mem_of_getElem? (getElem?_window startLe ltStop))

/-- Places that supersede one another are each needed by the window that brought them in. -/
theorem needed_of_superseding {places front back : List (Fin hashes.length)}
    {first place : Fin hashes.length} (rightmost : IsRightmostIn hashes w 0 first)
    (chain : (first :: places).IsChain (Supersedes hashes w))
    (split : first :: places = front ++ place :: back) :
    ∃ start ≤ hashes.length - w, IsRightmostIn hashes w start place ∧
      ∀ earlier ∈ front, ¬IsLeastIn hashes w start earlier := by
  rcases List.eq_nil_or_concat' front with rfl | ⟨front, held, rfl⟩
  · obtain ⟨rfl, -⟩ := List.cons.inj split
    exact ⟨0, Nat.zero_le _, rightmost, by simp⟩
  · rw [split, List.append_assoc, List.singleton_append] at chain
    obtain ⟨upToHeld, fromHeld⟩ := List.isChain_split.mp chain
    obtain ⟨start, inside, rightmost, none⟩ := (List.isChain_cons_cons.mp fromHeld).1.needed
    have sorted := (upToHeld.imp fun _ _ => Supersedes.lt).pairwise
    refine ⟨start, inside, rightmost, fun earlier member => none earlier ?_⟩
    rcases List.mem_append.mp member with inFront | isHeld
    · exact le_of_lt ((List.pairwise_append.mp sorted).2.2 earlier inFront held (by simp))
    · exact le_of_eq (List.mem_singleton.mp isHeld)

theorem robustCover_of_superseding (wide : 1 ≤ w) (nonempty : hashes ≠ [])
    {places : List (Fin hashes.length)} {first : Fin hashes.length}
    (selected : selections w hashes = (first :: places).map (selectionAt hashes))
    (rightmost : IsRightmostIn hashes w 0 first)
    (chain : (first :: places).IsChain (Supersedes hashes w))
    (last : ∀ last ∈ (first :: places).getLast?, IsLeastIn hashes w (hashes.length - w) last) :
    RobustCover hashes w (first :: places) where
  nonempty := List.cons_ne_nil first places
  sorted := (chain.imp fun _ _ => Supersedes.lt).pairwise
  covers := by
    intro start inside
    obtain ⟨selection, member, represents⟩ := exists_selection wide nonempty inside
    rw [selected] at member
    obtain ⟨place, inPlaces, rfl⟩ := List.mem_map.mp member
    exact ⟨place, inPlaces, isLeastIn_of_represents represents⟩
  needed := fun _ _ _ split => needed_of_superseding rightmost chain split
  starts := by
    rintro place ⟨rfl⟩
    have ltStop := rightmost.lt_stop
    omega
  close := chain.imp fun _ _ => Supersedes.le_add
  ends := fun place isLast => (last place isLast).start_le

/-- The places that are read, from the one before `stop` backwards, until one holds the hash. -/
def readBack (hashes : List Int) (hash : Int) : (stop : Nat) → List Nat
  | 0 => []
  | place + 1 => place :: if hashes[place]? = some hash then [] else readBack hashes hash place

theorem readBack_of_isRightmostIn {place : Fin hashes.length}
    (rightmost : IsRightmostIn hashes w start place) {stop : Nat} (after : place < stop)
    (inWindow : stop ≤ start + w) (inside : stop ≤ hashes.length) :
    (readBack hashes hashes[place] stop).getLast? = some place.val ∧
      ∀ read ∈ readBack hashes hashes[place] stop, place ≤ read ∧ read < stop := by
  induction stop with
  | zero => cases after
  | succ top ih =>
      by_cases met : top = place.val
      · subst met
        have here : hashes[place.val]? = some hashes[place] := List.getElem?_eq_getElem place.isLt
        rw [readBack, if_pos here]
        simp
      · have greater : hashes[place] < hashes[top] :=
          rightmost.greater_after ⟨top, inside⟩ (show place.val < top by omega)
            (show top < start + w by omega)
        have notHere : hashes[top]? ≠ some hashes[place] := by
          rw [List.getElem?_eq_getElem inside]
          exact fun same => greater.ne' (Option.some.inj same)
        obtain ⟨last, bounds⟩ := ih (by omega) (by omega) (by omega)
        rw [readBack, if_neg notHere, List.getLast?_cons, last]
        refine ⟨rfl, List.forall_mem_cons.mpr ⟨by omega, fun read member => ?_⟩⟩
        have := bounds read member
        omega

/-- The minimum found for a window is the one that is met by reading back from the window's end, and
nothing before the window is read. -/
structure IsFoundBackwards (hashes : List Int) (w start : Nat) (place : Fin hashes.length) :
    Prop where
  found : rightmostMin? start ((hashes.drop start).take w) = some (selectionAt hashes place)
  rightmost : IsRightmostIn hashes w start place
  met : (readBack hashes hashes[place] (min (start + w) hashes.length)).getLast? = some place.val
  inside : ∀ read ∈ readBack hashes hashes[place] (min (start + w) hashes.length),
    start ≤ read ∧ read < min (start + w) hashes.length

theorem exists_foundBackwards (wide : 1 ≤ w) (inside : start < hashes.length) :
    ∃ place, IsFoundBackwards hashes w start place := by
  obtain ⟨place, found, rightmost⟩ := exists_rightmost wide inside
  have startLe := rightmost.start_le
  have beforeStop : place < min (start + w) hashes.length := lt_min rightmost.lt_stop place.isLt
  obtain ⟨met, bounds⟩ :=
    readBack_of_isRightmostIn rightmost beforeStop (min_le_left _ _) (min_le_right _ _)
  refine ⟨place, found, rightmost, met, fun read member => ?_⟩
  have := bounds read member
  omega

/-- Winnowing selects the hashes at the places of a robust cover, and in each window the search back
for its minimum stays inside the window and ends at the rightmost one. -/
theorem exists_robustCover (wide : 1 ≤ w) (nonempty : hashes ≠ []) :
    (∃ places : List (Fin hashes.length),
      winnow w hashes = places.map (fun place => hashes[place]) ∧ RobustCover hashes w places) ∧
    ∀ start ≤ hashes.length - w, ∃ place, IsFoundBackwards hashes w start place := by
  constructor
  · obtain ⟨first, places, selected, rightmost, chain, last⟩ := exists_superseding wide nonempty
    have cover := robustCover_of_superseding wide nonempty selected rightmost chain last
    refine ⟨first :: places, ?_, cover⟩
    rw [winnow, selected, List.map_map]
    rfl
  · intro start inside
    have positive := List.length_pos_of_ne_nil nonempty
    exact exists_foundBackwards wide (by omega)

theorem exists_robustCover_of_repeatedMinimum :
    let hashes : List Int := [5, 2, 7, 2, 9, 4, 2]
    1 ≤ 3 ∧ hashes ≠ [] ∧ winnow 3 hashes = [2, 2, 2] ∧
      (∃ places : List (Fin hashes.length),
        winnow 3 hashes = places.map (fun place => hashes[place]) ∧ RobustCover hashes 3 places) ∧
      ∀ start ≤ hashes.length - 3, ∃ place, IsFoundBackwards hashes 3 start place :=
  ⟨by decide, by decide, by decide, exists_robustCover (by decide) (by decide)⟩

end SourceSimilarity.Fingerprint
