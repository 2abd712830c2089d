import SourceSimilarity.Score.Stream
import Mathlib.Data.Set.Function
import Mathlib.Tactic.Ring

namespace SourceSimilarity

namespace Score

theorem length_toBytes (score : Score) : (toBytes score).length = 4 := rfl

theorem ofBytes_toBytes (score : Score) :
    ∃ a b c d, toBytes score = [a, b, c, d] ∧ ofBytes a b c d = score := by
  refine ⟨_, _, _, _, rfl, ?_⟩
  have bound := score.toUInt32.toNat_lt
  have digits : ∀ n < 4294967296,
      (((UInt8.ofNat (n / 16777216)).toNat * 256 + (UInt8.ofNat (n / 65536 % 256)).toNat) * 256 +
        (UInt8.ofNat (n / 256 % 256)).toNat) * 256 + (UInt8.ofNat (n % 256)).toNat = n := by
    intro n small
    simp only [UInt8.toNat_ofNat']
    omega
  rw [ofBytes, digits _ bound, UInt32.ofNat_toNat]
  rfl

theorem toBytes_ofBytes (a b c d : UInt8) : toBytes (ofBytes a b c d) = [a, b, c, d] := by
  have boundA := a.toNat_lt
  have boundB := b.toNat_lt
  have boundC := c.toNat_lt
  have boundD := d.toNat_lt
  have number : (ofBytes a b c d).toUInt32.toNat =
      ((a.toNat * 256 + b.toNat) * 256 + c.toNat) * 256 + d.toNat := by
    rw [ofBytes, UInt32.toUInt32_toInt32, UInt32.toNat_ofNat']
    omega
  have first : (((a.toNat * 256 + b.toNat) * 256 + c.toNat) * 256 + d.toNat) / 16777216 =
      a.toNat := by omega
  have second : (((a.toNat * 256 + b.toNat) * 256 + c.toNat) * 256 + d.toNat) / 65536 % 256 =
      b.toNat := by omega
  have third : (((a.toNat * 256 + b.toNat) * 256 + c.toNat) * 256 + d.toNat) / 256 % 256 =
      c.toNat := by omega
  have fourth : (((a.toNat * 256 + b.toNat) * 256 + c.toNat) * 256 + d.toNat) % 256 =
      d.toNat := by omega
  simp only [toBytes, number, first, second, third, fourth, UInt8.ofNat_toNat]

theorem length_flatMap_toBytes (scores : List Score) :
    (scores.flatMap toBytes).length = 4 * scores.length := by
  induction scores with
  | nil => rfl
  | cons score scores ih =>
      rw [List.flatMap_cons, List.length_append, length_toBytes, ih, List.length_cons]
      ring

theorem listOfBytes_flatMap (scores : List Score) :
    listOfBytes (scores.flatMap toBytes) = scores := by
  induction scores with
  | nil => rfl
  | cons score scores ih =>
      obtain ⟨a, b, c, d, bytes, read⟩ := ofBytes_toBytes score
      rw [List.flatMap_cons, bytes]
      simp only [List.cons_append, List.nil_append, listOfBytes, read, ih]

theorem flatMap_listOfBytes (count : Nat) {bytes : Bytes} (long : bytes.length = 4 * count) :
    (listOfBytes bytes).flatMap toBytes = bytes := by
  induction count generalizing bytes with
  | zero =>
      obtain rfl := List.length_eq_zero_iff.mp long
      rfl
  | succ count ih =>
      match bytes, long with
      | a :: b :: c :: d :: rest, long =>
          have restLong : rest.length = 4 * count := by
            simp only [List.length_cons] at long
            omega
          rw [listOfBytes, List.flatMap_cons, toBytes_ofBytes, ih restLong]
          rfl
      | [], long | [_], long | [_, _], long | [_, _, _], long => simp at long <;> omega

end Score

namespace ScoreTable

variable {pairs : Nat}

theorem length_scores (scores : Vector Score pairs) :
    (scores.toList.flatMap Score.toBytes).length = 4 * pairs := by
  rw [Score.length_flatMap_toBytes, Vector.length_toList]

theorem readSection_sectionOf (comparator : Comparator) (scores : Option (Vector Score pairs))
    (rest : Bytes) :
    readSection pairs comparator (sectionOf scores ++ rest) = .ok (scores, rest) := by
  cases scores with
  | none => rfl
  | some scores =>
      have length := length_scores scores
      have flag : (1 : UInt8) ≠ 0 := by decide
      simp only [readSection, sectionOf, List.cons_append, if_neg flag, if_true,
        List.take_left' length, List.drop_left' length, dif_pos length, Score.listOfBytes_flatMap,
        Vector.toArray_toList]

/-- Bytes in which the sections of these comparators, read in their order, do not come to their end:
the flag of a section is missing or none, or it is not followed by a score for every pair. -/
inductive Faulty (pairs : Nat) : List Comparator → Bytes → StreamError → Prop
  | missing {comparator : Comparator} {comparators : List Comparator} :
      Faulty pairs (comparator :: comparators) [] (.missingSection comparator)
  | invalid {comparator : Comparator} {comparators : List Comparator} {flag : UInt8} {rest : Bytes}
      (notZero : flag ≠ 0) (notOne : flag ≠ 1) :
      Faulty pairs (comparator :: comparators) (flag :: rest) (.invalidFlag comparator flag)
  | truncated {comparator : Comparator} {comparators : List Comparator} {rest : Bytes}
      (short : rest.length < 4 * pairs) :
      Faulty pairs (comparator :: comparators) (1 :: rest)
        (.truncated comparator (4 * pairs) rest.length)
  | afterNone {comparator : Comparator} {comparators : List Comparator} {rest : Bytes}
      {e : StreamError} (later : Faulty pairs comparators rest e) :
      Faulty pairs (comparator :: comparators) (0 :: rest) e
  | afterScores {comparator : Comparator} {comparators : List Comparator} {data rest : Bytes}
      {e : StreamError} (long : data.length = 4 * pairs) (later : Faulty pairs comparators rest e) :
      Faulty pairs (comparator :: comparators) (1 :: (data ++ rest)) e

theorem Faulty.after {comparator : Comparator} {comparators : List Comparator} {rest : Bytes}
    {e : StreamError} (scores : Option (Vector Score pairs))
    (later : Faulty pairs comparators rest e) :
    Faulty pairs (comparator :: comparators) (sectionOf scores ++ rest) e := by
  cases scores with
  | none => exact .afterNone later
  | some scores => exact .afterScores (length_scores scores) later

/-- A section is read, or its bytes are refused whatever would follow it. -/
theorem readSection_outcome (pairs : Nat) (comparator : Comparator) (bytes : Bytes) :
    (∃ scores rest, readSection pairs comparator bytes = .ok (scores, rest) ∧
      bytes = sectionOf scores ++ rest) ∨
    ∃ e, readSection pairs comparator bytes = .error e ∧
      ∀ comparators, Faulty pairs (comparator :: comparators) bytes e := by
  cases bytes with
  | nil => exact .inr ⟨_, rfl, fun _ => .missing⟩
  | cons flag rest =>
      by_cases zero : flag = 0
      · subst zero
        exact .inl ⟨none, rest, rfl, rfl⟩
      · by_cases one : flag = 1
        · subst one
          simp only [readSection, if_neg (show (1 : UInt8) ≠ 0 by decide), if_true]
          by_cases long : (rest.take (4 * pairs)).length = 4 * pairs
          · rw [dif_pos long]
            refine .inl ⟨_, _, rfl, ?_⟩
            simp only [sectionOf, Vector.toList_mk, Score.flatMap_listOfBytes pairs long,
              List.cons_append, List.take_append_drop]
          · rw [dif_neg long]
            have short : rest.length < 4 * pairs := by
              rw [List.length_take] at long
              omega
            rw [List.take_of_length_le short.le]
            exact .inr ⟨_, rfl, fun _ => .truncated short⟩
        · simp only [readSection, if_neg zero, if_neg one]
          exact .inr ⟨_, rfl, fun _ => .invalid zero one⟩

def insert? (table : ScoreTable pairs) (comparator : Comparator) :
    Option (Vector Score pairs) → ScoreTable pairs
  | none => table
  | some scores => table.insert comparator scores

theorem get?_insert?_self (table : ScoreTable pairs) (comparator : Comparator)
    (scores : Option (Vector Score pairs)) :
    (table.insert? comparator scores).get? comparator = scores.or (table.get? comparator) := by
  cases scores with
  | none => rfl
  | some scores => exact table.get?_insert_self comparator scores

theorem get?_insert?_of_ne (table : ScoreTable pairs) {comparator other : Comparator}
    (scores : Option (Vector Score pairs)) (differ : other ≠ comparator) :
    (table.insert? comparator scores).get? other = table.get? other := by
  cases scores with
  | none => rfl
  | some scores => exact table.get?_insert_of_ne scores differ

theorem readSections_cons {comparator : Comparator} {bytes rest : Bytes}
    {scores : Option (Vector Score pairs)}
    (read : readSection pairs comparator bytes = .ok (scores, rest)) (table : ScoreTable pairs)
    (comparators : List Comparator) :
    readSections pairs table bytes (comparator :: comparators) =
      readSections pairs (table.insert? comparator scores) rest comparators := by
  rw [readSections, read]
  cases scores with
  | none => rfl
  | some scores => rfl

theorem readSections_of_save (table start : ScoreTable pairs) (rest : Bytes)
    (comparators : List Comparator) :
    ∃ loaded, readSections pairs start
        (comparators.flatMap (fun comparator => sectionOf (table.get? comparator)) ++ rest)
        comparators = .ok (loaded, rest) ∧
      ∀ comparator, loaded.get? comparator =
        if comparator ∈ comparators then (table.get? comparator).or (start.get? comparator)
        else start.get? comparator := by
  induction comparators generalizing start with
  | nil => exact ⟨start, rfl, fun comparator => by simp⟩
  | cons first comparators ih =>
      obtain ⟨loaded, read, scores⟩ := ih (start.insert? first (table.get? first))
      refine ⟨loaded, ?_, fun comparator => ?_⟩
      · rw [List.flatMap_cons, List.append_assoc,
          readSections_cons (readSection_sectionOf first (table.get? first) _), read]
      · rw [scores]
        by_cases same : comparator = first
        · subst same
          rw [get?_insert?_self]
          by_cases again : comparator ∈ comparators
          · cases table.get? comparator <;> simp [again]
          · simp [again]
        · rw [start.get?_insert?_of_ne _ same]
          simp [same]

theorem save_of_readSections {start loaded : ScoreTable pairs} {bytes rest : Bytes}
    {comparators : List Comparator} (nodup : comparators.Nodup)
    (fresh : ∀ comparator ∈ comparators, start.get? comparator = none)
    (read : readSections pairs start bytes comparators = .ok (loaded, rest)) :
    comparators.flatMap (fun comparator => sectionOf (loaded.get? comparator)) ++ rest = bytes ∧
      ∀ comparator ∉ comparators, loaded.get? comparator = start.get? comparator := by
  induction comparators generalizing start bytes with
  | nil =>
      obtain ⟨rfl, rfl⟩ := Prod.mk.inj (Except.ok.inj read)
      exact ⟨rfl, fun _ _ => rfl⟩
  | cons first comparators ih =>
      obtain ⟨notLater, nodup⟩ := List.nodup_cons.mp nodup
      rcases readSection_outcome pairs first bytes with ⟨scores, after, here, rfl⟩ | ⟨e, here, -⟩
      · rw [readSections_cons here] at read
        have fresh' : ∀ comparator ∈ comparators,
            (start.insert? first scores).get? comparator = none := by
          intro comparator member
          have differ : comparator ≠ first := fun same => notLater (same ▸ member)
          rw [start.get?_insert?_of_ne _ differ]
          exact fresh comparator (List.mem_cons_of_mem first member)
        obtain ⟨later, others⟩ := ih nodup fresh' read
        have own : loaded.get? first = scores := by
          rw [others first notLater, get?_insert?_self, fresh first List.mem_cons_self,
            Option.or_none]
        refine ⟨?_, fun comparator notHere => ?_⟩
        · rw [List.flatMap_cons, own, List.append_assoc, later]
        · obtain ⟨differ, notMember⟩ := not_or.mp (mt List.mem_cons.mpr notHere)
          rw [others comparator notMember, start.get?_insert?_of_ne _ differ]
      · rw [readSections, here] at read
        cases read

theorem readSections_error_of_faulty {comparators : List Comparator} {bytes : Bytes}
    {e : StreamError} (faulty : Faulty pairs comparators bytes e) (start : ScoreTable pairs) :
    readSections pairs start bytes comparators = .error e := by
  induction faulty generalizing start with
  | missing => rfl
  | invalid notZero notOne => simp [readSections, readSection, notZero, notOne]
  | truncated short => simp [readSections, readSection, List.take_of_length_le short.le, short.ne]
  | @afterNone comparator comparators rest e later ih =>
      exact (readSections_cons (readSection_sectionOf comparator none rest) start _).trans (ih _)
  | @afterScores comparator comparators data rest e long later ih =>
      rcases readSection_outcome pairs comparator (1 :: (data ++ rest)) with
        ⟨scores, after, here, split⟩ | ⟨e', here, -⟩
      · cases scores with
        | none => cases (List.cons.inj split).1
        | some scores =>
            have lengths : data.length = (scores.toList.flatMap Score.toBytes).length :=
              long.trans (length_scores scores).symm
            obtain ⟨-, rfl⟩ := List.append_inj (List.cons.inj split).2 lengths
            rw [readSections_cons here]
            exact ih _
      · simp [readSection, long] at here

theorem readSections_error_iff (start : ScoreTable pairs) (bytes : Bytes)
    (comparators : List Comparator) (e : StreamError) :
    readSections pairs start bytes comparators = .error e ↔ Faulty pairs comparators bytes e := by
  refine ⟨fun refused => ?_, fun faulty => readSections_error_of_faulty faulty start⟩
  induction comparators generalizing start bytes with
  | nil => cases refused
  | cons comparator comparators ih =>
      rcases readSection_outcome pairs comparator bytes with ⟨scores, rest, here, rfl⟩ | ⟨e', here, faulty⟩
      · rw [readSections_cons here] at refused
        exact .after scores (ih _ _ refused)
      · rw [readSections, here] at refused
        obtain rfl := Except.error.inj refused
        exact faulty comparators

theorem load_save (table : ScoreTable pairs) (rest : Bytes) :
    ∃ loaded, load pairs (table.save rest) = .ok (loaded, rest) ∧
      ∀ comparator, loaded.get? comparator =
        if comparator ∈ Comparator.saved then table.get? comparator else none := by
  obtain ⟨loaded, read, scores⟩ := readSections_of_save table .empty rest Comparator.saved
  refine ⟨loaded, read, fun comparator => ?_⟩
  rw [scores, get?_empty, Option.or_none]

theorem save_of_load {table : ScoreTable pairs} {bytes rest : Bytes}
    (loaded : load pairs bytes = .ok (table, rest)) :
    table.save rest = bytes ∧ table.get? .treeEdit = none := by
  obtain ⟨saved, others⟩ := save_of_readSections (by decide) (by simp) loaded
  exact ⟨saved, by simpa using others .treeEdit (by decide)⟩

/-- Saved tables and accepted bytes correspond one to one. Loading what was saved gives the scores
that have a section and what stood behind them; bytes that are loaded are those that the loaded
table is saved as; and all others are refused for the first section that is faulty. -/
theorem load_save_correspondence (pairs : Nat) :
    Set.BijOn (fun saved : ScoreTable pairs × Bytes => saved.1.save saved.2)
      {saved | saved.1.get? .treeEdit = none} {bytes | ∃ loaded, load pairs bytes = .ok loaded} ∧
    (∀ (table : ScoreTable pairs) (rest : Bytes), ∃ loaded,
      load pairs (table.save rest) = .ok (loaded, rest) ∧ ∀ comparator, loaded.get? comparator =
        if comparator ∈ Comparator.saved then table.get? comparator else none) ∧
    ∀ bytes : Bytes,
      ((∃ table rest, load pairs bytes = .ok (table, rest) ∧ table.save rest = bytes) ∨
        ∃ e, load pairs bytes = .error e) ∧
      ∀ e, load pairs bytes = .error e ↔ Faulty pairs Comparator.saved bytes e := by
  have inverse : ∀ table : ScoreTable pairs, table.get? .treeEdit = none → ∀ rest,
      load pairs (table.save rest) = .ok (table, rest) := by
    intro table noTrees rest
    obtain ⟨loaded, read, scores⟩ := load_save table rest
    have same : loaded = table := by
      apply ext_get?
      intro comparator
      rw [scores]
      cases comparator with
      | treeEdit => exact noTrees.symm
      | byteEdit | tokenEdit | moss | isomorphism => rfl
    rw [read, same]
  refine ⟨⟨?_, ?_, ?_⟩, load_save, fun bytes => ⟨?_, readSections_error_iff _ bytes _⟩⟩
  · rintro ⟨table, rest⟩ noTrees
    exact ⟨_, inverse table noTrees rest⟩
  · rintro ⟨table, rest⟩ noTrees ⟨other, otherRest⟩ noTreesOther (equal : _ = _)
    have first := inverse table noTrees rest
    dsimp only at equal
    rw [equal, inverse other noTreesOther otherRest] at first
    exact (Except.ok.inj first).symm
  · rintro bytes ⟨⟨table, rest⟩, loaded⟩
    obtain ⟨saved, noTrees⟩ := save_of_load loaded
    exact ⟨(table, rest), noTrees, saved⟩
  · cases loaded : load pairs bytes with
    | error e => exact .inr ⟨e, rfl⟩
    | ok result => exact .inl ⟨result.1, result.2, rfl, (save_of_load loaded).1⟩

end ScoreTable

end SourceSimilarity
