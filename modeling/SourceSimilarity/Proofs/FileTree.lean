import Mathlib.Data.List.Flatten
import Mathlib.Data.List.Nodup
import SourceSimilarity.FileTree
import SourceSimilarity.Proofs.Path
import SourceSimilarity.Proofs.Result

/-!
A place in a file system is told by the names that lead to it from the root. Without links, `..`
leads from a directory to the one that holds it, so that the place a path leads to is that which its
components name after each `..` has taken away the component before it.
-/

namespace SourceSimilarity

open SourceSimilarity.Path (IsName)

namespace FileNode

/-- In every directory the names differ, and are such that a path can be followed along them. -/
inductive Proper : FileNode → Prop
  | file (content : Bytes) : Proper (.file content)
  | directory {entries : List (String × FileNode)} {isOpen : Bool} : (entries.map (·.1)).Nodup →
    (∀ entry ∈ entries, IsName entry.1.toList) → (∀ entry ∈ entries, Proper entry.2) →
    Proper (.directory entries isOpen)

/-- No more directories than this lie within one another. -/
inductive Within : Nat → FileNode → Prop
  | file (depth : Nat) (content : Bytes) : Within depth (.file content)
  | directory {depth : Nat} {entries : List (String × FileNode)} {isOpen : Bool} :
    (∀ entry ∈ entries, Within depth entry.2) → Within (depth + 1) (.directory entries isOpen)

/-- There is a regular file at a place. -/
def HasFile (root : FileNode) (place : List String) : Prop :=
  ∃ content, root.find? place = some (.file content)

/-- The names of the directory at a place can be listed. -/
def IsOpen (root : FileNode) (place : List String) : Prop :=
  ∃ entries, root.find? place = some (.directory entries true)

def pathBelow (path : List Char) (names : List String) : List Char :=
  names.foldl (fun path name => Path.join path name.toList) path

/-- Every directory that these names lead through from a path on is open, and its path is short
enough to open it. -/
def OpensTo (node : FileNode) (path : List Char) (names : List String) : Prop :=
  ∀ front, front <+: names → front ≠ names →
    node.IsOpen front ∧ Path.byteCount (pathBelow path front) < Path.pathLimit

variable {node child : FileNode} {entries : List (String × FileNode)} {isOpen : Bool}
  {name : String} {names : List String}

theorem lookup_eq_some_iff (nodup : (entries.map (·.1)).Nodup) :
    entries.lookup name = some child ↔ (name, child) ∈ entries := by
  induction entries with
  | nil => simp
  | cons entry entries ih =>
      obtain ⟨other, node⟩ := entry
      obtain ⟨absent, others⟩ := List.nodup_cons.mp nodup
      rw [List.lookup_cons, List.mem_cons]
      by_cases same : name = other
      · subst same
        have notBelow : (name, child) ∉ entries := fun member =>
          absent (List.mem_map.mpr ⟨_, member, rfl⟩)
        simp [notBelow, eq_comm]
      · rw [beq_eq_false_iff_ne.mpr same]
        simp [same, ih others]

theorem Proper.entry (proper : node.Proper) (found : node.entry? name = some child) :
    IsName name.toList ∧ child.Proper := by
  cases proper with
  | file content => cases found
  | directory nodup plain below =>
      have member := (lookup_eq_some_iff nodup).mp found
      exact ⟨plain _ member, below _ member⟩

theorem find?_cons (node : FileNode) (name : String) (names : List String) :
    node.find? (name :: names) = (node.entry? name).bind (·.find? names) := List.foldlM_cons

theorem find?_append (node : FileNode) (names others : List String) :
    node.find? (names ++ others) = (node.find? names).bind (·.find? others) := List.foldlM_append

theorem Proper.find (proper : node.Proper) (found : node.find? names = some child) :
    (∀ name ∈ names, IsName name.toList) ∧ child.Proper := by
  induction names generalizing node with
  | nil =>
      obtain rfl := Option.some.inj found
      exact ⟨fun _ member => absurd member List.not_mem_nil, proper⟩
  | cons name names ih =>
      rw [find?_cons] at found
      obtain ⟨next, here, later⟩ := Option.bind_eq_some_iff.mp found
      obtain ⟨plain, below⟩ := proper.entry here
      obtain ⟨others, last⟩ := ih below later
      exact ⟨List.forall_mem_cons.mpr ⟨plain, others⟩, last⟩

theorem Proper.isName_of_hasFile (proper : node.Proper) (file : node.HasFile names) :
    ∀ name ∈ names, IsName name.toList := by
  obtain ⟨content, found⟩ := file
  exact (proper.find found).1

theorem hasFile_append {root : FileNode} {place : List String}
    (here : root.find? place = some node) : root.HasFile (place ++ names) ↔ node.HasFile names := by
  rw [HasFile, HasFile, find?_append, here, Option.bind_some]

theorem isOpen_append {root : FileNode} {place : List String}
    (here : root.find? place = some node) : root.IsOpen (place ++ names) ↔ node.IsOpen names := by
  rw [IsOpen, IsOpen, find?_append, here, Option.bind_some]

theorem opensTo_cons {path : List Char} (here : node.entry? name = some child) :
    node.OpensTo path (name :: names) ↔ node.IsOpen [] ∧ Path.byteCount path < Path.pathLimit ∧
      child.OpensTo (Path.join path name.toList) names := by
  have deeper (front : List String) : node.IsOpen (name :: front) ↔ child.IsOpen front := by
    simp only [IsOpen, find?_cons, here, Option.bind_some]
  constructor
  · intro opens
    obtain ⟨first, short⟩ := opens [] List.nil_prefix nofun
    refine ⟨first, short, fun front before differ => ?_⟩
    obtain ⟨later, fits⟩ := opens (name :: front) ((List.prefix_cons_inj name).mpr before)
      fun same => differ (List.cons.inj same).2
    exact ⟨(deeper front).mp later, fits⟩
  · rintro ⟨first, short, opens⟩ front before differ
    cases front with
    | nil => exact ⟨first, short⟩
    | cons other front =>
        obtain ⟨rfl, inside⟩ := List.cons_prefix_cons.mp before
        obtain ⟨later, fits⟩ := opens front inside fun same => differ (congrArg _ same)
        exact ⟨(deeper front).mpr later, fits⟩

theorem opensTo_concat {path : List Char} {below : List String} :
    node.OpensTo path (below ++ [name]) ↔ ∀ front, front <+: below →
      node.IsOpen front ∧ Path.byteCount (pathBelow path front) < Path.pathLimit := by
  refine forall_congr' fun front => ?_
  constructor
  · intro opens inside
    refine opens (inside.trans (List.prefix_append _ _)) fun same => ?_
    have longer := inside.length_le
    rw [same, List.length_append, List.length_singleton] at longer
    omega
  · intro opens inside differ
    exact opens ((List.prefix_concat_iff.mp inside).resolve_left differ)

theorem searchAll_eq_some_iff {room : Nat} {path : List Char} {found : List (List String)} :
    searchAll room path entries = some found ↔
      (∀ entry ∈ entries, (entry.2.search room (Path.join path entry.1.toList)).isSome) ∧
        found = entries.flatMap fun entry =>
          ((entry.2.search room (Path.join path entry.1.toList)).getD []).map (entry.1 :: ·) := by
  induction entries generalizing found with
  | nil =>
      rw [searchAll, Option.some.injEq, List.flatMap_nil]
      exact ⟨fun same => ⟨fun _ member => absurd member List.not_mem_nil, same.symm⟩,
        fun ⟨_, same⟩ => same.symm⟩
  | cons entry entries ih =>
      rw [searchAll, List.forall_mem_cons, List.flatMap_cons]
      cases entry.2.search room (Path.join path entry.1.toList) with
      | none => simp
      | some below =>
          simp only [Option.bind_eq_bind, Option.bind_some, Option.bind_eq_some_iff, ih,
            Option.pure_def, Option.some.injEq, Option.isSome_some, Option.getD_some, true_and]
          constructor
          · rintro ⟨later, ⟨all, rfl⟩, rfl⟩
            exact ⟨all, rfl⟩
          · rintro ⟨all, rfl⟩
            exact ⟨_, ⟨all, rfl⟩, rfl⟩

/-- A directory that is opened is searched, and any other is passed over. -/
theorem search_directory {room : Nat} {path : List Char} {found : List (List String)}
    (searched : (directory entries isOpen).search room path = some found) :
    (∃ less, isOpen = true ∧ Path.byteCount path < Path.pathLimit ∧
      searchAll less path entries = some found) ∨
    ¬(isOpen = true ∧ Path.byteCount path < Path.pathLimit) ∧ found = [] := by
  cases room with
  | zero => cases searched
  | succ room =>
      have opens : (isOpen && decide (Path.byteCount path < Path.pathLimit)) = true ↔
          isOpen = true ∧ Path.byteCount path < Path.pathLimit := by simp
      rw [search] at searched
      split at searched
      · rename_i opened
        exact .inl ⟨room, (opens.mp opened).1, (opens.mp opened).2, searched⟩
      · rename_i closed
        exact .inr ⟨mt opens.mpr closed, (Option.some.inj searched).symm⟩

theorem mem_search_iff (proper : node.Proper) {room : Nat} {path : List Char}
    {found : List (List String)} (searched : node.search room path = some found) :
    names ∈ found ↔ node.HasFile names ∧ node.OpensTo path names := by
  induction proper generalizing room path found names with
  | file content =>
      rw [search] at searched
      obtain rfl := Option.some.inj searched
      cases names with
      | nil => simp [HasFile, find?, OpensTo]
      | cons name names => simp [HasFile, find?_cons, entry?]
  | @directory entries isOpen nodup plain below ih =>
      cases names with
      | nil =>
          have noFile : ¬(directory entries isOpen).HasFile [] := fun ⟨_, found⟩ => nomatch found
          refine iff_of_false (fun member => ?_) fun reached => noFile reached.1
          rcases search_directory searched with ⟨less, -, -, all⟩ | ⟨-, rfl⟩
          · obtain ⟨-, rfl⟩ := searchAll_eq_some_iff.mp all
            simp at member
          · cases member
      | cons name names =>
          have known {child : FileNode} :
              entry? name (directory entries isOpen) = some child ↔ (name, child) ∈ entries :=
            lookup_eq_some_iff nodup
          rcases search_directory searched with ⟨less, rfl, short, all⟩ | ⟨closed, rfl⟩
          · obtain ⟨each, rfl⟩ := searchAll_eq_some_iff.mp all
            simp only [List.mem_flatMap, List.mem_map, List.cons.injEq]
            constructor
            · rintro ⟨entry, member, rest, inside, rfl, rfl⟩
              obtain ⟨deeper, finds⟩ := Option.isSome_iff_exists.mp (each entry member)
              rw [finds] at inside
              obtain ⟨⟨content, file⟩, opens⟩ := (ih entry member finds).mp inside
              have here := known.mpr member
              refine ⟨⟨content, ?_⟩, (opensTo_cons here).mpr ⟨⟨entries, rfl⟩, short, opens⟩⟩
              rw [find?_cons, here, Option.bind_some, file]
            · rintro ⟨⟨content, file⟩, opens⟩
              obtain ⟨child, here, later⟩ := Option.bind_eq_some_iff.mp (find?_cons _ _ _ ▸ file)
              have member := known.mp here
              obtain ⟨deeper, finds⟩ := Option.isSome_iff_exists.mp (each _ member)
              refine ⟨(name, child), member, names, ?_, rfl, rfl⟩
              rw [finds]
              exact (ih _ member finds).mpr ⟨⟨content, later⟩, ((opensTo_cons here).mp opens).2.2⟩
          · refine iff_of_false List.not_mem_nil fun ⟨_, opens⟩ => closed ?_
            obtain ⟨⟨others, here⟩, short⟩ := opens [] List.nil_prefix nofun
            exact ⟨(FileNode.directory.inj (Option.some.inj here)).2, short⟩

theorem nodup_search (proper : node.Proper) {room : Nat} {path : List Char}
    {found : List (List String)} (searched : node.search room path = some found) :
    found.Nodup := by
  induction proper generalizing room path found with
  | file content =>
      rw [search] at searched
      obtain rfl := Option.some.inj searched
      exact List.nodup_singleton _
  | @directory entries isOpen nodup plain below ih =>
      rcases search_directory searched with ⟨less, -, -, all⟩ | ⟨-, rfl⟩
      · obtain ⟨each, rfl⟩ := searchAll_eq_some_iff.mp all
        rw [List.nodup_flatMap]
        refine ⟨fun entry member => ?_, ?_⟩
        · obtain ⟨deeper, finds⟩ := Option.isSome_iff_exists.mp (each entry member)
          rw [finds]
          exact (ih entry member finds).map (List.cons_injective (a := entry.1))
        · refine (List.pairwise_map.mp nodup).imp fun {a b} differ => ?_
          simp only [Function.onFun, List.disjoint_left, List.mem_map]
          rintro _ ⟨names, _, rfl⟩ ⟨others, _, same⟩
          exact differ (List.cons.inj same).1.symm
      · exact List.nodup_nil

theorem Within.isSome_search {depth : Nat} (within : node.Within depth) {room : Nat}
    (enough : depth ≤ room) (path : List Char) : (node.search room path).isSome := by
  induction within generalizing room path with
  | file depth content => rfl
  | @directory depth entries isOpen below ih =>
      cases room with
      | zero => cases enough
      | succ room =>
          rw [search]
          split
          · exact Option.isSome_iff_exists.mpr ⟨_, searchAll_eq_some_iff.mpr
              ⟨fun entry member => ih entry member (Nat.le_of_succ_le_succ enough) _, rfl⟩⟩
          · rfl

/-- Where the parts of a path lead from a place. Only a directory has anything below it; the empty
part and `.` stay there, and `..` leaves it for the directory that holds it. -/
inductive Leads (root : FileNode) : List String → List (List Char) → List String → Prop
  | here (place : List String) : Leads root place [] place
  | stay {place final : List String} {part : List Char} {parts : List (List Char)}
    {entries : List (String × FileNode)} {isOpen : Bool} :
    root.find? place = some (.directory entries isOpen) →
    part = [] ∨ part = ['.'] → Leads root place parts final → Leads root place (part :: parts) final
  | leave {place final : List String} {parts : List (List Char)}
    {entries : List (String × FileNode)} {isOpen : Bool} :
    root.find? place = some (.directory entries isOpen) →
    Leads root place.dropLast parts final → Leads root place (['.', '.'] :: parts) final
  | enter {place final : List String} {part : List Char} {parts : List (List Char)}
    {entries : List (String × FileNode)} {isOpen : Bool} :
    root.find? place = some (.directory entries isOpen) →
    (entries.lookup (String.ofList part)).isSome → Leads root (place ++ [String.ofList part])
    parts final → Leads root place (part :: parts) final

theorem leads_of_followFrom {root : FileNode} {place final : List String}
    {parts : List (List Char)} (found : FileTree.followFrom root place parts = .ok final) :
    Leads root place parts final := by
  induction parts generalizing place with
  | nil =>
      obtain rfl := Except.ok.inj found
      exact .here place
  | cons part parts ih =>
      rw [FileTree.followFrom] at found
      split at found
      · cases found
      · cases found
      · rename_i entries isOpen here
        split at found
        · rename_i empty
          exact .stay here empty (ih found)
        · split at found
          · rename_i parent
            exact parent ▸ .leave here (ih found)
          · split at found
            · cases found
            · split at found
              · rename_i known
                exact .enter here known (ih found)
              · cases found

theorem Leads.foldl_follow {root : FileNode} (proper : root.Proper) {place final : List String}
    {parts : List (List Char)} (leads : Leads root place parts final) :
    (parts.filter (!·.isEmpty)).foldl Path.follow (place.map String.toList).reverse =
      (final.map String.toList).reverse := by
  induction leads with
  | here place => rfl
  | stay _ empty _ ih => rcases empty with rfl | rfl <;> exact ih
  | leave _ _ ih =>
      rw [← ih, List.map_dropLast, ← List.tail_reverse]
      rfl
  | @enter place final part parts entries isOpen directory known _ ih =>
      obtain ⟨child, here⟩ := Option.isSome_iff_exists.mp known
      have plain : IsName (String.ofList part).toList := ((proper.find directory).2.entry here).1
      rw [String.toList_ofList] at plain
      have kept : (part :: parts).filter (!·.isEmpty) = part :: parts.filter (!·.isEmpty) :=
        List.filter_cons_of_pos (by simpa using plain.nonempty)
      rw [← ih, kept, List.foldl_cons, Path.follow_name plain,
        List.map_append, List.map_singleton, String.toList_ofList, List.reverse_append,
        List.reverse_singleton, List.singleton_append]

end FileNode

namespace FileTree

structure Proper (files : FileTree) : Prop where
  root : files.root.Proper
  home : ∃ entries isOpen,
    files.root.find? files.workingDirectory = some (.directory entries isOpen)

def startOf (files : FileTree) (path : List Char) : List String :=
  if Path.isAbsolute path then [] else files.workingDirectory

/-- A path leads to a place. How long it is does not count. -/
def LeadsTo (files : FileTree) (path : String) (place : List String) : Prop :=
  path ≠ "" ∧ files.root.Leads (files.startOf path.toList) (path.toList.splitOn '/') place

def pathOf (place : List String) : String :=
  String.ofList (Path.ofNames (place.map String.toList))

variable {files : FileTree} {path : String} {place : List String}

theorem lookup_eq_ok_iff {path : String} {node : FileNode} : files.lookup path = .ok node ↔
    ∃ place, files.locate path = .ok place ∧ files.root.find? place = some node := by
  rw [FileTree.lookup, bind_eq_ok]
  refine exists_congr fun place => and_congr_right fun located => ?_
  cases files.root.find? place with
  | none => simp [throw, throwThe, MonadExceptOf.throw]
  | some other => simp [pure_eq_ok]

theorem leadsTo_of_locate (found : files.locate path = .ok place) : files.LeadsTo path place := by
  simp only [locate] at found
  split at found
  · cases found
  · rename_i nonempty
    split at found
    · cases found
    · refine ⟨?_, FileNode.leads_of_followFrom found⟩
      rintro rfl
      exact nonempty rfl

theorem Proper.isName_home (proper : files.Proper) :
    ∀ name ∈ files.workingDirectory.map String.toList, IsName name := by
  obtain ⟨entries, isOpen, found⟩ := proper.home
  exact List.forall_mem_map.mpr (proper.root.find found).1

theorem Proper.foldl_components_join (proper : files.Proper) (path : List Char) :
    (Path.components (Path.join files.workingPath path)).foldl Path.follow [] =
      (Path.components path).foldl Path.follow
        ((files.startOf path).map String.toList).reverse := by
  cases starts : Path.isAbsolute path with
  | true =>
      rw [Path.join, startOf, starts, if_pos rfl, if_pos rfl]
      rfl
  | false =>
      have home : files.workingPath = Path.ofNames (files.workingDirectory.map String.toList) := rfl
      rw [Path.components_join starts, List.foldl_append, home,
        Path.components_ofNames proper.isName_home, Path.foldl_follow_names proper.isName_home,
        startOf, starts, if_neg Bool.false_ne_true, List.append_nil]

theorem LeadsTo.normalComponents_join_below (proper : files.Proper)
    (leads : files.LeadsTo path place) {below : List (List Char)}
    (plain : ∀ name ∈ below, IsName name) :
    Path.normalComponents (Path.join files.workingPath
      (Path.join path.toList (['/'].intercalate below))) = place.map String.toList ++ below := by
  have relative := Path.isAbsolute_intercalate plain
  rw [Path.normalComponents, proper.foldl_components_join, Path.components_join relative,
    Path.components_intercalate plain, List.foldl_append, startOf, Path.isAbsolute_join relative,
    ← startOf, Path.components, leads.2.foldl_follow proper.root, Path.foldl_follow_names plain,
    List.reverse_append, List.reverse_reverse, List.reverse_reverse]

theorem map_toList_injective : (List.map String.toList).Injective :=
  List.map_injective_iff.mpr fun _ _ => String.toList_inj.mp

theorem pathOf_injective {other : List String} (plain : ∀ name ∈ place, IsName name.toList)
    (otherPlain : ∀ name ∈ other, IsName name.toList) (same : pathOf place = pathOf other) :
    place = other :=
  map_toList_injective (Path.ofNames_injective (List.forall_mem_map.mpr plain)
    (List.forall_mem_map.mpr otherPlain) (String.ofList_injective same))

end FileTree

end SourceSimilarity
