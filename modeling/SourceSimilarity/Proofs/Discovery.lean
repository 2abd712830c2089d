import SourceSimilarity.Proofs.FileTree
import SourceSimilarity.Proofs.Inputs.Numbering

/-!
The paths that entries find are in their normal form, however the entries spell theirs, so that
there is one path for each file.
-/

namespace SourceSimilarity

open FileTree (pathOf)
open SourceSimilarity.Path (IsName HasTwoSlashes byteCount pathLimit)

/-- The paths are those of the files below a place whose names pass a test, ascending, as far as the
directories on the way are open and a path leads to them that is short enough. -/
structure FileTree.Lists (files : FileTree) (path : String) (place : List String)
    (test : String → Bool) (paths : List String) : Prop where
  ascend : paths.Pairwise Text.Before
  mem_iff : ∀ other, other ∈ paths ↔ ∃ below name,
    files.root.HasFile (place ++ below ++ [name]) ∧ test name = true ∧
      (∀ front, front <+: below → files.root.IsOpen (place ++ front) ∧
        byteCount (FileNode.pathBelow path.toList front) < pathLimit) ∧
      other = pathOf (place ++ below ++ [name])

namespace Entry

/-- An entry puts the names of the files below a place to a test. The directories there do not lie too
deep within one another. -/
structure Searches (files : FileTree) (limits : Limits) (entry : Entry) (place : List String)
    (test : String → Bool) : Prop where
  kind : entry.kind ≠ .single
  asks : ∃ pattern, entry.pattern = some pattern ∧ nameTest entry.isRegex pattern limits = .ok test
  locates : files.locate entry.path = .ok place
  directory : ∃ entries isOpen, files.root.find? place = some (.directory entries isOpen) ∧
    (FileNode.directory entries isOpen).Within limits.directories

variable {files : FileTree} {limits : Limits} {entry : Entry} {place : List String}
  {test : String → Bool} {found reached : List (List String)} {paths : List String}

theorem files_eq_ok_iff (kind : entry.kind ≠ .single) : entry.files files limits = .ok paths ↔
    ∃ test? entries isOpen reached found, entry.test? limits = .ok test? ∧
      files.lookup entry.path = .ok (.directory entries isOpen) ∧
      (FileNode.directory entries isOpen).search limits.directories entry.path.toList =
        some reached ∧
      selected test? reached = .ok found ∧
      Text.sorted (found.map (absoluteBelow files entry.path)) = paths := by
  rw [Entry.files]
  split
  · contradiction
  · simp only [bind_eq_ok]
    refine exists_congr fun test? => ?_
    constructor
    · rintro ⟨asked, finds⟩
      split at finds
      · rename_i entries isOpen opened
        split at finds
        · rename_i reached searched
          obtain ⟨found, selects, sorted⟩ := bind_eq_ok.mp finds
          exact ⟨entries, isOpen, reached, found, asked, opened, searched, selects,
            pure_eq_ok.mp sorted⟩
        · cases finds
      · cases finds
    · rintro ⟨entries, isOpen, reached, found, asked, opened, searched, selects, sorted⟩
      refine ⟨asked, ?_⟩
      rw [opened]
      dsimp only
      rw [searched]
      exact bind_eq_ok.mpr ⟨found, selects, pure_eq_ok.mpr sorted⟩

theorem absoluteBelow_eq_pathOf (proper : files.Proper) {path : String}
    (leads : files.LeadsTo path place) (notTwo : ¬HasTwoSlashes path.toList) {names : List String}
    (plain : ∀ name ∈ names, IsName name.toList) :
    absoluteBelow files path names = pathOf (place ++ names) := by
  have below := List.forall_mem_map.mpr plain
  have joined := Path.not_hasTwoSlashes_join notTwo (Path.isAbsolute_intercalate below)
  rw [absoluteBelow, pathOf, List.map_append, ← leads.normalComponents_join_below proper below]
  exact congrArg String.ofList (Path.absolute_eq_ofNames proper.isName_home joined)

theorem Searches.files_eq_ok (searches : entry.Searches files limits place test) :
    ∃ node reached, files.root.find? place = some node ∧
      node.search limits.directories entry.path.toList = some reached ∧
      entry.files files limits = .ok (Text.sorted
        ((reached.filter fun names => names.getLast?.any test).map
          (absoluteBelow files entry.path))) := by
  obtain ⟨pattern, own, named⟩ := searches.asks
  obtain ⟨entries, isOpen, here, within⟩ := searches.directory
  obtain ⟨reached, searched⟩ :=
    Option.isSome_iff_exists.mp (within.isSome_search le_rfl entry.path.toList)
  have asked : entry.test? limits = .ok (some test) := by
    rw [test?, own]
    simp only [named, Except.map, Except.mapError]
  exact ⟨_, reached, here, searched, (files_eq_ok_iff searches.kind).mpr
    ⟨some test, entries, isOpen, reached, _, asked,
      FileTree.lookup_eq_ok_iff.mpr ⟨place, searches.locates, here⟩, searched, rfl, rfl⟩⟩

theorem any_getLast?_iff {names : List String} : names.getLast?.any test = true ↔
    ∃ below name, names = below ++ [name] ∧ test name = true := by
  rcases names.eq_nil_or_concat with rfl | ⟨front, last, rfl⟩
  · simp
  · rw [List.concat_eq_append, List.getLast?_concat, Option.any_some]
    constructor
    · exact fun passes => ⟨front, last, rfl, passes⟩
    · rintro ⟨below, name, same, passes⟩
      obtain rfl := List.head_eq_of_cons_eq (List.append_inj_right' same rfl)
      exact passes

theorem Searches.lists (searches : entry.Searches files limits place test)
    (proper : files.Proper) (notTwo : ¬HasTwoSlashes entry.path.toList) :
    ∃ paths, entry.files files limits = .ok paths ∧ files.Lists entry.path place test paths := by
  obtain ⟨node, reached, here, searched, finds⟩ := searches.files_eq_ok
  have properHere := (proper.root.find here).2
  have leads := FileTree.leadsTo_of_locate searches.locates
  have inRoot {names : List String} (member : names ∈ reached) :
      files.root.HasFile (place ++ names) := (FileNode.hasFile_append here).mpr
    ((FileNode.mem_search_iff properHere searched).mp member).1
  have spelled {names : List String} (member : names ∈ reached) :
      absoluteBelow files entry.path names = pathOf (place ++ names) :=
    absoluteBelow_eq_pathOf proper leads notTwo (properHere.isName_of_hasFile
      ((FileNode.mem_search_iff properHere searched).mp member).1)
  have mem_iff {below : List String} {name : String} : below ++ [name] ∈ reached ↔
      files.root.HasFile (place ++ below ++ [name]) ∧ ∀ front, front <+: below →
        files.root.IsOpen (place ++ front) ∧
          byteCount (FileNode.pathBelow entry.path.toList front) < pathLimit := by
    simp only [FileNode.mem_search_iff properHere searched, FileNode.opensTo_concat,
      List.append_assoc, FileNode.hasFile_append here, FileNode.isOpen_append here]
  refine ⟨_, finds, ?_, fun path => ?_⟩
  · refine pairwise_key_lt Text.codes (fun _ _ => Text.codes_injective) ?_ (Text.pairwise_sorted _)
    refine (Text.sorted_perm _).nodup_iff.mpr ?_
    refine ((FileNode.nodup_search properHere searched).filter _).map_on fun names member others
      otherMember same => ?_
    have inside := List.mem_of_mem_filter member
    have otherInside := List.mem_of_mem_filter otherMember
    rw [spelled inside, spelled otherInside] at same
    exact List.append_cancel_left (FileTree.pathOf_injective
      (proper.root.isName_of_hasFile (inRoot inside))
      (proper.root.isName_of_hasFile (inRoot otherInside)) same)
  · rw [(Text.sorted_perm _).mem_iff]
    simp only [List.mem_map, List.mem_filter, any_getLast?_iff]
    constructor
    · rintro ⟨_, ⟨inside, below, name, rfl, passes⟩, rfl⟩
      obtain ⟨file, opens⟩ := mem_iff.mp inside
      refine ⟨below, name, file, passes, opens, ?_⟩
      rw [List.append_assoc]
      exact spelled inside
    · rintro ⟨below, name, file, passes, opens, rfl⟩
      have inside := mem_iff.mpr ⟨file, opens⟩
      rw [List.append_assoc]
      exact ⟨_, ⟨inside, below, name, rfl, passes⟩, spelled inside⟩

end Entry

namespace Inputs

variable {files : FileTree} {limits : Limits} {entries : List Entry} {inputs : Inputs}

def nested : FileTree where
  root := .directory [("home", .directory [
    ("d", .directory [("a.c", .file []), ("sub", .directory [("b.c", .file [])])]),
    ("notes.txt", .file [])])]
  workingDirectory := ["home"]

def spellings : List Entry :=
  [⟨"d/../d//", some "*.c", .normal, false⟩, ⟨"/home/./d/sub/", some "*.c", .old, false⟩,
    ⟨".//d/a.c", some "", .single, false⟩]

def inner (name : String) : FileTree where
  root := .directory [("home", .directory [
    ("d", .directory [("a.c", .file []), (name, .directory [("b.c", .file [])])])])]
  workingDirectory := ["home"]

variable {name : String}

end Inputs

end SourceSimilarity
