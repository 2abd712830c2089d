import SourceSimilarity.Source.Parsed
import SourceSimilarity.Proofs.Tree.Growth

namespace SourceSimilarity.ParsedSource

variable {language : Language} {bytes : Array UInt8} {table : Tree.Table String}

def Placed (table : Tree.Table String) (waiting : List Pending) : Prop :=
  ∀ pending ∈ waiting, ∃ number type, pending.parent = some (number, type) ∧ number < table.size

theorem Placed.tail {first : Pending} {waiting : List Pending}
    (placed : Placed table (first :: waiting)) : Placed table waiting :=
  fun pending member => placed pending (List.mem_cons_of_mem first member)

theorem Placed.add {waiting : List Pending} (placed : Placed table waiting) (label : String)
    (parent : Option Nat) : Placed (table.add label parent) waiting := by
  intro pending member
  obtain ⟨number, type, below, inside⟩ := placed pending member
  exact ⟨number, type, below, by rw [Tree.Table.size_add]; omega⟩

theorem Placed.below {waiting : List Pending} (placed : Placed table waiting) {number : Nat}
    (inside : number < table.size) (type : String) (children : List (Tree SyntaxNode)) :
    Placed table (Pending.below (number, type) children ++ waiting) := by
  intro pending member
  rcases List.mem_append.mp member with fresh | old
  · obtain ⟨tree, -, rfl⟩ := List.mem_map.mp fresh
    exact ⟨number, type, rfl, inside⟩
  · exact placed pending old

theorem convert_grown {waiting : List Pending} (grown : table.Grown)
    (placed : Placed table waiting) : (convert language bytes table waiting).1.Grown := by
  fun_induction convert language bytes table waiting with
  | case1 table => exact grown
  | case2 table node children parent waiting extra ih =>
      exact ih grown placed.tail
  | case3 table node children waiting core added token ih =>
      obtain ⟨number, type, below, -⟩ := placed _ List.mem_cons_self
      cases below
  | case4 table node children waiting core number type added token leaf final tokens equal ih =>
      obtain ⟨_, _, below, inside⟩ := placed _ List.mem_cons_self
      cases below
      rw [equal] at ih
      exact ih (.child node.type grown inside) (placed.tail.add _ _)
  | case5 table node children parent waiting core added token ih =>
      obtain ⟨number, type, rfl, inside⟩ := placed _ List.mem_cons_self
      refine ih (.child node.type grown inside) ((placed.tail.add _ _).below ?_ _ _)
      rw [Tree.Table.size_add]
      exact Nat.lt_succ_self _

theorem convert_root {root : Tree SyntaxNode} (plain : ¬ root.label.isExtra = true) :
    (convert language bytes .empty [⟨root, none⟩]).1.Grown := by
  obtain ⟨node, children⟩ := root
  rw [Tree.label] at plain
  have grown : (Tree.Table.empty.add node.type none).Grown := .root node.type
  have nothing : Placed (Tree.Table.empty.add node.type none) [] := fun pending member =>
    nomatch member
  rw [convert, if_neg plain]
  dsimp only [Option.map_none]
  split
  · exact convert_grown grown nothing
  · exact convert_grown grown (nothing.below (by simp) _ _)

theorem convert_extra_root {root : Tree SyntaxNode} (extra : root.label.isExtra = true) :
    convert language bytes .empty [⟨root, none⟩] = (.empty, []) := by
  obtain ⟨node, children⟩ := root
  rw [Tree.label] at extra
  rw [convert, if_pos extra, convert]

theorem parsePrepared_eq_ok_iff {parser : Parser} {path : String} {prepared : List Char}
    {source : ParsedSource} :
    parsePrepared parser path language prepared = .ok source ↔
      ∃ root, parser language (String.ofList prepared) = .tree root ∧
        root.label.hasError = false ∧
        source = {
          language
          text := String.ofList prepared
          tree := (convert language (Text.encode prepared).toArray .empty [⟨root, none⟩]).1
          tokens := (convert language (Text.encode prepared).toArray .empty [⟨root, none⟩]).2 } := by
  rw [parsePrepared]
  cases reply : parser language (String.ofList prepared) with
  | interrupted => simp
  | crashed reason => simp
  | unanswered => simp
  | tree root =>
      cases error : root.label.hasError with
      | true => simp [error]
      | false =>
          simp only [error, Bool.false_eq_true, if_false, Except.ok.injEq, ParserReply.tree.injEq,
            exists_eq_left', true_and]
          exact eq_comm

def Sound (source : ParsedSource) : Prop := source.tree = .empty ∨ source.tree.Grown

theorem sound_of_parsePrepared {parser : Parser} {path : String} {prepared : List Char}
    {source : ParsedSource} (parsed : parsePrepared parser path language prepared = .ok source) :
    source.Sound := by
  obtain ⟨root, -, -, rfl⟩ := parsePrepared_eq_ok_iff.mp parsed
  by_cases extra : root.label.isExtra = true
  · exact .inl (congrArg Prod.fst (convert_extra_root extra))
  · exact .inr (convert_root extra)

end SourceSimilarity.ParsedSource
