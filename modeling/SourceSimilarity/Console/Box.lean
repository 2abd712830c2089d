import SourceSimilarity.Console.Palette
import SourceSimilarity.Text.Point

namespace SourceSimilarity

def repeated (c : Char) (count : Nat) : String := String.ofList (List.replicate count c)

namespace Box

def leastWidth : Nat := 50

def greatestWidth : Nat := 80

def lengthOf (text : String) : Nat := (Text.points text.toList).length

def widthFor (title subtitle : String) : Nat :=
  min greatestWidth (max leastWidth (max (lengthOf title + 6) (lengthOf subtitle + 6)))

def row (width : Nat) (text : String) : String :=
  let room := width - lengthOf text
  let before := room / 2
  "║" ++ repeated ' ' before ++ text ++ repeated ' ' (room - before) ++ "║"

def draw (palette : Palette) (title subtitle : String) (colour : String) : String :=
  let width := widthFor title subtitle
  let edge := repeated '═' width
  let rows := ["╔" ++ edge ++ "╗", row width title] ++
    (if subtitle.isEmpty then [] else [row width subtitle]) ++ ["╚" ++ edge ++ "╝"]
  "\n".intercalate (rows.map fun row => colour ++ row ++ palette.reset)

end Box

def banner (palette : Palette) : String :=
  palette.blue ++ "\n" ++
    "╔══════════════════════════════════════════════════════════════╗\n" ++
    "║              CopyScan - Source Similarity Scanner            ║\n" ++
    "║       Edit, token, fingerprint and parse tree metrics        ║\n" ++
    "╚══════════════════════════════════════════════════════════════╝\n" ++
    palette.reset ++ "\n"

end SourceSimilarity
