import SourceSimilarity.Text.Point

namespace SourceSimilarity.Text

/-- The units of one point: one below U+10000, else a high and a low surrogate. -/
def Point.units (p : Point) : List Nat :=
  if p.code < 0x10000 then [p.code]
  else [0xD800 + (p.code - 0x10000) / 0x400, 0xDC00 + (p.code - 0x10000) % 0x400]

def units16 (text : List Point) : List Nat := text.flatMap Point.units

theorem units16_append (s t : List Point) : units16 (s ++ t) = units16 s ++ units16 t := by
  simp [units16]

end SourceSimilarity.Text
