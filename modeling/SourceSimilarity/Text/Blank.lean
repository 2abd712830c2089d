namespace SourceSimilarity.Text

/-- White space in the sense of Unicode, with the four information separators U+001C to U+001F. -/
def isBlank (c : Char) : Bool :=
  let n := c.toNat
  (0x9 ≤ n && n ≤ 0xd) || (0x1c ≤ n && n ≤ 0x20) || n == 0x85 || n == 0xa0 || n == 0x1680 ||
    (0x2000 ≤ n && n ≤ 0x200a) || n == 0x2028 || n == 0x2029 || n == 0x202f || n == 0x205f ||
    n == 0x3000

def stripStart (text : List Char) : List Char := text.dropWhile isBlank

def stripEnd (text : List Char) : List Char := (text.reverse.dropWhile isBlank).reverse

def strip (text : List Char) : List Char := stripEnd (stripStart text)

theorem mem_of_mem_strip {c : Char} {text : List Char} (h : c ∈ strip text) : c ∈ text := by
  have inner : c ∈ stripStart text := by
    have := (List.dropWhile_sublist isBlank).subset (List.mem_reverse.1 h)
    exact List.mem_reverse.1 this
  exact (List.dropWhile_sublist isBlank).subset inner

end SourceSimilarity.Text
