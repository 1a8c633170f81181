namespace Fanout.Text

/-- Membership in the Unicode property White_Space. -/
def isBlank (c : Char) : Bool :=
  let n := c.toNat
  (9 ≤ n && n ≤ 13) || n == 0x20 || n == 0x85 || n == 0xA0 || n == 0x1680 ||
  (0x2000 ≤ n && n ≤ 0x200A) || n == 0x2028 || n == 0x2029 || n == 0x202F || n == 0x205F ||
  n == 0x3000

def trimStart (text : List Char) : List Char := text.dropWhile isBlank

def trimEnd (text : List Char) : List Char := (text.reverse.dropWhile isBlank).reverse

def trim (text : List Char) : List Char := trimEnd (trimStart text)

def allBlank (text : List Char) : Bool := text.all isBlank

theorem trimStart_eq_nil_iff {text : List Char} : trimStart text = [] ↔ allBlank text = true := by
  induction text with
  | nil => simp [trimStart, allBlank]
  | cons c rest ih => by_cases hc : isBlank c <;> simp_all [trimStart, allBlank, List.dropWhile]

theorem allBlank_reverse (text : List Char) : allBlank text.reverse = allBlank text := by
  simp [allBlank]

theorem trimEnd_eq_nil_iff {text : List Char} : trimEnd text = [] ↔ allBlank text = true := by
  rw [← allBlank_reverse, ← trimStart_eq_nil_iff, trimEnd, List.reverse_eq_nil_iff, trimStart]

theorem allBlank_trimStart (text : List Char) : allBlank (trimStart text) = allBlank text := by
  induction text with
  | nil => rfl
  | cons c rest ih => by_cases hc : isBlank c <;> simp_all [trimStart, allBlank, List.dropWhile]

theorem trim_eq_nil_iff {text : List Char} : trim text = [] ↔ allBlank text = true := by
  rw [trim, trimEnd_eq_nil_iff, allBlank_trimStart]

def trimmed (text : String) : String := String.ofList (trim text.toList)

def isBlankText (text : String) : Bool := allBlank text.toList

end Fanout.Text
