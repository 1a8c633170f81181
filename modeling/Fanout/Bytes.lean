namespace Fanout

abbrev Bytes := List UInt8

def sum (figures : List Nat) : Nat := figures.foldr (· + ·) 0

namespace Bytes

def suffix (n : Nat) (data : Bytes) : Bytes := data.drop (data.length - n)

theorem length_suffix (n : Nat) (data : Bytes) :
    (suffix n data).length = min data.length n := by
  simp only [suffix, List.length_drop]; omega

theorem suffix_of_length_le {n : Nat} {data : Bytes} (h : data.length ≤ n) :
    suffix n data = data := by
  have : data.length - n = 0 := by omega
  simp [suffix, this]

theorem suffix_append_of_le {n : Nat} {data : Bytes} (h : n ≤ data.length) (before : Bytes) :
    suffix n (before ++ data) = suffix n data := by
  have cut : (before ++ data).length - n = before.length + (data.length - n) := by
    rw [List.length_append]
    omega
  rw [suffix, suffix, cut, List.drop_length_add_append]

theorem suffix_append_of_length_eq {n : Nat} {data more : Bytes} (full : data.length = n)
    (small : more.length ≤ n) : suffix n (data ++ more) = data.drop more.length ++ more := by
  have cut : (data ++ more).length - n = more.length := by
    rw [List.length_append]
    omega
  rw [suffix, cut, List.drop_append_of_le_length (by omega)]

theorem suffix_suffix_append (n : Nat) (data more : Bytes) :
    suffix n (suffix n data ++ more) = suffix n (data ++ more) := by
  rcases Nat.le_total data.length n with small | large
  · rw [suffix_of_length_le small]
  · have enough : n ≤ (suffix n data ++ more).length := by
      rw [List.length_append, length_suffix]
      omega
    have whole : data.take (data.length - n) ++ suffix n data = data := List.take_append_drop _ _
    calc suffix n (suffix n data ++ more)
        = suffix n (data.take (data.length - n) ++ (suffix n data ++ more)) :=
          (suffix_append_of_le enough _).symm
      _ = suffix n (data ++ more) := by rw [← List.append_assoc, whole]

/-- Of what is added only the last `n` bytes matter for the last `n` bytes. -/
theorem suffix_append_suffix (n : Nat) (before data : Bytes) :
    suffix n (before ++ suffix n data) = suffix n (before ++ data) := by
  rcases Nat.le_total data.length n with small | large
  · rw [suffix_of_length_le small]
  · have enough : n ≤ (suffix n data).length := by
      rw [length_suffix]
      omega
    have short : (suffix n data).length ≤ n := by
      rw [length_suffix]
      omega
    rw [suffix_append_of_le enough, suffix_append_of_le large, suffix_of_length_le short]

def ofText (text : String) : Bytes := text.toUTF8.toList

end Bytes

end Fanout
