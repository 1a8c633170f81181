import Fanout.Proofs.Stream.Sharing

namespace Fanout.StreamKey

variable {url other : String} {key : StreamKey} {q : Option String} {tail : List Char}

/-- What comes after the address in a key that belongs to it. -/
def Continues (tail : List Char) : Prop := tail = [] ∨ ∃ rest, tail = '?' :: rest

theorem belongsTo_iff :
    key.belongsTo url = true ↔ ∃ tail, key.text.toList = url.toList ++ tail ∧ Continues tail := by
  unfold belongsTo
  rw [Bool.and_eq_true, List.isPrefixOf_iff_prefix]
  constructor
  · rintro ⟨⟨tail, split⟩, after⟩
    refine ⟨tail, split.symm, ?_⟩
    rw [← split, List.drop_left] at after
    cases tail with
    | nil => exact .inl rfl
    | cons c rest =>
      obtain rfl : c = '?' := by simpa using after
      exact .inr ⟨rest, rfl⟩
  · rintro ⟨tail, split, after⟩
    rw [split, List.drop_left]
    refine ⟨List.prefix_append _ _, ?_⟩
    rcases after with rfl | ⟨rest, rfl⟩
    · rfl
    · rfl

theorem head?_dropMarks (text : List Char) : (dropMarks text).head? ≠ some '?' := by
  intro head
  have unmarked := List.head?_dropWhile_not (· == '?') text
  rw [dropMarks] at head
  simp [head] at unmarked

theorem keyTail_cases (q : Option String) :
    keyTail q = [] ∨ ∃ rest, keyTail q = '?' :: rest ∧ rest.head? ≠ some '?' := by
  unfold keyTail
  split
  · exact .inl rfl
  · exact .inr ⟨_, rfl, head?_dropMarks _⟩

theorem belongsTo_ofQuery (url : String) (q : Option String) :
    (ofQuery url q).belongsTo url = true := by
  refine belongsTo_iff.mpr ⟨keyTail q, ofQuery_toList url q, ?_⟩
  rcases keyTail_cases q with none | ⟨rest, some, -⟩
  · exact .inl none
  · exact .inr ⟨rest, some⟩

/-- The other address continues the address with a question mark, or the address continues the other
one in the way a query does. -/
def Overlaps (url other : String) : Prop :=
  (∃ rest, other.toList = url.toList ++ '?' :: rest) ∨
    ∃ rest, url.toList = other.toList ++ '?' :: rest ∧ rest.head? ≠ some '?'

theorem Overlaps.marked (overlap : Overlaps url other) :
    '?' ∈ url.toList ∨ '?' ∈ other.toList := by
  rcases overlap with ⟨rest, longer⟩ | ⟨rest, longer, -⟩
  · exact .inr (by simp [longer])
  · exact .inl (by simp [longer])

theorem asked_marked (rest : List Char) :
    asked (some (String.ofList ('?' :: rest ++ ['?']))) = '?' :: rest ++ ['?'] := by
  have visible : Text.isBlank '?' = false := by decide
  simp [asked, Text.trim, Text.trimStart, Text.trimEnd, visible]

theorem exists_keyTail {rest : List Char} (head : rest.head? ≠ some '?') :
    ∃ q tail, keyTail q = '?' :: rest ++ tail ∧ Continues tail := by
  refine ⟨some (String.ofList ('?' :: rest ++ ['?'])), ?_⟩
  rw [keyTail, asked_marked, if_neg (by simp)]
  cases rest with
  | nil => exact ⟨[], by simp [dropMarks], .inl rfl⟩
  | cons c rest =>
    have other : c ≠ '?' := by simpa using head
    exact ⟨['?'], by simp [dropMarks, other], .inr ⟨[], rfl⟩⟩

/-- The stream of some query to the other address belongs to the address exactly when the two are
the same or overlap. -/
theorem exists_belongsTo_iff :
    (∃ q, (ofQuery other q).belongsTo url = true) ↔ other = url ∨ Overlaps url other := by
  constructor
  · rintro ⟨q, belongs⟩
    obtain ⟨tail, split, continues⟩ := belongsTo_iff.mp belongs
    rw [ofQuery_toList] at split
    -- the key begins with both addresses, and what lies between their ends decides
    rcases List.append_eq_append_iff.mp split with ⟨more, longer, rest⟩ | ⟨more, longer, rest⟩
    · cases more with
      | nil => exact .inl (String.toList_inj.mp (by simpa using longer.symm))
      | cons c more =>
        rcases keyTail_cases q with none | ⟨text, some, head⟩
        · simp [none] at rest
        · rw [some, List.cons_append, List.cons.injEq] at rest
          obtain ⟨rfl, rfl⟩ := rest
          refine .inr (.inr ⟨more, longer, ?_⟩)
          cases more with
          | nil => simp
          | cons d more => simpa using head
    · cases more with
      | nil => exact .inl (String.toList_inj.mp (by simpa using longer))
      | cons c more =>
        rcases continues with rfl | ⟨text, rfl⟩
        · cases rest
        · rw [List.cons_append, List.cons.injEq] at rest
          obtain ⟨rfl, -⟩ := rest
          exact .inr (.inl ⟨more, longer⟩)
  · rintro (rfl | ⟨rest, longer⟩ | ⟨rest, longer, head⟩)
    · exact ⟨none, belongsTo_ofQuery other none⟩
    · exact ⟨none, belongsTo_iff.mpr ⟨'?' :: rest, longer, .inr ⟨rest, rfl⟩⟩⟩
    · obtain ⟨q, tail, key, continues⟩ := exists_keyTail head
      refine ⟨q, belongsTo_iff.mpr ⟨tail, ?_, continues⟩⟩
      rw [ofQuery_toList, key, longer]
      simp

end Fanout.StreamKey
