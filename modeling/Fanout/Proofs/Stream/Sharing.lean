import Fanout.Web.Gateway
import Mathlib.Data.List.TakeWhile

namespace Fanout

namespace StreamKey

def asked (query : Option String) : List Char := Text.trim (query.getD "").toList

def Blank (query : Option String) : Prop := ∀ text ∈ query, Text.isBlankText text = true

def OnlyMarks (query : Option String) : Prop :=
  ∃ text n, query = some text ∧ Text.trim text.toList = List.replicate (n + 1) '?'

variable {query q r : Option String}

theorem asked_eq_nil_iff : asked query = [] ↔ Blank query := by
  cases query with
  | none => simp [asked, Blank, Text.trim, Text.trimStart, Text.trimEnd]
  | some text => simp [asked, Blank, Text.isBlankText, Text.trim_eq_nil_iff]

theorem onlyMarks_iff : OnlyMarks query ↔ ∃ n, asked query = List.replicate (n + 1) '?' := by
  cases query with
  | none => simp [OnlyMarks, asked, Text.trim, Text.trimStart, Text.trimEnd, List.replicate_succ]
  | some text => simp [OnlyMarks, asked]

theorem not_onlyMarks_of_mem {c : Char} (mem : c ∈ asked query) (other : c ≠ '?') :
    ¬ OnlyMarks query := by
  intro marks
  obtain ⟨n, asked_eq⟩ := onlyMarks_iff.mp marks
  exact other (List.eq_of_mem_replicate (asked_eq ▸ mem))

theorem OnlyMarks.not_blank (marks : OnlyMarks query) : ¬ Blank query := by
  obtain ⟨n, asked_eq⟩ := onlyMarks_iff.mp marks
  rw [← asked_eq_nil_iff, asked_eq, List.replicate_succ]
  exact List.cons_ne_nil _ _

@[simp] theorem dropMarks_nil : dropMarks [] = [] := rfl

theorem dropMarks_eq_nil_iff {text : List Char} :
    dropMarks text = [] ↔ text = [] ∨ ∃ n, text = List.replicate (n + 1) '?' := by
  have all : dropMarks text = [] ↔ ∀ c ∈ text, c = '?' := by
    simp [dropMarks, List.dropWhile_eq_nil_iff]
  rw [all]
  constructor
  · intro marks
    have text_eq : text = List.replicate text.length '?' := List.eq_replicate_iff.mpr ⟨rfl, marks⟩
    cases size : text.length with
    | zero => exact .inl (List.length_eq_zero_iff.mp size)
    | succ n => exact .inr ⟨n, size ▸ text_eq⟩
  · rintro (rfl | ⟨n, rfl⟩) c mem
    · cases mem
    · exact List.eq_of_mem_replicate mem

theorem nothing_asked_iff : dropMarks (asked query) = [] ↔ Blank query ∨ OnlyMarks query := by
  rw [dropMarks_eq_nil_iff, asked_eq_nil_iff, onlyMarks_iff]

def keyTail (query : Option String) : List Char :=
  if asked query = [] then [] else '?' :: dropMarks (asked query)

theorem ofQuery_toList (address : String) (query : Option String) :
    (ofQuery address query).text.toList = address.toList ++ keyTail query := by
  cases query with
  | none => simp [ofQuery, keyTail, asked, Text.trim, Text.trimStart, Text.trimEnd]
  | some text =>
    cases left : Text.trim text.toList with
    | nil => simp [ofQuery, keyTail, asked, left]
    | cons c rest => simp [ofQuery, keyTail, asked, left]

def addressTail (base : String) (query : Option String) : List Char :=
  if dropMarks (asked query) = [] then []
  else (if '?' ∈ base.toList then '&' else '?') :: dropMarks (asked query)

theorem feedAddress_toList (base : String) (query : Option String) :
    (feedAddress base query).toList = base.toList ++ addressTail base query := by
  cases query with
  | none => simp [feedAddress, addressTail, asked, Text.trim, Text.trimStart, Text.trimEnd]
  | some text =>
    cases left : dropMarks (Text.trim text.toList) with
    | nil => simp [feedAddress, addressTail, asked, left]
    | cons c rest =>
      by_cases marked : '?' ∈ base.toList <;>
        simp [feedAddress, addressTail, asked, left, marked]

theorem ofQuery_eq_iff {a b : String} :
    ofQuery a q = ofQuery b r ↔ a.toList ++ keyTail q = b.toList ++ keyTail r := by
  rw [← ofQuery_toList, ← ofQuery_toList, String.toList_inj, StreamKey.mk.injEq]

theorem feedAddress_eq_iff {a b : String} :
    feedAddress a q = feedAddress b r ↔
      a.toList ++ addressTail a q = b.toList ++ addressTail b r := by
  rw [← feedAddress_toList, ← feedAddress_toList, String.toList_inj]

theorem keyTail_eq_iff :
    keyTail q = keyTail r ↔
      dropMarks (asked q) = dropMarks (asked r) ∧ (asked q = [] ↔ asked r = []) := by
  by_cases hq : asked q = [] <;> by_cases hr : asked r = [] <;> simp [keyTail, hq, hr]

theorem addressTail_eq_iff {base : String} :
    addressTail base q = addressTail base r ↔ dropMarks (asked q) = dropMarks (asked r) := by
  by_cases hq : dropMarks (asked q) = [] <;> by_cases hr : dropMarks (asked r) = []
  · simp [addressTail, hq, hr]
  · simp [addressTail, hq, hr, Ne.symm hr]
  · simp [addressTail, hq, hr]
  · simp [addressTail, hq, hr]

/-- The key is the address that is fetched: nothing is asked, or an address without a question
mark is asked for something. -/
def Verbatim (url : String) (query : Option String) : Prop :=
  Blank query ∨ '?' ∉ url.toList ∧ ¬ OnlyMarks query

theorem verbatim_iff {url : String} : Verbatim url q ↔ keyTail q = addressTail url q := by
  by_cases blank : asked q = []
  · simp [Verbatim, ← asked_eq_nil_iff, keyTail, addressTail, blank]
  · by_cases nothing : dropMarks (asked q) = []
    · have marks : OnlyMarks q :=
        (nothing_asked_iff.mp nothing).resolve_left (mt asked_eq_nil_iff.mpr blank)
      simp [Verbatim, ← asked_eq_nil_iff, keyTail, addressTail, blank, nothing, marks]
    · have marks : ¬ OnlyMarks q := fun marks => nothing (nothing_asked_iff.mpr (.inr marks))
      by_cases marked : '?' ∈ url.toList <;>
        simp [Verbatim, ← asked_eq_nil_iff, keyTail, addressTail, blank, nothing, marks, marked]

theorem tails_eq_of_longer {a b : String} {more : List Char} (other : a ≠ b)
    (base : b.toList = a.toList ++ more) (key : keyTail q = more ++ keyTail r)
    (same : feedAddress a q = feedAddress b r) :
    keyTail q = addressTail a q ∧ keyTail r = addressTail b r := by
  have longer : more ≠ [] := by
    rintro rfl
    exact other (String.toList_inj.mp (by simpa using base.symm))
  obtain ⟨c, rest, rfl⟩ := List.exists_cons_of_ne_nil longer
  have address : addressTail a q = c :: rest ++ addressTail b r := by
    rw [feedAddress_eq_iff, base, List.append_assoc, List.append_cancel_left_eq] at same
    exact same
  have short : keyTail q = addressTail a q := by
    by_cases blank : asked q = []
    · simp [keyTail, blank] at key
    · by_cases nothing : dropMarks (asked q) = []
      · simp [addressTail, nothing] at address
      · have head : '?' = c := by
          rw [keyTail, if_neg blank] at key
          exact (List.cons.inj key).1
        have unmarked : '?' ∉ a.toList := by
          intro marked
          simp [addressTail, nothing, marked, ← head] at address
        simp [keyTail, addressTail, blank, nothing, unmarked]
  have joined : c :: rest ++ keyTail r = c :: rest ++ addressTail b r := by
    rw [← key, short, address]
  exact ⟨short, List.append_cancel_left joined⟩

theorem takeWhile_key {a : String} (unmarked : '?' ∉ a.toList) (q : Option String) :
    (a.toList ++ keyTail q).takeWhile (· != '?') = a.toList := by
  have all : ∀ c ∈ a.toList, (c != '?') = true := by
    intro c mem
    have other : c ≠ '?' := fun eq => unmarked (eq ▸ mem)
    simpa using other
  have stop : (keyTail q).takeWhile (· != '?') = [] := by
    by_cases blank : asked q = [] <;> simp [keyTail, blank]
  rw [List.takeWhile_append_of_pos all, stop, List.append_nil]

end StreamKey

namespace Channel

open StreamKey

/-- Within a channel two queries have one key exactly when they have one address and both or neither
of them consist of question marks. A query adds nothing to the address if it is blank or consists
of question marks, but it is only in the first case that it has the key of no query at all. -/
theorem streamKey_eq_iff (c : Channel) (q r : Option String) :
    (c.streamKey q = c.streamKey r ↔
      feedAddress c.url q = feedAddress c.url r ∧ (OnlyMarks q ↔ OnlyMarks r)) ∧
    (feedAddress c.url q = c.url ↔ Blank q ∨ OnlyMarks q) ∧
    (c.streamKey q = c.streamKey none ↔ Blank q) := by
  have blank_none : asked none = [] := asked_eq_nil_iff.mpr (by simp [Blank])
  refine ⟨?_, ?_, ?_⟩
  · rw [streamKey, streamKey, ofQuery_eq_iff, feedAddress_eq_iff, List.append_cancel_left_eq,
      List.append_cancel_left_eq, keyTail_eq_iff, addressTail_eq_iff]
    refine and_congr_right fun same => ?_
    have split : Blank q ∨ OnlyMarks q ↔ Blank r ∨ OnlyMarks r := by
      rw [← nothing_asked_iff, ← nothing_asked_iff, same]
    have apart_q : OnlyMarks q → ¬ Blank q := OnlyMarks.not_blank
    have apart_r : OnlyMarks r → ¬ Blank r := OnlyMarks.not_blank
    rw [asked_eq_nil_iff, asked_eq_nil_iff]
    grind
  · rw [← nothing_asked_iff, ← String.toList_inj, feedAddress_toList, List.append_right_eq_self]
    by_cases left : dropMarks (asked q) = [] <;> simp [addressTail, left]
  · rw [streamKey, streamKey, ofQuery_eq_iff, List.append_cancel_left_eq, keyTail_eq_iff,
      blank_none, ← asked_eq_nil_iff]
    exact ⟨fun same => same.2.mpr rfl, fun blank => ⟨by rw [blank], by simp [blank]⟩⟩

/-- A question mark alone, which asks for nothing, starts a second feed from the same address. -/
theorem streamKey_mark_ne :
    let c : Channel := { name := "a", url := "http://up/a" }
    feedAddress c.url (some "?") = feedAddress c.url none ∧
      c.streamKey (some "?") ≠ c.streamKey none := by
  decide

/-- Requests with one key, of any two channels, name one address exactly when the channels have one
address themselves or both keys are the addresses named. In particular they do if neither channel's
own address has a question mark. -/
theorem feedAddress_eq_of_streamKey_eq {c d : Channel} {q r : Option String}
    (same : c.streamKey q = d.streamKey r) :
    (feedAddress c.url q = feedAddress d.url r ↔
      c.url = d.url ∨ Verbatim c.url q ∧ Verbatim d.url r) ∧
    ('?' ∉ c.url.toList → '?' ∉ d.url.toList → feedAddress c.url q = feedAddress d.url r) := by
  have key := ofQuery_eq_iff.mp same
  have one_base : c.url = d.url → feedAddress c.url q = feedAddress d.url r := by
    intro base
    rw [base, List.append_cancel_left_eq, keyTail_eq_iff] at key
    rw [base, feedAddress_eq_iff, List.append_cancel_left_eq, addressTail_eq_iff]
    exact key.1
  refine ⟨⟨fun address => ?_, ?_⟩, fun hc hd => one_base ?_⟩
  · rw [verbatim_iff, verbatim_iff]
    by_cases base : c.url = d.url
    · exact .inl base
    · refine .inr ?_
      rcases List.append_eq_append_iff.mp key with ⟨more, longer, tail⟩ | ⟨more, longer, tail⟩
      · exact tails_eq_of_longer base longer tail address
      · exact (tails_eq_of_longer (Ne.symm base) longer tail address.symm).symm
  · rintro (base | ⟨hc, hd⟩)
    · exact one_base base
    · rw [feedAddress_eq_iff, ← verbatim_iff.mp hc, ← verbatim_iff.mp hd]
      exact key
  · rw [← String.toList_inj, ← takeWhile_key hc q, key, takeWhile_key hd r]

theorem feedAddress_eq_across_channels :
    let c : Channel := { name := "a", url := "http://up/a" }
    let d : Channel := { name := "b", url := "http://up/a?x=1" }
    feedAddress c.url (some " ?x=1") = feedAddress d.url none := by
  intro c d
  have same : c.streamKey (some " ?x=1") = d.streamKey none := by decide
  refine (feedAddress_eq_of_streamKey_eq same).1.mpr (.inr ⟨.inr ⟨by decide, ?_⟩, .inl ?_⟩)
  · exact not_onlyMarks_of_mem (by decide : 'x' ∈ asked (some " ?x=1")) (by decide)
  · simp [Blank]

/-- A valid configuration in which a viewer of the second channel, by the query he chooses, joins
the stream of another address than the one he names. -/
theorem streamKey_crossed :
    let c : Channel := { name := "a", url := "http://up/a?x=1" }
    let d : Channel := { name := "b", url := "http://up/a" }
    ({ channels := [c, d] } : Config).validate = .ok () ∧
      c.streamKey (some "y=2") = d.streamKey (some "x=1?y=2") ∧
      feedAddress c.url (some "y=2") ≠ feedAddress d.url (some "x=1?y=2") := by
  decide

end Channel

end Fanout
