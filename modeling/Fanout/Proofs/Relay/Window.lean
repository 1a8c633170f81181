import Fanout.Relay.Replay
import Mathlib.Data.List.Basic

namespace Fanout.Replay

/-- Read from the head, the ring shows `window`. Until it is full it begins in front. -/
structure Shows (r : Replay) (window : Bytes) : Prop where
  turned : ∃ newer older, r.store = newer ++ older ∧ r.head = newer.length ∧
    window = older ++ newer ∧ (newer = [] ∨ r.store.length = r.capacity ∧ older ≠ [])
  bound : r.store.length ≤ r.capacity

variable {r : Replay} {window data : Bytes}

theorem isFull_iff : r.isFull = true ↔ 0 < r.capacity ∧ r.store.length = r.capacity := by
  simp [isFull]

theorem slice?_append (before part after : Bytes) :
    slice? (before ++ part ++ after) before.length (before.length + part.length) = some part := by
  have inside : before.length ≤ before.length + part.length ∧
      before.length + part.length ≤ (before ++ part ++ after).length := by
    simp only [List.length_append]
    omega
  rw [slice?, if_pos inside, List.append_assoc, List.drop_left, Nat.add_sub_cancel_left,
    List.take_left]

theorem overwrite?_append (before old after part : Bytes) (fits : part.length = old.length) :
    overwrite? (before ++ old ++ after) before.length (before.length + old.length) part =
      some (before ++ part ++ after) := by
  have inside : before.length ≤ before.length + old.length ∧
      before.length + old.length ≤ (before ++ old ++ after).length ∧
      part.length = before.length + old.length - before.length := by
    simp only [List.length_append]
    omega
  have tail : (before ++ old ++ after).drop (before.length + old.length) = after :=
    List.drop_left' List.length_append
  have head : (before ++ old ++ after).take before.length = before := by
    rw [List.append_assoc, List.take_left]
  rw [overwrite?, if_pos inside, tail, head]

namespace Shows

theorem length (shows : r.Shows window) : window.length = r.store.length := by
  obtain ⟨newer, older, store, -, rfl, -⟩ := shows.turned
  rw [store, List.length_append, List.length_append, Nat.add_comm]

theorem new (capacity : Nat) : Shows { capacity } [] where
  turned := ⟨[], [], rfl, rfl, rfl, .inl rfl⟩
  bound := Nat.zero_le capacity

theorem snapshot? (shows : r.Shows window) : r.snapshot? = some window := by
  obtain ⟨newer, older, store, head, rfl, form⟩ := shows.turned
  unfold Replay.snapshot?
  split
  · rename_i front
    rcases form with rfl | ⟨full, rest⟩
    · rw [store, List.nil_append, List.append_nil]
    · have some : 0 < r.capacity := by
        have := List.length_pos_iff.mpr rest
        rw [← full, store, List.length_append]
        omega
      have filled := isFull_iff.mpr ⟨some, full⟩
      have nothing : newer = [] := by
        rw [filled] at front
        exact List.length_eq_zero_iff.mp (head.symm.trans (front.resolve_left nofun))
      rw [store, nothing, List.nil_append, List.append_nil]
  · have old := slice?_append newer older []
    have new := slice?_append [] newer older
    rw [List.append_nil, ← List.length_append, ← store, ← head] at old
    rw [List.nil_append, List.length_nil, Nat.zero_add, ← store, ← head] at new
    simp only [old, new, Option.bind_eq_bind, Option.bind_some, Option.pure_def]

end Shows

theorem tail?_eq (r : Replay) (data : Bytes) :
    r.tail? data = some (Bytes.suffix r.capacity data) := by
  unfold tail?
  split
  · rename_i large
    have cut := slice?_append (data.take (data.length - r.capacity))
      (data.drop (data.length - r.capacity)) []
    rw [List.append_nil, List.take_append_drop, ← List.length_append, List.take_append_drop,
      List.length_take_of_le (Nat.sub_le _ _)] at cut
    simp only [minus?, Nat.le_of_lt large, if_true, Option.bind_eq_bind, Option.bind_some]
    exact cut
  · rw [Bytes.suffix_of_length_le (by omega)]

theorem overwriteOldest?_within {newer old rest : Bytes} (store : r.store = newer ++ old ++ rest)
    (head : r.head = newer.length) (full : r.store.length = r.capacity)
    (fits : data.length = old.length) :
    r.overwriteOldest? data =
      some { r with
        store := newer ++ data ++ rest
        head := (r.head + data.length) % r.capacity } := by
  have lengths : newer.length + old.length + rest.length = r.capacity := by
    rw [← full, store, List.length_append, List.length_append]
  have untilEnd : minus? r.capacity r.head = some (r.capacity - newer.length) := by
    rw [minus?, head, if_pos (by omega)]
  have whole : min data.length (r.capacity - newer.length) = data.length := by omega
  have first := slice?_append [] data []
  have front := overwrite?_append newer old rest data fits
  have left : minus? data.length data.length = some 0 := by simp [minus?]
  have second := slice?_append data [] []
  simp only [List.append_nil, List.nil_append, List.length_nil, Nat.zero_add, Nat.add_zero]
    at first second
  rw [← fits, ← head, ← store] at front
  simp only [overwriteOldest?, untilEnd, Option.bind_eq_bind, Option.bind_some, whole, first, front,
    left, second, Nat.lt_irrefl, if_false, Option.pure_def]

theorem overwriteOldest?_around {gone kept older first second : Bytes}
    (store : r.store = gone ++ kept ++ older) (head : r.head = (gone ++ kept).length)
    (full : r.store.length = r.capacity) (firstFits : first.length = older.length)
    (secondFits : second.length = gone.length) (more : 0 < second.length) :
    r.overwriteOldest? (first ++ second) =
      some { r with
        store := second ++ kept ++ first
        head := (r.head + (first ++ second).length) % r.capacity } := by
  have lengths : (gone ++ kept).length + older.length = r.capacity := by
    rw [← List.length_append, ← store, full]
  have untilEnd : minus? r.capacity r.head = some first.length := by
    rw [minus?, head, if_pos (by omega)]
    exact congrArg some (by omega)
  have whole : min (first ++ second).length first.length = first.length := by
    rw [List.length_append]
    omega
  have taken := slice?_append [] first second
  have front := overwrite?_append (gone ++ kept) older [] first firstFits
  have left : minus? (first ++ second).length first.length = some second.length := by
    rw [minus?, List.length_append, if_pos (by omega), Nat.add_sub_cancel_left]
  have others := slice?_append first second []
  have around := overwrite?_append [] gone (kept ++ first) second secondFits
  simp only [List.append_nil, List.nil_append, List.length_nil, Nat.zero_add] at taken front others around
  rw [← firstFits, ← head, ← store] at front
  rw [← List.length_append] at others
  rw [← secondFits, ← List.append_assoc, ← List.append_assoc] at around
  simp only [overwriteOldest?, untilEnd, Option.bind_eq_bind, Option.bind_some, whole, taken, front,
    left, others, more, if_true, around, Option.pure_def]

theorem Shows.of_full {newer older : Bytes} (store : r.store = newer ++ older)
    (head : r.head = newer.length % r.capacity) (full : r.store.length = r.capacity) :
    r.Shows (older ++ newer) := by
  have lengths : newer.length + older.length = r.capacity := by
    rw [← List.length_append, ← store, full]
  refine ⟨?_, Nat.le_of_eq full⟩
  by_cases nothing : older = []
  · subst nothing
    rw [List.append_nil] at store
    rw [List.length_nil, Nat.add_zero] at lengths
    rw [lengths, Nat.mod_self] at head
    exact ⟨[], newer, store, head, by simp, .inl rfl⟩
  · have rest := List.length_pos_iff.mpr nothing
    rw [Nat.mod_eq_of_lt (by omega)] at head
    exact ⟨newer, older, store, head, rfl, .inr ⟨full, nothing⟩⟩

theorem Shows.overwriteOldest? (shows : r.Shows window) (full : r.store.length = r.capacity)
    (small : data.length ≤ r.capacity) :
    ∃ r', r.overwriteOldest? data = .some r' ∧ r'.capacity = r.capacity ∧
      r'.Shows (window.drop data.length ++ data) := by
  obtain ⟨newer, older, store, head, rfl, form⟩ := shows.turned
  have lengths : newer.length + older.length = r.capacity := by
    rw [← List.length_append, ← store, full]
  rcases Nat.lt_or_ge older.length data.length with around | within
  · obtain ⟨first, second, rfl, firstFits⟩ :
        ∃ first second, data = first ++ second ∧ first.length = older.length :=
      ⟨_, _, (List.take_append_drop older.length data).symm,
        List.length_take_of_le (Nat.le_of_lt around)⟩
    rw [List.length_append] at around small
    obtain ⟨gone, kept, rfl, secondFits⟩ :
        ∃ gone kept, newer = gone ++ kept ∧ second.length = gone.length :=
      ⟨_, _, (List.take_append_drop second.length newer).symm,
        (List.length_take_of_le (by omega)).symm⟩
    have cut : (older ++ (gone ++ kept)).drop (first ++ second).length = kept := by
      rw [← List.append_assoc]
      exact List.drop_left' (by simp only [List.length_append]; omega)
    have window : (older ++ (gone ++ kept)).drop (first ++ second).length ++ (first ++ second) =
        kept ++ first ++ second := by
      rw [cut, List.append_assoc]
    have size : (first ++ second).length = older.length + second.length := by
      rw [List.length_append, firstFits]
    have turn : (r.head + (first ++ second).length) % r.capacity = second.length % r.capacity := by
      rw [head, size, ← Nat.add_assoc, lengths, Nat.add_mod_left]
    refine ⟨_, overwriteOldest?_around store head full firstFits secondFits (by omega), rfl, ?_⟩
    rw [window]
    refine Shows.of_full (List.append_assoc _ _ _) turn ?_
    simp only [List.length_append] at lengths ⊢
    omega
  · obtain ⟨old, rest, rfl, fits⟩ : ∃ old rest, older = old ++ rest ∧ data.length = old.length :=
      ⟨_, _, (List.take_append_drop data.length older).symm,
        (List.length_take_of_le within).symm⟩
    rw [← List.append_assoc] at store
    have window : (old ++ rest ++ newer).drop data.length ++ data = rest ++ (newer ++ data) := by
      rw [List.append_assoc, List.drop_left' fits.symm, List.append_assoc]
    have turn : (r.head + data.length) % r.capacity = (newer ++ data).length % r.capacity := by
      rw [head, List.length_append]
    refine ⟨_, overwriteOldest?_within store head full fits, rfl, ?_⟩
    rw [window]
    refine Shows.of_full rfl turn ?_
    simp only [List.length_append] at lengths ⊢
    omega

namespace Shows

theorem fill? (shows : r.Shows window) (space : r.store.length < r.capacity)
    (small : data.length ≤ r.capacity) :
    ∃ r', r.fill? data = some r' ∧ r'.capacity = r.capacity ∧
      r'.Shows (Bytes.suffix r.capacity (window ++ data)) := by
  have front : r.head = 0 ∧ window = r.store := by
    obtain ⟨newer, older, store, head, rfl, rfl | ⟨full, -⟩⟩ := shows.turned
    · exact ⟨head, by rw [store, List.nil_append, List.append_nil]⟩
    · omega
  obtain ⟨head, rfl⟩ := front
  obtain ⟨first, rest, split, size⟩ : ∃ first rest, data = first ++ rest ∧
      first.length = min (r.capacity - r.store.length) data.length :=
    ⟨_, _, (List.take_append_drop (min (r.capacity - r.store.length) data.length) data).symm,
      List.length_take_of_le (Nat.min_le_right _ _)⟩
  have lengths : data.length = first.length + rest.length := by
    rw [split, List.length_append]
  have room : minus? r.capacity r.store.length = some (r.capacity - r.store.length) :=
    if_pos (Nat.le_of_lt space)
  have firstPart := slice?_append [] first rest
  have secondPart := slice?_append first rest []
  rw [List.nil_append, List.length_nil, Nat.zero_add, ← split] at firstPart
  rw [List.append_nil, ← lengths, ← split] at secondPart
  simp only [Replay.fill?, room, ← size, firstPart, secondPart, Option.bind_eq_bind,
    Option.bind_some, Option.pure_def]
  have bound : (r.store ++ first).length ≤ r.capacity := by
    rw [List.length_append]
    omega
  have filled : Shows { r with store := r.store ++ first, head := 0 } (r.store ++ first) :=
    ⟨⟨[], _, rfl, rfl, (List.append_nil _).symm, .inl rfl⟩, bound⟩
  split
  · rename_i done
    have nothing : rest = [] := List.isEmpty_iff.mp done
    rw [nothing, List.append_nil] at split
    have whole : (r.store ++ data).length ≤ r.capacity := by
      rw [List.length_append, split]
      omega
    refine ⟨_, rfl, rfl, ?_⟩
    rw [Bytes.suffix_of_length_le whole, split, head]
    exact filled
  · rename_i more
    have some : 0 < rest.length := by
      rw [List.isEmpty_iff] at more
      exact List.length_pos_iff.mpr more
    have full : (r.store ++ first).length = r.capacity := by
      rw [List.length_append]
      omega
    have restSmall : rest.length ≤ r.capacity := by omega
    have last := Bytes.suffix_append_of_length_eq full restSmall
    rw [split, ← List.append_assoc, last]
    exact filled.overwriteOldest? full restSmall

/-- A write leaves the last bytes of what was there and what is new. -/
theorem write? (shows : r.Shows window) (data : Bytes) :
    ∃ r', r.write? data = some r' ∧ r'.capacity = r.capacity ∧
      r'.Shows (Bytes.suffix r.capacity (window ++ data)) := by
  have bound := shows.bound
  have length := shows.length
  unfold Replay.write?
  split
  · rename_i idle
    refine ⟨r, rfl, rfl, ?_⟩
    rcases idle with none | rfl
    · have nothing : window = [] := List.length_eq_zero_iff.mp (by omega)
      have kept : Bytes.suffix r.capacity (window ++ data) = window := by
        rw [nothing, none]
        exact List.drop_length
      exact kept.symm ▸ shows
    · rw [List.append_nil, Bytes.suffix_of_length_le (by omega)]
      exact shows
  · rename_i busy
    have some : 0 < r.capacity := Nat.pos_of_ne_zero fun none => busy (.inl none)
    have small : (Bytes.suffix r.capacity data).length ≤ r.capacity := by
      rw [Bytes.length_suffix]
      exact Nat.min_le_right _ _
    rw [tail?_eq, Option.bind_eq_bind, Option.bind_some, ← Bytes.suffix_append_suffix]
    split
    · rename_i isFull
      have full := (isFull_iff.mp isFull).2
      rw [Bytes.suffix_append_of_length_eq (length.trans full) small]
      exact shows.overwriteOldest? full small
    · rename_i notFull
      have differs : r.store.length ≠ r.capacity := fun full => notFull (isFull_iff.mpr ⟨some, full⟩)
      exact shows.fill? (by omega) small

theorem snapshot (shows : r.Shows window) : r.snapshot = window := by
  rw [Replay.snapshot, shows.snapshot?, Option.getD_some]

theorem write (shows : r.Shows window) (data : Bytes) :
    (r.write data).capacity = r.capacity ∧
      (r.write data).Shows (Bytes.suffix r.capacity (window ++ data)) := by
  obtain ⟨r', done, same, shows'⟩ := shows.write? data
  rw [Replay.write, done, Option.getD_some]
  exact ⟨same, shows'⟩

end Shows

/-- The ring shows the last bytes of everything that was written, `stream`. -/
def Retains (r : Replay) (stream : Bytes) : Prop := r.Shows (Bytes.suffix r.capacity stream)

namespace Retains

variable {stream : Bytes}

theorem new (capacity : Nat) : Retains { capacity } [] := by
  rw [Retains, Bytes.suffix_of_length_le (Nat.zero_le _)]
  exact Shows.new capacity

theorem write (retains : r.Retains stream) (data : Bytes) :
    (r.write data).Retains (stream ++ data) := by
  obtain ⟨same, shows⟩ := Shows.write retains data
  rw [Bytes.suffix_suffix_append] at shows
  rw [Retains, same]
  exact shows

theorem snapshot (retains : r.Retains stream) : r.snapshot = Bytes.suffix r.capacity stream :=
  Shows.snapshot retains

theorem size (retains : r.Retains stream) : r.size = min stream.length r.capacity := by
  rw [Replay.size, ← Shows.length retains, Bytes.length_suffix]

theorem writes (retains : r.Retains stream) (chunks : List Bytes) :
    chunks.foldlM Replay.write? r = some (chunks.foldl Replay.write r) ∧
      (chunks.foldl Replay.write r).capacity = r.capacity ∧
      (chunks.foldl Replay.write r).Retains (stream ++ chunks.flatten) := by
  induction chunks generalizing r stream with
  | nil => exact ⟨rfl, rfl, (List.append_nil stream).symm ▸ retains⟩
  | cons data rest ih =>
    obtain ⟨r', checked, same, -⟩ := Shows.write? retains data
    have wrote : r.write data = r' := by rw [Replay.write, checked, Option.getD_some]
    obtain ⟨done, kept, shown⟩ := ih (retains.write data)
    rw [List.append_assoc, ← List.flatten_cons] at shown
    rw [wrote] at done kept shown
    rw [List.foldl_cons, wrote, List.foldlM_cons, checked]
    exact ⟨done, kept.trans same, shown⟩

end Retains

/-- After any writes into an empty ring, each of which stays within it, the ring holds as many bytes
of all that was written as it has room for, and shows the last of them in order. So it makes no
difference how a stream is cut into writes. -/
theorem suffix_of_writes (capacity : Nat) (chunks : List Bytes) :
    let r := chunks.foldl write { capacity }
    chunks.foldlM write? { capacity } = some r ∧
      r.size = min chunks.flatten.length capacity ∧
      r.snapshot? = some (Bytes.suffix capacity chunks.flatten) ∧
      r.snapshot = Bytes.suffix capacity chunks.flatten ∧
      ∀ others : List Bytes, others.flatten = chunks.flatten →
        (others.foldl write { capacity }).size = r.size ∧
          (others.foldl write { capacity }).snapshot? = r.snapshot? := by
  intro r
  have held (chunks : List Bytes) :
      (chunks.foldl write { capacity }).size = min chunks.flatten.length capacity ∧
        (chunks.foldl write { capacity }).snapshot? =
          some (Bytes.suffix capacity chunks.flatten) := by
    obtain ⟨-, kept, shown⟩ := (Retains.new capacity).writes chunks
    rw [List.nil_append] at shown
    have size := shown.size
    have snapshot := Shows.snapshot? shown
    rw [kept] at size snapshot
    exact ⟨size, snapshot⟩
  obtain ⟨done, -, -⟩ := (Retains.new capacity).writes chunks
  obtain ⟨size, snapshot⟩ := held chunks
  refine ⟨done, size, snapshot, ?_, fun others same => ?_⟩
  · rw [Replay.snapshot, snapshot, Option.getD_some]
  · obtain ⟨size', snapshot'⟩ := held others
    rw [same] at size' snapshot'
    exact ⟨size'.trans size.symm, snapshot'.trans snapshot.symm⟩

end Fanout.Replay
