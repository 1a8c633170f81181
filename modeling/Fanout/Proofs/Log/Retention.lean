import Fanout.Log.Retention
import Mathlib.Algebra.Ring.Int.Defs
import Mathlib.Algebra.Ring.Nat
import Mathlib.Data.List.Infix

namespace Fanout.Retention

/-- A log file that was last written more than `days` days ago. -/
def Expired (now days : Int) (e : DirectoryEntry) : Prop :=
  e.isFile = true ∧ logName.toList <:+: e.name.toList ∧ days * 86400000 < now - e.modified

variable {now days : Int} {n : Nat} {e : DirectoryEntry} {entries left : List DirectoryEntry}

theorem isOld_iff : isOld (now - days * 86400000) e = true ↔ Expired now days e := by
  have moment : e.modified < now - days * 86400000 ↔ days * 86400000 < now - e.modified := by
    omega
  simp [isOld, isLog, Expired, Text.contains_iff, moment, and_assoc]

instance (now days : Int) : DecidablePred (Expired now days) :=
  fun _ => decidable_of_iff _ isOld_iff

theorem Expired.of_le {more : Int} (expired : Expired now more e) (le : days ≤ more) :
    Expired now days e := by
  obtain ⟨file, named, old⟩ := expired
  exact ⟨file, named, by omega⟩

theorem signed_eq (fits : n < 2 ^ 64) : signed n = if n < 2 ^ 63 then (n : Int) else n - 2 ^ 64 := by
  have size : Nat.pow 2 64 = 18446744073709551616 := rfl
  unfold signed
  rw [size]
  split
  · exact Int.bmod_eq_of_le (by omega) (by omega)
  · have turned : ((n : Int) - 2 ^ 64).bmod 18446744073709551616 =
        (n : Int).bmod 18446744073709551616 := Int.sub_bmod_right n 18446744073709551616
    rw [← turned]
    exact Int.bmod_eq_of_le (by omega) (by omega)

theorem clean?_eq_some_iff :
    clean? now n entries = some left ↔
      ((signed n).natAbs ≤ dayLimit ∧ inCalendar (now - signed n * 86400000) = true ∧
        areDated entries = true) ∧ left = entries.filter (¬ Expired now (signed n) ·) := by
  have kept : entries.filter (!isOld (now - signed n * 86400000) ·) =
      entries.filter (¬ Expired now (signed n) ·) := by
    refine List.filter_congr fun e _ => ?_
    rw [Bool.eq_iff_iff, decide_eq_true_eq, ← isOld_iff]
    simp
  unfold clean? cutoff?
  dsimp only
  split
  · rename_i inRange
    rw [Option.bind_some, kept]
    split
    · rename_i dated
      simp [inRange, dated, eq_comm]
    · rename_i undated
      simp [undated]
  · rename_i outOfRange
    rw [Option.bind_none]
    constructor
    · intro answer
      cases answer
    · rintro ⟨⟨short, inside, -⟩, -⟩
      exact absurd ⟨short, inside⟩ outOfRange

theorem clean?_eq_none_iff :
    clean? now n entries = none ↔
      ¬ ((signed n).natAbs ≤ dayLimit ∧ inCalendar (now - signed n * 86400000) = true ∧
        areDated entries = true) := by
  constructor
  · intro silent range
    have answer := clean?_eq_some_iff.mpr ⟨range, rfl⟩
    rw [silent] at answer
    cases answer
  · intro outOfRange
    cases answer : clean? now n entries with
    | none => rfl
    | some left => exact absurd (clean?_eq_some_iff.mp answer).1 outOfRange

/-- A number of days below half of the range is a period in the past, and any other one in the
future. If the period, the moment it leads to and the times of the log files are in range then the
log files that are older are removed and nothing else, and otherwise there is no answer. A longer
period in the past keeps all that a shorter one keeps. -/
theorem removes_expired (now : Int) (days : UInt64) (entries : List DirectoryEntry) :
    let n := days.toNat
    let period : Int := if n < 2 ^ 63 then n else n - 2 ^ 64
    (clean? now n entries = none ↔
      ¬ (period.natAbs ≤ dayLimit ∧ inCalendar (now - period * 86400000) = true ∧
        areDated entries = true)) ∧
    ∀ left, clean? now n entries = some left →
      left = entries.filter (¬ Expired now period ·) ∧
      entries.length - left.length = entries.countP (Expired now period ·) ∧
      ∀ m : Nat, m ≤ n → n < 2 ^ 63 → ∀ fewer, clean? now m entries = some fewer →
        fewer.Sublist left := by
  intro n period
  have signed_n : signed n = period := signed_eq days.toNat_lt
  constructor
  · rw [← signed_n]
    exact clean?_eq_none_iff
  · intro left answer
    obtain ⟨-, rfl⟩ := clean?_eq_some_iff.mp answer
    rw [signed_n]
    refine ⟨rfl, ?_, ?_⟩
    · have parts := List.length_eq_countP_add_countP (Expired now period ·) (l := entries)
      rw [← List.countP_eq_length_filter, parts]
      simp
    · intro m le past fewer answer
      obtain ⟨-, rfl⟩ := clean?_eq_some_iff.mp answer
      have signed_m : signed m = m := by
        rw [signed_eq (by omega), if_pos (by omega)]
      have shorter : (m : Int) ≤ period := by
        rw [show period = n from if_pos past]
        exact_mod_cast le
      rw [signed_m]
      refine List.monotone_filter_right entries fun e kept => ?_
      rw [decide_eq_true_eq] at kept ⊢
      exact fun expired => kept (expired.of_le shorter)

theorem removes_month_old :
    let now : Int := 1767225600000
    let yesterday : DirectoryEntry :=
      { name := "tvrelay-proxy.log.2025-12-31", modified := now - 86400000 }
    let month : DirectoryEntry :=
      { name := "tvrelay-proxy.log.2025-12-01", modified := now - 2678400000 }
    let folder : DirectoryEntry := { month with isFile := false }
    clean? now 7 [yesterday, month, folder] = some [yesterday, folder] ∧
      [yesterday, month, folder].countP (Expired now 7 ·) = 1 ∧
      ∀ fewer, clean? now 3 [yesterday, month, folder] = some fewer →
        fewer.Sublist [yesterday, folder] := by
  intro now yesterday month folder
  have answer : clean? now 7 [yesterday, month, folder] = some [yesterday, folder] := by decide
  obtain ⟨-, removed, longer⟩ :=
    (removes_expired now 7 [yesterday, month, folder]).2 [yesterday, folder] answer
  exact ⟨answer, removed.symm, longer 3 (by decide) (by decide)⟩

/-- The longest period that can be asked for lies in the future by a day, and takes a log file that
was written an hour ago. A period of a hundred million days leads to no moment of the calendar. -/
theorem removes_fresh :
    let now := 1767225600000
    let fresh : DirectoryEntry := { name := "tvrelay-proxy.log.2025-12-31", modified := now - 3600000 }
    clean? now (2 ^ 64 - 1) [fresh] = some [] ∧ ¬ Expired now (2 ^ 64 - 1) fresh ∧
      clean? now 100000000 [fresh] = none := by
  decide

end Fanout.Retention
