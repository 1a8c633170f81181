import Fanout.Config.Basic
import Mathlib.Data.List.Nodup

namespace Fanout

structure Channel.Usable (sources : List String) (c : Channel) : Prop where
  url : Text.isBlankText c.url = false
  command : ∀ command, c.command = some command → Config.hasProgram command = true
  source : ∀ source, c.source = some source → source ∈ sources

def Entered {α : Type} (name : α → String) (P : α → Prop) (taken : List String) (xs : List α) : Prop :=
  (xs.map name).Nodup ∧ ∀ x ∈ xs, name x ∉ taken ∧ P x

theorem entered_cons_iff {α : Type} {name : α → String} {P : α → Prop} {taken : List String} {x : α}
    {xs : List α} :
    Entered name P taken (x :: xs) ↔
      name x ∉ taken ∧ P x ∧ Entered name P (name x :: taken) xs := by
  simp only [Entered, List.map_cons, List.nodup_cons, List.mem_map, List.mem_cons, not_or]
  constructor
  · rintro ⟨⟨apart, distinct⟩, each⟩
    obtain ⟨fresh, holds⟩ := each x (.inl rfl)
    refine ⟨fresh, holds, distinct, fun y member => ?_⟩
    obtain ⟨free, good⟩ := each y (.inr member)
    exact ⟨⟨fun same => apart ⟨y, member, same⟩, free⟩, good⟩
  · rintro ⟨fresh, holds, distinct, each⟩
    refine ⟨⟨?_, distinct⟩, ?_⟩
    · rintro ⟨y, member, same⟩
      exact (each y member).1.1 same
    · rintro y (rfl | member)
      · exact ⟨fresh, holds⟩
      · exact ⟨(each y member).1.2, (each y member).2⟩

namespace Config

variable {c : Channel} {taken : List String}

theorem checkSources_eq_ok_iff {sources : List Source} :
    checkSources taken sources = .ok () ↔
      Entered Source.name (·.maxStreams ≠ 0) taken sources := by
  induction sources generalizing taken with
  | nil => simp [checkSources, Entered]
  | cons s rest ih =>
    rw [entered_cons_iff, ← ih, checkSources]
    by_cases fresh : s.name ∈ taken <;> by_cases none : s.maxStreams = 0 <;> simp [fresh, none]

theorem checkChannel_eq_ok_iff {sources : List String} :
    checkChannel sources c = .ok () ↔ c.Usable sources := by
  have commands : c.command.any (!hasProgram ·) = true ↔
      ¬ ∀ command, c.command = some command → hasProgram command = true := by
    simp [Option.any_eq_true]
  simp only [checkChannel, throw, throwThe, MonadExceptOf.throw, bind, Except.bind, pure, Except.pure]
  constructor
  · intro valid
    split at valid
    · cases valid
    · rename_i url
      split at valid
      · cases valid
      · rename_i program
        refine ⟨by simpa using url, not_not.mp (mt commands.mpr program), fun source given => ?_⟩
        by_contra absent
        simp [given, absent] at valid
  · rintro ⟨url, program, listed⟩
    rw [if_neg (by simp [url]), if_neg (mt commands.mp (not_not.mpr program))]
    cases given : c.source with
    | none => rfl
    | some source => simp [listed source given]

theorem checkChannels_eq_ok_iff {sources : List String} {channels : List Channel} :
    checkChannels sources taken channels = .ok () ↔
      Entered Channel.name (·.Usable sources) taken channels := by
  induction channels generalizing taken with
  | nil => simp [checkChannels, Entered]
  | cons c rest ih =>
    rw [entered_cons_iff, ← ih, ← checkChannel_eq_ok_iff, checkChannels]
    by_cases fresh : c.name ∈ taken
    · simp [fresh]
    · cases checked : checkChannel sources c <;> simp [fresh, bind, Except.bind]

theorem checks_of_valid {config : Config} (valid : config.validate = .ok ()) :
    checkSources [] config.sources = .ok () ∧
      checkChannels (config.sources.map (·.name)) [] config.channels = .ok () := by
  unfold validate at valid
  simp only [bind, Except.bind] at valid
  repeat' split at valid
  all_goals first | exact ⟨‹_›, valid⟩ | cases valid

theorem sources_of_valid {config : Config} (valid : config.validate = .ok ()) :
    Entered Source.name (·.maxStreams ≠ 0) [] config.sources :=
  checkSources_eq_ok_iff.mp (checks_of_valid valid).1

theorem channels_of_valid {config : Config} (valid : config.validate = .ok ()) :
    Entered Channel.name (·.Usable (config.sources.map (·.name))) [] config.channels :=
  checkChannels_eq_ok_iff.mp (checks_of_valid valid).2

end Config

end Fanout
