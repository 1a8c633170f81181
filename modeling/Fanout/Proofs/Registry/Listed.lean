import Fanout.Proofs.Lookup
import Fanout.Proofs.Relay.Roster
import Mathlib.Logic.Function.Basic

namespace Fanout.Registry

variable {g g' : Registry} {key : StreamKey} {i j : Nat}

def roster? (g : Registry) (i : Nat) : Option Roster := g.relays[i]?.map Relay.roster

structure Listed (g : Registry) : Prop where
  nodup : (g.table.map (·.1)).Nodup
  named : ∀ e ∈ g.table, ∃ s, g.roster? e.2 = some s ∧ s.key = e.1
  registered : ∀ i s, g.roster? i = some s → s.closed = false → (s.key, i) ∈ g.table

theorem Listed.initial (config : RelayConfig) : ({ config := config } : Registry).Listed :=
  ⟨by simp, by simp, by simp [roster?]⟩

theorem find?_eq_some_iff (distinct : (g.table.map (·.1)).Nodup) :
    g.find? key = some i ↔ (key, i) ∈ g.table := by
  unfold find?
  rw [Option.map_eq_some_iff]
  constructor
  · rintro ⟨e, found, rfl⟩
    obtain ⟨member, rfl⟩ := (find?_key_eq_some_iff distinct).mp found
    exact member
  · intro member
    exact ⟨_, (find?_key_eq_some_iff distinct).mpr ⟨member, rfl⟩, rfl⟩

theorem Listed.find?_eq_some_iff (h : g.Listed) : g.find? key = some i ↔ (key, i) ∈ g.table :=
  Registry.find?_eq_some_iff h.nodup

theorem Listed.find?_of_sublist (h : g.Listed) (sub : g'.table.Sublist g.table)
    (found : g'.find? key = some i) : g.find? key = some i := by
  have distinct := h.nodup.sublist (sub.map _)
  exact h.find?_eq_some_iff.mpr (sub.subset ((Registry.find?_eq_some_iff distinct).mp found))

theorem Listed.change (h : g.Listed) (sub : g'.table.Sublist g.table)
    (back : ∀ i s', g'.roster? i = some s' → ∃ s, g.roster? i = some s ∧ s'.key = s.key ∧
      (s'.closed = false → s.closed = false))
    (forth : ∀ i s, g.roster? i = some s → ∃ s', g'.roster? i = some s' ∧ s'.key = s.key)
    (dropped : ∀ e ∈ g.table, e ∉ g'.table → ∀ s, g'.roster? e.2 = some s → s.closed = true) :
    g'.Listed where
  nodup := h.nodup.sublist (sub.map _)
  named e member := by
    obtain ⟨s, old, key⟩ := h.named e (sub.subset member)
    obtain ⟨s', new, same⟩ := forth e.2 s old
    exact ⟨s', new, same.trans key⟩
  registered i s' new opened := by
    obtain ⟨s, old, key, before⟩ := back i s' new
    by_contra missing
    have closed := dropped (s.key, i) (h.registered i s old (before opened))
      (by rw [← key]; exact missing) s' new
    rw [opened] at closed
    cases closed

theorem roster?_updateRelay {r : Relay} (h : g.relays[i]? = some r) (f : Relay → Relay) :
    (g.updateRelay i f).roster? = Function.update g.roster? i (some (f r).roster) := by
  funext j
  by_cases same : j = i
  · subst same
    simp [roster?, updateRelay, h]
  · simp [roster?, updateRelay, Function.update_of_ne same, Ne.symm same]

theorem roster?_of_relay {r : Relay} (h : g.relays[i]? = some r) :
    g.roster? i = some r.roster := by
  simp [roster?, h]

theorem relay_of_roster? {s : Roster} (h : g.roster? i = some s) :
    ∃ r, g.relays[i]? = some r ∧ r.roster = s := by
  simpa [roster?] using h

theorem updateRelay_of_none (h : g.relays[i]? = none) (f : Relay → Relay) :
    g.updateRelay i f = g := by
  rw [List.getElem?_eq_none_iff] at h
  simp [updateRelay, List.modify_eq_self h]

theorem roster?_updateRelay_same {f : Relay → Relay} (same : ∀ r, (f r).roster = r.roster) :
    (g.updateRelay i f).roster? = g.roster? := by
  cases h : g.relays[i]? with
  | none => rw [updateRelay_of_none h]
  | some r =>
    rw [roster?_updateRelay h, same, ← roster?_of_relay h]
    exact Function.update_eq_self i _

@[simp] theorem roster?_updateSink (place : Nat × Nat) {f : Sink → Sink}
    (keeps : ∀ s, (f s).id = s.id) : (g.updateSink place f).roster? = g.roster? :=
  roster?_updateRelay_same fun _ => Relay.roster_updateSink place.2 keeps

@[simp] theorem updateSink_table (place : Nat × Nat) (f : Sink → Sink) :
    (g.updateSink place f).table = g.table := rfl

theorem abandonClose_same (sinks : List (Nat × Nat)) :
    (g.abandonClose sinks).roster? = g.roster? ∧ (g.abandonClose sinks).table = g.table := by
  unfold abandonClose
  induction sinks generalizing g with
  | nil => exact ⟨rfl, rfl⟩
  | cons place rest ih =>
    obtain ⟨rosters, table⟩ := ih (g := g.updateSink place Sink.abandonClose)
    rw [List.foldl_cons]
    exact ⟨rosters.trans (roster?_updateSink place Sink.abandonClose_id), table⟩

/-- Some relays that satisfy `p` are shut, and every other one is as it was. -/
def ShutWhere (p : Nat → Roster → Prop) (g g' : Registry) : Prop :=
  ∀ i, g'.roster? i = g.roster? i ∨
    ∃ s, g.roster? i = some s ∧ p i s ∧ g'.roster? i = some s.shut

namespace ShutWhere

variable {p q : Nat → Roster → Prop}

theorem refl (g : Registry) : ShutWhere p g g := fun _ => .inl rfl

theorem trans {g'' : Registry} (first : ShutWhere p g g') (second : ShutWhere p g' g'') :
    ShutWhere p g g'' := by
  intro i
  rcases first i with same | ⟨s, old, chosen, new⟩
  · rcases second i with same' | ⟨s, old, chosen, new⟩
    · exact .inl (same'.trans same)
    · exact .inr ⟨s, same ▸ old, chosen, new⟩
  · refine .inr ⟨s, old, chosen, ?_⟩
    rcases second i with same' | ⟨t, old', -, new'⟩
    · exact same'.trans new
    · rw [new, Option.some.injEq] at old'
      rw [new', ← old', Roster.shut_shut]

theorem imp (c : ShutWhere p g g') (h : ∀ i s, p i s → q i s) : ShutWhere q g g' := by
  intro i
  rcases c i with same | ⟨s, old, chosen, new⟩
  · exact .inl same
  · exact .inr ⟨s, old, h i s chosen, new⟩

theorem back (c : ShutWhere p g g') {s' : Roster} (new : g'.roster? i = some s') :
    ∃ s, g.roster? i = some s ∧ (s' = s ∨ p i s ∧ s' = s.shut) := by
  rcases c i with same | ⟨s, old, chosen, new'⟩
  · exact ⟨s', same ▸ new, .inl rfl⟩
  · rw [new, Option.some.injEq] at new'
    exact ⟨s, old, .inr ⟨chosen, new'⟩⟩

theorem forth (c : ShutWhere p g g') {s : Roster} (old : g.roster? i = some s) :
    ∃ s', g'.roster? i = some s' ∧ (s' = s ∨ p i s ∧ s' = s.shut) := by
  rcases c i with same | ⟨t, old', chosen, new⟩
  · exact ⟨s, same.trans old, .inl rfl⟩
  · rw [old, Option.some.injEq] at old'
    subst old'
    exact ⟨s.shut, new, .inr ⟨chosen, rfl⟩⟩

theorem listed (c : ShutWhere p g g') (h : g.Listed) (sub : g'.table.Sublist g.table)
    (dropped : ∀ e ∈ g.table, e ∉ g'.table → ∀ s, g'.roster? e.2 = some s → s.closed = true) :
    g'.Listed := by
  refine h.change sub ?_ ?_ dropped
  · intro i s' new
    obtain ⟨s, old, rfl | ⟨-, rfl⟩⟩ := c.back new
    · exact ⟨s', old, rfl, id⟩
    · exact ⟨s, old, rfl, fun opened => by cases opened⟩
  · intro i s old
    obtain ⟨s', new, rfl | ⟨-, rfl⟩⟩ := c.forth old
    · exact ⟨s', new, rfl⟩
    · exact ⟨s.shut, new, rfl⟩

theorem single {s : Roster} (old : g.roster? i = some s) (chosen : p i s)
    (new : g'.roster? = Function.update g.roster? i (some s.shut)) : ShutWhere p g g' := by
  intro j
  by_cases same : j = i
  · subst same
    exact .inr ⟨s, old, chosen, by rw [new, Function.update_self]⟩
  · exact .inl (by rw [new, Function.update_of_ne same])

end ShutWhere

@[simp] theorem erase_roster? (key : StreamKey) : (g.erase key).roster? = g.roster? := rfl

theorem mem_erase {e : StreamKey × Nat} : e ∈ (g.erase key).table ↔ e ∈ g.table ∧ e.1 ≠ key := by
  simp [erase]

theorem Listed.eq_of_key (h : g.Listed) {e : StreamKey × Nat} (member : e ∈ g.table)
    (named : (e.1, i) ∈ g.table) : e.2 = i := by
  have found := h.find?_eq_some_iff.mpr member
  rw [h.find?_eq_some_iff.mpr named, Option.some.injEq] at found
  exact found.symm

@[simp] theorem removeIfSame_roster? (key : StreamKey) (i : Nat) :
    (g.removeIfSame key i).1.roster? = g.roster? := by
  unfold removeIfSame
  split <;> rfl

theorem removeIfSame_sublist (key : StreamKey) (i : Nat) :
    (g.removeIfSame key i).1.table.Sublist g.table := by
  unfold removeIfSame
  split
  · exact List.filter_sublist
  · exact List.Sublist.refl _

theorem find?_removeIfSame (only : ∀ j, g.find? key = some j → j = i) :
    (g.removeIfSame key i).1.find? key = none := by
  unfold removeIfSame
  split
  · simp [find?, erase]
  · rename_i other
    cases entry : g.find? key with
    | none => rfl
    | some j => exact absurd (only j entry ▸ entry) other

theorem removeIfSame_dropped {e : StreamKey × Nat} (member : e ∈ g.table)
    (gone : e ∉ (g.removeIfSame key i).1.table) : e.1 = key ∧ g.find? e.1 = some i := by
  unfold removeIfSame at gone
  split at gone
  · rename_i found
    have same : e.1 = key := by
      by_contra differs
      exact gone (mem_erase.mpr ⟨member, differs⟩)
    exact ⟨same, same ▸ found⟩
  · exact absurd member gone

theorem retireEntry_table (i : Nat) : (g.retireEntry i).1.table = g.table := by
  unfold retireEntry
  split <;> rfl

theorem roster?_retireEntry {s : Roster} (h : g.roster? i = some s) :
    (g.retireEntry i).1.roster? = Function.update g.roster? i (some s.retireIfEmpty) ∧
      (g.retireEntry i).2 = s.retireIfEmpty.closed := by
  obtain ⟨r, here, rfl⟩ := relay_of_roster? h
  obtain ⟨roster, closed⟩ := Relay.roster_retireIfEmpty (r := r)
  have small := (List.getElem?_eq_some_iff.mp here).1
  unfold retireEntry
  rw [here]
  refine ⟨?_, closed⟩
  funext j
  by_cases same : j = i
  · subst same
    simp [roster?, small, roster]
  · simp [roster?, Function.update_of_ne same, Ne.symm same]

theorem retireEntry_shutWhere (i : Nat) :
    ShutWhere (fun j s => j = i ∧ s.closed = false ∧ s.present = []) g (g.retireEntry i).1 := by
  cases h : g.roster? i with
  | none =>
    have missing : g.relays[i]? = none := by simpa [roster?] using h
    unfold retireEntry
    rw [missing]
    exact .refl g
  | some s =>
    obtain ⟨rosters, -⟩ := roster?_retireEntry h
    by_cases empty : s.closed = false ∧ s.present = []
    · exact .single h ⟨rfl, empty⟩ (by rw [rosters, Roster.retireIfEmpty, if_pos empty])
    · intro j
      rw [rosters, Roster.retireIfEmpty, if_neg empty, ← h, Function.update_eq_self]
      exact .inl rfl

theorem evictFrom_shutWhere (entries : List (StreamKey × Nat)) :
    ShutWhere (fun _ s => s.present = []) g (g.evictFrom entries).1 := by
  induction entries generalizing g with
  | nil => exact .refl g
  | cons e rest ih => exact ((retireEntry_shutWhere e.2).imp fun _ _ h => h.2.2).trans ih

theorem evictFrom_sublist (entries : List (StreamKey × Nat)) :
    (g.evictFrom entries).2.Sublist entries := by
  induction entries generalizing g with
  | nil => exact List.Sublist.refl _
  | cons e rest ih =>
    unfold evictFrom
    dsimp only
    split
    · exact ih.cons e
    · exact ih.cons_cons e

theorem evictFrom_dropped (entries : List (StreamKey × Nat)) {e : StreamKey × Nat}
    (member : e ∈ entries) (gone : e ∉ (g.evictFrom entries).2) :
    ∃ s, (g.evictFrom entries).1.roster? e.2 = some s ∧ s.closed = true := by
  induction entries generalizing g with
  | nil => cases member
  | cons first rest ih =>
    rcases List.mem_cons.mp member with rfl | later
    · -- the relay was found closed in its turn, and stays so
      have closed : (g.retireEntry e.2).2 = true := by
        by_contra opened
        refine gone ?_
        unfold evictFrom
        dsimp only
        rw [if_neg opened]
        exact List.mem_cons_self
      cases old : g.roster? e.2 with
      | none =>
        have missing : g.relays[e.2]? = none := by simpa [roster?] using old
        simp [retireEntry, missing] at closed
      | some s =>
        obtain ⟨rosters, flag⟩ := roster?_retireEntry old
        have now : (g.retireEntry e.2).1.roster? e.2 = some s.retireIfEmpty := by
          rw [rosters, Function.update_self]
        obtain ⟨s', new, rfl | ⟨-, rfl⟩⟩ :=
          (evictFrom_shutWhere (g := (g.retireEntry e.2).1) rest).forth now
        · exact ⟨_, new, flag ▸ closed⟩
        · exact ⟨_, new, rfl⟩
    · refine ih later fun kept => gone ?_
      unfold evictFrom
      dsimp only
      split
      · exact kept
      · exact List.mem_cons_of_mem _ kept

theorem evictEmpty_shutWhere : ShutWhere (fun _ s => s.present = []) g g.evictEmpty.1 :=
  evictFrom_shutWhere g.table

theorem Listed.evictEmpty (h : g.Listed) : g.evictEmpty.1.Listed := by
  refine evictEmpty_shutWhere.listed h (evictFrom_sublist g.table) ?_
  intro e member gone s now
  obtain ⟨s', now', closed⟩ := evictFrom_dropped g.table member gone
  rw [show g.evictEmpty.1.roster? e.2 = some s' from now', Option.some.injEq] at now
  exact now ▸ closed

theorem beginClose_table (i now : Nat) : (g.beginClose i now).1.table = g.table := by
  unfold beginClose
  split <;> rfl

theorem roster?_beginClose {s : Roster} (h : g.roster? i = some s) (now : Nat) :
    (g.beginClose i now).1.roster? = Function.update g.roster? i (some s.shut) := by
  obtain ⟨r, here, rfl⟩ := relay_of_roster? h
  have small := (List.getElem?_eq_some_iff.mp here).1
  unfold beginClose
  rw [here]
  funext j
  by_cases same : j = i
  · subst same
    simp [roster?, small]
  · simp [roster?, Function.update_of_ne same, Ne.symm same]

theorem beginClose_shutWhere (i now : Nat) :
    ShutWhere (fun j _ => j = i) g (g.beginClose i now).1 := by
  cases h : g.roster? i with
  | none =>
    have missing : g.relays[i]? = none := by simpa [roster?] using h
    unfold beginClose
    rw [missing]
    exact .refl g
  | some s => exact .single h rfl (roster?_beginClose h now)

theorem beginCloseAll_table (now : Nat) (places : List Nat) :
    (g.beginCloseAll now places).1.table = g.table := by
  induction places generalizing g with
  | nil => rfl
  | cons i rest ih => exact ih.trans (beginClose_table i now)

theorem beginCloseAll_shutWhere (now : Nat) (places : List Nat) :
    ShutWhere (fun j _ => j ∈ places) g (g.beginCloseAll now places).1 := by
  induction places generalizing g with
  | nil => exact .refl g
  | cons i rest ih =>
    exact ((beginClose_shutWhere i now).imp fun _ _ h => h ▸ List.mem_cons_self).trans
      (ih.imp fun _ _ h => List.mem_cons_of_mem _ h)

theorem beginCloseAll_closed (now : Nat) (places : List Nat) {i : Nat} {s : Roster}
    (member : i ∈ places) (old : g.roster? i = some s) :
    (g.beginCloseAll now places).1.roster? i = some s.shut := by
  induction places generalizing g s with
  | nil => cases member
  | cons first rest ih =>
    by_cases later : i ∈ rest
    · obtain ⟨s', new, rfl | ⟨-, rfl⟩⟩ := (beginClose_shutWhere (g := g) first now).forth old
      · exact ih later new
      · have shut := ih later new
        rwa [Roster.shut_shut] at shut
    · obtain rfl := (List.mem_cons.mp member).resolve_right later
      have shut : (g.beginClose i now).1.roster? i = some s.shut := by
        rw [roster?_beginClose old now, Function.update_self]
      obtain ⟨s', new, rfl | ⟨listed, -⟩⟩ :=
        (beginCloseAll_shutWhere (g := (g.beginClose i now).1) now rest).forth shut
      · exact new
      · exact absurd listed later

theorem stopAll_table (now : Nat) : (g.stopAll now).1.table = [] :=
  beginCloseAll_table now _

theorem stopAll_shutWhere (now : Nat) : ShutWhere (fun _ _ => True) g (g.stopAll now).1 :=
  (beginCloseAll_shutWhere (g := { g with table := [] }) now _).imp fun _ _ _ => trivial

theorem Listed.closed_of_stopAll (h : g.Listed) {now : Nat} {s : Roster}
    (new : (g.stopAll now).1.roster? i = some s) : s.closed = true := by
  obtain ⟨s', old, -⟩ := (stopAll_shutWhere now).back new
  cases opened : s'.closed with
  | false =>
    have member : i ∈ g.table.map (·.2) :=
      List.mem_map.mpr ⟨_, h.registered i s' old opened, rfl⟩
    have shut := beginCloseAll_closed (g := { g with table := [] }) now _ member old
    rw [show (g.stopAll now).1.roster? i = _ from shut, Option.some.injEq] at new
    exact new ▸ rfl
  | true =>
    obtain ⟨t, new', rfl | ⟨-, rfl⟩⟩ := (stopAll_shutWhere (g := g) now).forth old
    · rw [new, Option.some.injEq] at new'
      exact new' ▸ opened
    · rw [new, Option.some.injEq] at new'
      exact new' ▸ rfl

theorem Listed.stopAll (h : g.Listed) (now : Nat) : (g.stopAll now).1.Listed := by
  refine (stopAll_shutWhere now).listed h (by rw [stopAll_table]; exact List.nil_sublist _) ?_
  intro e _ _ s new
  exact h.closed_of_stopAll new

end Fanout.Registry
