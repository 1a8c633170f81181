import Fanout.Proofs.Registry.Apart
import Fanout.Proofs.Registry.Eviction
import Fanout.Proofs.Relay.LifeCycle

namespace Fanout

inductive RegistryEvent where
  | getOrCreate (key : StreamKey)
  | remove (key : StreamKey)
  | removeIfSame (key : StreamKey) (i : Nat)
  | evictEmpty
  | stopAll (now : Nat)
  | relay (i : Nat) (e : RelayEvent)

namespace Registry

variable {g g' : Registry} {key : StreamKey} {i : Nat} {entry : StreamKey × Nat}

def handle (g : Registry) : RegistryEvent → Registry
  | .getOrCreate key => (g.getOrCreate key).1
  | .remove key => (g.remove key).1
  | .removeIfSame key i => (g.removeIfSame key i).1
  | .evictEmpty => g.evictEmpty.1
  | .stopAll now => (g.stopAll now).1
  | .relay i e => g.updateRelay i (·.handle e)

def after (g : Registry) (events : List RegistryEvent) : Registry := events.foldl handle g

@[simp] theorem after_nil (g : Registry) : g.after [] = g := rfl

@[simp] theorem after_cons (g : Registry) (e : RegistryEvent) (events : List RegistryEvent) :
    g.after (e :: events) = (g.handle e).after events := rfl

theorem remove_eq (g : Registry) (key : StreamKey) :
    g.remove key = (g.erase key, g.find? key) := by
  unfold remove
  cases found : g.find? key with
  | none => rw [erase_of_find?_none found]
  | some i => rfl

theorem getOrCreate_of_found (found : g.find? key = some i) :
    g.getOrCreate key = (g, i, false) := by
  simp [getOrCreate, found]

theorem getOrCreate_of_missing (missing : g.find? key = none) :
    g.getOrCreate key =
      ({ g with relays := g.relays ++ [Relay.new key g.config]
                table := g.table ++ [(key, g.relays.length)] }, g.relays.length, true) := by
  simp [getOrCreate, missing]

theorem later_handle (g : Registry) (e : RegistryEvent) : g.Later (g.handle e) := by
  cases e with
  | getOrCreate key =>
    cases found : g.find? key with
    | some i =>
      rw [handle, getOrCreate_of_found found]
      exact .refl g
    | none =>
      rw [handle, getOrCreate_of_missing found]
      intro i s old
      obtain ⟨r, here, rfl⟩ := relay_of_roster? old
      have small := (List.getElem?_eq_some_iff.mp here).1
      refine ⟨r.roster, roster?_of_relay ?_, .refl _⟩
      exact (List.getElem?_append_left small).trans here
  | remove key =>
    rw [handle, remove_eq]
    exact .of_same rfl
  | removeIfSame key i => exact .of_same (removeIfSame_roster? key i)
  | evictEmpty => exact evictEmpty_shutWhere.later
  | stopAll now => exact (stopAll_shutWhere now).later
  | relay i e =>
    cases here : g.relays[i]? with
    | none =>
      rw [handle, updateRelay_of_none here]
      exact .refl g
    | some r =>
      intro j s old
      rw [handle, roster?_updateRelay here, Function.update_apply]
      split
      · rename_i same
        subst same
        rw [roster?_of_relay here, Option.some.injEq] at old
        refine ⟨_, rfl, ?_⟩
        rw [← old, Relay.roster_handle]
        exact r.roster.later_handle e
      · exact ⟨s, old, .refl s⟩

theorem later_after (g : Registry) (events : List RegistryEvent) : g.Later (g.after events) := by
  induction events generalizing g with
  | nil => exact .refl g
  | cons e rest ih => exact (g.later_handle e).trans (ih (g.handle e))

theorem Later.place_lt (later : g.Later g') (small : i < g.relays.length) :
    i < g'.relays.length := by
  obtain ⟨s', new, -⟩ := later i _ (roster?_of_relay (List.getElem?_eq_getElem small))
  obtain ⟨r', there, -⟩ := relay_of_roster? new
  exact (List.getElem?_eq_some_iff.mp there).1

/-- Each key has at most one entry, which names a relay of the key. -/
structure Keyed (g : Registry) : Prop where
  nodup : (g.table.map (·.1)).Nodup
  named : ∀ entry ∈ g.table, ∃ s, g.roster? entry.2 = some s ∧ s.key = entry.1

def Removes (g : Registry) (entry : StreamKey × Nat) : RegistryEvent → Prop
  | .remove key => entry.1 = key
  | .removeIfSame key i => entry = (key, i)
  | .evictEmpty => g.idle entry.2 = true
  | .stopAll _ => True
  | .getOrCreate _ | .relay _ _ => False

/-- The relay was handed out, and has no entry any more. -/
def Gone (g : Registry) (i : Nat) : Prop :=
  i < g.relays.length ∧ ∀ entry ∈ g.table, entry.2 ≠ i

namespace Keyed

theorem initial (config : RelayConfig) : ({ config := config } : Registry).Keyed :=
  ⟨by simp, by simp⟩

theorem find?_eq_some_iff (h : g.Keyed) : g.find? key = some i ↔ (key, i) ∈ g.table :=
  Registry.find?_eq_some_iff h.nodup

/-- What an operation makes of the table. -/
theorem mem_handle_iff (h : g.Keyed) (e : RegistryEvent) :
    entry ∈ (g.handle e).table ↔
      (entry ∈ g.table ∧ ¬ g.Removes entry e) ∨
        ∃ key, e = .getOrCreate key ∧ g.find? key = none ∧ entry = (key, g.relays.length) := by
  cases e with
  | getOrCreate key =>
    cases found : g.find? key with
    | some i => simp [handle, getOrCreate_of_found found, Removes, found]
    | none => simp [handle, getOrCreate_of_missing found, Removes, found]
  | remove key => simp [handle, remove_eq, mem_erase, Removes]
  | removeIfSame key i =>
    simp only [handle, removeIfSame, Removes, reduceCtorEq, false_and, exists_false, or_false]
    split
    · rename_i found
      have member := h.find?_eq_some_iff.mp found
      rw [mem_erase, and_congr_right_iff]
      intro listed
      refine not_congr ⟨fun same => ?_, fun same => congrArg Prod.fst same⟩
      exact List.inj_on_of_nodup_map h.nodup listed member same
    · rename_i other
      rw [iff_self_and]
      rintro listed rfl
      exact other (h.find?_eq_some_iff.mpr listed)
  | evictEmpty => simp [handle, evictEmpty_table, Removes]
  | stopAll now => simp [handle, stopAll_table, Removes]
  | relay i e => simp [handle, updateRelay, Removes]

theorem handle (h : g.Keyed) (e : RegistryEvent) : (g.handle e).Keyed where
  nodup := by
    cases e with
    | getOrCreate key =>
      cases found : g.find? key with
      | some i =>
        rw [Registry.handle, getOrCreate_of_found found]
        exact h.nodup
      | none =>
        rw [Registry.handle, getOrCreate_of_missing found, List.map_append]
        refine h.nodup.append (List.nodup_singleton key) (List.disjoint_singleton.mpr ?_)
        have unlisted : ∀ i, (key, i) ∉ g.table := fun i listed =>
          absurd (h.find?_eq_some_iff.mpr listed) (by simp [found])
        simpa using unlisted
    | remove key =>
      rw [Registry.handle, remove_eq]
      exact h.nodup.sublist (List.filter_sublist.map _)
    | removeIfSame key i => exact h.nodup.sublist ((removeIfSame_sublist key i).map _)
    | evictEmpty => exact h.nodup.sublist ((evictFrom_sublist g.table).map _)
    | stopAll now =>
      rw [Registry.handle, stopAll_table]
      exact List.nodup_nil
    | relay i e => exact h.nodup
  named entry member := by
    rcases (h.mem_handle_iff e).mp member with ⟨listed, -⟩ | ⟨key, rfl, missing, rfl⟩
    · obtain ⟨s, old, key⟩ := h.named entry listed
      obtain ⟨s', new, later⟩ := g.later_handle e entry.2 s old
      exact ⟨s', new, later.key.trans key⟩
    · rw [Registry.handle, getOrCreate_of_missing missing]
      exact ⟨(Relay.new key g.config).roster, roster?_of_relay (by simp), rfl⟩

theorem after (h : g.Keyed) (events : List RegistryEvent) : (g.after events).Keyed := by
  induction events generalizing g with
  | nil => exact h
  | cons e rest ih => exact ih (h.handle e)

theorem eq_of_place (h : g.Keyed) {other : StreamKey × Nat} (listed : entry ∈ g.table)
    (listed' : other ∈ g.table) (same : other.2 = entry.2) : other = entry := by
  obtain ⟨s, here, key⟩ := h.named entry listed
  obtain ⟨t, there, key'⟩ := h.named other listed'
  rw [same, here, Option.some.injEq] at there
  exact Prod.ext (by rw [← key, ← key', there]) same

theorem place_lt (h : g.Keyed) (listed : entry ∈ g.table) : entry.2 < g.relays.length := by
  obtain ⟨s, here, -⟩ := h.named entry listed
  obtain ⟨r, there, -⟩ := relay_of_roster? here
  exact (List.getElem?_eq_some_iff.mp there).1

theorem gone_of_removes (h : g.Keyed) (listed : entry ∈ g.table) {e : RegistryEvent}
    (removes : g.Removes entry e) : (g.handle e).Gone entry.2 := by
  have small := h.place_lt listed
  refine ⟨(g.later_handle e).place_lt small, fun other member same => ?_⟩
  rcases (h.mem_handle_iff e).mp member with ⟨listed', kept⟩ | ⟨key, -, -, rfl⟩
  · exact kept (h.eq_of_place listed listed' same ▸ removes)
  · exact absurd same (Nat.ne_of_gt small)

end Keyed

namespace Gone

theorem handle (gone : g.Gone i) (h : g.Keyed) (e : RegistryEvent) : (g.handle e).Gone i := by
  refine ⟨(g.later_handle e).place_lt gone.1, fun entry member same => ?_⟩
  rcases (h.mem_handle_iff e).mp member with ⟨listed, -⟩ | ⟨key, -, -, rfl⟩
  · exact gone.2 entry listed same
  · exact absurd same (Nat.ne_of_gt gone.1)

theorem after (gone : g.Gone i) (h : g.Keyed) (events : List RegistryEvent) :
    (g.after events).Gone i := by
  induction events generalizing g with
  | nil => exact gone
  | cons e rest ih => exact ih (gone.handle h e) (h.handle e)

theorem unnamed (gone : g.Gone i) (h : g.Keyed) (key : StreamKey) :
    g.find? key ≠ some i ∧ (g.getOrCreate key).2.1 ≠ i ∧ (g.remove key).2 ≠ some i := by
  have unfound : g.find? key ≠ some i := fun found =>
    gone.2 _ (h.find?_eq_some_iff.mp found) rfl
  refine ⟨unfound, ?_, by rwa [remove_eq]⟩
  cases found : g.find? key with
  | some j =>
    rw [getOrCreate_of_found found]
    rintro rfl
    exact unfound found
  | none =>
    rw [getOrCreate_of_missing found]
    exact Nat.ne_of_gt gone.1

end Gone

theorem Keyed.getOrCreate_names (h : g.Keyed) (key : StreamKey) :
    (g.getOrCreate key).1.find? key = some (g.getOrCreate key).2.1 ∧
      ((g.getOrCreate key).2.2 = true ↔ g.find? key = none) ∧
      (g.find? key = none → (g.getOrCreate key).2.1 = g.relays.length) := by
  cases found : g.find? key with
  | some i =>
    rw [getOrCreate_of_found found]
    simpa using found
  | none =>
    have made := (h.mem_handle_iff (.getOrCreate key)).mpr (.inr ⟨key, rfl, found, rfl⟩)
    have named := (h.handle (.getOrCreate key)).find?_eq_some_iff.mpr made
    rw [getOrCreate_of_missing found]
    rw [Registry.handle, getOrCreate_of_missing found] at named
    exact ⟨named, by simp, fun _ => rfl⟩

theorem Keyed.mem_places_iff (h : g.Keyed) :
    i ∈ g.table.map (·.2) ↔ ∃ key, g.find? key = some i := by
  simp [h.find?_eq_some_iff]

theorem Keyed.evictEmpty_spares (h : g.Keyed) {r : Relay} (here : g.relays[i]? = some r)
    (spared : g.idle i = false ∨ ∀ key, g.find? key ≠ some i) :
    g.evictEmpty.1.relays[i]? = some r := by
  rw [evictEmpty_relay, here, Option.map_some, Option.some.injEq]
  split
  · rename_i listed
    obtain ⟨key, found⟩ := h.mem_places_iff.mp listed
    have busy := spared.resolve_right fun unfound => unfound key found
    rw [idle_of_relay here] at busy
    rcases r.retireIfEmpty_cases with ⟨idle, -⟩ | ⟨-, same⟩
    · rw [idle] at busy
      cases busy
    · rw [same]
  · rfl

theorem Keyed.evictEmpty_retires (h : g.Keyed) {r : Relay} (here : g.relays[i]? = some r)
    (found : g.find? key = some i) (idle : g.idle i = true) :
    ∃ r', g.evictEmpty.1.relays[i]? = some r' ∧ r'.closed = true ∧ r'.viewers = r.viewers := by
  rw [evictEmpty_relay, here, Option.map_some, if_pos (h.mem_places_iff.mpr ⟨key, found⟩)]
  rw [idle_of_relay here] at idle
  rcases r.retireIfEmpty_cases with ⟨-, -, closed⟩ | ⟨busy, -⟩
  · exact ⟨_, rfl, closed, r.viewers_retireIfEmpty⟩
  · rw [busy] at idle
    cases idle

theorem removeIfSame_cases (g : Registry) (key : StreamKey) (i : Nat) :
    ((g.removeIfSame key i).2 = true ↔ g.find? key = some i) ∧
      (g.find? key ≠ some i → (g.removeIfSame key i).1 = g) ∧
      (g.find? key = some i → (g.removeIfSame key i).1 = (g.remove key).1) := by
  rw [remove_eq]
  by_cases found : g.find? key = some i <;> simp [removeIfSame, found]

def Removed (g : Registry) (entry : StreamKey × Nat) (events : List RegistryEvent) : Prop :=
  ∃ past e rest, events = past ++ e :: rest ∧ (g.after past).Removes entry e

theorem removed_nil : ¬ g.Removed entry [] := by
  rintro ⟨past, e, rest, split, -⟩
  cases past <;> cases split

theorem removed_cons {e : RegistryEvent} {later : List RegistryEvent} :
    g.Removed entry (e :: later) ↔ g.Removes entry e ∨ (g.handle e).Removed entry later := by
  constructor
  · rintro ⟨past, x, rest, split, removes⟩
    cases past with
    | nil =>
      cases split
      exact .inl removes
    | cons y past =>
      cases split
      exact .inr ⟨past, x, rest, rfl, removes⟩
  · rintro (removes | ⟨past, x, rest, rfl, removes⟩)
    · exact ⟨[], e, later, rfl, removes⟩
    · exact ⟨e :: past, x, rest, rfl, removes⟩

/-- An entry stays until an operation takes it out, and its relay has none from then on. -/
theorem Keyed.kept_or_gone (h : g.Keyed) (listed : entry ∈ g.table) (later : List RegistryEvent) :
    (¬ g.Removed entry later ∧ entry ∈ (g.after later).table) ∨
      (g.Removed entry later ∧ (g.after later).Gone entry.2) := by
  induction later generalizing g with
  | nil => exact .inl ⟨removed_nil, listed⟩
  | cons e rest ih =>
    rw [removed_cons, after_cons]
    by_cases removes : g.Removes entry e
    · exact .inr ⟨.inl removes, (h.gone_of_removes listed removes).after (h.handle e) rest⟩
    · have stays := (h.mem_handle_iff e).mpr (.inl ⟨listed, removes⟩)
      simpa [removes] using ih (h.handle e) stays

/-- The identity of relays, in every state that the operations of the registry and of its relays lead
to. An entry names a relay of its key. A key names the same relay until an operation takes its entry
out, and no key ever names that relay again. A relay that is made is a new one. The entry of a relay
is removed exactly if it names that very relay. An eviction takes out exactly the entries of relays
that are closed or empty, and counts them; these relays are closed then and keep their viewers as they
are, and all others are left alone. After everything is stopped the table is empty, and each relay
that was in it is closed and without viewers for good. -/
theorem keeps_identity (config : RelayConfig) (events : List RegistryEvent) :
    let g := ({ config := config } : Registry).after events
    (∀ entry ∈ g.table, ∃ r, g.relays[entry.2]? = some r ∧ r.key = entry.1) ∧
    (∀ key i, g.find? key = some i ↔ (key, i) ∈ g.table) ∧
    (∀ key i later, g.find? key = some i →
      (¬ g.Removed (key, i) later → (g.after later).find? key = some i ∧
        (g.after later).getOrCreate key = (g.after later, i, false)) ∧
      (g.Removed (key, i) later → ∀ other, (g.after later).find? other ≠ some i ∧
        ((g.after later).getOrCreate other).2.1 ≠ i ∧ ((g.after later).remove other).2 ≠ some i)) ∧
    (∀ key, (g.getOrCreate key).1.find? key = some (g.getOrCreate key).2.1 ∧
      ((g.getOrCreate key).2.2 = true ↔ g.find? key = none) ∧
      (g.find? key = none → (g.getOrCreate key).2.1 = g.relays.length)) ∧
    (∀ key i, ((g.removeIfSame key i).2 = true ↔ g.find? key = some i) ∧
      (g.find? key ≠ some i → (g.removeIfSame key i).1 = g) ∧
      (g.find? key = some i → (g.removeIfSame key i).1 = (g.remove key).1)) ∧
    (∀ key, (g.remove key).2 = g.find? key ∧ (g.remove key).1.find? key = none ∧
      (g.remove key).1.relays = g.relays ∧
      ∀ other, other ≠ key → (g.remove key).1.find? other = g.find? other) ∧
    g.evictEmpty.2 = g.table.countP (fun entry => g.idle entry.2) ∧
    (∀ key i, g.evictEmpty.1.find? key = some i ↔ g.find? key = some i ∧ g.idle i = false) ∧
    (∀ i r, g.relays[i]? = some r →
      (g.idle i = true ↔ r.closed = true ∨ r.isEmpty = true) ∧
      (g.idle i = false ∨ (∀ key, g.find? key ≠ some i) → g.evictEmpty.1.relays[i]? = some r) ∧
      ∀ key, g.find? key = some i → g.idle i = true →
        ∃ r', g.evictEmpty.1.relays[i]? = some r' ∧ r'.closed = true ∧ r'.viewers = r.viewers) ∧
    ∀ now, (g.stopAll now).1.table = [] ∧ ∀ entry ∈ g.table, ∀ later, ∃ r,
      ((g.stopAll now).1.after later).relays[entry.2]? = some r ∧ r.closed = true ∧
        r.isEmpty = true := by
  intro g
  have h : g.Keyed := (Keyed.initial config).after events
  refine ⟨fun entry listed => ?named, fun key i => h.find?_eq_some_iff,
    fun key i later found => ?stays, fun key => h.getOrCreate_names key,
    fun key i => removeIfSame_cases g key i, fun key => ?removed, g.evictEmpty_count,
    fun key i => ?evicted, fun i r here => ?relays, fun now => ⟨g.stopAll_table now, ?stopped⟩⟩
  case named =>
    obtain ⟨s, there, key⟩ := h.named entry listed
    obtain ⟨r, here, rfl⟩ := relay_of_roster? there
    exact ⟨r, here, key⟩
  case stays =>
    have h' := h.after later
    rcases h.kept_or_gone (h.find?_eq_some_iff.mp found) later with
      ⟨unremoved, listed⟩ | ⟨removed, gone⟩
    · have stays := h'.find?_eq_some_iff.mpr listed
      exact ⟨fun _ => ⟨stays, getOrCreate_of_found stays⟩, fun removed => absurd removed unremoved⟩
    · exact ⟨fun unremoved => absurd removed unremoved, fun _ => gone.unnamed h'⟩
  case removed =>
    rw [remove_eq]
    exact ⟨rfl, by simp [find?, erase], rfl, (Apart.erase g key).entries⟩
  case evicted =>
    have left : g.evictEmpty.1.find? key = some i ↔ (key, i) ∈ g.evictEmpty.1.table :=
      (h.handle .evictEmpty).find?_eq_some_iff
    change _ ↔ (key, i) ∈ (g.handle .evictEmpty).table at left
    rw [h.mem_handle_iff, ← h.find?_eq_some_iff] at left
    simpa [Removes, Registry.handle] using left
  case relays =>
    refine ⟨?_, h.evictEmpty_spares here, fun key found => h.evictEmpty_retires here found⟩
    rw [idle_of_relay here, Relay.idle, Bool.or_eq_true]
  case stopped =>
    intro entry listed later
    obtain ⟨s, old, -⟩ := h.named entry listed
    have shut := beginCloseAll_closed (g := { g with table := [] }) now _
      (List.mem_map_of_mem listed) old
    obtain ⟨s', new, onward⟩ := later_after (g.stopAll now).1 later entry.2 _ shut
    obtain ⟨r, there, rfl⟩ := relay_of_roster? new
    refine ⟨r, there, onward.closed rfl, Relay.isEmpty_iff.mpr ?_⟩
    exact List.eq_nil_iff_forall_not_mem.mpr fun id member =>
      absurd (onward.nobody rfl id member) List.not_mem_nil

example :
    let g := ({} : Registry).after
      [.getOrCreate ⟨"k"⟩, .remove ⟨"k"⟩, .getOrCreate ⟨"k"⟩, .removeIfSame ⟨"k"⟩ 0]
    g.find? ⟨"k"⟩ = some 1 := by decide

end Registry

end Fanout
