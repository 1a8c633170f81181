import Fanout.Proofs.Relay.Owner

namespace Fanout.Registry

variable {g g' g'' : Registry} {j : Nat}

/-- The relays go on, and new ones answer for the sinks of their viewers. -/
structure Evolves (g g' : Registry) : Prop where
  old : ∀ (j : Nat) r, g.relays[j]? = some r → ∃ r', g'.relays[j]? = some r' ∧ r.Evolves r'
  new : ∀ (j : Nat) r', g.relays[j]? = none → g'.relays[j]? = some r' → r'.HoldsAttached

def HoldsAttached (g : Registry) : Prop := ∀ r ∈ g.relays, r.HoldsAttached

namespace Evolves

theorem of_relays (same : g'.relays = g.relays) : g.Evolves g' where
  old j r here := ⟨r, same ▸ here, .of_viewers rfl⟩
  new j r' absent here := by
    rw [same, absent] at here
    cases here

theorem refl (g : Registry) : g.Evolves g := of_relays rfl

theorem trans (first : g.Evolves g') (second : g'.Evolves g'') : g.Evolves g'' where
  old j r here := by
    obtain ⟨r', there, evolves⟩ := first.old j r here
    obtain ⟨r'', there', evolves'⟩ := second.old j r' there
    exact ⟨r'', there', evolves.trans evolves'⟩
  new j r'' absent here := by
    cases between : g'.relays[j]? with
    | none => exact second.new j r'' between here
    | some r' =>
      obtain ⟨s, there, evolves⟩ := second.old j r' between
      cases here.symm.trans there
      exact evolves.holdsAttached (first.new j r' absent between)

theorem holdsAttached (h : g.Evolves g') (holds : g.HoldsAttached) : g'.HoldsAttached := by
  intro r' member
  obtain ⟨j, here⟩ := List.mem_iff_getElem?.mp member
  cases before : g.relays[j]? with
  | none => exact h.new j r' before here
  | some r =>
    obtain ⟨s, there, evolves⟩ := h.old j r before
    cases here.symm.trans there
    exact evolves.holdsAttached (holds r (List.mem_of_getElem? before))

theorem updateRelay {f : Relay → Relay} (evolves : ∀ r, g.relays[j]? = some r → r.Evolves (f r)) :
    g.Evolves (g.updateRelay j f) where
  old k r here := by
    by_cases same : j = k
    · subst same
      exact ⟨f r, by simp [Registry.updateRelay, here], evolves r here⟩
    · exact ⟨r, by simp [Registry.updateRelay, same, here], .of_viewers rfl⟩
  new k r' absent here := by
    rcases getElem?_modify_cases here with ⟨r, rfl, there, -⟩ | ⟨-, there⟩
    · rw [absent] at there
      cases there
    · rw [absent] at there
      cases there

theorem put {r r' : Relay} (here : g.relays[j]? = some r) (evolves : r.Evolves r') :
    g.Evolves (g.updateRelay j fun _ => r') := by
  apply updateRelay
  intro s there
  cases here.symm.trans there
  exact evolves

theorem set {r r' : Relay} (here : g.relays[j]? = some r) (evolves : r.Evolves r') :
    g.Evolves { g with relays := g.relays.set j r' } := by
  have same : g.relays.set j r' = g.relays.modify j fun _ => r' := by
    rw [List.modify_eq_set_getElem?, here]
    rfl
  rw [same]
  exact put here evolves

theorem updateSink {place : Nat × Nat} {f : Sink → Sink}
    (events : ∀ s, ∃ events, f s = s.after events)
    (held : ∀ s : Sink, s.owner = .held → (f s).owner = .held) : g.Evolves (g.updateSink place f) :=
  updateRelay fun _ _ => .updateSink events fun v _ _ _ => held v.sink

theorem release {place : Nat × Nat} {f : Sink → Sink} (events : ∀ s, ∃ events, f s = s.after events)
    (gone : ∀ s, g.roster? place.1 = some s → place.2 ∉ s.present) :
    g.Evolves (g.updateSink place f) := by
  apply updateRelay
  intro r here
  apply Relay.Evolves.updateSink events
  intro v member own attached
  have present : r.isAttached place.2 = true := by
    simp only [Relay.isAttached, Relay.attached, List.any_eq_true, List.mem_filter]
    exact ⟨v, ⟨member, attached⟩, by simpa using own⟩
  exact absurd (Relay.isAttached_iff.mp present) (gone _ (roster?_of_relay here))

theorem detach {r : Relay} (id : Nat) (here : g.relays[j]? = some r) :
    g.Evolves (g.updateRelay j fun _ => r.handle (.detach id)) :=
  put here (.handle r (e := .detach id) nofun)

theorem append {r : Relay} (holds : r.HoldsAttached) :
    g.Evolves { g with relays := g.relays ++ [r] } where
  old k s here := by
    have small := (List.getElem?_eq_some_iff.mp here).1
    exact ⟨s, (List.getElem?_append_left small).trans here, .of_viewers rfl⟩
  new k r' absent here := by
    rcases getElem?_append_cases here with there | ⟨-, rfl⟩
    · rw [absent] at there
      cases there
    · exact holds

theorem getOrCreate (g : Registry) (key : StreamKey) : g.Evolves (g.getOrCreate key).1 := by
  unfold Registry.getOrCreate
  split
  · exact refl g
  · have made : g.Evolves { g with relays := g.relays ++ [Relay.new key g.config] } :=
      append (.initial key g.config)
    exact made.trans (of_relays rfl)

theorem removeIfSame (g : Registry) (key : StreamKey) (i : Nat) :
    g.Evolves (g.removeIfSame key i).1 := by
  unfold Registry.removeIfSame
  split
  · exact of_relays rfl
  · exact refl g

theorem remove (g : Registry) (key : StreamKey) : g.Evolves (g.remove key).1 := by
  unfold Registry.remove
  split
  · exact of_relays rfl
  · exact refl g

theorem retireEntry (g : Registry) (i : Nat) : g.Evolves (g.retireEntry i).1 := by
  unfold Registry.retireEntry
  split
  · rename_i r here
    exact set here (.handle r (e := .retireIfEmpty) nofun)
  · exact refl g

theorem evictFrom (g : Registry) (entries : List (StreamKey × Nat)) :
    g.Evolves (g.evictFrom entries).1 := by
  induction entries generalizing g with
  | nil => exact refl g
  | cons entry rest ih => exact (retireEntry g entry.2).trans (ih _)

theorem evictEmpty (g : Registry) : g.Evolves g.evictEmpty.1 :=
  (evictFrom g g.table).trans (of_relays rfl)

theorem beginClose (g : Registry) (i now : Nat) : g.Evolves (g.beginClose i now).1 := by
  unfold Registry.beginClose
  split
  · rename_i r here
    exact set here (.handle r (e := .close now) nofun)
  · exact refl g

theorem beginCloseAll (g : Registry) (now : Nat) (places : List Nat) :
    g.Evolves (g.beginCloseAll now places).1 := by
  induction places generalizing g with
  | nil => exact refl g
  | cons i rest ih => exact (beginClose g i now).trans (ih _)

theorem stopAll (g : Registry) (now : Nat) : g.Evolves (g.stopAll now).1 := by
  have cleared : g.Evolves { g with table := [] } := of_relays rfl
  exact cleared.trans (beginCloseAll _ now _)

theorem abandonClose (g : Registry) (sinks : List (Nat × Nat)) : g.Evolves (g.abandonClose sinks) := by
  unfold Registry.abandonClose
  induction sinks generalizing g with
  | nil => exact refl g
  | cons place rest ih =>
    have given : g.Evolves (g.updateSink place Sink.abandonClose) := by
      apply updateSink
      · intro s
        exact ⟨[.act .abandonClose], rfl⟩
      · intro s held
        simp [Sink.abandonClose, held]
    exact given.trans (ih _)

theorem sink? (h : g.Evolves g') (holds : g.HoldsAttached) {place : Nat × Nat} {s : Sink}
    (here : g.sink? place = some s) : ∃ s', g'.sink? place = some s' ∧ (s.Cut → s'.Cut) := by
  obtain ⟨r, there, here⟩ := Option.bind_eq_some_iff.mp here
  obtain ⟨r', there', evolves⟩ := h.old place.1 r there
  obtain ⟨s', here', cut⟩ := evolves.sink? (holds r (List.mem_of_getElem? there)) here
  refine ⟨s', ?_, cut⟩
  rw [Registry.sink?, there']
  exact here'

end Evolves

/-- The sink at this place will end without the help of a reader or of the clock. -/
def Cut (g : Registry) (place : Nat × Nat) : Prop := ∃ s, g.sink? place = some s ∧ s.Cut

theorem Evolves.cut {place : Nat × Nat} (h : g.Evolves g') (holds : g.HoldsAttached)
    (cut : g.Cut place) :
    g'.Cut place := by
  obtain ⟨s, here, cut⟩ := cut
  obtain ⟨s', there, still⟩ := h.sink? holds here
  exact ⟨s', there, still cut⟩

theorem gone_of_detach {r : Relay} (id : Nat) (here : g.relays[j]? = some r) (s : Roster)
    (new : (g.updateRelay j fun _ => r.handle (.detach id)).roster? j = some s) :
    id ∉ s.present := by
  rw [roster?_updateRelay here, Function.update_self, Option.some.injEq] at new
  rw [← new, Relay.roster_handle]
  simp only [Roster.handle]
  split
  · simp [Roster.mem_unseat]
  · assumption

theorem Changed.gone {f : Roster → Roster} {id : Nat} (h : Changed j f g g')
    (left : ∀ s, g.roster? j = some s → id ∉ (f s).present) (s' : Roster)
    (new : g'.roster? j = some s') : id ∉ s'.present := by
  obtain ⟨s, old, ⟨-, rfl⟩ | ⟨differs, -⟩⟩ := h.back new
  · exact left s old
  · exact absurd rfl differs

theorem cut_of_detach {r : Relay} {id : Nat} (now : Nat) (holds : g.HoldsAttached)
    (here : g.relays[j]? = some r) (attached : r.isAttached id = true) :
    ((g.updateRelay j fun _ => r.handle (.detach id)).updateSink (j, id)
      (·.beginClose 0 now)).Cut (j, id) := by
  obtain ⟨s, found, cut⟩ := (holds r (List.mem_of_getElem? here)).cut attached now
  refine ⟨s, ?_, cut⟩
  simp only [Registry.sink?, Registry.updateSink, Registry.updateRelay, List.getElem?_modify_eq, here]
  exact found

end Fanout.Registry
