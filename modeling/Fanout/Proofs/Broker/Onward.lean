import Fanout.Proofs.Broker.Move

namespace Fanout

namespace Registry

variable {g g' : Registry}

structure Onward (g g' : Registry) : Prop where
  listed : g'.Listed
  later : g.Later g'

theorem Changed.onward {i : Nat} {f : Roster → Roster} (h : Changed i f g g') (l : g.Listed)
    (goes : ∀ s, g.roster? i = some s → s.Later (f s)) : g.Onward g' :=
  ⟨h.listed l goes, h.later goes⟩

theorem Seated.onward {key : StreamKey} {pipe : Pipe} {place : Nat × Nat} {first : Bool}
    (h : g.Seated key pipe g' place first) (l : g.Listed) : g.Onward g' :=
  ⟨(h.seat l).listed l, (h.seat l).later⟩

end Registry

namespace Broker

variable {b b' : Broker} {i : Nat}

theorem OuterMove.onward (move : b.OuterMove b') (l : b.registry.Listed) :
    b.registry.Onward b'.registry := by
  cases move with
  | ask | token | cancel | dropReader | drop | letGo => exact ⟨l, .refl _⟩
  | sweep => exact ⟨l.evictEmpty, Registry.evictEmpty_shutWhere.later⟩
  | shutDown => exact ⟨l.stopAll b.now, (Registry.stopAll_shutWhere b.now).later⟩
  | giveUp here changed => exact changed.onward l fun s _ => .depart s _

theorem OpenMove.onward (move : b.OpenMove i b') (l : b.registry.Listed) :
    b.registry.Onward b'.registry := by
  cases move with
  | refuse | queue | turnAway | wait | grant => exact ⟨l, .refl _⟩
  | arrive deadline here held up seated => exact seated.onward l
  | join here held up seated => exact seated.onward l
  | deny here denied changed => exact changed.onward l fun s _ => .unseat s _
  | denyGone here denied gone changed => exact changed.onward l fun s _ => .retireIfEmpty s
  | dispose here changed => exact changed.onward l fun s _ => .retireIfEmpty s

theorem DepartMove.onward (move : b.DepartMove i b') (l : b.registry.Listed) :
    b.registry.Onward b'.registry := by
  cases move with
  | queue | done => exact ⟨l, .refl _⟩
  | depart here queued held changed left => exact changed.onward l fun s _ => .depart s _

theorem PullMove.onward (move : b.PullMove i b') (l : b.registry.Listed) :
    b.registry.Onward b'.registry := by
  cases move with
  | queue | finish | notice => exact ⟨l, .refl _⟩
  | subscribe here queued held old changed => exact changed.onward l fun s _ => .subscribe s
  | endFeed ending canceled here running changed =>
    exact changed.onward l fun s _ => .retire_withdraw s _
  | close sinks here leaving held changed => exact changed.onward l fun s _ => .shut s

theorem StopMove.onward (move : b.StopMove i b') (l : b.registry.Listed) :
    b.registry.Onward b'.registry := by
  cases move with
  | queue | leave => exact ⟨l, .refl _⟩
  | stop here queued held found changed out => exact changed.onward l fun s _ => .shut s

theorem Move.onward (move : Move b b') (l : b.registry.Listed) :
    b.registry.Onward b'.registry := by
  cases move with
  | quiet same =>
    refine ⟨⟨same.table ▸ l.nodup, ?_, ?_⟩, .of_same same.rosters⟩
    · rw [same.rosters, same.table]
      exact l.named
    · rw [same.rosters, same.table]
      exact l.registered
  | outer move => exact move.onward l
  | opening move => exact move.onward l
  | departure move => exact move.onward l
  | pull move => exact move.onward l
  | stop move => exact move.onward l

theorem Moves.onward (moves : Moves b b') (l : b.registry.Listed) :
    b.registry.Onward b'.registry := by
  induction moves with
  | refl => exact ⟨l, .refl _⟩
  | tail _ move ih =>
    obtain ⟨listed, later⟩ := ih
    have next := move.onward listed
    exact ⟨next.listed, later.trans next.later⟩

end Broker

end Fanout
