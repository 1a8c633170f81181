import Fanout.Proofs.Config.Valid
import Fanout.Proofs.Lookup
import Fanout.Proofs.Stream.Sharing
import Mathlib.Data.List.Perm.Basic

namespace Fanout

namespace Command

variable {old new text : List Char}

theorem allBlank_of_replaceAll (solid : Text.allBlank new = false)
    (blank : Text.allBlank (replaceAll old new text) = true) : Text.allBlank text = true := by
  induction text using replaceAll.induct old with
  | case1 => rfl
  | case2 c rest found ih =>
    rw [replaceAll, if_pos found, Text.allBlank, List.all_append] at blank
    rw [Text.allBlank] at solid
    simp [solid] at blank
  | case3 c rest missing ih =>
    rw [replaceAll, if_neg missing] at blank
    obtain ⟨first, others⟩ := Bool.and_eq_true_iff.mp blank
    exact Bool.and_eq_true_iff.mpr ⟨first, ih others⟩

theorem ofTemplate_of_hasProgram {template : List String} {address : String}
    (program : Config.hasProgram template = true) (solid : Text.isBlankText address = false) :
    ofTemplate template address = some { argv := template.map (fillIn address) } := by
  cases template with
  | nil => cases program
  | cons first rest =>
    have filled : Text.isBlankText (fillIn address first) = false := by
      rw [Bool.eq_false_iff]
      intro blank
      rw [Text.isBlankText, fillIn, String.toList_ofList] at blank
      simp [Config.hasProgram, Text.isBlankText, allBlank_of_replaceAll solid blank] at program
    rw [ofTemplate, List.map_cons, ofArgs, filled, if_neg Bool.false_ne_true]

end Command

namespace Channel

variable {c : Channel} {sources : List String}

theorem isBlankText_of_append {text base : String} {tail : List Char}
    (solid : Text.isBlankText base = false) (longer : text.toList = base.toList ++ tail) :
    Text.isBlankText text = false := by
  rw [Text.isBlankText, Text.allBlank] at solid ⊢
  rw [longer, List.all_append, solid, Bool.false_and]

theorem Usable.key (usable : c.Usable sources) (query : Option String) :
    (c.streamKey query).isBlank = false :=
  isBlankText_of_append usable.url (StreamKey.ofQuery_toList c.url query)

theorem Usable.address (usable : c.Usable sources) (query : Option String) :
    Text.isBlankText (feedAddress c.url query) = false :=
  isBlankText_of_append usable.url (StreamKey.feedAddress_toList c.url query)

/-- The feed that a channel is served from. -/
def feedOf (c : Channel) (query : Option String) (env : Environment) : Feed :=
  match c.command with
  | none => .fetch env { address := feedAddress c.url query, userAgent := c.userAgent }
  | some template => .command env { argv := template.map (Command.fillIn (feedAddress c.url query)) }

theorem Usable.feed (usable : c.Usable sources) (query : Option String) (env : Environment) :
    c.feed query env = .ok (c.feedOf query env) := by
  unfold Channel.feed feedOf
  cases given : c.command with
  | none => rfl
  | some template =>
    dsimp only
    rw [Command.ofTemplate_of_hasProgram (usable.command template given) (usable.address query)]

end Channel

namespace Gateway

variable {config : Config} {maxFeeds : Nat} {env : Environment} {name : String} {c : Channel}

theorem channel?_eq_some_iff (valid : config.validate = .ok ()) :
    (Gateway.new config maxFeeds env).channel? name = some c ↔
      c ∈ config.channels ∧ c.name = name := by
  have distinct : (config.channels.reverse.map (·.name)).Nodup := by
    rw [List.map_reverse, List.nodup_reverse]
    exact (Config.channels_of_valid valid).1
  rw [channel?, Gateway.new, find?_key_eq_some_iff distinct, List.mem_reverse]

theorem lastByName_of_distinct {sources : List Source} (distinct : (sources.map (·.name)).Nodup) :
    lastByName sources = sources := by
  induction sources with
  | nil => rfl
  | cons s rest ih =>
    obtain ⟨apart, distinct⟩ := List.nodup_cons.mp distinct
    have alone : rest.any (·.name == s.name) = false := by
      simpa [List.any_eq_false] using apart
    rw [lastByName, alone, if_neg Bool.false_ne_true, ih distinct]

theorem sourcesInOrder_perm (distinct : (config.sources.map (·.name)).Nodup) :
    (sourcesInOrder config).Perm config.sources := by
  rw [sourcesInOrder, lastByName_of_distinct distinct]
  exact List.mergeSort_perm _ _

theorem lookup_zipIdx {names : List String} (listed : name ∈ names) (n : Nat) :
    List.lookup name (names.zipIdx n) = some (n + names.idxOf name) := by
  induction names generalizing n with
  | nil => cases listed
  | cons first rest ih =>
    rw [List.zipIdx_cons, List.lookup_cons, List.idxOf_cons]
    by_cases same : name = first
    · simp [same]
    · have listed := (List.mem_cons.mp listed).resolve_left same
      have differs : (name == first) = false := by simpa using same
      have differs' : (first == name) = false := by simpa using Ne.symm same
      rw [differs, differs', ih listed]
      simp only [cond_false]
      congr 1
      omega

def place (config : Config) (maxFeeds : Nat) (source : String) : Nat :=
  (if maxFeeds = 0 then 0 else 1) + ((sourcesInOrder config).map (·.name)).idxOf source

theorem mem_names_iff (distinct : (config.sources.map (·.name)).Nodup) :
    name ∈ (sourcesInOrder config).map (·.name) ↔ name ∈ config.sources.map (·.name) :=
  ((sourcesInOrder_perm distinct).map _).mem_iff

theorem limitsFor_eq (distinct : (config.sources.map (·.name)).Nodup)
    (listed : ∀ source, c.source = some source → source ∈ config.sources.map (·.name)) :
    (Gateway.new config maxFeeds env).limitsFor c =
      (if maxFeeds = 0 then [] else [0]) ++ (c.source.map (place config maxFeeds)).toList := by
  have all : (Gateway.new config maxFeeds env).globalLimit.toList =
      if maxFeeds = 0 then [] else [0] := by
    by_cases none : maxFeeds = 0 <;> simp [Gateway.new, none]
  rw [limitsFor, all]
  cases given : c.source with
  | none => rfl
  | some source =>
    have found := lookup_zipIdx ((mem_names_iff distinct).mpr (listed source given))
      (if maxFeeds = 0 then 0 else 1)
    rw [Option.bind_some, Gateway.new, found]
    rfl

/-- The limits of the feeds: one on all of them, unless there is none, and one for each source,
each of which lets a stream through. -/
structure Placed (config : Config) (maxFeeds : Nat) (place : String → Nat) : Prop where
  all : maxFeeds ≠ 0 → (limitsOf config maxFeeds)[0]? = some (Limit.new "global" maxFeeds)
  source : ∀ s ∈ config.sources,
    (limitsOf config maxFeeds)[place s.name]? = some (Limit.new s.name s.maxStreams)
  apart : ∀ s ∈ config.sources, ∀ t ∈ config.sources, place s.name = place t.name → s = t
  beyond : maxFeeds ≠ 0 → ∀ s ∈ config.sources, place s.name ≠ 0
  capacity : ∀ l ∈ limitsOf config maxFeeds, 1 ≤ l.capacity

theorem placed (valid : config.validate = .ok ()) (maxFeeds : Nat) :
    Placed config maxFeeds (place config maxFeeds) := by
  obtain ⟨distinct, each⟩ := Config.sources_of_valid valid
  have perm := sourcesInOrder_perm distinct
  have front : (if maxFeeds = 0 then [] else [Limit.new "global" maxFeeds]).length =
      if maxFeeds = 0 then 0 else 1 := by
    split <;> rfl
  have source : ∀ s ∈ config.sources,
      (limitsOf config maxFeeds)[place config maxFeeds s.name]? =
        some (Limit.new s.name s.maxStreams) := by
    intro s member
    have listed : s.name ∈ (sourcesInOrder config).map (·.name) :=
      (mem_names_iff distinct).mpr (List.mem_map_of_mem member)
    have there := List.getElem?_idxOf listed
    rw [List.getElem?_map, Option.map_eq_some_iff] at there
    obtain ⟨t, here, same⟩ := there
    have own : t = s :=
      List.inj_on_of_nodup_map distinct (perm.mem_iff.mp (List.mem_of_getElem? here)) member same
    rw [limitsOf, place, List.getElem?_append_right (by rw [front]; exact Nat.le_add_right _ _), front,
      Nat.add_sub_cancel_left, List.getElem?_map, here, own]
    rfl
  refine ⟨fun some => by simp [limitsOf, some], source, fun s hs t ht same => ?_,
    fun some s _ => by simp [place, some], fun l member => ?_⟩
  · have limits := (source s hs).symm.trans (same ▸ source t ht)
    have names := congrArg (Option.map Limit.name) limits
    exact List.inj_on_of_nodup_map distinct hs ht (Option.some.inj names)
  · rw [limitsOf, List.mem_append, List.mem_map] at member
    rcases member with front | ⟨s, member, rfl⟩
    · split at front
      · cases front
      · rename_i some
        cases List.mem_singleton.mp front
        exact Nat.one_le_iff_ne_zero.mpr some
    · exact Nat.one_le_iff_ne_zero.mpr (each s (perm.mem_iff.mp member)).2

def requestOf (maxFeeds : Nat) (env : Environment) (place : String → Nat) (c : Channel)
    (query : Option String) (token : Nat) : Request :=
  { key := c.streamKey query
    feed := c.feedOf query env
    limits := (if maxFeeds = 0 then [] else [0]) ++ (c.source.map place).toList
    token := token }

theorem requestFor_of_valid (valid : config.validate = .ok ()) (maxFeeds : Nat) (env : Environment)
    (name : String) (query : Option String) (token : Nat) :
    (∃ c ∈ config.channels, c.name = name ∧
        (Gateway.new config maxFeeds env).requestFor name query token =
          .ok (requestOf maxFeeds env (place config maxFeeds) c query token)) ∨
      (∀ c ∈ config.channels, c.name ≠ name) ∧
        (Gateway.new config maxFeeds env).requestFor name query token =
          .error (.unknownChannel name) := by
  unfold requestFor
  cases found : (Gateway.new config maxFeeds env).channel? name with
  | none =>
    refine .inr ⟨fun c member same => ?_, rfl⟩
    have known : (Gateway.new config maxFeeds env).channel? name = some c :=
      (channel?_eq_some_iff valid).mpr ⟨member, same⟩
    rw [found] at known
    cases known
  | some c =>
    obtain ⟨member, same⟩ := (channel?_eq_some_iff valid).mp found
    have usable := ((Config.channels_of_valid valid).2 c member).2
    refine .inl ⟨c, member, same, ?_⟩
    dsimp only
    rw [usable.feed query, limitsFor_eq (Config.sources_of_valid valid).1 usable.source]
    rfl

end Gateway

end Fanout
