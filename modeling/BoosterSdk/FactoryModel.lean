/-
This file models `DdsFactoryModel` and settles what its topic cache is good for.

`CreateTopicChannel` looks a topic up by name in `topic_map_` and creates it in the
participant only on a miss; the type of the message is registered, and attached to
the topic, only then. `CloseTopic` destroys a topic in the participant and leaves
the cache alone. So the cache never changes an entry, and both results below are
exact: channels get the type of their message as long as no name is used with two
types, and entries stay live as long as no topic is closed.

Types of messages are left open; `typeName` is what `get_type_name` returns for
them. Whether `create_topic` succeeds is part of a call.
-/

import BoosterSdk.TopicChannel
import Mathlib.Logic.Function.Basic
import Mathlib.Data.List.Induction

namespace Booster.Common

/-! ### The factory -/

/-- The members of `DdsFactoryModel`: `hasParticipant` tells whether `participant_` is set, and
`participant` is what was created through it. -/
structure DdsFactoryModel where
  hasParticipant : Bool := false
  publisher : Option OwnerId := none
  subscriber : Option OwnerId := none
  participant : DdsParticipant := {}
  topicMap : String → Option TopicId := fun _ => none

namespace DdsFactoryModel

/-- A factory after `Init`, with a participant, a publisher and a subscriber. -/
def initialised : DdsFactoryModel where
  hasParticipant := true
  publisher := some 0
  subscriber := some 1

/-- `GetTopic`. -/
def getTopic (topicName : String) (factory : DdsFactoryModel) : Option TopicId :=
  factory.topicMap topicName

/-- `CreateTopicChannel`. -/
def createTopicChannel {Message : Type} (typeName : Message → String) (message : Message)
    (topicName : String) (created : Bool) (factory : DdsFactoryModel) :
    Option DdsTopicChannel × DdsFactoryModel :=
  if !factory.hasParticipant then (none, factory)
  else
    match factory.getTopic topicName with
    | some topic => (some (DdsTopicChannel.setTopic (some topic) {}), factory)
    | none =>
      if created then
        let (topic, participant) :=
          factory.participant.createTopic topicName (typeName message)
        (some (DdsTopicChannel.setTopic (some topic) {}),
          { factory with
            participant := participant
            topicMap := Function.update factory.topicMap topicName (some topic) })
      else (none, factory)

/-- `CloseTopic`; a null topic is refused by `delete_topic`. -/
def closeTopic (topic : Option TopicId) (factory : DdsFactoryModel) : DdsFactoryModel :=
  match topic with
  | some topic => { factory with participant := factory.participant.deleteTopic topic }
  | none => factory

/-- The type name the topic of a channel was created with. -/
def attachedType (channel : DdsTopicChannel) (factory : DdsFactoryModel) : Option String :=
  (channel.topic.bind fun topic => factory.participant.topics[topic]?).map DdsTopic.typeName

/-- What `CreateTopicChannel` does: hand out the cached topic, create one, or fail. -/
theorem createTopicChannel_cases {Message : Type} (typeName : Message → String)
    (message : Message) (topicName : String) (created : Bool) {factory : DdsFactoryModel}
    (ready : factory.hasParticipant = true) :
    (∃ topic, factory.topicMap topicName = some topic ∧
      factory.createTopicChannel typeName message topicName created =
        (some { topic := some topic }, factory)) ∨
    (factory.topicMap topicName = none ∧ created = true ∧
      factory.createTopicChannel typeName message topicName created =
        (some { topic := some factory.participant.topics.length },
          { factory with
            participant :=
              { factory.participant with topics :=
                  factory.participant.topics ++ [⟨topicName, typeName message, true⟩] }
            topicMap := Function.update factory.topicMap topicName
              (some factory.participant.topics.length) })) ∨
    (factory.topicMap topicName = none ∧ created = false ∧
      factory.createTopicChannel typeName message topicName created = (none, factory)) := by
  unfold createTopicChannel getTopic
  rw [ready]
  cases cached : factory.topicMap topicName with
  | some topic => exact Or.inl ⟨topic, rfl, rfl⟩
  | none =>
    cases created with
    | true => exact Or.inr (Or.inl ⟨rfl, rfl, rfl⟩)
    | false => exact Or.inr (Or.inr ⟨rfl, rfl, rfl⟩)

/-- The cache and the participant name the same topics: an entry refers to a topic created under
its name, and every topic ever created is the entry of its name. -/
structure Indexed (factory : DdsFactoryModel) : Prop where
  ready : factory.hasParticipant = true
  entries : ∀ topicName topic, factory.topicMap topicName = some topic →
    ∃ record, factory.participant.topics[topic]? = some record ∧ record.name = topicName
  topics : ∀ topic record, factory.participant.topics[topic]? = some record →
    factory.topicMap record.name = some topic

theorem indexed_initialised : Indexed initialised where
  ready := rfl
  entries := fun _ _ entry => nomatch entry
  topics := fun _ _ found => nomatch found

/-- Creating a topic on a cache miss keeps the index. -/
theorem Indexed.create {factory : DdsFactoryModel} (indexed : factory.Indexed)
    {topicName typeName : String} (missing : factory.topicMap topicName = none) :
    Indexed { factory with
      participant :=
        { factory.participant with topics :=
            factory.participant.topics ++ [⟨topicName, typeName, true⟩] }
      topicMap := Function.update factory.topicMap topicName
        (some factory.participant.topics.length) } := by
  refine ⟨indexed.ready, fun other topic entry => ?_, fun topic record found => ?_⟩
  · by_cases same : other = topicName
    · subst same
      simp only [Function.update_self] at entry
      cases entry
      exact ⟨⟨other, typeName, true⟩, List.getElem?_concat_length, rfl⟩
    · simp only [Function.update_of_ne same] at entry
      obtain ⟨record, found, named⟩ := indexed.entries other topic entry
      refine ⟨record, ?_, named⟩
      rw [List.getElem?_append_left (List.getElem?_eq_some_iff.mp found).1]
      exact found
  · by_cases old : topic < factory.participant.topics.length
    · rw [List.getElem?_append_left old] at found
      have entry := indexed.topics topic record found
      have different : record.name ≠ topicName := by
        intro same
        rw [same, missing] at entry
        cases entry
      simp only [Function.update_of_ne different]
      exact entry
    · have bound := (List.getElem?_eq_some_iff.mp found).1
      rw [List.length_append, List.length_singleton] at bound
      have last : topic = factory.participant.topics.length :=
        Nat.le_antisymm (Nat.lt_succ_iff.mp bound) (Nat.le_of_not_lt old)
      subst last
      rw [List.getElem?_concat_length] at found
      cases found
      exact Function.update_self ..

end DdsFactoryModel

/-! ### Conditions on every call of a sequence -/

/-- A condition on every call of a sequence, given the calls before it. -/
def Throughout {Call : Type} (holds : List Call → Call → Prop) (calls : List Call) : Prop :=
  ∀ earlier call later, calls = earlier ++ call :: later → holds earlier call

theorem throughout_nil {Call : Type} (holds : List Call → Call → Prop) : Throughout holds [] :=
  fun earlier call later split =>
    absurd split.symm (List.append_ne_nil_of_right_ne_nil earlier (List.cons_ne_nil call later))

theorem throughout_concat {Call : Type} {holds : List Call → Call → Prop} {calls : List Call}
    {call : Call} :
    Throughout holds (calls ++ [call]) ↔ Throughout holds calls ∧ holds calls call := by
  constructor
  · intro throughout
    refine ⟨fun earlier inner later split => throughout earlier inner (later ++ [call]) ?_,
      throughout calls call [] rfl⟩
    rw [split, List.append_assoc, List.cons_append]
  · rintro ⟨before, last⟩ earlier inner later split
    induction later using List.reverseRecOn with
    | nil =>
      obtain ⟨rfl, same⟩ := List.append_inj' split rfl
      cases same
      exact last
    | append_singleton rest final _ =>
      rw [← List.cons_append, ← List.append_assoc] at split
      obtain ⟨rfl, _⟩ := List.append_inj' split rfl
      exact before earlier inner rest rfl

/-! ### Types of cached topics -/

/-- A call of `CreateTopicChannel`; `created` tells whether `create_topic` succeeds if it is
called. -/
structure CreateCall (Message : Type) where
  message : Message
  name : String
  created : Bool

section Types

variable {Message : Type} (typeName : Message → String)

def CreateCall.apply (call : CreateCall Message) (factory : DdsFactoryModel) :
    Option DdsTopicChannel × DdsFactoryModel :=
  factory.createTopicChannel typeName call.message call.name call.created

/-- The factory after a sequence of calls. -/
def factoryAfter (calls : List (CreateCall Message)) : DdsFactoryModel :=
  calls.foldl (fun factory call => (call.apply typeName factory).2) .initialised

theorem factoryAfter_concat (calls : List (CreateCall Message)) (call : CreateCall Message) :
    factoryAfter typeName (calls ++ [call]) =
      (call.apply typeName (factoryAfter typeName calls)).2 := by
  unfold factoryAfter
  rw [List.foldl_append]
  rfl

/-- The type name the cached topic of a name was created with. -/
def DdsFactoryModel.cachedType (topicName : String) (factory : DdsFactoryModel) :
    Option String :=
  factory.attachedType { topic := factory.topicMap topicName }

/-- What a call does to the cached types: it hands out the cached one, caches its own, or
fails. -/
inductive CallsType (call : CreateCall Message) (factory : DdsFactoryModel) :
    Option DdsTopicChannel × DdsFactoryModel → Prop where
  | hit (channel : DdsTopicChannel) (cached : String)
      (known : factory.cachedType call.name = some cached)
      (attached : factory.attachedType channel = some cached) :
      CallsType call factory (some channel, factory)
  | miss (channel : DdsTopicChannel) (next : DdsFactoryModel)
      (unknown : factory.cachedType call.name = none) (created : call.created = true)
      (attached : next.attachedType channel = some (typeName call.message))
      (own : next.cachedType call.name = some (typeName call.message))
      (others : ∀ other, other ≠ call.name →
        next.cachedType other = factory.cachedType other) :
      CallsType call factory (some channel, next)
  | fail (unknown : factory.cachedType call.name = none) (failed : call.created = false) :
      CallsType call factory (none, factory)

theorem cachedType_eq_none {factory : DdsFactoryModel} {topicName : String}
    (missing : factory.topicMap topicName = none) : factory.cachedType topicName = none := by
  unfold DdsFactoryModel.cachedType DdsFactoryModel.attachedType
  rw [missing]
  rfl

theorem apply_callsType (call : CreateCall Message) {factory : DdsFactoryModel}
    (indexed : factory.Indexed) :
    CallsType typeName call factory (call.apply typeName factory) ∧
      (call.apply typeName factory).2.Indexed := by
  unfold CreateCall.apply
  rcases DdsFactoryModel.createTopicChannel_cases typeName call.message call.name call.created
      indexed.ready with ⟨topic, cached, same⟩ | ⟨missing, created, same⟩ | ⟨missing, failed, same⟩
  · obtain ⟨record, found, _⟩ := indexed.entries call.name topic cached
    have attached : factory.attachedType { topic := some topic } = some record.typeName := by
      show (factory.participant.topics[topic]?).map DdsTopic.typeName = _
      rw [found]
      rfl
    rw [same]
    refine ⟨.hit _ record.typeName ?_ attached, indexed⟩
    unfold DdsFactoryModel.cachedType
    rw [cached]
    exact attached
  · rw [same]
    have attached : ((factory.participant.topics ++
        [DdsTopic.mk call.name (typeName call.message) true])[
          factory.participant.topics.length]?).map DdsTopic.typeName =
        some (typeName call.message) := by
      rw [List.getElem?_concat_length]
      rfl
    refine ⟨.miss _ _ (cachedType_eq_none missing) created attached ?_ fun other different => ?_,
      indexed.create missing⟩
    · unfold DdsFactoryModel.cachedType
      simp only [Function.update_self]
      exact attached
    · unfold DdsFactoryModel.cachedType DdsFactoryModel.attachedType
      simp only [Function.update_of_ne different]
      cases entry : factory.topicMap other with
      | none => rfl
      | some topic =>
        obtain ⟨record, found, _⟩ := indexed.entries other topic entry
        have bound := (List.getElem?_eq_some_iff.mp found).1
        simp only [Option.bind_some, List.getElem?_append_left bound]
  · rw [same]
    exact ⟨.fail (cachedType_eq_none missing) failed, indexed⟩

theorem indexed_factoryAfter (calls : List (CreateCall Message)) :
    (factoryAfter typeName calls).Indexed := by
  induction calls using List.reverseRecOn with
  | nil => exact DdsFactoryModel.indexed_initialised
  | append_singleton earlier call inductionHypothesis =>
    rw [factoryAfter_concat]
    exact (apply_callsType typeName call inductionHypothesis).2

variable {typeName}

/-- A cached type is the type of a call that created a topic of that name. -/
theorem created_of_cachedType {calls : List (CreateCall Message)} {topicName cached : String}
    (known : (factoryAfter typeName calls).cachedType topicName = some cached) :
    ∃ call ∈ calls, call.name = topicName ∧ call.created = true ∧
      typeName call.message = cached := by
  induction calls using List.reverseRecOn with
  | nil => cases known
  | append_singleton earlier call inductionHypothesis =>
    have before : (factoryAfter typeName earlier).cachedType topicName = some cached →
        ∃ source ∈ earlier ++ [call], source.name = topicName ∧ source.created = true ∧
          typeName source.message = cached := by
      intro already
      obtain ⟨source, member, rest⟩ := inductionHypothesis already
      exact ⟨source, List.mem_append_left _ member, rest⟩
    rw [factoryAfter_concat] at known
    obtain ⟨outcome, _⟩ := apply_callsType typeName call
      (indexed_factoryAfter typeName earlier)
    generalize call.apply typeName (factoryAfter typeName earlier) = result at known outcome
    cases outcome with
    | hit => exact before known
    | miss _ _ _ created _ own others =>
      by_cases same : topicName = call.name
      · subst same
        refine ⟨call, List.mem_append_right earlier List.mem_cons_self, rfl, created, ?_⟩
        exact Option.some.inj (own.symm.trans known)
      · rw [others topicName same] at known
        exact before known
    | fail => exact before known

/-- Every channel a sequence of calls returns carries a topic of the type of its message. -/
def TypesAgree (typeName : Message → String) : List (CreateCall Message) → Prop :=
  Throughout fun earlier call => ∀ channel,
    (call.apply typeName (factoryAfter typeName earlier)).1 = some channel →
      (call.apply typeName (factoryAfter typeName earlier)).2.attachedType channel =
        some (typeName call.message)

/-- While the types agree, a call that can create leaves its own type cached. -/
theorem cachedType_of_created {calls : List (CreateCall Message)}
    (agree : TypesAgree typeName calls) {call : CreateCall Message} (member : call ∈ calls)
    (created : call.created = true) :
    (factoryAfter typeName calls).cachedType call.name = some (typeName call.message) := by
  induction calls using List.reverseRecOn with
  | nil => exact absurd member List.not_mem_nil
  | append_singleton earlier last inductionHypothesis =>
    obtain ⟨agreeEarlier, agreeLast⟩ := throughout_concat.mp agree
    rw [factoryAfter_concat]
    obtain ⟨outcome, _⟩ := apply_callsType typeName last
      (indexed_factoryAfter typeName earlier)
    generalize last.apply typeName (factoryAfter typeName earlier) = result at outcome agreeLast
    rcases List.mem_append.mp member with old | new
    · have before := inductionHypothesis agreeEarlier old
      cases outcome with
      | hit => exact before
      | miss _ _ unknown _ _ _ others =>
        have different : call.name ≠ last.name := by
          intro same
          rw [same, unknown] at before
          cases before
        exact (others call.name different).trans before
      | fail => exact before
    · rw [List.mem_singleton.mp new] at created ⊢
      cases outcome with
      | hit channel cached known attached =>
        rw [known, ← attached]
        exact agreeLast channel rfl
      | miss _ _ _ _ _ own => exact own
      | fail _ failed => exact absurd (failed.symm.trans created) Bool.false_ne_true

/-- When types agree: every channel returned by a sequence of calls carries a topic created with
the type name of its message exactly when no name is used with two types, the first of them by a
call that can create the topic. -/
theorem types_agree_iff (typeName : Message → String) (calls : List (CreateCall Message)) :
    TypesAgree typeName calls ↔
      calls.Pairwise fun earlier later => earlier.name = later.name → earlier.created = true →
        typeName earlier.message = typeName later.message := by
  induction calls using List.reverseRecOn with
  | nil => exact ⟨fun _ => List.Pairwise.nil, fun _ => throughout_nil _⟩
  | append_singleton earlier call inductionHypothesis =>
    rw [TypesAgree, throughout_concat, List.pairwise_append, ← inductionHypothesis]
    refine and_congr_right fun agree => ?_
    have outcome := (apply_callsType typeName call (indexed_factoryAfter typeName earlier)).1
    constructor
    · intro agreeLast
      refine ⟨List.pairwise_singleton _ _, fun other member last isLast named created => ?_⟩
      cases List.mem_singleton.mp isLast
      have known := cachedType_of_created agree member created
      rw [named] at known
      generalize call.apply typeName (factoryAfter typeName earlier) = result at outcome agreeLast
      cases outcome with
      | hit channel cached same attached =>
        have own := agreeLast channel rfl
        exact Option.some.inj (known.symm.trans (same.trans (attached.symm.trans own)))
      | miss _ _ unknown => cases unknown.symm.trans known
      | fail unknown => cases unknown.symm.trans known
    · rintro ⟨_, compatible⟩ channel returned
      generalize call.apply typeName (factoryAfter typeName earlier) = result at outcome returned ⊢
      cases outcome with
      | hit _ cached known attached =>
        cases returned
        obtain ⟨source, member, named, created, rfl⟩ := created_of_cachedType known
        rw [attached, compatible source member call List.mem_cons_self named created]
      | miss _ _ _ _ attached =>
        cases returned
        exact attached
      | fail => cases returned

/-- A sensor type and a command type of the same channel name. -/
def sensorThenCommand : List (CreateCall Bool) :=
  [⟨true, "rt/low_state", true⟩, ⟨false, "rt/low_state", true⟩]

/-- The second call returns a channel whose topic has the type of the first. -/
theorem types_disagree :
    ¬ ∀ calls : List (CreateCall Bool),
      TypesAgree (fun sensor => if sensor then "LowState" else "LowCmd") calls := by
  intro claim
  have last := claim sensorThenCommand [⟨true, "rt/low_state", true⟩]
    ⟨false, "rt/low_state", true⟩ [] rfl _ rfl
  exact absurd last (by decide)

end Types

/-! ### Closed topics -/

/-- A call of `CreateTopicChannel` or of `CloseTopic`. -/
inductive FactoryCall (Message : Type) where
  | createTopicChannel (call : CreateCall Message)
  | closeTopic (topic : Option TopicId)

section Closing

variable {Message : Type} (typeName : Message → String)

def FactoryCall.apply (call : FactoryCall Message) (factory : DdsFactoryModel) :
    Option DdsTopicChannel × DdsFactoryModel :=
  match call with
  | .createTopicChannel call => call.apply typeName factory
  | .closeTopic topic => (none, factory.closeTopic topic)

/-- The factory after a sequence of calls. -/
def factoryAfterCalls (calls : List (FactoryCall Message)) : DdsFactoryModel :=
  calls.foldl (fun factory call => (call.apply typeName factory).2) .initialised

theorem factoryAfterCalls_concat (calls : List (FactoryCall Message))
    (call : FactoryCall Message) :
    factoryAfterCalls typeName (calls ++ [call]) =
      (call.apply typeName (factoryAfterCalls typeName calls)).2 := by
  unfold factoryAfterCalls
  rw [List.foldl_append]
  rfl

/-- Every entry of `topic_map_` refers to a topic that exists in the participant under the name
of the entry. -/
def DdsFactoryModel.Faithful (factory : DdsFactoryModel) : Prop :=
  ∀ topicName topic, factory.topicMap topicName = some topic →
    ∃ record, factory.participant.topics[topic]? = some record ∧ record.name = topicName ∧
      record.live = true

/-- Every topic ever created exists. -/
def DdsFactoryModel.AllLive (factory : DdsFactoryModel) : Prop :=
  ∀ (topic : TopicId) record, factory.participant.topics[topic]? = some record →
    record.live = true

/-- A factory whose topics have no endpoints. -/
structure DdsFactoryModel.Bare (factory : DdsFactoryModel) : Prop where
  indexed : factory.Indexed
  endpoints : factory.participant.endpoints = []

namespace DdsFactoryModel

/-- While all topics exist, the entries of an index are faithful. -/
theorem Indexed.faithful {factory : DdsFactoryModel} (indexed : factory.Indexed)
    (allLive : factory.AllLive) : factory.Faithful := by
  intro topicName topic entry
  obtain ⟨record, found, named⟩ := indexed.entries topicName topic entry
  exact ⟨record, found, named, allLive topic record found⟩

/-- Without endpoints a topic is destroyed when it is closed. -/
theorem Bare.closeTopic_eq {factory : DdsFactoryModel} (bare : factory.Bare) (topic : TopicId) :
    factory.closeTopic (some topic) = { factory with
      participant := { factory.participant with
        topics := factory.participant.topics.modify topic fun (record : DdsTopic) =>
          { record with live := false } } } := by
  have unused : factory.participant.topicUsed topic = false := by
    unfold DdsParticipant.topicUsed
    rw [bare.endpoints]
    rfl
  show { factory with participant := factory.participant.deleteTopic topic } = _
  unfold DdsParticipant.deleteTopic
  rw [unused]
  rfl

/-- Where a topic comes from after another has been closed. -/
theorem Bare.closeTopic_cases {factory : DdsFactoryModel} (bare : factory.Bare)
    {closed topic : TopicId} {record : DdsTopic}
    (found : (factory.closeTopic (some closed)).participant.topics[topic]? = some record) :
    ∃ before, factory.participant.topics[topic]? = some before ∧ before.name = record.name ∧
      (topic ≠ closed → before = record) := by
  rw [bare.closeTopic_eq closed, List.getElem?_modify] at found
  obtain ⟨before, there, rfl⟩ := Option.map_eq_some_iff.mp found
  refine ⟨before, there, ?_, fun different => ?_⟩
  · split <;> rfl
  · rw [if_neg (Ne.symm different)]

/-- Closing a topic keeps the index: the cache is left alone, and so are the names. -/
theorem Bare.close {factory : DdsFactoryModel} (bare : factory.Bare) (topic : TopicId) :
    (factory.closeTopic (some topic)).Bare := by
  have closed := bare.closeTopic_eq topic
  refine ⟨⟨?_, fun topicName other entry => ?_, fun other record found => ?_⟩, ?_⟩
  · rw [closed]
    exact bare.indexed.ready
  · have entry' : factory.topicMap topicName = some other := by
      rw [closed] at entry
      exact entry
    obtain ⟨record, found, named⟩ := bare.indexed.entries topicName other entry'
    rw [closed, List.getElem?_modify, found]
    refine ⟨_, rfl, ?_⟩
    split <;> exact named
  · obtain ⟨before, there, named, _⟩ := bare.closeTopic_cases found
    rw [closed, ← named]
    exact bare.indexed.topics other before there
  · rw [closed]
    exact bare.endpoints

/-- Closing a topic that does not exist keeps all topics alive. -/
theorem Bare.close_allLive {factory : DdsFactoryModel} (bare : factory.Bare)
    (allLive : factory.AllLive) {closed : TopicId}
    (dead : factory.participant.topicLive closed = false) :
    (factory.closeTopic (some closed)).AllLive := by
  intro topic record found
  obtain ⟨old, there, _, same⟩ := bare.closeTopic_cases found
  have oldLive := allLive topic old there
  by_cases here : topic = closed
  · subst here
    unfold DdsParticipant.topicLive at dead
    rw [there] at dead
    exact absurd (dead.symm.trans oldLive) Bool.false_ne_true
  · rw [← same here]
    exact oldLive

/-- Closing a topic that exists leaves the entry of its name behind. -/
theorem Bare.close_unfaithful {factory : DdsFactoryModel} (bare : factory.Bare)
    {closed : TopicId} (live : factory.participant.topicLive closed = true) :
    ¬ (factory.closeTopic (some closed)).Faithful := by
  intro faithful
  obtain ⟨record, found, _⟩ := (Option.any_eq_true _ _).mp live
  have entry := bare.indexed.topics closed record found
  rw [bare.closeTopic_eq closed] at faithful
  obtain ⟨after, there, _, afterLive⟩ := faithful record.name closed entry
  rw [List.getElem?_modify, found] at there
  simp only [if_true, Option.map_eq_map, Option.map_some, Option.some.injEq] at there
  rw [← there] at afterLive
  exact absurd afterLive Bool.false_ne_true

end DdsFactoryModel

variable {typeName}

/-- Creating channels and closing topics keeps the index and adds no endpoints. -/
theorem bare_apply (call : FactoryCall Message) {factory : DdsFactoryModel}
    (bare : factory.Bare) : (call.apply typeName factory).2.Bare := by
  cases call with
  | createTopicChannel call =>
    refine ⟨(apply_callsType typeName call bare.indexed).2, ?_⟩
    show (call.apply typeName factory).2.participant.endpoints = []
    rcases DdsFactoryModel.createTopicChannel_cases typeName call.message call.name call.created
        bare.indexed.ready with ⟨_, _, same⟩ | ⟨_, _, same⟩ | ⟨_, _, same⟩ <;>
      rw [CreateCall.apply, same] <;> exact bare.endpoints
  | closeTopic topic =>
    cases topic with
    | none => exact bare
    | some topic => exact bare.close topic

theorem bare_factoryAfterCalls (typeName : Message → String) (calls : List (FactoryCall Message)) :
    (factoryAfterCalls typeName calls).Bare := by
  induction calls using List.reverseRecOn with
  | nil => exact ⟨DdsFactoryModel.indexed_initialised, rfl⟩
  | append_singleton earlier call inductionHypothesis =>
    rw [factoryAfterCalls_concat]
    exact bare_apply call inductionHypothesis

/-- Creating a channel creates a topic that exists and closes none. -/
theorem allLive_create (call : CreateCall Message) {factory : DdsFactoryModel}
    (indexed : factory.Indexed) (allLive : factory.AllLive) :
    (call.apply typeName factory).2.AllLive := by
  rcases DdsFactoryModel.createTopicChannel_cases typeName call.message call.name call.created
      indexed.ready with ⟨_, _, same⟩ | ⟨_, _, same⟩ | ⟨_, _, same⟩
  · rw [CreateCall.apply, same]
    exact allLive
  · rw [CreateCall.apply, same]
    intro topic record found
    by_cases old : topic < factory.participant.topics.length
    · rw [List.getElem?_append_left old] at found
      exact allLive topic record found
    · rw [List.getElem?_append_right (Nat.le_of_not_lt old)] at found
      have only := List.mem_of_getElem? found
      rw [List.mem_singleton.mp only]
  · rw [CreateCall.apply, same]
    exact allLive

/-- A returned channel carries the entry of its name. -/
theorem returned_entry (call : CreateCall Message) {factory : DdsFactoryModel}
    (indexed : factory.Indexed) {channel : DdsTopicChannel}
    (returned : (call.apply typeName factory).1 = some channel) :
    ∃ topic, channel.topic = some topic ∧
      (call.apply typeName factory).2.topicMap call.name = some topic := by
  rcases DdsFactoryModel.createTopicChannel_cases typeName call.message call.name call.created
      indexed.ready with ⟨topic, cached, same⟩ | ⟨_, _, same⟩ | ⟨_, _, same⟩
  · rw [CreateCall.apply, same] at returned ⊢
    cases returned
    exact ⟨topic, rfl, cached⟩
  · rw [CreateCall.apply, same] at returned ⊢
    cases returned
    exact ⟨_, rfl, Function.update_self ..⟩
  · rw [CreateCall.apply, same] at returned
    cases returned

/-- The entries of `topic_map_` are faithful after every call, and every channel returned carries
a topic that exists then. -/
def TopicsStayLive (typeName : Message → String) : List (FactoryCall Message) → Prop :=
  Throughout fun earlier call =>
    (call.apply typeName (factoryAfterCalls typeName earlier)).2.Faithful ∧
    ∀ channel, (call.apply typeName (factoryAfterCalls typeName earlier)).1 = some channel →
      ∃ topic, channel.topic = some topic ∧
        (call.apply typeName
          (factoryAfterCalls typeName earlier)).2.participant.topicLive topic = true

/-- No call closes a topic that exists. -/
def ClosesNoTopic (typeName : Message → String) : List (FactoryCall Message) → Prop :=
  Throughout fun earlier call => ∀ topic, call = .closeTopic (some topic) →
    (factoryAfterCalls typeName earlier).participant.topicLive topic = false

/-- While no topic that exists is closed, every topic exists. -/
theorem allLive_of_closesNoTopic {calls : List (FactoryCall Message)}
    (closes : ClosesNoTopic typeName calls) : (factoryAfterCalls typeName calls).AllLive := by
  induction calls using List.reverseRecOn with
  | nil => exact fun _ _ found => nomatch found
  | append_singleton earlier call inductionHypothesis =>
    obtain ⟨before, last⟩ := throughout_concat.mp closes
    have allLive := inductionHypothesis before
    have bare := bare_factoryAfterCalls typeName earlier
    rw [factoryAfterCalls_concat]
    cases call with
    | createTopicChannel call => exact allLive_create call bare.indexed allLive
    | closeTopic topic =>
      cases topic with
      | none => exact allLive
      | some closed => exact bare.close_allLive allLive (last closed rfl)

/-- While every topic exists, a call keeps the entries faithful exactly when it does not close
one, and a channel it returns carries a topic that exists. -/
theorem staysLive_apply (call : FactoryCall Message) {factory : DdsFactoryModel}
    (bare : factory.Bare) (allLive : factory.AllLive) :
    ((call.apply typeName factory).2.Faithful ∧
      ∀ channel, (call.apply typeName factory).1 = some channel →
        ∃ topic, channel.topic = some topic ∧
          (call.apply typeName factory).2.participant.topicLive topic = true) ↔
    ∀ topic, call = .closeTopic (some topic) → factory.participant.topicLive topic = false := by
  cases call with
  | createTopicChannel call =>
    have faithful : (call.apply typeName factory).2.Faithful :=
      (apply_callsType typeName call bare.indexed).2.faithful
        (allLive_create call bare.indexed allLive)
    refine ⟨fun _ _ same => (nomatch same), fun _ => ⟨faithful, fun channel returned => ?_⟩⟩
    obtain ⟨topic, carried, entry⟩ := returned_entry call bare.indexed returned
    obtain ⟨record, found, _, live⟩ := faithful call.name topic entry
    exact ⟨topic, carried, (Option.any_eq_true _ _).mpr ⟨record, found, live⟩⟩
  | closeTopic topic =>
    cases topic with
    | none =>
      refine ⟨fun _ _ same => (nomatch same), fun _ => ⟨?_, fun _ returned => nomatch returned⟩⟩
      exact bare.indexed.faithful allLive
    | some closed =>
      constructor
      · rintro ⟨faithful, _⟩ topic same
        cases same
        refine Bool.eq_false_iff.mpr fun live => ?_
        exact bare.close_unfaithful live faithful
      · intro dead
        refine ⟨?_, fun _ returned => nomatch returned⟩
        exact (bare.close closed).indexed.faithful (bare.close_allLive allLive (dead closed rfl))

/-- When closed topics are not handed out again: for every sequence of creations and closings,
after every call all entries of `topic_map_` refer to topics that exist under their names, and all
channels returned carry topics that exist, exactly when no call closes a topic that exists. -/
theorem topics_stay_live_iff (typeName : Message → String) (calls : List (FactoryCall Message)) :
    TopicsStayLive typeName calls ↔ ClosesNoTopic typeName calls := by
  induction calls using List.reverseRecOn with
  | nil => exact ⟨fun _ => throughout_nil _, fun _ => throughout_nil _⟩
  | append_singleton earlier call inductionHypothesis =>
    have split := inductionHypothesis
    unfold TopicsStayLive ClosesNoTopic at split ⊢
    rw [throughout_concat, throughout_concat, split]
    refine and_congr_right fun closes => ?_
    exact staysLive_apply call (bare_factoryAfterCalls typeName earlier)
      (allLive_of_closesNoTopic closes)

/-- A channel for a name, its topic closed, and a second channel for the name. -/
def closedTopic : List (FactoryCall String) :=
  [.createTopicChannel ⟨"LowState", "rt/low_state", true⟩, .closeTopic (some 0),
    .createTopicChannel ⟨"LowState", "rt/low_state", true⟩]

/-- The second channel carries the closed topic. -/
theorem closed_topic_returned :
    ¬ ∀ calls : List (FactoryCall String), TopicsStayLive id calls := by
  intro claim
  obtain ⟨_, returned⟩ := claim closedTopic (closedTopic.take 2) _ [] rfl
  obtain ⟨topic, carried, live⟩ := returned _ rfl
  cases carried
  exact absurd live (by decide)

end Closing

end Booster.Common
