/-
This file closes endpoints by both paths: through the channel that holds them and
through the factory, by the name of their topic.

A channel holds its endpoints by handles that do not keep them alive, and the
factory deletes what `lookup_datawriter` or `lookup_datareader` returns without
asking which channel holds it. The state is a factory and every channel created
from it, and any operation of either may come next. As long as no lookup of the
factory finds an endpoint that a channel holds, the handles of all channels stay
live and distinct, so nothing is touched after it has been deleted; a lookup that
finds one leaves its channel with a handle on an endpoint that is gone, and the next
thing the channel does with it is too late.

A lookup may return any live endpoint of its kind, made by the factory's publisher
or subscriber, whose topic has the given name. Null, which it returns when there is
none, is deleted like an endpoint, which has no behaviour. Destroying a channel ends
its operations.
-/

import BoosterSdk.Library.Interleaving
import BoosterSdk.FactoryModel

namespace Booster.Common

open OwnedHandles Interleaving

/-! ### The close path of the factory -/

namespace DdsParticipant

/-- Whether an endpoint is live, of the given kind and owner, and its topic has the given name. -/
def serves (kind : EndpointKind) (owner : OwnerId) (topicName : String) (endpoint : EndpointId)
    (participant : DdsParticipant) : Bool :=
  decide (Live participant.events endpoint) &&
    (participant.endpoints[endpoint]?).any fun record =>
      record.kind = kind && record.owner = owner &&
        (participant.topics[record.topic]?).any fun topic => topic.name = topicName

end DdsParticipant

namespace DdsFactoryModel

/-- Look up an endpoint of a topic through its owner and delete it; `found` is what the lookup
returns. The code dereferences the owner and `delete_*` what was found, so without one of them there
is no behaviour. -/
def closeEndpoint (kind : EndpointKind) (owner : Option OwnerId) (topicName : String)
    (found : Option EndpointId) (factory : DdsFactoryModel) : Option DdsFactoryModel :=
  match owner, found with
  | some owner, some endpoint =>
    if factory.participant.serves kind owner topicName endpoint then
      some { factory with participant := factory.participant.deleteEndpoint owner endpoint }
    else none
  | _, _ => none

/-- `CloseWriter`. -/
def closeWriter (topicName : String) (found : Option EndpointId) (factory : DdsFactoryModel) :
    Option DdsFactoryModel :=
  factory.closeEndpoint .writer factory.publisher topicName found

/-- `CloseReader`. -/
def closeReader (topicName : String) (found : Option EndpointId) (factory : DdsFactoryModel) :
    Option DdsFactoryModel :=
  factory.closeEndpoint .reader factory.subscriber topicName found

/-- A close deletes a live endpoint. -/
theorem closeEndpoint_cases {kind : EndpointKind} {owner : Option OwnerId} {topicName : String}
    {found : Option EndpointId} {factory next : DdsFactoryModel}
    (closed : factory.closeEndpoint kind owner topicName found = some next) :
    ∃ owner endpoint, found = some endpoint ∧ Live factory.participant.events endpoint ∧
      next = { factory with
        participant := factory.participant.deleteEndpoint owner endpoint } := by
  unfold closeEndpoint at closed
  split at closed
  · rename_i owner endpoint
    obtain ⟨serves, same⟩ := Option.ite_none_right_eq_some.mp closed
    unfold DdsParticipant.serves at serves
    obtain ⟨live, _⟩ := (Bool.and_eq_true _ _).mp serves
    exact ⟨owner, endpoint, rfl, of_decide_eq_true live, (Option.some.inj same).symm⟩
  · cases closed

end DdsFactoryModel

/-! ### A factory and its channels -/

/-- An operation of a channel, with what the participant answers to it. -/
inductive ChannelOperation where
  | setTopic (topic : Option TopicId)
  | setWriter (publisher : Option OwnerId) (created : Bool)
  | setReader (subscriber : Option OwnerId) (created : Bool)
  | closeWriter
  | closeReader
  | write (present sent : Bool)
  | getMatchedSubscriptionsCount (status : Option Int)
  | getMatchedPublicationsCount (status : Option Int)

def ChannelOperation.apply (operation : ChannelOperation) (channel : DdsTopicChannel)
    (participant : DdsParticipant) : DdsTopicChannel × DdsParticipant :=
  match operation with
  | .setTopic topic => (channel.setTopic topic, participant)
  | .setWriter publisher created => channel.setWriter publisher created participant
  | .setReader subscriber created => channel.setReader subscriber created participant
  | .closeWriter => channel.closeWriter participant
  | .closeReader => channel.closeReader participant
  | .write present sent => (channel, (channel.write present sent participant).2)
  | .getMatchedSubscriptionsCount status =>
    (channel, (channel.getMatchedSubscriptionsCount status participant).2)
  | .getMatchedPublicationsCount status =>
    (channel, (channel.getMatchedPublicationsCount status participant).2)

/-- What an operation does with the endpoints, whichever it is. -/
theorem ChannelOperation.apply_holds (operation : ChannelOperation) {channel : DdsTopicChannel}
    {participant : DdsParticipant} {others : List EndpointId}
    (holds : participant.Holds (channel.handles ++ others)) :
    (operation.apply channel participant).2.Holds
      ((operation.apply channel participant).1.handles ++ others) := by
  have inside : ∀ handle ∈ channel.handles, handle ∈ channel.handles ++ others :=
    fun handle member => List.mem_append_left others member
  cases operation with
  | setTopic topic => exact holds
  | setWriter publisher created => exact DdsTopicChannel.setWriter_holds publisher created holds
  | setReader subscriber created => exact DdsTopicChannel.setReader_holds subscriber created holds
  | closeWriter => exact DdsTopicChannel.closeWriter_holds holds
  | closeReader => exact DdsTopicChannel.closeReader_holds holds
  | write present sent => exact DdsTopicChannel.write_holds present sent holds
  | getMatchedSubscriptionsCount status =>
    refine DdsTopicChannel.matchedCount_holds channel.writer status (fun handle held => ?_) holds
    exact inside handle (List.mem_append_left _ (Option.mem_toList.mpr held))
  | getMatchedPublicationsCount status =>
    refine DdsTopicChannel.matchedCount_holds channel.reader status (fun handle held => ?_) holds
    exact inside handle (List.mem_append_right _ (Option.mem_toList.mpr held))

/-- A factory and the channels created from it; a destroyed channel leaves `none` behind. -/
structure ChannelWorld where
  factory : DdsFactoryModel := .initialised
  channels : List (Option DdsTopicChannel) := []

inductive ChannelAction (Message : Type) where
  | createTopicChannel (call : CreateCall Message)
  | operate (index : Nat) (operation : ChannelOperation)
  | destroy (index : Nat)
  | closeWriter (topicName : String) (found : Option EndpointId)
  | closeReader (topicName : String) (found : Option EndpointId)

/-- The endpoint that the factory finds by the name of a topic, and deletes. -/
def ChannelAction.foundByName {Message : Type} : ChannelAction Message → Option EndpointId
  | .closeWriter _ found => found
  | .closeReader _ found => found
  | _ => none

namespace ChannelWorld

/-- The endpoints held through a place of the list of channels. -/
def heldBy (place : Option DdsTopicChannel) : List EndpointId :=
  (place.map DdsTopicChannel.handles).getD []

/-- The endpoints held by all channels. -/
def held (world : ChannelWorld) : List EndpointId := gather heldBy world.channels

/-- What an operation leaves in the place of its channel and in the participant. -/
def replace (index : Nat) (place : Option DdsTopicChannel) (participant : DdsParticipant)
    (world : ChannelWorld) : ChannelWorld where
  factory := { world.factory with participant := participant }
  channels := world.channels.set index place

variable {Message : Type} (typeName : Message → String)

def step (world : ChannelWorld) : ChannelAction Message → Option ChannelWorld
  | .createTopicChannel call =>
    let (channel, factory) := call.apply typeName world.factory
    some { factory := factory, channels := world.channels ++ channel.toList.map some }
  | .operate index operation =>
    match world.channels[index]? with
    | some (some channel) =>
      let (channel, participant) := operation.apply channel world.factory.participant
      some (world.replace index (some channel) participant)
    | _ => none
  | .destroy index =>
    match world.channels[index]? with
    | some (some channel) =>
      some (world.replace index none (channel.destroy world.factory.participant).2)
    | _ => none
  | .closeWriter topicName found =>
    (world.factory.closeWriter topicName found).map fun factory => { world with factory := factory }
  | .closeReader topicName found =>
    (world.factory.closeReader topicName found).map fun factory => { world with factory := factory }

/-- Any operation of the factory or of a channel may come next. -/
def system : System ChannelWorld (ChannelAction Message) where
  initial := {}
  step := step typeName

/-- A close through the factory does not find an endpoint that a channel holds. -/
def SparesChannels (world : ChannelWorld) (action : ChannelAction Message) : Prop :=
  ∀ endpoint ∈ action.foundByName, endpoint ∉ world.held

instance (world : ChannelWorld) (action : ChannelAction Message) :
    Decidable (SparesChannels world action) :=
  inferInstanceAs (Decidable (∀ endpoint ∈ action.foundByName, endpoint ∉ world.held))

/-! ### Handles stay live -/

/-- The factory can create channels, the handles of all channels are live and distinct, and the
log is safe. -/
structure Intact (world : ChannelWorld) : Prop where
  ready : world.factory.hasParticipant = true
  holds : world.factory.participant.Holds world.held

theorem intact_initial : Intact {} where
  ready := rfl
  holds := ⟨owned_nil, fun _ member => absurd member List.not_mem_nil⟩

variable {typeName} {world next : ChannelWorld}

/-- What an operation on one channel keeps, all channels keep. -/
theorem Intact.replace {index : Nat} {channel : DdsTopicChannel} {place : Option DdsTopicChannel}
    {participant : DdsParticipant} (intact : world.Intact)
    (found : world.channels[index]? = some (some channel))
    (kept : ∀ others, world.factory.participant.Holds (channel.handles ++ others) →
      participant.Holds (heldBy place ++ others)) :
    (world.replace index place participant).Intact := by
  obtain ⟨others, now, later⟩ := gather_perm_at_index heldBy found
  exact ⟨intact.ready, (kept others (intact.holds.perm now)).perm (later place).symm⟩

/-- A new channel holds no endpoint. -/
theorem held_append (topic : Option TopicId) (channels : List (Option DdsTopicChannel)) :
    gather heldBy (channels ++ [some { topic := topic }]) = gather heldBy channels := by
  rw [gather_append]
  exact List.append_nil _

/-- Creating a channel creates no endpoint. -/
theorem Intact.create (intact : world.Intact) (call : CreateCall Message) :
    Intact {
      factory := (call.apply typeName world.factory).2
      channels :=
        world.channels ++ (call.apply typeName world.factory).1.toList.map some } := by
  obtain ⟨ready, holds⟩ := intact
  rcases DdsFactoryModel.createTopicChannel_cases typeName call.message call.name call.created
      ready with ⟨topic, _, same⟩ | ⟨_, _, same⟩ | ⟨_, _, same⟩ <;> rw [CreateCall.apply, same]
  · refine ⟨ready, ?_⟩
    show world.factory.participant.Holds (gather heldBy (world.channels ++ [some _]))
    rw [held_append]
    exact holds
  · refine ⟨ready, ?_⟩
    show DdsParticipant.Holds _ (gather heldBy (world.channels ++ [some _]))
    rw [held_append]
    exact ⟨holds.owned, holds.known⟩
  · refine ⟨ready, ?_⟩
    show world.factory.participant.Holds (gather heldBy (world.channels ++ []))
    rw [List.append_nil]
    exact holds

/-- A close through the factory deletes a live endpoint and leaves the channels as they are. -/
theorem foundByName_cases {action : ChannelAction Message} {endpoint : EndpointId}
    (closes : action.foundByName = some endpoint)
    (stepped : world.step typeName action = some next) :
    Live world.factory.participant.events endpoint ∧ ∃ owner, next =
      { world with factory :=
        { world.factory with
          participant := world.factory.participant.deleteEndpoint owner endpoint } } := by
  cases action with
  | closeWriter topicName found =>
    obtain ⟨factory, closed, rfl⟩ := Option.map_eq_some_iff.mp stepped
    obtain ⟨owner, other, rfl, live, rfl⟩ := DdsFactoryModel.closeEndpoint_cases closed
    cases closes
    exact ⟨live, owner, rfl⟩
  | closeReader topicName found =>
    obtain ⟨factory, closed, rfl⟩ := Option.map_eq_some_iff.mp stepped
    obtain ⟨owner, other, rfl, live, rfl⟩ := DdsFactoryModel.closeEndpoint_cases closed
    cases closes
    exact ⟨live, owner, rfl⟩
  | createTopicChannel | operate | destroy => cases closes

/-- A close through the factory that spares the channels keeps their handles live. -/
theorem Intact.closeByName {action : ChannelAction Message} {endpoint : EndpointId}
    (intact : world.Intact) (closes : action.foundByName = some endpoint)
    (spared : SparesChannels world action) (stepped : world.step typeName action = some next) :
    next.Intact := by
  obtain ⟨live, owner, rfl⟩ := foundByName_cases closes stepped
  have taken : world.factory.participant.Holds (endpoint :: world.held) :=
    ⟨intact.holds.owned.take live (spared endpoint closes), intact.holds.known⟩
  exact ⟨intact.ready, taken.delete owner⟩

/-- One step that spares the channels, if it is a close through the factory. -/
theorem Intact.step {action : ChannelAction Message} (intact : world.Intact)
    (spared : SparesChannels world action) (stepped : world.step typeName action = some next) :
    next.Intact := by
  cases action with
  | createTopicChannel call =>
    cases stepped
    exact intact.create call
  | operate index operation =>
    simp only [ChannelWorld.step] at stepped
    split at stepped
    · rename_i channel found
      cases stepped
      exact intact.replace found fun others kept => operation.apply_holds kept
    · cases stepped
  | destroy index =>
    simp only [ChannelWorld.step] at stepped
    split at stepped
    · rename_i channel found
      cases stepped
      refine intact.replace found fun others kept => ?_
      exact (DdsTopicChannel.destroy_holds kept).forget (List.sublist_append_right _ others)
    · cases stepped
  | closeWriter topicName found =>
    obtain ⟨factory, closed, _⟩ := Option.map_eq_some_iff.mp stepped
    obtain ⟨_, endpoint, rfl, _⟩ := DdsFactoryModel.closeEndpoint_cases closed
    exact intact.closeByName rfl spared stepped
  | closeReader topicName found =>
    obtain ⟨factory, closed, _⟩ := Option.map_eq_some_iff.mp stepped
    obtain ⟨_, endpoint, rfl, _⟩ := DdsFactoryModel.closeEndpoint_cases closed
    exact intact.closeByName rfl spared stepped

theorem intact_reachable (reachable : (system typeName).ReachableBy SparesChannels world) :
    world.Intact := by
  refine System.ReachableBy.invariant intact_initial ?_ reachable
  intro world action next _ intact spared stepped
  exact intact.step spared stepped

/-- A channel can use every endpoint it holds. -/
theorem held_used (typeName : Message → String) {endpoint : EndpointId}
    (member : endpoint ∈ world.held) : ∃ action final, world.step typeName action = some final ∧
      final.factory.participant = world.factory.participant.useEndpoint endpoint := by
  obtain ⟨place, present, holds⟩ := List.mem_flatMap.mp member
  obtain ⟨index, found⟩ := List.mem_iff_getElem?.mp present
  cases place with
  | none => cases holds
  | some channel =>
    rcases List.mem_append.mp holds with writer | reader
    · refine ⟨.operate index (.write true true), _, by rw [ChannelWorld.step, found], ?_⟩
      show (channel.write true true world.factory.participant).2 = _
      rw [DdsTopicChannel.write, Option.mem_toList.mp writer]
      rfl
    · refine ⟨.operate index (.getMatchedPublicationsCount none), _,
        by rw [ChannelWorld.step, found], ?_⟩
      show (channel.getMatchedPublicationsCount none world.factory.participant).2 = _
      rw [DdsTopicChannel.getMatchedPublicationsCount, Option.mem_toList.mp reader]
      rfl

/-- After a close that does not spare the channels, the one that held the endpoint can touch it. -/
theorem touches_deleted {action : ChannelAction Message} (unspared : ¬ SparesChannels world action)
    (stepped : world.step typeName action = some next) :
    ∃ touch final, next.step typeName touch = some final ∧
      ¬ Safe final.factory.participant.events := by
  unfold SparesChannels at unspared
  push Not at unspared
  obtain ⟨endpoint, closes, holding⟩ := unspared
  obtain ⟨_, owner, rfl⟩ := foundByName_cases closes stepped
  have still : endpoint ∈ held { world with factory :=
    { world.factory with
      participant := world.factory.participant.deleteEndpoint owner endpoint } } := holding
  obtain ⟨touch, final, after, used⟩ := held_used typeName still
  refine ⟨touch, final, after, ?_⟩
  have deletion : Event.delete owner endpoint ∈
      world.factory.participant.events ++ [.delete owner endpoint] :=
    List.mem_append_right _ List.mem_cons_self
  rw [used]
  exact not_safe_append_use deletion rfl rfl

/-- In a run in which no close through the factory finds an endpoint that a channel holds, no
endpoint is deleted twice and none is written to, queried or deleted after it has been deleted. A
close that finds one lets a channel touch it after its deletion in the next step. -/
theorem endpoints_deleted_once (typeName : Message → String)
    (reachable : (system typeName).ReachableBy SparesChannels world) :
    Safe world.factory.participant.events ∧
      ∀ action next, world.step typeName action = some next → ¬ SparesChannels world action →
        ∃ touch final, next.step typeName touch = some final ∧
          ¬ Safe final.factory.participant.events :=
  ⟨(intact_reachable reachable).holds.owned.safe,
    fun _ _ stepped unspared => touches_deleted unspared stepped⟩

/-- A channel for a topic with a writer. -/
def writing (topicName : String) : List (ChannelAction String) :=
  [.createTopicChannel ⟨"LowCmd", topicName, true⟩, .operate 0 (.setWriter (some 0) true)]

/-- The factory closes the writer, and the channel writes. -/
def closedByNameRun : List (ChannelAction String) :=
  writing "rt/low_cmd" ++
    [.closeWriter "rt/low_cmd" (some 0), .operate 0 (.write true true)]

theorem closedByNameRun_isSome : ((system id).run closedByNameRun).isSome = true := rfl

/-- The state `closedByNameRun` ends in. -/
def closedByName : ChannelWorld := ((system id).run closedByNameRun).get closedByNameRun_isSome

/-- The channel writes to the writer the factory has deleted. -/
theorem write_after_delete :
    ¬ ∀ world, (system (id : String → String)).Reachable world →
      Safe world.factory.participant.events := by
  intro claim
  have safe := claim closedByName
    (System.reachable_of_run (Option.some_get closedByNameRun_isSome).symm)
  exact absurd safe (by decide)

/-- Two channels share a topic; one replaces its writer and is destroyed, the other writes on. -/
def closedByChannelRun : List (ChannelAction String) :=
  writing "rt/low_cmd" ++
    [.operate 0 (.write true true), .createTopicChannel ⟨"LowCmd", "rt/low_cmd", true⟩,
      .operate 1 (.setWriter (some 0) true), .operate 0 (.setWriter (some 0) true), .destroy 0,
      .operate 1 (.write true true)]

theorem closedByChannelRun_isSome :
    (((system id).restrict SparesChannels).run closedByChannelRun).isSome = true := rfl

/-- The state `closedByChannelRun` ends in. -/
def closedByChannel : ChannelWorld :=
  (((system id).restrict SparesChannels).run closedByChannelRun).get closedByChannelRun_isSome

/-- Nothing has been touched too late; a close by the name would let the second channel do so. -/
theorem endpoints_deleted_once_destroyed :
    Safe closedByChannel.factory.participant.events ∧
      ∃ next, closedByChannel.step id (.closeWriter "rt/low_cmd" (some 1)) = some next ∧
        ∃ touch final, next.step id touch = some final ∧
          ¬ Safe final.factory.participant.events := by
  have reachable : (system id).ReachableBy SparesChannels closedByChannel :=
    .of_restrict (System.reachable_of_run (Option.some_get closedByChannelRun_isSome).symm)
  obtain ⟨safe, exposed⟩ := endpoints_deleted_once id reachable
  obtain ⟨next, stepped⟩ : ∃ next,
      closedByChannel.step id (.closeWriter "rt/low_cmd" (some 1)) = some next := ⟨_, rfl⟩
  exact ⟨safe, next, stepped, exposed _ next stepped (by decide)⟩

end ChannelWorld

end Booster.Common
