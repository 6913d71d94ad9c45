/-
This file models `DdsTopicChannel` and what it asks of the DDS participant.

The participant keeps every topic and every endpoint it has created, named by the
order of creation, and a log of what was done to the endpoints. A channel holds
its endpoints through shared pointers with empty deleters, so a handle held says
nothing about the endpoint behind it: an endpoint lives from its creation to its
deletion in the log. What an operation does with the endpoints is stated for the
channel and any other handles that are held at the time.
-/

import BoosterSdk.Library.OwnedHandles

namespace Booster.Common

open OwnedHandles

/-! ### The participant -/

abbrev TopicId := Nat

abbrev EndpointId := Nat

/-- A publisher or a subscriber. -/
abbrev OwnerId := Nat

structure DdsTopic where
  name : String
  typeName : String
  live : Bool

inductive EndpointKind where
  | writer
  | reader
  deriving DecidableEq

structure DdsEndpoint where
  kind : EndpointKind
  owner : OwnerId
  topic : TopicId

/-- Everything created through one participant. The log of the endpoints says which of them
have been deleted. -/
structure DdsParticipant where
  topics : List DdsTopic := []
  endpoints : List DdsEndpoint := []
  events : List (Event OwnerId EndpointId) := []

namespace DdsParticipant

/-- `create_topic`, when it succeeds. -/
def createTopic (name typeName : String) (participant : DdsParticipant) :
    TopicId × DdsParticipant :=
  (participant.topics.length,
    { participant with topics := participant.topics ++ [⟨name, typeName, true⟩] })

/-- Whether a topic exists in the participant. -/
def topicLive (topic : TopicId) (participant : DdsParticipant) : Bool :=
  (participant.topics[topic]?).any DdsTopic.live

/-- Whether an endpoint that has not been deleted uses a topic. -/
def topicUsed (topic : TopicId) (participant : DdsParticipant) : Bool :=
  (List.range participant.endpoints.length).any fun endpoint =>
    (participant.endpoints[endpoint]?).any (fun record => record.topic = topic) &&
      decide (Live participant.events endpoint)

/-- `delete_topic`: a topic without endpoints is destroyed, and any other call fails. -/
def deleteTopic (topic : TopicId) (participant : DdsParticipant) : DdsParticipant :=
  if participant.topicUsed topic then participant
  else { participant with
    topics := participant.topics.modify topic fun record => { record with live := false } }

/-- `create_datawriter` and `create_datareader`, when they succeed. -/
def createEndpoint (kind : EndpointKind) (owner : OwnerId) (topic : TopicId)
    (participant : DdsParticipant) : EndpointId × DdsParticipant :=
  (participant.endpoints.length,
    { participant with
      endpoints := participant.endpoints ++ [⟨kind, owner, topic⟩]
      events := participant.events ++ [.create owner participant.endpoints.length] })

/-- `write`, `get_publication_matched_status` and `get_subscription_matched_status`. -/
def useEndpoint (endpoint : EndpointId) (participant : DdsParticipant) : DdsParticipant :=
  { participant with events := participant.events ++ [.use endpoint] }

/-- `delete_datawriter` and `delete_datareader`. -/
def deleteEndpoint (owner : OwnerId) (endpoint : EndpointId) (participant : DdsParticipant) :
    DdsParticipant :=
  { participant with events := participant.events ++ [.delete owner endpoint] }

/-- The log is safe, the given handles are live and each is held once, and no handle of the log
is one the participant has yet to give out. -/
structure Holds (participant : DdsParticipant) (held : List EndpointId) : Prop where
  owned : Owned participant.events held
  known : ∀ event ∈ participant.events, event.handle < participant.endpoints.length

theorem Holds.perm {participant : DdsParticipant} {held rearranged : List EndpointId}
    (holds : participant.Holds held) (same : held.Perm rearranged) :
    participant.Holds rearranged :=
  ⟨holds.owned.perm same, holds.known⟩

theorem Holds.forget {participant : DdsParticipant} {held fewer : List EndpointId}
    (holds : participant.Holds held) (sublist : fewer.Sublist held) : participant.Holds fewer :=
  ⟨holds.owned.forget sublist, holds.known⟩

/-- A held handle is one the participant has given out. -/
theorem Holds.lt {participant : DdsParticipant} {held : List EndpointId}
    (holds : participant.Holds held) {endpoint : EndpointId} (member : endpoint ∈ held) :
    endpoint < participant.endpoints.length := by
  obtain ⟨⟨event, present, is⟩, _⟩ := holds.owned.live endpoint member
  rw [← is]
  exact holds.known event present

theorem Holds.create {participant : DdsParticipant} {held : List EndpointId}
    (holds : participant.Holds held) (kind : EndpointKind) (owner : OwnerId) (topic : TopicId) :
    (participant.createEndpoint kind owner topic).2.Holds
      ((participant.createEndpoint kind owner topic).1 :: held) := by
  refine ⟨holds.owned.create owner fun event member => Nat.ne_of_lt (holds.known event member),
    fun event member => ?_⟩
  show event.handle < (participant.endpoints ++ [DdsEndpoint.mk kind owner topic]).length
  rw [List.length_append, List.length_singleton]
  rcases List.mem_append.mp member with old | new
  · exact Nat.lt_succ_of_lt (holds.known event old)
  · rw [List.mem_singleton.mp new]
    exact Nat.lt_succ_self _

theorem Holds.use {participant : DdsParticipant} {held : List EndpointId}
    (holds : participant.Holds held) {endpoint : EndpointId} (member : endpoint ∈ held) :
    (participant.useEndpoint endpoint).Holds held := by
  refine ⟨holds.owned.use member, fun event present => ?_⟩
  rcases List.mem_append.mp present with old | new
  · exact holds.known event old
  · rw [List.mem_singleton.mp new]
    exact holds.lt member

theorem Holds.delete {participant : DdsParticipant} {held : List EndpointId}
    {endpoint : EndpointId} (holds : participant.Holds (endpoint :: held)) (owner : OwnerId) :
    (participant.deleteEndpoint owner endpoint).Holds held := by
  refine ⟨holds.owned.delete owner, fun event present => ?_⟩
  rcases List.mem_append.mp present with old | new
  · exact holds.known event old
  · rw [List.mem_singleton.mp new]
    exact holds.lt List.mem_cons_self

end DdsParticipant

/-! ### The channel -/

/-- The members of `DdsTopicChannel`. A listener is named by the reader it was created for. -/
structure DdsTopicChannel where
  writer : Option EndpointId := none
  reader : Option EndpointId := none
  topic : Option TopicId := none
  writerOwner : Option OwnerId := none
  readerOwner : Option OwnerId := none
  listener : Option EndpointId := none

namespace DdsTopicChannel

/-- `SetTopic`. -/
def setTopic (topic : Option TopicId) (channel : DdsTopicChannel) : DdsTopicChannel :=
  { channel with topic := topic }

/-- `CloseWriter`. -/
def closeWriter (channel : DdsTopicChannel) (participant : DdsParticipant) :
    DdsTopicChannel × DdsParticipant :=
  ({ channel with writer := none, writerOwner := none },
    match channel.writerOwner, channel.writer with
    | some owner, some writer => participant.deleteEndpoint owner writer
    | _, _ => participant)

/-- `CloseReader`. -/
def closeReader (channel : DdsTopicChannel) (participant : DdsParticipant) :
    DdsTopicChannel × DdsParticipant :=
  ({ channel with reader := none, readerOwner := none, listener := none },
    match channel.readerOwner, channel.reader with
    | some owner, some reader => participant.deleteEndpoint owner reader
    | _, _ => participant)

/-- `SetWriter`; `created` tells whether `create_datawriter` succeeds. -/
def setWriter (publisher : Option OwnerId) (created : Bool) (channel : DdsTopicChannel)
    (participant : DdsParticipant) : DdsTopicChannel × DdsParticipant :=
  match publisher, channel.topic with
  | some publisher, some topic =>
    if created then
      let (writer, participant) := participant.createEndpoint .writer publisher topic
      let (channel, participant) := channel.closeWriter participant
      ({ channel with writer := some writer, writerOwner := some publisher }, participant)
    else (channel, participant)
  | _, _ => (channel, participant)

/-- `SetReader`; `created` tells whether `create_datareader` succeeds. -/
def setReader (subscriber : Option OwnerId) (created : Bool) (channel : DdsTopicChannel)
    (participant : DdsParticipant) : DdsTopicChannel × DdsParticipant :=
  match subscriber, channel.topic with
  | some subscriber, some topic =>
    if created then
      let (reader, participant) := participant.createEndpoint .reader subscriber topic
      let (channel, participant) := channel.closeReader participant
      ({ channel with
          listener := some reader
          readerOwner := some subscriber
          reader := some reader }, participant)
    else (channel, participant)
  | _, _ => (channel, participant)

/-- `~DdsTopicChannel`. -/
def destroy (channel : DdsTopicChannel) (participant : DdsParticipant) :
    DdsTopicChannel × DdsParticipant :=
  let (channel, participant) := channel.closeReader participant
  channel.closeWriter participant

/-- `Write`; `present` tells whether the message is not null, `sent` what `write` returns. -/
def write (present sent : Bool) (channel : DdsTopicChannel) (participant : DdsParticipant) :
    Bool × DdsParticipant :=
  match channel.writer with
  | none => (false, participant)
  | some writer => if present then (sent, participant.useEndpoint writer) else (false, participant)

/-- A matched count: `status` is the current count, and none when the query fails. -/
def matchedCount (endpoint : Option EndpointId) (status : Option Int)
    (participant : DdsParticipant) : Nat × DdsParticipant :=
  match endpoint with
  | none => (0, participant)
  | some endpoint => ((status.getD 0).toNat, participant.useEndpoint endpoint)

/-- `GetMatchedSubscriptionsCount`. -/
def getMatchedSubscriptionsCount (status : Option Int) (channel : DdsTopicChannel)
    (participant : DdsParticipant) : Nat × DdsParticipant :=
  matchedCount channel.writer status participant

/-- `GetMatchedPublicationsCount`. -/
def getMatchedPublicationsCount (status : Option Int) (channel : DdsTopicChannel)
    (participant : DdsParticipant) : Nat × DdsParticipant :=
  matchedCount channel.reader status participant

/-! ### What the operations do with the endpoints -/

/-- The endpoints a channel holds. -/
def handles (channel : DdsTopicChannel) : List EndpointId :=
  channel.writer.toList ++ channel.reader.toList

variable {channel : DdsTopicChannel} {participant : DdsParticipant} {others : List EndpointId}

/-- Closing the writer deletes it, unless the channel has no owner for it. -/
theorem closeWriter_holds (holds : participant.Holds (channel.handles ++ others)) :
    (channel.closeWriter participant).2.Holds
      ((channel.closeWriter participant).1.handles ++ others) := by
  obtain ⟨writer, reader, topic, writerOwner, readerOwner, listener⟩ := channel
  rcases writer with _ | writer
  · cases writerOwner <;> exact holds
  · rcases writerOwner with _ | owner
    · exact holds.forget (List.sublist_cons_self writer _)
    · exact holds.delete owner

/-- Closing the reader deletes it, unless the channel has no owner for it. -/
theorem closeReader_holds (holds : participant.Holds (channel.handles ++ others)) :
    (channel.closeReader participant).2.Holds
      ((channel.closeReader participant).1.handles ++ others) := by
  obtain ⟨writer, reader, topic, writerOwner, readerOwner, listener⟩ := channel
  rcases reader with _ | reader
  · cases readerOwner <;> exact holds
  · have front : (writer.toList ++ [reader] ++ others).Perm
        (reader :: (writer.toList ++ [] ++ others)) := by
      rw [List.append_nil, List.append_assoc]
      exact List.perm_middle
    have first := holds.perm front
    rcases readerOwner with _ | owner
    · exact first.forget (List.sublist_cons_self reader _)
    · exact first.delete owner

/-- Replacing the writer creates one and closes the old one. -/
theorem setWriter_holds (publisher : Option OwnerId) (created : Bool)
    (holds : participant.Holds (channel.handles ++ others)) :
    (channel.setWriter publisher created participant).2.Holds
      ((channel.setWriter publisher created participant).1.handles ++ others) := by
  unfold setWriter
  split
  · rename_i publisher topic _
    cases created with
    | false => exact holds
    | true =>
      have fresh := holds.create .writer publisher topic
      have beside := fresh.perm List.perm_middle.symm
      have closed := closeWriter_holds beside
      exact closed.perm List.perm_middle
  · exact holds

/-- Replacing the reader creates one and closes the old one. -/
theorem setReader_holds (subscriber : Option OwnerId) (created : Bool)
    (holds : participant.Holds (channel.handles ++ others)) :
    (channel.setReader subscriber created participant).2.Holds
      ((channel.setReader subscriber created participant).1.handles ++ others) := by
  unfold setReader
  split
  · rename_i subscriber topic _
    cases created with
    | false => exact holds
    | true =>
      have fresh := holds.create .reader subscriber topic
      have beside := fresh.perm List.perm_middle.symm
      have closed := closeReader_holds beside
      refine closed.perm ?_
      show ((channel.writer.toList ++ []) ++ _ :: others).Perm
        (channel.writer.toList ++ [_] ++ others)
      rw [List.append_nil, List.append_assoc]
      exact List.Perm.refl _
  · exact holds

/-- Destroying a channel closes both. -/
theorem destroy_holds (holds : participant.Holds (channel.handles ++ others)) :
    (channel.destroy participant).2.Holds
      ((channel.destroy participant).1.handles ++ others) :=
  closeWriter_holds (closeReader_holds holds)

/-- Writing uses the writer the channel holds. -/
theorem write_holds (present sent : Bool)
    (holds : participant.Holds (channel.handles ++ others)) :
    (channel.write present sent participant).2.Holds (channel.handles ++ others) := by
  unfold write
  split
  · exact holds
  · rename_i writer held
    cases present with
    | false => exact holds
    | true =>
      refine holds.use (List.mem_append_left others (List.mem_append_left _ ?_))
      rw [held]
      exact List.mem_cons_self

/-- A matched count uses an endpoint that is held. -/
theorem matchedCount_holds (endpoint : Option EndpointId) (status : Option Int)
    {held : List EndpointId} (inside : ∀ handle ∈ endpoint, handle ∈ held)
    (holds : participant.Holds held) : (matchedCount endpoint status participant).2.Holds held := by
  unfold matchedCount
  split
  · exact holds
  · exact holds.use (inside _ rfl)

end DdsTopicChannel

end Booster.Common
