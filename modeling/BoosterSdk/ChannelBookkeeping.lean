/-
This file proves the endpoint bookkeeping of one `DdsTopicChannel`.

Any operations may follow each other, each creation may fail, owners may differ
from call to call, and the channel is destroyed at the end. Whatever happens, an
endpoint the channel has created is either the one it holds or has been deleted
once, through the publisher or subscriber that created it, so that with a
participant whose deletions succeed on a live endpoint of its owner nothing leaks.

A reader calls its listener as long as it lives. Whether the listener is there is
a question about the single statements of `SetReader` and `CloseReader`, so both
are given here as the statements they run, one moment after another.
-/

import BoosterSdk.EndpointOwnership

namespace Booster.Common

open OwnedHandles Interleaving

/-! ### What has been deleted -/

namespace DdsParticipant

/-- Every endpoint created is held or has been deleted once, through its owner. -/
structure Settled (participant : DdsParticipant) (held : List EndpointId) : Prop where
  given : ∀ endpoint ∈ held, endpoint < participant.endpoints.length
  kept : ∀ endpoint ∈ held, deletions participant.events endpoint = []
  gone : ∀ endpoint ∉ held, deletions participant.events endpoint =
    ((participant.endpoints[endpoint]?).map DdsEndpoint.owner).toList

variable {participant : DdsParticipant} {held : List EndpointId}

theorem settled_nil : Settled {} [] where
  given := fun _ member => absurd member List.not_mem_nil
  kept := fun _ member => absurd member List.not_mem_nil
  gone := fun _ _ => rfl

theorem Settled.perm (settled : participant.Settled held) {rearranged : List EndpointId}
    (same : held.Perm rearranged) : participant.Settled rearranged where
  given := fun endpoint member => settled.given endpoint (same.mem_iff.mpr member)
  kept := fun endpoint member => settled.kept endpoint (same.mem_iff.mpr member)
  gone := fun endpoint absent => settled.gone endpoint fun member =>
    absent (same.mem_iff.mp member)

/-- Creating an endpoint leaves the records of the others. -/
theorem createEndpoint_getElem? (kind : EndpointKind) (owner : OwnerId) (topic : TopicId)
    {endpoint : EndpointId} (other : endpoint ≠ participant.endpoints.length) :
    (participant.createEndpoint kind owner topic).2.endpoints[endpoint]? =
      participant.endpoints[endpoint]? := by
  show (participant.endpoints ++ [DdsEndpoint.mk kind owner topic])[endpoint]? = _
  rw [List.getElem?_append]
  split
  · rfl
  · rename_i late
    rw [List.getElem?_eq_none (Nat.le_of_not_lt late), List.getElem?_eq_none]
    rw [List.length_singleton]
    exact Nat.sub_pos_of_lt (Nat.lt_of_le_of_ne (Nat.le_of_not_lt late) other.symm)

theorem Settled.create (settled : participant.Settled held) (kind : EndpointKind)
    (owner : OwnerId) (topic : TopicId) :
    (participant.createEndpoint kind owner topic).2.Settled
      ((participant.createEndpoint kind owner topic).1 :: held) := by
  have fresh : participant.endpoints.length ∉ held := fun member =>
    absurd (settled.given _ member) (Nat.lt_irrefl _)
  have untouched : ∀ endpoint,
      deletions (participant.createEndpoint kind owner topic).2.events endpoint =
        deletions participant.events endpoint :=
    fun endpoint => deletions_create participant.events owner _ endpoint
  refine ⟨fun endpoint member => ?_, fun endpoint member => ?_, fun endpoint absent => ?_⟩
  · show endpoint < (participant.endpoints ++ [DdsEndpoint.mk kind owner topic]).length
    rw [List.length_append, List.length_singleton]
    rcases List.mem_cons.mp member with rfl | old
    · exact Nat.lt_succ_self _
    · exact Nat.lt_succ_of_lt (settled.given endpoint old)
  · rw [untouched]
    rcases List.mem_cons.mp member with rfl | old
    · have unheld := settled.gone _ fresh
      rwa [List.getElem?_eq_none (Nat.le_refl _)] at unheld
    · exact settled.kept endpoint old
  · rw [untouched, createEndpoint_getElem? kind owner topic (List.ne_of_not_mem_cons absent)]
    exact settled.gone endpoint (List.not_mem_of_not_mem_cons absent)

theorem Settled.use (settled : participant.Settled held) (used : EndpointId) :
    (participant.useEndpoint used).Settled held := by
  have untouched : ∀ endpoint, deletions (participant.useEndpoint used).events endpoint =
      deletions participant.events endpoint :=
    fun endpoint => deletions_use participant.events used endpoint
  refine ⟨settled.given, fun endpoint member => ?_, fun endpoint absent => ?_⟩
  · rw [untouched]
    exact settled.kept endpoint member
  · rw [untouched]
    exact settled.gone endpoint absent

/-- A held endpoint is deleted through its owner, and is held no more. -/
theorem Settled.delete {endpoint : EndpointId} {record : DdsEndpoint}
    (settled : participant.Settled (endpoint :: held)) (absent : endpoint ∉ held)
    (known : participant.endpoints[endpoint]? = some record) :
    (participant.deleteEndpoint record.owner endpoint).Settled held := by
  have deleted : ∀ other,
      deletions (participant.deleteEndpoint record.owner endpoint).events other =
        deletions participant.events other ++ if endpoint = other then [record.owner] else [] :=
    fun other => deletions_delete participant.events record.owner endpoint other
  refine ⟨fun other member => settled.given other (List.mem_cons_of_mem endpoint member),
    fun other member => ?_, fun other gone => ?_⟩
  · have distinct : endpoint ≠ other := fun same => absent (same ▸ member)
    rw [deleted, if_neg distinct, List.append_nil]
    exact settled.kept other (List.mem_cons_of_mem endpoint member)
  · rw [deleted]
    by_cases same : endpoint = other
    · subst same
      rw [if_pos rfl, settled.kept endpoint List.mem_cons_self]
      show _ = ((participant.endpoints[endpoint]?).map DdsEndpoint.owner).toList
      rw [known]
      rfl
    · rw [if_neg same, List.append_nil]
      exact settled.gone other (List.not_mem_cons_of_ne_of_not_mem (Ne.symm same) gone)

end DdsParticipant

/-! ### One side of a channel -/

namespace DdsTopicChannel

/-- The writer and its publisher, or the reader and its subscriber: both are null, or the endpoint
is of the right kind and was created through the owner. -/
inductive Side (kind : EndpointKind) (participant : DdsParticipant) :
    Option EndpointId → Option OwnerId → Prop where
  | absent : Side kind participant none none
  | present (endpoint : EndpointId) (record : DdsEndpoint)
      (known : participant.endpoints[endpoint]? = some record) (ofKind : record.kind = kind) :
      Side kind participant (some endpoint) (some record.owner)

/-- The records of a participant are never changed. -/
def Extends (later earlier : DdsParticipant) : Prop :=
  ∀ (endpoint : EndpointId) (record : DdsEndpoint),
    earlier.endpoints[endpoint]? = some record → later.endpoints[endpoint]? = some record

theorem Side.later {kind : EndpointKind} {participant later : DdsParticipant}
    {endpoint : Option EndpointId} {owner : Option OwnerId}
    (side : Side kind participant endpoint owner) (extended : Extends later participant) :
    Side kind later endpoint owner := by
  cases side with
  | absent => exact .absent
  | present endpoint record known ofKind =>
    exact .present endpoint record (extended endpoint record known) ofKind

theorem Side.isSome_eq {kind : EndpointKind} {participant : DdsParticipant}
    {endpoint : Option EndpointId} {owner : Option OwnerId}
    (side : Side kind participant endpoint owner) : endpoint.isSome = owner.isSome := by
  cases side <;> rfl

theorem createEndpoint_extends (participant : DdsParticipant) (kind : EndpointKind)
    (owner : OwnerId) (topic : TopicId) :
    Extends (participant.createEndpoint kind owner topic).2 participant := by
  intro endpoint record known
  have bound := (List.getElem?_eq_some_iff.mp known).1
  rw [DdsParticipant.createEndpoint_getElem? kind owner topic (Nat.ne_of_lt bound)]
  exact known

/-- A channel whose books are in order: every endpoint created is held by it or by `others`, or
has been deleted once through its owner; its endpoints have their owners; and its listener is
the one of its reader. -/
structure Booked (channel : DdsTopicChannel) (participant : DdsParticipant)
    (others : List EndpointId) : Prop where
  settled : participant.Settled (channel.handles ++ others)
  distinct : (channel.handles ++ others).Nodup
  writers : Side .writer participant channel.writer channel.writerOwner
  readers : Side .reader participant channel.reader channel.readerOwner
  listener : channel.listener = channel.reader

variable {channel : DdsTopicChannel} {participant : DdsParticipant} {others : List EndpointId}

/-- Closing a side deletes its endpoint through the owner that created it. -/
theorem closeWriter_booked (booked : channel.Booked participant others) :
    (channel.closeWriter participant).1.Booked (channel.closeWriter participant).2 others := by
  obtain ⟨writer, reader, topic, writerOwner, readerOwner, listener⟩ := channel
  obtain ⟨settled, distinct, writers, readers, listens⟩ := booked
  cases writers with
  | absent => exact ⟨settled, distinct, .absent, readers, listens⟩
  | present writer record known ofKind =>
    have apart := List.nodup_cons.mp distinct
    exact ⟨settled.delete apart.1 known, apart.2, .absent, readers.later fun _ _ same => same,
      listens⟩

theorem closeReader_booked (booked : channel.Booked participant others) :
    (channel.closeReader participant).1.Booked (channel.closeReader participant).2 others := by
  obtain ⟨writer, reader, topic, writerOwner, readerOwner, listener⟩ := channel
  obtain ⟨settled, distinct, writers, readers, listens⟩ := booked
  cases readers with
  | absent => exact ⟨settled, distinct, writers, .absent, rfl⟩
  | present reader record known ofKind =>
    have front : (writer.toList ++ [reader] ++ others).Perm
        (reader :: (writer.toList ++ [] ++ others)) := by
      rw [List.append_nil, List.append_assoc]
      exact List.perm_middle
    have apart := List.nodup_cons.mp (front.nodup_iff.mp distinct)
    exact ⟨(settled.perm front).delete apart.1 known, apart.2,
      writers.later fun _ _ same => same, .absent, rfl⟩

/-- An endpoint just created is beside those the channel holds. -/
theorem Booked.create (booked : channel.Booked participant []) (kind : EndpointKind)
    (owner : OwnerId) (topic : TopicId) :
    channel.Booked (participant.createEndpoint kind owner topic).2
      [(participant.createEndpoint kind owner topic).1] := by
  have same : ((participant.createEndpoint kind owner topic).1 :: (channel.handles ++ [])).Perm
      (channel.handles ++ [(participant.createEndpoint kind owner topic).1]) :=
    List.perm_middle.symm
  have fresh : participant.endpoints.length ∉ channel.handles ++ [] := fun member =>
    absurd (booked.settled.given _ member) (Nat.lt_irrefl _)
  have extended := createEndpoint_extends participant kind owner topic
  refine ⟨(booked.settled.create kind owner topic).perm same, ?_, booked.writers.later extended,
    booked.readers.later extended, booked.listener⟩
  exact same.nodup_iff.mp (List.nodup_cons.mpr ⟨fresh, booked.distinct⟩)

/-- The record of the endpoint just created. -/
theorem createEndpoint_known (participant : DdsParticipant) (kind : EndpointKind)
    (owner : OwnerId) (topic : TopicId) :
    (participant.createEndpoint kind owner topic).2.endpoints[
      (participant.createEndpoint kind owner topic).1]? = some ⟨kind, owner, topic⟩ :=
  List.getElem?_concat_length

/-- Closing deletes endpoints and keeps all records. -/
theorem closeWriter_endpoints (channel : DdsTopicChannel) (participant : DdsParticipant) :
    (channel.closeWriter participant).2.endpoints = participant.endpoints := by
  unfold closeWriter
  simp only
  split <;> rfl

theorem closeReader_endpoints (channel : DdsTopicChannel) (participant : DdsParticipant) :
    (channel.closeReader participant).2.endpoints = participant.endpoints := by
  unfold closeReader
  simp only
  split <;> rfl

theorem setWriter_booked (publisher : Option OwnerId) (created : Bool)
    (booked : channel.Booked participant []) :
    (channel.setWriter publisher created participant).1.Booked
      (channel.setWriter publisher created participant).2 [] := by
  unfold setWriter
  split
  · rename_i publisher topic _
    cases created with
    | false => exact booked
    | true =>
      have closed := closeWriter_booked (booked.create .writer publisher topic)
      have known := createEndpoint_known participant .writer publisher topic
      rw [← closeWriter_endpoints channel] at known
      exact ⟨closed.settled.perm List.perm_middle, List.perm_middle.nodup_iff.mp closed.distinct,
        .present _ _ known rfl, closed.readers, closed.listener⟩
  · exact booked

theorem setReader_booked (subscriber : Option OwnerId) (created : Bool)
    (booked : channel.Booked participant []) :
    (channel.setReader subscriber created participant).1.Booked
      (channel.setReader subscriber created participant).2 [] := by
  unfold setReader
  split
  · rename_i subscriber topic _
    cases created with
    | false => exact booked
    | true =>
      have closed := closeReader_booked (booked.create .reader subscriber topic)
      have known := createEndpoint_known participant .reader subscriber topic
      rw [← closeReader_endpoints channel] at known
      have same : ∀ reader : EndpointId,
          ((channel.closeReader
            (participant.createEndpoint .reader subscriber topic).2).1.handles ++ [reader]).Perm
            (channel.writer.toList ++ [reader] ++ []) := by
        intro reader
        show ((channel.writer.toList ++ []) ++ [reader]).Perm _
        rw [List.append_nil, List.append_nil]
      exact ⟨closed.settled.perm (same _), (same _).nodup_iff.mp closed.distinct, closed.writers,
        .present _ _ known rfl, rfl⟩
  · exact booked

/-- Every operation keeps the books in order. -/
theorem apply_booked (operation : ChannelOperation) (booked : channel.Booked participant []) :
    (operation.apply channel participant).1.Booked (operation.apply channel participant).2 [] := by
  have used : ∀ endpoint, channel.Booked (participant.useEndpoint endpoint) [] :=
    fun endpoint => ⟨booked.settled.use endpoint, booked.distinct,
      booked.writers.later fun _ _ known => known, booked.readers.later fun _ _ known => known,
      booked.listener⟩
  have counts : ∀ endpoint status,
      channel.Booked (matchedCount endpoint status participant).2 [] := by
    intro endpoint status
    cases endpoint with
    | none => exact booked
    | some endpoint => exact used endpoint
  cases operation with
  | setTopic => exact ⟨booked.settled, booked.distinct, booked.writers, booked.readers,
      booked.listener⟩
  | setWriter publisher created => exact setWriter_booked publisher created booked
  | setReader subscriber created => exact setReader_booked subscriber created booked
  | closeWriter => exact closeWriter_booked booked
  | closeReader => exact closeReader_booked booked
  | write present sent =>
    simp only [ChannelOperation.apply, write]
    split
    · exact booked
    · cases present with
      | false => exact booked
      | true => exact used _
  | getMatchedSubscriptionsCount status => exact counts channel.writer status
  | getMatchedPublicationsCount status => exact counts channel.reader status

/-- An endpoint that is not deleted is one the channel or the others hold. -/
theorem Booked.mem_of_undeleted (booked : channel.Booked participant others)
    {endpoint : EndpointId} {record : DdsEndpoint}
    (known : participant.endpoints[endpoint]? = some record)
    (undeleted : deletions participant.events endpoint = []) :
    endpoint ∈ channel.handles ++ others := by
  by_contra absent
  have gone := booked.settled.gone endpoint absent
  rw [undeleted, known] at gone
  exact absurd gone (List.cons_ne_nil _ _).symm

/-- A reader that is not deleted is the reader of the channel or held by the others. -/
theorem Booked.reader_of_undeleted (booked : channel.Booked participant others)
    {endpoint : EndpointId} {record : DdsEndpoint}
    (known : participant.endpoints[endpoint]? = some record) (ofKind : record.kind = .reader)
    (undeleted : deletions participant.events endpoint = []) :
    channel.reader = some endpoint ∨ endpoint ∈ others := by
  rcases List.mem_append.mp (booked.mem_of_undeleted known undeleted) with held | other
  · rcases List.mem_append.mp held with writer | reader
    · have writers := booked.writers
      rw [Option.mem_toList.mp writer] at writers
      generalize channel.writerOwner = owner at writers
      cases writers with
      | present _ other found isWriter =>
        rw [known] at found
        rw [← Option.some.inj found, ofKind] at isWriter
        cases isWriter
    · exact Or.inl (Option.mem_toList.mp reader)
  · exact Or.inr other

end DdsTopicChannel

/-! ### The moments of an operation -/

/-- A moment inside `SetReader` or `CloseReader`: the members of the channel, the participant, and
the locals of `SetReader`, its listener and its raw reader. A listener is named by the reader it
is made for. -/
structure ReaderMoment where
  channel : DdsTopicChannel
  participant : DdsParticipant
  listener : Option EndpointId := none
  rawReader : Option EndpointId := none

namespace ReaderMoment

/-- The statements of `CloseReader`. -/
def closeReader : List (ReaderMoment → ReaderMoment) :=
  [fun moment => { moment with participant :=
      match moment.channel.readerOwner, moment.channel.reader with
      | some owner, some reader => moment.participant.deleteEndpoint owner reader
      | _, _ => moment.participant },
    fun moment => { moment with channel := { moment.channel with reader := none } },
    fun moment => { moment with channel := { moment.channel with readerOwner := none } },
    fun moment => { moment with channel := { moment.channel with listener := none } }]

/-- The statements of `SetReader` and the end of its scope, from a channel with the given topic;
`created` tells whether `create_datareader` succeeds. -/
def setReader (subscriber : Option OwnerId) (created : Bool) (topic : Option TopicId) :
    List (ReaderMoment → ReaderMoment) :=
  match subscriber, topic with
  | some subscriber, some topic =>
    let makeListener (moment : ReaderMoment) : ReaderMoment :=
      { moment with listener := some moment.participant.endpoints.length }
    let leave (moment : ReaderMoment) : ReaderMoment :=
      { moment with listener := none, rawReader := none }
    if created then
      [makeListener,
        fun moment => { moment with
          participant := (moment.participant.createEndpoint .reader subscriber topic).2
          rawReader := some (moment.participant.createEndpoint .reader subscriber topic).1 }] ++
      closeReader ++
      [fun moment => { moment with channel :=
          { moment.channel with listener := moment.listener } },
        fun moment => { moment with channel :=
          { moment.channel with readerOwner := some subscriber } },
        fun moment => { moment with channel :=
          { moment.channel with reader := moment.rawReader } },
        leave]
    else [makeListener, leave]
  | _, _ => []

/-- The moments statements go through. -/
def moments : List (ReaderMoment → ReaderMoment) → ReaderMoment → List ReaderMoment
  | [], start => [start]
  | statement :: rest, start => start :: moments rest (statement start)

/-- The moment after statements. -/
def after (statements : List (ReaderMoment → ReaderMoment)) (start : ReaderMoment) :
    ReaderMoment :=
  statements.foldl (fun moment statement => statement moment) start

/-- Every reader that is not deleted has its listener held, by `listener_` or by the local of
`SetReader`. -/
def ListenersHeld (moment : ReaderMoment) : Prop :=
  ∀ endpoint record, moment.participant.endpoints[endpoint]? = some record →
    record.kind = .reader → deletions moment.participant.events endpoint = [] →
      moment.channel.listener = some endpoint ∨ moment.listener = some endpoint

variable {channel : DdsTopicChannel} {participant : DdsParticipant} {others : List EndpointId}

/-- The statements of `CloseReader` do what `CloseReader` does. -/
theorem after_closeReader (start : ReaderMoment) :
    after closeReader start = { start with
      channel := (start.channel.closeReader start.participant).1
      participant := (start.channel.closeReader start.participant).2 } := rfl

/-- The statements of `SetReader` do what `SetReader` does. -/
theorem after_setReader (subscriber : Option OwnerId) (created : Bool) (channel : DdsTopicChannel)
    (participant : DdsParticipant) :
    after (setReader subscriber created channel.topic) ⟨channel, participant, none, none⟩ =
      ⟨(channel.setReader subscriber created participant).1,
        (channel.setReader subscriber created participant).2, none, none⟩ := by
  cases subscriber with
  | none => rfl
  | some subscriber =>
    unfold DdsTopicChannel.setReader
    cases channel.topic with
    | none => rfl
    | some topic => cases created <;> rfl

/-- A moment of a channel whose books are in order. -/
theorem listenersHeld_of_booked {moment : ReaderMoment}
    (booked : moment.channel.Booked moment.participant others)
    (inLocal : ∀ endpoint ∈ others, moment.listener = some endpoint) : moment.ListenersHeld := by
  intro endpoint record known ofKind undeleted
  rcases booked.reader_of_undeleted known ofKind undeleted with reader | other
  · exact Or.inl (booked.listener.trans reader)
  · exact Or.inr (inLocal endpoint other)

/-- A moment after the reader of a channel has been deleted, whatever has become of the members. -/
theorem listenersHeld_of_closed {moment : ReaderMoment} {channel : DdsTopicChannel}
    (booked : channel.Booked moment.participant others) (closed : channel.reader = none)
    (kept : ∀ endpoint ∈ others,
      moment.channel.listener = some endpoint ∨ moment.listener = some endpoint) :
    moment.ListenersHeld := by
  intro endpoint record known ofKind undeleted
  rcases booked.reader_of_undeleted known ofKind undeleted with reader | other
  · rw [closed] at reader
    cases reader
  · exact kept endpoint other

/-- `CloseReader` gives up a listener only after its reader has been deleted. -/
theorem closeReader_moments {start : ReaderMoment}
    (booked : start.channel.Booked start.participant others)
    (inLocal : ∀ endpoint ∈ others, start.listener = some endpoint) :
    ∀ moment ∈ moments closeReader start, moment.ListenersHeld := by
  have closed := DdsTopicChannel.closeReader_booked booked
  have later : ∀ moment : ReaderMoment,
      moment.participant = (start.channel.closeReader start.participant).2 →
      moment.listener = start.listener → moment.ListenersHeld := by
    intro moment same kept
    refine listenersHeld_of_closed (same ▸ closed) rfl fun endpoint other => Or.inr ?_
    exact kept.trans (inLocal endpoint other)
  simp only [moments, closeReader, List.forall_mem_cons]
  refine ⟨listenersHeld_of_booked booked inLocal, ?_, ?_, ?_, ?_, ?_⟩
  · exact later _ rfl rfl
  · exact later _ rfl rfl
  · exact later _ rfl rfl
  · exact later _ rfl rfl
  · exact fun _ member => absurd member List.not_mem_nil

/-- The moments of statements one after the other. -/
theorem forall_moments_append {holds : ReaderMoment → Prop}
    {first second : List (ReaderMoment → ReaderMoment)} {start : ReaderMoment}
    (early : ∀ moment ∈ moments first start, holds moment)
    (late : ∀ moment ∈ moments second (after first start), holds moment) :
    ∀ moment ∈ moments (first ++ second) start, holds moment := by
  induction first generalizing start with
  | nil => exact late
  | cons statement rest inductionHypothesis =>
    obtain ⟨now, early⟩ := List.forall_mem_cons.mp early
    exact List.forall_mem_cons.mpr ⟨now, inductionHypothesis early late⟩

/-- `SetReader` holds the new listener before the reader is created and passes it on before it lets
it go. -/
theorem setReader_moments (subscriber : Option OwnerId) (created : Bool)
    (booked : channel.Booked participant []) :
    ∀ moment ∈ moments (setReader subscriber created channel.topic)
      ⟨channel, participant, none, none⟩, moment.ListenersHeld := by
  have start : ∀ listener rawReader,
      ListenersHeld ⟨channel, participant, listener, rawReader⟩ := fun _ _ =>
    listenersHeld_of_booked booked fun _ absent => absurd absent List.not_mem_nil
  unfold setReader
  split
  · rename_i subscriber topic _
    cases created with
    | false =>
      exact List.forall_mem_cons.mpr ⟨start _ _, List.forall_mem_cons.mpr ⟨start _ _,
        List.forall_mem_cons.mpr ⟨start _ _, fun _ absent => absurd absent List.not_mem_nil⟩⟩⟩
    | true =>
      have fresh := booked.create .reader subscriber topic
      have closed := DdsTopicChannel.closeReader_booked fresh
      have held : ∀ endpoint ∈ [(participant.createEndpoint .reader subscriber topic).1],
          some participant.endpoints.length = some endpoint := fun endpoint member =>
        congrArg some (List.mem_singleton.mp member).symm
      refine forall_moments_append (forall_moments_append ?_ ?_) ?_
      · exact List.forall_mem_cons.mpr ⟨start _ _, List.forall_mem_cons.mpr ⟨start _ _,
          List.forall_mem_cons.mpr ⟨listenersHeld_of_booked fresh held,
            fun _ absent => absurd absent List.not_mem_nil⟩⟩⟩
      · exact closeReader_moments fresh held
      · simp only [moments, List.forall_mem_cons]
        refine ⟨listenersHeld_of_closed closed rfl fun endpoint member =>
          Or.inr (held endpoint member), ?_, ?_, ?_, ?_, fun _ absent =>
            absurd absent List.not_mem_nil⟩
        all_goals
          exact listenersHeld_of_closed closed rfl fun endpoint member =>
            Or.inl (held endpoint member)
  · intro moment member
    rw [List.mem_singleton.mp member]
    exact start none none

end ReaderMoment

/-! ### The life of a channel -/

/-- A channel and the participant it creates endpoints through; a destroyed channel leaves `none`
behind. -/
structure ChannelLife where
  channel : Option DdsTopicChannel := some {}
  participant : DdsParticipant := {}

inductive ChannelLifeAction where
  | operate (operation : ChannelOperation)
  | destroy

namespace ChannelLife

def step (life : ChannelLife) : ChannelLifeAction → Option ChannelLife
  | .operate operation =>
    life.channel.map fun channel =>
      let (channel, participant) := operation.apply channel life.participant
      { channel := some channel, participant := participant }
  | .destroy =>
    life.channel.map fun channel =>
      { channel := none, participant := (channel.destroy life.participant).2 }

/-- Any operation may come next, until the channel is destroyed. -/
def system : System ChannelLife ChannelLifeAction where
  initial := {}
  step := step

/-- The endpoints the channel holds, none once it is destroyed. -/
def current (life : ChannelLife) : List EndpointId := ChannelWorld.heldBy life.channel

/-- The books of a channel are in order, and after its destruction every endpoint is deleted. -/
def Kept (life : ChannelLife) : Prop :=
  match life.channel with
  | some channel => channel.Booked life.participant []
  | none => life.participant.Settled []

theorem kept_initial : Kept {} :=
  ⟨DdsParticipant.settled_nil, List.nodup_nil, .absent, .absent, rfl⟩

theorem Kept.step {life next : ChannelLife} {action : ChannelLifeAction} (kept : life.Kept)
    (stepped : life.step action = some next) : next.Kept := by
  obtain ⟨_ | channel, participant⟩ := life
  · cases action <;> cases stepped
  · cases action with
    | operate operation =>
      cases stepped
      exact DdsTopicChannel.apply_booked operation kept
    | destroy =>
      cases stepped
      have closed := DdsTopicChannel.closeWriter_booked (DdsTopicChannel.closeReader_booked kept)
      exact closed.settled

theorem kept_reachable {life : ChannelLife} (reachable : system.Reachable life) : life.Kept := by
  refine System.ReachableBy.invariant kept_initial ?_ reachable
  intro life action next _ kept _ stepped
  exact kept.step stepped

theorem Kept.settled {life : ChannelLife} (kept : life.Kept) :
    life.participant.Settled life.current := by
  obtain ⟨_ | channel, participant⟩ := life
  · exact kept
  · have settled := DdsTopicChannel.Booked.settled kept
    rwa [List.append_nil] at settled

end ChannelLife

/-- What holds of a channel between two operations: an operation that fails leaves the channel and
the participant unchanged; an endpoint is there exactly when its owner is; the listener is the
one the reader was created with; and `SetReader` and `CloseReader`, whose statements do what the
operations do, hold the listener of every reader that is not deleted at every moment. -/
structure Bookkeeping (channel : DdsTopicChannel) (participant : DdsParticipant) : Prop where
  setWriterFails : ∀ publisher created,
    publisher = none ∨ channel.topic = none ∨ created = false →
      channel.setWriter publisher created participant = (channel, participant)
  setReaderFails : ∀ subscriber created,
    subscriber = none ∨ channel.topic = none ∨ created = false →
      channel.setReader subscriber created participant = (channel, participant)
  writerOwned : channel.writer.isSome = channel.writerOwner.isSome
  readerOwned : channel.reader.isSome = channel.readerOwner.isSome
  listens : channel.listener = channel.reader
  setReaderRuns : ∀ subscriber created,
    ReaderMoment.after (ReaderMoment.setReader subscriber created channel.topic)
        ⟨channel, participant, none, none⟩ =
      ⟨(channel.setReader subscriber created participant).1,
        (channel.setReader subscriber created participant).2, none, none⟩
  setReaderHolds : ∀ subscriber created,
    ∀ moment ∈ ReaderMoment.moments
      (ReaderMoment.setReader subscriber created channel.topic) ⟨channel, participant, none, none⟩,
      moment.ListenersHeld
  closeReaderRuns :
    ReaderMoment.after ReaderMoment.closeReader ⟨channel, participant, none, none⟩ =
      ⟨(channel.closeReader participant).1, (channel.closeReader participant).2, none, none⟩
  closeReaderHolds :
    ∀ moment ∈ ReaderMoment.moments ReaderMoment.closeReader ⟨channel, participant, none, none⟩,
      moment.ListenersHeld

/-- An operation that fails changes nothing. -/
theorem DdsTopicChannel.setWriter_fails {channel : DdsTopicChannel}
    {participant : DdsParticipant} {publisher : Option OwnerId} {created : Bool}
    (fails : publisher = none ∨ channel.topic = none ∨ created = false) :
    channel.setWriter publisher created participant = (channel, participant) := by
  unfold setWriter
  split
  · rename_i publisher topic is
    rcases fails with absent | absent | refused
    · cases absent
    · rw [is] at absent
      cases absent
    · rw [refused]
      rfl
  · rfl

theorem DdsTopicChannel.setReader_fails {channel : DdsTopicChannel}
    {participant : DdsParticipant} {subscriber : Option OwnerId} {created : Bool}
    (fails : subscriber = none ∨ channel.topic = none ∨ created = false) :
    channel.setReader subscriber created participant = (channel, participant) := by
  unfold setReader
  split
  · rename_i subscriber topic is
    rcases fails with absent | absent | refused
    · cases absent
    · rw [is] at absent
      cases absent
    · rw [refused]
      rfl
  · rfl

theorem DdsTopicChannel.Booked.bookkeeping {channel : DdsTopicChannel}
    {participant : DdsParticipant} (booked : channel.Booked participant []) :
    Bookkeeping channel participant where
  setWriterFails := fun _ _ => setWriter_fails
  setReaderFails := fun _ _ => setReader_fails
  writerOwned := booked.writers.isSome_eq
  readerOwned := booked.readers.isSome_eq
  listens := booked.listener
  setReaderRuns := fun subscriber created =>
    ReaderMoment.after_setReader subscriber created channel participant
  setReaderHolds := fun subscriber created =>
    ReaderMoment.setReader_moments subscriber created booked
  closeReaderRuns := ReaderMoment.after_closeReader ⟨channel, participant, none, none⟩
  closeReaderHolds := ReaderMoment.closeReader_moments booked fun _ absent =>
    absurd absent List.not_mem_nil

/-- The endpoint bookkeeping of a channel neither leaks nor is torn by a failure. After any
operations in any order, with creations that succeed or fail and owners that differ from call to
call: every endpoint created is current and not deleted, or has been deleted exactly once, through
the publisher or subscriber that created it; after the destruction of the channel none is left;
and until then its books are kept. -/
theorem channel_endpoints_accounted {life : ChannelLife}
    (reachable : ChannelLife.system.Reachable life) :
    (∀ endpoint record, life.participant.endpoints[endpoint]? = some record →
      (endpoint ∈ life.current ∧ deletions life.participant.events endpoint = []) ∨
        (endpoint ∉ life.current ∧
          deletions life.participant.events endpoint = [record.owner])) ∧
    (life.channel = none →
      ∀ endpoint record, life.participant.endpoints[endpoint]? = some record →
        deletions life.participant.events endpoint = [record.owner]) ∧
    ∀ channel, life.channel = some channel → Bookkeeping channel life.participant := by
  have kept := ChannelLife.kept_reachable reachable
  have settled := kept.settled
  have gone : ∀ endpoint record, life.participant.endpoints[endpoint]? = some record →
      endpoint ∉ life.current → deletions life.participant.events endpoint = [record.owner] := by
    intro endpoint record known absent
    rw [settled.gone endpoint absent, known]
    rfl
  refine ⟨fun endpoint record known => ?_, fun destroyed endpoint record known => ?_,
    fun channel is => ?_⟩
  · by_cases held : endpoint ∈ life.current
    · exact Or.inl ⟨held, settled.kept endpoint held⟩
    · exact Or.inr ⟨held, gone endpoint record known held⟩
  · refine gone endpoint record known ?_
    unfold ChannelLife.current
    rw [destroyed]
    exact List.not_mem_nil
  · unfold ChannelLife.Kept at kept
    rw [is] at kept
    exact DdsTopicChannel.Booked.bookkeeping kept

/-- A reader and a writer are replaced through other owners, and one creation fails. -/
def replacedRun : List ChannelLifeAction :=
  [.operate (.setTopic (some 0)), .operate (.setWriter (some 0) true),
    .operate (.setReader (some 1) true), .operate (.setReader (some 2) true),
    .operate (.setWriter (some 3) false), .operate (.setWriter (some 3) true)]

theorem replacedRun_isSome : (ChannelLife.system.run replacedRun).isSome = true := rfl

/-- The state `replacedRun` ends in. -/
def replaced : ChannelLife := (ChannelLife.system.run replacedRun).get replacedRun_isSome

theorem channel_endpoints_accounted_replaced :
    replaced.current = [3, 2] ∧
    (∀ endpoint record, replaced.participant.endpoints[endpoint]? = some record →
      (endpoint ∈ replaced.current ∧ deletions replaced.participant.events endpoint = []) ∨
        (endpoint ∉ replaced.current ∧
          deletions replaced.participant.events endpoint = [record.owner])) ∧
    (replaced.channel = none →
      ∀ endpoint record, replaced.participant.endpoints[endpoint]? = some record →
        deletions replaced.participant.events endpoint = [record.owner]) ∧
    ∀ channel, replaced.channel = some channel → Bookkeeping channel replaced.participant :=
  ⟨rfl, channel_endpoints_accounted
    (System.reachable_of_run (Option.some_get replacedRun_isSome).symm)⟩

end Booster.Common
