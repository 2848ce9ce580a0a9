import Mathlib.Data.List.Nodup
import Codebox.Session.Finality
import Codebox.Support.Sequence

/-! # Delivery to subscribers

A subscription hands over the retained events above a cursor and goes on live. The receivers are
added to the system as observers: what they have been given is recorded beside it, and no step of
the runtime reads the record.
-/

namespace Codebox.Session

open Codebox.Support Codebox.Cloud

/-! ## Receivers -/

/-- Why a live receiver has no event for its caller. -/
inductive P0LiveReceiveError where
  | empty | lagged | runtimeStopped | closed
  deriving Repr, DecidableEq

namespace Channel

def closeError (channel : Channel) : P0LiveReceiveError :=
  match channel.closeReason with
  | .lagged => .lagged
  | .runtimeStopped => .runtimeStopped
  | .opened | .normal => .closed

/-- A channel yields what it still holds before it reports that its sender is gone. -/
def tryRecv (channel : Channel) : Except P0LiveReceiveError P0SessionEventEnvelope :=
  match channel.queue with
  | event :: _ => .ok event
  | [] => .error (if channel.registered then .empty else channel.closeError)

end Channel

/-- What a subscriber got at the handover and has received since. -/
structure P0SessionSubscription where
  afterSeq : Nat
  replay : List P0SessionEventEnvelope
  snapshot : P0SessionSnapshot
  received : List P0SessionEventEnvelope := []

def RuntimeState.channel (rt : RuntimeState) (subscriber : Nat) : Option Channel :=
  rt.channels.find? (·.subscriberId == subscriber)

/-- The system together with the subscriptions handed out so far. -/
structure Observed where
  sys : Sys
  subscriptions : Nat → Option P0SessionSubscription

namespace Observed

def subscribed (inner : Inner) (observed : Observed) (session : SessionId) (afterSeq : Nat) :
    Nat → Option P0SessionSubscription :=
  match (observed.sys.runtime.subscribe inner session afterSeq).1 with
  | .error _ => observed.subscriptions
  | .ok (replay, snapshot, subscriber) =>
      Function.update observed.subscriptions subscriber (some ⟨afterSeq, replay, snapshot, []⟩)

def receives (observed : Observed) (subscriber : Nat) : Nat → Option P0SessionSubscription :=
  match (observed.sys.runtime.channel subscriber).map Channel.tryRecv with
  | some (.ok event) => Function.update observed.subscriptions subscriber
      ((observed.subscriptions subscriber).map fun subscription =>
        { subscription with received := subscription.received ++ [event] })
  | some (.error _) | none => observed.subscriptions

/-- The record after a step. -/
def noted (inner : Inner) (observed : Observed) : Label → Nat → Option P0SessionSubscription
  | .subscribe session afterSeq => observed.subscribed inner session afterSeq
  | .receive subscriber => observed.receives subscriber
  | .startTurn _ | .cancelTurn _ _ | .reconcileUnknown _ _ | .resolveUnknown _ _ _ _ | .shutdown _
  | .dropReceiver _ | .call _ | .worker | .elapse _ => observed.subscriptions

def system (inner : Inner) (runner : CloudTaskRunner) (env : Nat → Answers) : System Observed Label where
  initial observed := (Sys.system inner runner env).initial observed.sys ∧
    observed.subscriptions = fun _ => none
  step observed label := (observed.sys.step inner runner label).map fun sys =>
    ⟨sys, observed.noted inner label⟩

end Observed

/-! ## What the feed guarantees -/

namespace Feed

/-- The log is numbered from one, the history holds its latest entries, and a channel that no
longer gets events knows why. -/
structure Ordered (inner : Inner) (feed : Feed) : Prop where
  numbered : Numbered P0SessionEventEnvelope.seq 1 feed.log
  counter : feed.log.length = feed.highWaterSeq
  bounded : feed.highWaterSeq ≤ RuntimeState.maxSeq
  history : feed.history = feed.log.rtake inner.config.historyCapacity
  fresh : ∀ channel ∈ feed.channels, channel.subscriberId < feed.nextSubscriberId
  distinct : (feed.channels.map Channel.subscriberId).Nodup
  closed : ∀ channel ∈ feed.channels, channel.registered = false →
    channel.closeReason = .lagged ∨ channel.closeReason = .runtimeStopped

/-- A subscriber has a part of the log that begins right after its cursor, and its channel holds the
next part; a channel that is registered misses nothing. -/
structure Delivers (feed : Feed) (subscriber : Nat) (subscription : P0SessionSubscription) : Prop where
  known : subscriber < feed.nextSubscriberId
  handover : subscription.snapshot.highWaterSeq = subscription.afterSeq + subscription.replay.length
  cursor : subscription.afterSeq ≤ feed.log.length
  delivered : subscription.replay ++ subscription.received <+: feed.log.drop subscription.afterSeq
  pending : ∀ channel ∈ feed.channels, channel.subscriberId = subscriber →
    subscription.replay ++ subscription.received ++ channel.queue <+: feed.log.drop subscription.afterSeq
  live : ∀ channel ∈ feed.channels, channel.subscriberId = subscriber → channel.registered = true →
    subscription.replay ++ subscription.received ++ channel.queue = feed.log.drop subscription.afterSeq

/-- A subscriber whose own channel is as before is served as before. -/
theorem Delivers.keep {feed feed' : Feed} {subscriber : Nat} {subscription : P0SessionSubscription}
    (delivers : feed.Delivers subscriber subscription) (log : feed'.log = feed.log)
    (later : feed.nextSubscriberId ≤ feed'.nextSubscriberId)
    (kept : ∀ channel ∈ feed'.channels, channel.subscriberId = subscriber → channel ∈ feed.channels) :
    feed'.Delivers subscriber subscription := by
  obtain ⟨known, handover, cursor, delivered, pending, live⟩ := delivers
  rw [← log] at cursor delivered pending live
  refine ⟨Nat.lt_of_lt_of_le known later, handover, cursor, delivered, ?_, ?_⟩
  · intro channel inside mine
    exact pending channel (kept channel inside mine) mine
  · intro channel inside mine
    exact live channel (kept channel inside mine) mine

end Feed

namespace RuntimeState

variable {inner : Inner} {rt rt' : RuntimeState} {subscriber afterSeq other : Nat}
  {subscription : P0SessionSubscription} {channel : Channel}

theorem Channel.subscriberId_comp_deliver (capacity : Nat) (event : P0SessionEventEnvelope) :
    Channel.subscriberId ∘ Channel.deliver capacity event = Channel.subscriberId := by
  funext channel
  simp only [Function.comp_apply, Channel.deliver]
  repeat' split
  all_goals rfl

/-- The event that `appendEvent` adds. -/
def nextEvent (rt : RuntimeState) (inner : Inner) (about : Option TurnId) (payload : P0SessionEvent) :
    P0SessionEventEnvelope :=
  ⟨eventSchemaVersion, inner.identity.sessionId, rt.highWaterSeq + 1, about, payload⟩

section

variable (about : Option TurnId) (payload : P0SessionEvent)

theorem ordered_appendEvent (ordered : rt.feed.Ordered inner) (room : rt.highWaterSeq < maxSeq) :
    (rt.appendEvent inner about payload).feed.Ordered inner := by
  have counter : rt.log.length = rt.highWaterSeq := ordered.counter
  constructor
  · exact ordered.numbered.concat (by rw [ordered.counter]; exact Nat.add_comm rt.highWaterSeq 1)
  · show (rt.log ++ [rt.nextEvent inner about payload]).length = rt.highWaterSeq + 1
    rw [List.length_append, counter]
    rfl
  · exact room
  · have grown : (rt.history ++ [rt.nextEvent inner about payload]).rtake inner.config.historyCapacity =
        (rt.log ++ [rt.nextEvent inner about payload]).rtake inner.config.historyCapacity := by
      have history : rt.history = rt.log.rtake inner.config.historyCapacity := ordered.history
      rw [history, rtake_rtake_concat]
    exact grown
  · intro channel inside
    obtain ⟨before, was, rfl⟩ := List.mem_map.mp inside
    have known := ordered.fresh before was
    unfold Channel.deliver
    repeat' split
    all_goals exact known
  · show ((rt.channels.map (Channel.deliver inner.config.liveCapacity _)).map Channel.subscriberId).Nodup
    rw [List.map_map, Channel.subscriberId_comp_deliver]
    exact ordered.distinct
  · intro channel inside
    obtain ⟨before, was, rfl⟩ := List.mem_map.mp inside
    have why := ordered.closed before was
    unfold Channel.deliver
    split
    · split
      · rename_i registered _
        intro closed
        cases registered.symm.trans closed
      · exact fun _ => .inl rfl
    · exact why

theorem delivers_appendEvent (delivers : rt.feed.Delivers subscriber subscription) :
    (rt.appendEvent inner about payload).feed.Delivers subscriber subscription := by
  have longer : (rt.log ++ [rt.nextEvent inner about payload]).drop subscription.afterSeq =
      rt.log.drop subscription.afterSeq ++ [rt.nextEvent inner about payload] :=
    List.drop_append_of_le_length delivers.cursor
  have further : rt.log.drop subscription.afterSeq <+:
      (rt.log ++ [rt.nextEvent inner about payload]).drop subscription.afterSeq := by
    rw [longer]
    exact List.prefix_append _ _
  have registered : ∀ channel ∈ rt.channels, channel.subscriberId = subscriber → channel.registered = true →
      subscription.replay ++ subscription.received ++
        (channel.queue ++ [rt.nextEvent inner about payload]) =
          (rt.log ++ [rt.nextEvent inner about payload]).drop subscription.afterSeq := by
    intro channel inside mine open'
    rw [longer, ← List.append_assoc]
    congr 1
    exact delivers.live channel inside mine open'
  constructor
  · exact delivers.known
  · exact delivers.handover
  · exact Nat.le_trans delivers.cursor (by simp [feed, appendEvent])
  · exact delivers.delivered.trans further
  · intro channel inside
    obtain ⟨before, was, rfl⟩ := List.mem_map.mp inside
    have pending := delivers.pending before was
    have next := registered before was
    unfold Channel.deliver
    split
    · rename_i open'
      split
      · intro mine
        exact ⟨[], by rw [List.append_nil]; exact next mine open'⟩
      · exact fun mine => (pending mine).trans further
    · exact fun mine => (pending mine).trans further
  · intro channel inside
    obtain ⟨before, was, rfl⟩ := List.mem_map.mp inside
    have next := registered before was
    unfold Channel.deliver
    split
    · rename_i open'
      split
      · intro mine _
        exact next mine open'
      · intro _ closed
        cases closed
    · rename_i shut
      exact fun _ open' => absurd open' shut

end

theorem ordered_closeSubscribers (ordered : rt.feed.Ordered inner) :
    (rt.closeSubscribers .runtimeStopped).feed.Ordered inner := by
  refine ⟨ordered.numbered, ordered.counter, ordered.bounded, ordered.history, ?_, ?_, ?_⟩
  · intro channel inside
    obtain ⟨before, was, rfl⟩ := List.mem_map.mp inside
    have known := ordered.fresh before was
    split
    · exact known
    · exact known
  · have same : Channel.subscriberId ∘ (fun channel : Channel =>
        if channel.registered then { channel with registered := false, closeReason := .runtimeStopped }
        else channel) = Channel.subscriberId := by
      funext channel
      simp only [Function.comp_apply]
      split <;> rfl
    show ((rt.channels.map _).map Channel.subscriberId).Nodup
    rw [List.map_map, same]
    exact ordered.distinct
  · intro channel inside
    obtain ⟨before, was, rfl⟩ := List.mem_map.mp inside
    have why := ordered.closed before was
    split
    · exact fun _ => .inr rfl
    · exact why

theorem delivers_closeSubscribers {reason : CloseReason} (delivers : rt.feed.Delivers subscriber subscription) :
    (rt.closeSubscribers reason).feed.Delivers subscriber subscription := by
  refine ⟨delivers.known, delivers.handover, delivers.cursor, delivers.delivered, ?_, ?_⟩
  · intro channel inside
    obtain ⟨before, was, rfl⟩ := List.mem_map.mp inside
    have pending := delivers.pending before was
    split
    · exact pending
    · exact pending
  · intro channel inside
    obtain ⟨before, was, rfl⟩ := List.mem_map.mp inside
    split
    · intro _ open'
      cases open'
    · exact delivers.live before was

theorem Publishes.ordered (published : Publishes False inner rt rt') (ordered : rt.feed.Ordered inner) :
    rt'.feed.Ordered inner := by
  induction published with
  | quiet same stays =>
      rw [same]
      exact ordered
  | append about payload room up going => exact ordered_appendEvent about payload ordered room
  | stop about reason room up reported stopped =>
      rw [reported]
      exact ordered_closeSubscribers (ordered_appendEvent about _ ordered room)
  | stopSilently closed stopped =>
      rw [closed]
      exact ordered_closeSubscribers ordered
  | trans _ _ first second => exact second (first ordered)

theorem Publishes.delivers (published : Publishes False inner rt rt')
    (delivers : rt.feed.Delivers subscriber subscription) : rt'.feed.Delivers subscriber subscription := by
  induction published with
  | quiet same stays =>
      rw [same]
      exact delivers
  | append about payload room up going => exact delivers_appendEvent about payload delivers
  | stop about reason room up reported stopped =>
      rw [reported]
      exact delivers_closeSubscribers (delivers_appendEvent about _ delivers)
  | stopSilently closed stopped =>
      rw [closed]
      exact delivers_closeSubscribers delivers
  | trans _ _ first second => exact second (first delivers)

/-! ## Subscribers come and go -/

/-- The state with one more channel. -/
def registering (rt : RuntimeState) : RuntimeState :=
  { rt with
    nextSubscriberId := rt.nextSubscriberId + 1
    channels := rt.channels ++ [⟨rt.nextSubscriberId, [], true, .opened⟩] }

theorem mem_registering : channel ∈ rt.registering.channels ↔
    channel ∈ rt.channels ∨ channel = ⟨rt.nextSubscriberId, [], true, .opened⟩ := by
  simp [registering]

theorem subscribe_cases (inner : Inner) (rt : RuntimeState) (session : SessionId) (afterSeq : Nat) :
    (∃ error, rt.subscribe inner session afterSeq = (.error error, rt)) ∨
      afterSeq ≤ rt.highWaterSeq ∧
      (∀ oldest, rt.history.head? = some oldest → oldest.seq - 1 ≤ afterSeq) ∧
      rt.subscribe inner session afterSeq =
        (.ok (rt.history.filter (fun event => decide (afterSeq < event.seq)), rt.snapshot inner,
          rt.nextSubscriberId), rt.registering) := by
  unfold subscribe
  split
  · exact .inl ⟨_, rfl⟩
  · split
    · exact .inl ⟨_, rfl⟩
    · split
      · exact .inl ⟨_, rfl⟩
      · rename_i past
        split
        · exact .inl ⟨_, rfl⟩
        · rename_i retained
          split
          · exact .inl ⟨_, rfl⟩
          · refine .inr ⟨Nat.le_of_not_lt past, ?_, rfl⟩
            intro oldest first
            simpa [first] using retained

/-- The history reaches back to every accepted cursor. -/
theorem replay_eq_drop (ordered : rt.feed.Ordered inner)
    (retained : ∀ oldest, rt.history.head? = some oldest → oldest.seq - 1 ≤ afterSeq) :
    rt.history.filter (fun event => decide (afterSeq < event.seq)) = rt.log.drop afterSeq := by
  have history : rt.history = rt.log.drop (rt.log.length - inner.config.historyCapacity) := ordered.history
  have numbered := ordered.numbered.drop (rt.log.length - inner.config.historyCapacity)
  have numbered : Numbered P0SessionEventEnvelope.seq (1 + (rt.log.length - inner.config.historyCapacity))
      rt.history := by
    rw [history]
    exact numbered
  by_cases empty : rt.history = []
  · have short : rt.log = [] := by
      rw [history, List.drop_eq_nil_iff] at empty
      have capacity := inner.config.historyBounds.1
      exact List.eq_nil_of_length_eq_zero (by omega)
    simp [empty, short]
  · obtain ⟨oldest, rest, cut⟩ := List.exists_cons_of_ne_nil empty
    have first := retained oldest (by rw [cut]; rfl)
    have number : oldest.seq = 1 + (rt.log.length - inner.config.historyCapacity) := by
      rw [cut] at numbered
      exact (Numbered.cons_iff.mp numbered).1
    rw [numbered.filter_lt afterSeq (by omega), history, List.drop_drop]
    congr 1
    omega

theorem ordered_registering (ordered : rt.feed.Ordered inner) : rt.registering.feed.Ordered inner := by
  refine ⟨ordered.numbered, ordered.counter, ordered.bounded, ordered.history, ?_, ?_, ?_⟩
  · intro channel inside
    obtain was | rfl := mem_registering.mp inside
    · exact Nat.lt_succ_of_lt (ordered.fresh channel was)
    · exact Nat.lt_succ_self _
  · show ((rt.channels ++ [_]).map Channel.subscriberId).Nodup
    rw [List.map_append, List.map_singleton, ← List.concat_eq_append]
    refine List.Nodup.concat ?_ ordered.distinct
    intro earlier
    obtain ⟨channel, inside, same⟩ := List.mem_map.mp earlier
    exact Nat.ne_of_lt (ordered.fresh channel inside) same
  · intro channel inside
    obtain was | rfl := mem_registering.mp inside
    · exact ordered.closed channel was
    · intro shut
      cases shut

theorem delivers_registering (delivers : rt.feed.Delivers subscriber subscription) :
    rt.registering.feed.Delivers subscriber subscription := by
  refine delivers.keep rfl (Nat.le_succ _) ?_
  intro channel inside mine
  obtain was | rfl := mem_registering.mp inside
  · exact was
  · exact absurd delivers.known (mine ▸ Nat.lt_irrefl _)

/-- The handover leaves no gap between the replay and the new channel. -/
theorem delivers_new (ordered : rt.feed.Ordered inner) (past : afterSeq ≤ rt.highWaterSeq) :
    rt.registering.feed.Delivers rt.nextSubscriberId
      ⟨afterSeq, rt.log.drop afterSeq, rt.snapshot inner, []⟩ := by
  have counter : rt.log.length = rt.highWaterSeq := ordered.counter
  have whole : ∀ channel ∈ rt.registering.channels, channel.subscriberId = rt.nextSubscriberId →
      rt.log.drop afterSeq ++ [] ++ channel.queue = rt.log.drop afterSeq := by
    intro channel inside mine
    obtain was | rfl := mem_registering.mp inside
    · exact absurd mine (Nat.ne_of_lt (ordered.fresh channel was))
    · simp
  refine ⟨Nat.lt_succ_self _, ?_, counter ▸ past, ?_, ?_, ?_⟩
  · show rt.highWaterSeq = afterSeq + (rt.log.drop afterSeq).length
    rw [List.length_drop, counter]
    omega
  · simp [feed, registering]
  · intro channel inside mine
    exact ⟨[], by rw [List.append_nil]; exact whole channel inside mine⟩
  · intro channel inside mine _
    exact whole channel inside mine

/-- A receiver takes the oldest event of its own channel. -/
def taking (subscriber : Nat) (channel : Channel) : Channel :=
  if channel.subscriberId = subscriber then { channel with queue := channel.queue.tail } else channel

@[simp] theorem taking_subscriberId (channel : Channel) :
    (taking subscriber channel).subscriberId = channel.subscriberId := by
  unfold taking
  split <;> rfl

@[simp] theorem taking_registered (channel : Channel) :
    (taking subscriber channel).registered = channel.registered := by
  unfold taking
  split <;> rfl

@[simp] theorem taking_closeReason (channel : Channel) :
    (taking subscriber channel).closeReason = channel.closeReason := by
  unfold taking
  split <;> rfl

theorem mem_receive : channel ∈ (rt.receive subscriber).channels ↔
    ∃ before ∈ rt.channels, taking subscriber before = channel := List.mem_map

theorem ordered_receive (ordered : rt.feed.Ordered inner) : (rt.receive subscriber).feed.Ordered inner := by
  refine ⟨ordered.numbered, ordered.counter, ordered.bounded, ordered.history, ?_, ?_, ?_⟩
  · intro channel inside
    obtain ⟨before, was, rfl⟩ := mem_receive.mp inside
    rw [taking_subscriberId]
    exact ordered.fresh before was
  · show ((rt.channels.map (taking subscriber)).map Channel.subscriberId).Nodup
    have same : Channel.subscriberId ∘ taking subscriber = Channel.subscriberId := by
      funext channel
      exact taking_subscriberId channel
    rw [List.map_map, same]
    exact ordered.distinct
  · intro channel inside
    obtain ⟨before, was, rfl⟩ := mem_receive.mp inside
    rw [taking_registered, taking_closeReason]
    exact ordered.closed before was

theorem delivers_receive_other (apart : subscriber ≠ other) (delivers : rt.feed.Delivers subscriber subscription) :
    (rt.receive other).feed.Delivers subscriber subscription := by
  refine delivers.keep rfl (Nat.le_refl _) ?_
  intro channel inside mine
  obtain ⟨before, was, rfl⟩ := mem_receive.mp inside
  rw [taking_subscriberId] at mine
  rw [taking, if_neg (mine ▸ apart)]
  exact was

theorem delivers_receive_nothing (delivers : rt.feed.Delivers subscriber subscription)
    (nothing : ∀ channel ∈ rt.channels, channel.subscriberId = subscriber → channel.queue = []) :
    (rt.receive subscriber).feed.Delivers subscriber subscription := by
  refine delivers.keep rfl (Nat.le_refl _) ?_
  intro channel inside mine
  obtain ⟨⟨id, queue, registered, reason⟩, was, rfl⟩ := mem_receive.mp inside
  rw [taking_subscriberId] at mine
  obtain rfl : queue = [] := nothing _ was mine
  rw [taking, if_pos mine]
  exact was

/-- A subscriber has one channel. -/
theorem channel_unique {other : Channel} (ordered : rt.feed.Ordered inner)
    (found : rt.channel subscriber = some channel) (inside : other ∈ rt.channels)
    (mine : other.subscriberId = subscriber) : other = channel := by
  have own : channel.subscriberId = subscriber := by simpa using List.find?_some found
  exact List.inj_on_of_nodup_map ordered.distinct inside (List.mem_of_find?_eq_some found)
    (mine.trans own.symm)

theorem delivers_receive {event : P0SessionEventEnvelope} {rest : List P0SessionEventEnvelope}
    (ordered : rt.feed.Ordered inner) (delivers : rt.feed.Delivers subscriber subscription)
    (found : rt.channel subscriber = some channel) (holds : channel.queue = event :: rest) :
    (rt.receive subscriber).feed.Delivers subscriber
      { subscription with received := subscription.received ++ [event] } := by
  have inside : channel ∈ rt.channels := List.mem_of_find?_eq_some found
  have mine : channel.subscriberId = subscriber := by simpa using List.find?_some found
  have moved : ∀ after ∈ (rt.receive subscriber).channels, after.subscriberId = subscriber →
      after.registered = channel.registered ∧
      subscription.replay ++ (subscription.received ++ [event]) ++ after.queue =
        subscription.replay ++ subscription.received ++ channel.queue := by
    intro after inside' own
    obtain ⟨before, was, rfl⟩ := mem_receive.mp inside'
    rw [taking_subscriberId] at own
    obtain rfl := channel_unique ordered found was own
    refine ⟨taking_registered before, ?_⟩
    rw [taking, if_pos own, holds]
    simp
  refine ⟨delivers.known, delivers.handover, delivers.cursor, ?_, ?_, ?_⟩
  · have pending := delivers.pending channel inside mine
    rw [holds] at pending
    refine List.IsPrefix.trans ?_ pending
    simp
  · intro after inside' own
    rw [(moved after inside' own).2]
    exact delivers.pending channel inside mine
  · intro after inside' own registered
    rw [(moved after inside' own).2]
    exact delivers.live channel inside mine ((moved after inside' own).1 ▸ registered)

theorem ordered_dropReceiver (ordered : rt.feed.Ordered inner) :
    (rt.dropReceiver subscriber).feed.Ordered inner := by
  have kept : ∀ channel ∈ (rt.dropReceiver subscriber).channels, channel ∈ rt.channels :=
    fun channel inside => (List.mem_filter.mp inside).1
  exact ⟨ordered.numbered, ordered.counter, ordered.bounded, ordered.history,
    fun channel inside => ordered.fresh channel (kept channel inside),
    ordered.distinct.sublist (List.filter_sublist.map _),
    fun channel inside => ordered.closed channel (kept channel inside)⟩

theorem delivers_dropReceiver (delivers : rt.feed.Delivers subscriber subscription) :
    (rt.dropReceiver other).feed.Delivers subscriber subscription :=
  delivers.keep rfl (Nat.le_refl _) fun _ inside _ => (List.mem_filter.mp inside).1

end RuntimeState

/-! ## Runs -/

namespace Observed

variable {inner : Inner} {runner : CloudTaskRunner} {env : Nat → Answers} {observed observed' : Observed}

/-- The feed is in order and has served every subscriber. -/
structure Serves (inner : Inner) (rt : RuntimeState) (subscriptions : Nat → Option P0SessionSubscription) :
    Prop where
  ordered : rt.feed.Ordered inner
  served : ∀ subscriber subscription, subscriptions subscriber = some subscription →
    rt.feed.Delivers subscriber subscription

theorem Serves.publish {rt rt' : RuntimeState} {subscriptions : Nat → Option P0SessionSubscription}
    (serves : Serves inner rt subscriptions) (published : RuntimeState.Publishes False inner rt rt') :
    Serves inner rt' subscriptions :=
  ⟨published.ordered serves.ordered, fun subscriber subscription found =>
    published.delivers (serves.served subscriber subscription found)⟩

section

variable (serves : Serves inner observed.sys.runtime observed.subscriptions)

include serves

theorem Serves.subscribe (session : SessionId) (afterSeq : Nat) :
    Serves inner (observed.sys.runtime.subscribe inner session afterSeq).2
      (observed.subscribed inner session afterSeq) := by
  obtain ⟨ordered, served⟩ := serves
  unfold subscribed
  obtain ⟨error, refused⟩ | ⟨past, retained, accepted⟩ :=
    RuntimeState.subscribe_cases inner observed.sys.runtime session afterSeq
  · rw [refused]
    exact ⟨ordered, served⟩
  · rw [accepted, RuntimeState.replay_eq_drop ordered retained]
    refine ⟨RuntimeState.ordered_registering ordered, fun subscriber subscription found => ?_⟩
    by_cases new : subscriber = observed.sys.runtime.nextSubscriberId
    · subst new
      dsimp only at found
      rw [Function.update_self] at found
      cases found
      exact RuntimeState.delivers_new ordered past
    · dsimp only at found
      rw [Function.update_of_ne new] at found
      exact RuntimeState.delivers_registering (served subscriber subscription found)

theorem Serves.receive (subscriber : Nat) :
    Serves inner (observed.sys.runtime.receive subscriber) (observed.receives subscriber) := by
  obtain ⟨ordered, served⟩ := serves
  refine ⟨RuntimeState.ordered_receive ordered, fun other subscription found => ?_⟩
  unfold receives at found
  cases has : observed.sys.runtime.channel subscriber with
  | none =>
      rw [has] at found
      have delivers := served other subscription found
      by_cases mine : other = subscriber
      · subst mine
        have absent : ∀ channel ∈ observed.sys.runtime.channels, channel.subscriberId ≠ other := by
          simpa [RuntimeState.channel] using has
        exact RuntimeState.delivers_receive_nothing delivers fun channel inside own =>
          absurd own (absent channel inside)
      · exact RuntimeState.delivers_receive_other mine delivers
  | some channel =>
      rw [has] at found
      cases holds : channel.queue with
      | nil =>
          simp only [Option.map_some, Channel.tryRecv, holds] at found
          have delivers := served other subscription found
          by_cases mine : other = subscriber
          · subst mine
            exact RuntimeState.delivers_receive_nothing delivers fun after inside own =>
              (RuntimeState.channel_unique ordered has inside own) ▸ holds
          · exact RuntimeState.delivers_receive_other mine delivers
      | cons event rest =>
          simp only [Option.map_some, Channel.tryRecv, holds] at found
          by_cases mine : other = subscriber
          · subst mine
            rw [Function.update_self] at found
            obtain ⟨before, was, rfl⟩ := Option.map_eq_some_iff.mp found
            exact RuntimeState.delivers_receive ordered (served other before was) has holds
          · rw [Function.update_of_ne mine] at found
            exact RuntimeState.delivers_receive_other mine (served other subscription found)

theorem Serves.step {label : Label} (stepped : (system inner runner env).step observed label = some observed') :
    Serves inner observed'.sys.runtime observed'.subscriptions := by
  obtain ⟨sys', moved, rfl⟩ := Option.map_eq_some_iff.mp stepped
  clear stepped
  cases label with
  | subscribe session afterSeq =>
      cases Option.some.inj moved
      exact serves.subscribe session afterSeq
  | receive subscriber =>
      cases Option.some.inj moved
      exact serves.receive subscriber
  | dropReceiver subscriber =>
      cases Option.some.inj moved
      exact ⟨RuntimeState.ordered_dropReceiver serves.ordered, fun other subscription found =>
        RuntimeState.delivers_dropReceiver (serves.served other subscription found)⟩
  | _ => exact serves.publish (Sys.step_publishes False.elim False.elim rfl moved)

end

theorem serves_reachable (reachable : (system inner runner env).Reachable observed) :
    Serves inner observed.sys.runtime observed.subscriptions := by
  apply reachable.invariant
  · rintro ⟨sys, subscriptions⟩ ⟨⟨process, -, built⟩, nobody⟩
    dsimp only at *
    have feed := Sys.new_feed built
    constructor
    · rw [feed]
      exact ⟨.nil, rfl, Nat.zero_le _, by simp, by simp, by simp, by simp⟩
    · intro subscriber subscription found
      rw [nobody] at found
      cases found
  · intro observed label observed' _ serves _ stepped
    exact serves.step stepped

/-- The observers do not change what the system does. -/
theorem reachable_sys {sys : Sys} : (Sys.system inner runner env).Reachable sys ↔
    ∃ subscriptions, (system inner runner env).Reachable ⟨sys, subscriptions⟩ := by
  constructor
  · intro reachable
    induction reachable with
    | initial begins => exact ⟨_, .initial ⟨begins, rfl⟩⟩
    | step _ _ stepped ih =>
        obtain ⟨subscriptions, before⟩ := ih
        exact ⟨_, .step before trivial (Option.map_eq_some_iff.mpr ⟨_, stepped, rfl⟩)⟩
  · rintro ⟨subscriptions, reachable⟩
    generalize same : (⟨sys, subscriptions⟩ : Observed) = observed at reachable
    have known : (Sys.system inner runner env).Reachable observed.sys := by
      apply reachable.invariant
      · intro observed begins
        exact .initial begins.1
      · intro observed label observed' _ before _ stepped
        obtain ⟨sys', moved, rfl⟩ := Option.map_eq_some_iff.mp stepped
        exact .step before trivial moved
    rwa [← same] at known

/-- Events are numbered from one without gap or repeat and the counter never overflows; the history
is the end of the log; every subscriber has a contiguous run that begins after its cursor, whose
replay ends at the high water of its snapshot; and a receiver that has missed something reports why
once it has been given everything that was queued. -/
theorem gap_free_delivery (reachable : (system inner runner env).Reachable observed) :
    observed.sys.runtime.log.map (·.seq) = List.range' 1 observed.sys.runtime.highWaterSeq ∧
    observed.sys.runtime.highWaterSeq ≤ RuntimeState.maxSeq ∧
    observed.sys.runtime.history = observed.sys.runtime.log.drop
      (observed.sys.runtime.highWaterSeq - inner.config.historyCapacity) ∧
    observed.sys.runtime.history.length =
      min inner.config.historyCapacity observed.sys.runtime.highWaterSeq ∧
    ∀ subscriber subscription, observed.subscriptions subscriber = some subscription →
      subscription.replay ++ subscription.received <+:
        observed.sys.runtime.log.drop subscription.afterSeq ∧
      (subscription.replay ++ subscription.received).map (·.seq) = List.range' (subscription.afterSeq + 1)
        (subscription.replay ++ subscription.received).length ∧
      subscription.snapshot.highWaterSeq = subscription.afterSeq + subscription.replay.length ∧
      ∀ channel, observed.sys.runtime.channel subscriber = some channel →
        subscription.replay ++ subscription.received ++ channel.queue <+:
          observed.sys.runtime.log.drop subscription.afterSeq ∧
        (channel.queue = [] → subscription.replay ++ subscription.received ≠
            observed.sys.runtime.log.drop subscription.afterSeq →
          channel.tryRecv = .error .lagged ∨ channel.tryRecv = .error .runtimeStopped ∨
            channel.tryRecv = .error .closed) := by
  obtain ⟨ordered, served⟩ := serves_reachable reachable
  generalize observed.sys.runtime = rt at *
  have counter : rt.log.length = rt.highWaterSeq := ordered.counter
  have history : rt.history = rt.log.drop (rt.highWaterSeq - inner.config.historyCapacity) := by
    rw [← counter]
    exact ordered.history
  refine ⟨?_, ordered.bounded, history, ?_, fun subscriber subscription found => ?_⟩
  · rw [← counter]
    exact ordered.numbered
  · rw [history, List.length_drop, counter]
    omega
  have delivers := served subscriber subscription found
  have numbered := (ordered.numbered.drop subscription.afterSeq).beginning delivers.delivered
  rw [Nat.add_comm] at numbered
  refine ⟨delivers.delivered, numbered, delivers.handover, fun channel has => ?_⟩
  have inside : channel ∈ rt.channels := List.mem_of_find?_eq_some has
  have mine : channel.subscriberId = subscriber := by simpa using List.find?_some has
  refine ⟨delivers.pending channel inside mine, fun empty missing => ?_⟩
  have shut : channel.registered = false := by
    rw [Bool.eq_false_iff]
    intro registered
    have live := delivers.live channel inside mine registered
    rw [empty, List.append_nil] at live
    exact missing live
  obtain why | why := ordered.closed channel inside shut
  · exact .inl (by simp [Channel.tryRecv, Channel.closeError, empty, shut, why])
  · exact .inr (.inl (by simp [Channel.tryRecv, Channel.closeError, empty, shut, why]))

end Observed

/-- A subscriber that asks for everything gets the first turn's events across the handover. -/
theorem first_turn_delivered :
    ∃ (observed : Observed) (subscription : P0SessionSubscription),
      (Observed.system plainInner plainRunner fun _ => plainAnswers).Reachable observed ∧
      observed.subscriptions 1 = some subscription ∧
      (subscription.replay ++ subscription.received).map (·.seq) = [1, 2] := by
  have first : Sys.first plainInner plainRunner (fun _ => plainAnswers) = some _ := rfl
  have begun : (Observed.system plainInner plainRunner fun _ => plainAnswers).Reachable ⟨_, fun _ => none⟩ :=
    .initial ⟨Sys.first_initial first, rfl⟩
  have reachable := begun.run (show (Observed.system plainInner plainRunner fun _ => plainAnswers).run _
    [.startTurn ⟨['p']⟩, .subscribe 1 0, .cancelTurn 0 .operator, .receive 1] = some _ from rfl)
  have delivered := (Observed.gap_free_delivery reachable).2.2.2.2 1 _ rfl
  exact ⟨_, _, reachable, rfl, delivered.2.1⟩

end Codebox.Session
