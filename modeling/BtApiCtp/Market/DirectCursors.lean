/-
# Market.DirectCursors -- the direct session is reliable

What each call of the session does to its channels, compared with what the consumer of one
channel has seen (`Theory.Cursors`): the consumer knows the channel's epoch, has seen no number
beyond the channel's sequence, the very last one unless a poll failed, and a restart it was told
of is one the channel waits for.  Epochs that were seen, or are prepared for a channel, have
been made; one that is prepared was not seen yet.

`channel_reliable` is the result, for every sequence of calls and every answer of the provider.
-/
import BtApiCtp.Market.Direct
import BtApiCtp.Theory.Journal

namespace BtApiCtp.Market.Direct

open Theory Theory.Cursors

variable {channel after : Channel} {token epoch : Nat} {befores afters : List Channel}
  {view : View Nat} {more other : Nat} {before : Channel} (replies : Replies) (route : String)

/-! ## What a consumer sees -/

/-- What an event tells the consumer of a channel. -/
def TickEvent.notice (token : Nat) (event : TickEvent) : Option (Notice Nat) :=
  if event.token = token then some (.event event.epoch event.sequence) else none

/-- What the consumer of a channel sees of a happening. -/
def Happening.notices (token : Nat) : Happening → List (Notice Nat)
  | .bound other epoch => if other = token then [.bound epoch] else []
  | .returned events => events.filterMap (TickEvent.notice token)
  | .failed => [.failed]
  | .restarted => [.restarted]

def noticesOf (token : Nat) (history : List Happening) : List (Notice Nat) :=
  history.flatMap (Happening.notices token)

def viewOf (token : Nat) (history : List Happening) : View Nat :=
  (noticesOf token history).foldl View.see {}

theorem noticesOf_snoc (token : Nat) (history : List Happening) (happening : Happening) :
    noticesOf token (history ++ [happening]) =
      noticesOf token history ++ happening.notices token := by
  simp [noticesOf]

theorem viewOf_snoc (token : Nat) (history : List Happening) (happening : Happening) :
    viewOf token (history ++ [happening]) =
      (happening.notices token).foldl View.see (viewOf token history) := by
  rw [viewOf, noticesOf_snoc, List.foldl_append]
  rfl

/-! ## The invariant -/

/-- The consumer's view fits the channel. -/
structure Tracks (view : View Nat) (issued : Nat) (channel : Channel) : Prop where
  counts : view.Counts channel.epoch channel.sequence
  halted : view.halted = true → channel.awaitingResync = true
  pending : ∀ epoch, channel.pendingBinding = some epoch → epoch < issued ∧ epoch ∉ view.seen

structure Inv (s : Session) : Prop where
  orderly : ∀ token, Orderly {} (noticesOf token s.history)
  tracks : ∀ channel ∈ s.channels, Tracks (viewOf channel.token s.history) s.issued channel
  apart : (s.channels.map Channel.token).Nodup
  given : ∀ channel ∈ s.channels, channel.token < s.tokens
  unseen : ∀ token, s.tokens ≤ token → (viewOf token s.history).seen = []
  made : ∀ token, ∀ epoch ∈ (viewOf token s.history).seen, epoch < s.issued
  some_issued : 0 < s.issued

theorem Tracks.issued {issued : Nat} (tracks : Tracks view issued channel) (le : issued ≤ more) :
    Tracks view more channel :=
  { tracks with
    pending := fun epoch found => (tracks.pending epoch found).imp_left (Nat.lt_of_lt_of_le · le) }

/-- A channel that has counted further, for a consumer who is told that the poll failed. -/
theorem Tracks.failed {issued : Nat} (tracks : Tracks view issued channel) {sequence : Nat}
    (le : channel.sequence ≤ sequence) :
    Tracks (view.see .failed) issued { channel with sequence } :=
  { tracks with
    counts := ⟨tracks.counts.epoch_eq, Nat.le_trans tracks.counts.last_le le, by
      intro exact
      cases exact⟩ }

/-- A channel that starts anew, for the consumer who is handed its epoch. -/
theorem Tracks.bound (view : View Nat) (issued : Nat) (channel : Channel)
    (sequence : channel.sequence = 0) (pending : channel.pendingBinding = none) :
    Tracks (view.see (.bound channel.epoch)) issued channel where
  counts := ⟨rfl, Nat.zero_le _, fun _ => sequence.symm⟩
  halted stopped := by cases stopped
  pending epoch found := by
    rw [pending] at found
    cases found

theorem notices_bound_own (token epoch : Nat) :
    (Happening.bound token epoch).notices token = [.bound epoch] :=
  if_pos rfl

theorem notices_bound_other (ne : other ≠ token) :
    (Happening.bound token epoch).notices other = [] :=
  if_neg ne.symm

theorem viewOf_bound_own (history : List Happening) (token epoch : Nat) :
    viewOf token (history ++ [.bound token epoch]) = (viewOf token history).see (.bound epoch) := by
  rw [viewOf_snoc, notices_bound_own]
  rfl

theorem viewOf_bound_other {history : List Happening} (ne : other ≠ token) :
    viewOf other (history ++ [.bound token epoch]) = viewOf other history := by
  rw [viewOf_snoc, notices_bound_other ne]
  rfl

namespace Inv

variable {s : Session}

variable (inv : Inv s)
include inv

theorem issue (le : s.issued ≤ more) : Inv { s with issued := more } :=
  { inv with
    tracks := fun channel mem => (inv.tracks channel mem).issued le
    made := fun token epoch mem => Nat.lt_of_lt_of_le (inv.made token epoch mem) le
    some_issued := Nat.lt_of_lt_of_le inv.some_issued le }

/-- A subset of the channels. -/
theorem sublist {channels : List Channel} (sub : channels.Sublist s.channels)
    (closed provider : Bool) : Inv { s with channels, closed, provider } :=
  { inv with
    tracks := fun channel mem => inv.tracks channel (sub.subset mem)
    apart := inv.apart.sublist (sub.map _)
    given := fun channel mem => inv.given channel (sub.subset mem) }

/-- Each channel may be changed on its own, as long as its token stays. -/
theorem mapped (f : Channel → Channel) (history : List Happening)
    (token : ∀ channel, (f channel).token = channel.token)
    (orderly : ∀ token, Orderly {} (noticesOf token history))
    (tracks : ∀ channel ∈ s.channels, Tracks (viewOf channel.token history) s.issued (f channel))
    (unseen : ∀ token, s.tokens ≤ token → (viewOf token history).seen = [])
    (made : ∀ token, ∀ epoch ∈ (viewOf token history).seen, epoch < s.issued) :
    Inv { s with channels := s.channels.map f, history } where
  orderly := orderly
  tracks channel mem := by
    obtain ⟨old, among, rfl⟩ := List.mem_map.mp mem
    rw [token]
    exact tracks old among
  apart := by
    have same : Channel.token ∘ f = Channel.token := funext token
    rw [List.map_map, same]
    exact inv.apart
  given channel mem := by
    obtain ⟨old, among, rfl⟩ := List.mem_map.mp mem
    rw [token]
    exact inv.given old among
  unseen := unseen
  made := made
  some_issued := inv.some_issued

theorem prepare (made : epoch < s.issued)
    (fresh : epoch ∉ (viewOf token s.history).seen) : Inv (s.prepare token epoch) := by
  refine inv.mapped _ s.history (fun channel => ?_) inv.orderly (fun channel mem => ?_) inv.unseen
    inv.made
  · split <;> rfl
  · have tracks := inv.tracks channel mem
    split
    · rename_i same
      refine ⟨tracks.counts, tracks.halted, fun other found => ?_⟩
      cases found
      exact ⟨made, same ▸ fresh⟩
    · exact tracks

theorem hold : Inv s.hold := by
  refine inv.mapped _ _ (fun channel => ?_) (fun token => ?_) (fun channel mem => ?_)
    (fun token le => ?_) fun token epoch mem => ?_
  · rfl
  · rw [noticesOf_snoc, orderly_append]
    exact ⟨inv.orderly token, trivial, trivial⟩
  · have tracks := inv.tracks channel mem
    rw [viewOf_snoc]
    refine ⟨⟨tracks.counts.epoch_eq, tracks.counts.last_le, tracks.counts.exact⟩, fun _ => rfl,
      fun _ found => ?_⟩
    cases found
  · rw [viewOf_snoc]
    exact inv.unseen token le
  · rw [viewOf_snoc] at mem
    exact inv.made token epoch mem

/-! A channel, also a new one, is handed an epoch that its consumer has not seen. -/

theorem orderly_bound (fresh : epoch ∉ (viewOf token s.history).seen)
    (other : Nat) : Orderly {} (noticesOf other (s.history ++ [.bound token epoch])) := by
  rw [noticesOf_snoc, orderly_append]
  refine ⟨inv.orderly other, ?_⟩
  by_cases same : other = token
  · subst same
    rw [notices_bound_own]
    exact ⟨fresh, trivial⟩
  · rw [notices_bound_other same]
    trivial

theorem made_bound (made : epoch < s.issued) (other : Nat) :
    ∀ seen ∈ (viewOf other (s.history ++ [.bound token epoch])).seen, seen < s.issued := by
  intro seen mem
  by_cases same : other = token
  · subst same
    rw [viewOf_bound_own] at mem
    rcases List.mem_cons.mp mem with rfl | before
    · exact made
    · exact inv.made other seen before
  · rw [viewOf_bound_other same] at mem
    exact inv.made other seen mem

theorem bind (made : epoch < s.issued) (known : token < s.tokens)
    (fresh : epoch ∉ (viewOf token s.history).seen) : Inv (s.bind token epoch) := by
  refine inv.mapped _ _ (fun channel => ?_) (inv.orderly_bound fresh) (fun channel mem => ?_)
    (fun other le => ?_) (inv.made_bound made)
  · split <;> rfl
  · by_cases same : channel.token = token
    · rw [if_pos same, same, viewOf_bound_own]
      exact .bound _ _ ⟨channel.token, channel.instrument, epoch, 0, false, none⟩ rfl rfl
    · rw [if_neg same, viewOf_bound_other same]
      exact inv.tracks channel mem
  · rw [viewOf_bound_other (Nat.ne_of_gt (Nat.lt_of_lt_of_le known le))]
    exact inv.unseen other le

theorem add (instrument : String) : Inv (s.add instrument) where
  orderly := by
    refine inv.orderly_bound ?_
    rw [inv.unseen s.tokens (Nat.le_refl _)]
    exact List.not_mem_nil
  tracks channel mem := by
    change Tracks (viewOf channel.token (s.history ++ [.bound s.tokens 0])) s.issued channel
    rcases mem_snoc.mp mem with old | rfl
    · rw [viewOf_bound_other (Nat.ne_of_lt (inv.given channel old))]
      exact inv.tracks channel old
    · rw [viewOf_bound_own]
      exact .bound _ _ { token := s.tokens, instrument, epoch := 0 } rfl rfl
  apart := by
    have fresh : s.tokens ∉ s.channels.map Channel.token := by
      intro mem
      obtain ⟨channel, among, same⟩ := List.mem_map.mp mem
      exact Nat.lt_irrefl _ (same ▸ inv.given channel among)
    change ((s.channels ++ [_]).map Channel.token).Nodup
    rw [List.map_append, List.map_singleton]
    exact (List.nodup_append_comm.mpr (List.nodup_cons.mpr ⟨fresh, inv.apart⟩))
  given channel mem := by
    rcases mem_snoc.mp mem with old | rfl
    · exact Nat.lt_succ_of_lt (inv.given channel old)
    · exact Nat.lt_succ_self _
  unseen token le := by
    change (viewOf token (s.history ++ [.bound s.tokens 0])).seen = []
    rw [viewOf_bound_other (Nat.ne_of_gt le)]
    exact inv.unseen token (Nat.le_of_succ_le le)
  made := inv.made_bound inv.some_issued
  some_issued := inv.some_issued

omit inv

end Inv

/-! ## Polls -/

/-- A pass of `poll` may have counted a channel further, unless the channel is held. -/
structure Counted (before after : Channel) : Prop where
  le : before.sequence ≤ after.sequence
  same : after = { before with sequence := after.sequence }
  held : before.awaitingResync = true → after = before

theorem Counted.refl (channel : Channel) :
    Counted channel channel := ⟨Nat.le_refl _, rfl, fun _ => rfl⟩

theorem Counted.token_eq (counted : Counted before after) : after.token = before.token := by
  rw [counted.same]

/-- The events of a channel that was counted further. -/
def numbered (before after : Channel) : List TickEvent :=
  (List.range' (before.sequence + 1) (after.sequence - before.sequence)).map fun number =>
    ⟨before.token, before.epoch, number⟩

theorem deliver_spec (items : List Item) (channel : Channel) :
    channel.sequence ≤ (deliver items channel).2.sequence ∧
      (deliver items channel).2 = { channel with sequence := (deliver items channel).2.sequence } ∧
      ∀ events, (deliver items channel).1 = .ok events →
        events = numbered channel (deliver items channel).2 := by
  induction items generalizing channel with
  | nil =>
    refine ⟨Nat.le_refl _, rfl, fun events came => ?_⟩
    cases came
    simp [deliver, numbered]
  | cons item items ih =>
    cases item with
    | malformed =>
      refine ⟨Nat.le_refl _, rfl, fun events came => ?_⟩
      cases came
    | unbindable =>
      refine ⟨Nat.le_succ _, rfl, fun events came => ?_⟩
      cases came
    | tick =>
      obtain ⟨le, same, made⟩ := ih { channel with sequence := channel.sequence + 1 }
      unfold deliver
      rcases came : deliver items { channel with sequence := channel.sequence + 1 } with
        ⟨result, counted⟩
      rw [came] at le same made
      cases result with
      | error e =>
        refine ⟨Nat.le_of_succ_le le, same, fun events came => ?_⟩
        cases came
      | ok later =>
        refine ⟨Nat.le_of_succ_le le, same, fun events came => ?_⟩
        cases came
        have steps : counted.sequence - channel.sequence =
            counted.sequence - (channel.sequence + 1) + 1 := by
          change channel.sequence + 1 ≤ counted.sequence at le
          omega
        rw [made later rfl]
        simp only [numbered, steps, List.range'_succ, List.map_cons]

/-- The events of all channels, in their order. -/
def between : List Channel → List Channel → List TickEvent
  | before :: befores, after :: afters => numbered before after ++ between befores afters
  | _, _ => []

theorem between_self (channels : List Channel) : between channels channels = [] := by
  induction channels with
  | nil => rfl
  | cons channel channels ih => simp [between, numbered, ih]

theorem drain_spec (round : Round) (maxEvents : Nat) (channels : List Channel)
    (events : List TickEvent) :
    List.Forall₂ Counted channels (drain round maxEvents channels events).2 ∧
      ∀ out, (drain round maxEvents channels events).1 = .ok out →
        out = events ++ between channels (drain round maxEvents channels events).2 := by
  have still : ∀ channels : List Channel, List.Forall₂ Counted channels channels :=
    fun channels => List.forall₂_same.mpr fun channel _ => .refl channel
  induction channels generalizing events with
  | nil =>
    refine ⟨.nil, fun out came => ?_⟩
    cases came
    simp [between]
  | cons channel rest ih =>
    unfold drain
    split
    · obtain ⟨counted, made⟩ := ih events
      refine ⟨.cons (.refl channel) counted, fun out came => ?_⟩
      rw [made out came]
      simp [between, numbered]
    rename_i live
    split
    · refine ⟨still _, fun out came => ?_⟩
      cases came
      simp [between_self]
    · split
      · refine ⟨still _, fun out came => ?_⟩
        cases came
      · rename_i items _
        obtain ⟨le, same, delivered⟩ := deliver_spec items channel
        rcases came : deliver items channel with ⟨result, after⟩
        rw [came] at le same delivered
        have counted : Counted channel after := ⟨le, same, fun held => absurd held live⟩
        cases result with
        | error e =>
          refine ⟨.cons counted (still rest), fun out came => ?_⟩
          cases came
        | ok new =>
          obtain ⟨later, made⟩ := ih (events ++ new)
          refine ⟨.cons counted later, fun out came => ?_⟩
          rw [made out came, delivered new rfl, between, List.append_assoc]

theorem numbered_notices (before after : Channel) :
    (numbered before after).filterMap (TickEvent.notice before.token) =
      batch before.epoch before.sequence (after.sequence - before.sequence) := by
  simp [numbered, batch, TickEvent.notice, List.filterMap_map, Function.comp_def]

theorem numbered_notices_of_ne (ne : before.token ≠ token) :
    (numbered before after).filterMap (TickEvent.notice token) = [] := by
  simp [numbered, TickEvent.notice, ne]

theorem between_notices_of_ne (absent : ∀ before ∈ befores, before.token ≠ token) :
    (between befores afters).filterMap (TickEvent.notice token) = [] := by
  induction befores generalizing afters with
  | nil => rfl
  | cons before befores ih =>
    cases afters with
    | nil => rfl
    | cons after afters =>
      rw [between, List.filterMap_append, numbered_notices_of_ne (absent before List.mem_cons_self)]
      exact ih fun other mem => absent other (List.mem_cons_of_mem _ mem)

/-- The consumer of a channel sees the events of that channel. -/
theorem between_notices (counted : List.Forall₂ Counted befores afters)
    (apart : (befores.map Channel.token).Nodup) (mem : after ∈ afters) :
    ∃ before ∈ befores, Counted before after ∧
      (between befores afters).filterMap (TickEvent.notice after.token) =
        batch before.epoch before.sequence (after.sequence - before.sequence) := by
  induction counted with
  | nil => cases mem
  | cons first rest ih =>
    rename_i before now befores afters
    obtain ⟨alone, others⟩ := List.nodup_cons.mp apart
    rw [between]
    rcases List.mem_cons.mp mem with rfl | later
    · refine ⟨before, List.mem_cons_self, first, ?_⟩
      rw [first.token_eq, List.filterMap_append, numbered_notices, between_notices_of_ne]
      · exact List.append_nil _
      · exact fun other among same => alone (same ▸ List.mem_map_of_mem among)
    · obtain ⟨old, among, step, sees⟩ := ih others later
      refine ⟨old, List.mem_cons_of_mem _ among, step, ?_⟩
      rw [List.filterMap_append, sees, numbered_notices_of_ne]
      · exact List.nil_append _
      · intro same
        refine alone (same ▸ ?_)
        rw [step.token_eq]
        exact List.mem_map_of_mem among

theorem Counted.tokens_eq (counted : List.Forall₂ Counted befores afters) :
    afters.map Channel.token = befores.map Channel.token := by
  induction counted with
  | nil => rfl
  | cons first _ ih => simp [first.token_eq, ih]

theorem Counted.eq_of_between (counted : List.Forall₂ Counted befores afters)
    (nothing : between befores afters = []) : afters = befores := by
  induction counted with
  | nil => rfl
  | cons first _ ih =>
    rename_i before after befores afters _
    obtain ⟨none, others⟩ := List.append_eq_nil_iff.mp nothing
    have level : after.sequence - before.sequence = 0 := by
      simpa [numbered] using congrArg List.length none
    have same : after.sequence = before.sequence := Nat.le_antisymm (by omega) first.le
    rw [ih others, first.same, same]

/-- The channels were counted further, and the consumers are told about it. -/
theorem Inv.counted {s : Session} (inv : Inv s) (counted : List.Forall₂ Counted s.channels afters)
    {happening : Happening}
    (orderly : ∀ token, Orderly (viewOf token s.history) (happening.notices token))
    (tracks : ∀ after ∈ afters, Tracks ((happening.notices after.token).foldl View.see
      (viewOf after.token s.history)) s.issued after)
    (unseen : ∀ token, ((happening.notices token).foldl View.see (viewOf token s.history)).seen =
      (viewOf token s.history).seen) : Inv ({ s with channels := afters }.note happening) where
  orderly token := by
    change Orderly {} (noticesOf token (s.history ++ [happening]))
    rw [noticesOf_snoc, orderly_append]
    exact ⟨inv.orderly token, orderly token⟩
  tracks after mem := by
    change Tracks (viewOf after.token (s.history ++ [happening])) s.issued after
    rw [viewOf_snoc]
    exact tracks after mem
  apart := by
    change (afters.map Channel.token).Nodup
    rw [Counted.tokens_eq counted]
    exact inv.apart
  given after mem := by
    obtain ⟨before, among, step, -⟩ := between_notices counted inv.apart mem
    change after.token < s.tokens
    rw [step.token_eq]
    exact inv.given before among
  unseen token le := by
    change (viewOf token (s.history ++ [happening])).seen = []
    rw [viewOf_snoc, unseen]
    exact inv.unseen token le
  made token epoch mem := by
    change epoch ∈ (viewOf token (s.history ++ [happening])).seen at mem
    rw [viewOf_snoc, unseen] at mem
    exact inv.made token epoch mem
  some_issued := inv.some_issued

/-- A poll that failed. -/
theorem Inv.failed {s : Session} (inv : Inv s) (counted : List.Forall₂ Counted s.channels afters) :
    Inv ({ s with channels := afters }.note .failed) := by
  refine inv.counted counted (fun _ => ⟨trivial, trivial⟩) (fun after mem => ?_) fun _ => rfl
  obtain ⟨before, among, step, -⟩ := between_notices counted inv.apart mem
  rw [step.token_eq, step.same]
  exact (inv.tracks before among).failed step.le

/-- A poll that returned what it counted. -/
theorem Inv.returned {s : Session} (inv : Inv s)
    (counted : List.Forall₂ Counted s.channels afters) :
    Inv ({ s with channels := afters }.note (.returned (between s.channels afters))) := by
  -- the batch that the consumer of a channel sees, and what it leaves him with
  have sees : ∀ after ∈ afters, ∃ before ∈ s.channels, Counted before after ∧
      (Happening.returned (between s.channels afters)).notices after.token =
        batch before.epoch before.sequence (after.sequence - before.sequence) :=
    fun after mem => between_notices counted inv.apart mem
  have running : ∀ before ∈ s.channels, ∀ after, Counted before after →
      0 < after.sequence - before.sequence → (viewOf before.token s.history).halted = false := by
    intro before among after step further
    cases halted : (viewOf before.token s.history).halted with
    | false => rfl
    | true =>
      rw [step.held ((inv.tracks before among).halted halted), Nat.sub_self] at further
      cases further
  have batches := fun before among after (step : Counted before after) =>
    (inv.tracks before among).counts.batch (after.sequence - before.sequence)
      (running before among after step)
  have absent : ∀ token, (∀ after ∈ afters, after.token ≠ token) →
      (Happening.returned (between s.channels afters)).notices token = [] := by
    intro token none
    refine between_notices_of_ne fun before among same => ?_
    have mem : before.token ∈ afters.map Channel.token := by
      rw [Counted.tokens_eq counted]
      exact List.mem_map_of_mem among
    obtain ⟨after, mem, of⟩ := List.mem_map.mp mem
    exact none after mem (of.trans same)
  have told : ∀ token, Orderly (viewOf token s.history)
      ((Happening.returned (between s.channels afters)).notices token) ∧
      (((Happening.returned (between s.channels afters)).notices token).foldl View.see
        (viewOf token s.history)).seen = (viewOf token s.history).seen := by
    intro token
    by_cases own : ∃ after ∈ afters, after.token = token
    · obtain ⟨after, mem, rfl⟩ := own
      obtain ⟨before, among, step, same⟩ := sees after mem
      rw [same, step.token_eq]
      exact ⟨(batches before among after step).1, (batches before among after step).2.2.2⟩
    · rw [absent token fun after mem same => own ⟨after, mem, same⟩]
      exact ⟨trivial, rfl⟩
  refine inv.counted counted (fun token => (told token).1) (fun after mem => ?_)
    fun token => (told token).2
  obtain ⟨before, among, step, same⟩ := sees after mem
  obtain ⟨-, counts, halted, seen⟩ := batches before among after step
  have tracks := inv.tracks before among
  rw [Nat.add_sub_cancel' step.le] at counts
  rw [same, step.token_eq, step.same]
  refine ⟨counts, fun stopped => tracks.halted (halted.symm.trans stopped), fun epoch found => ?_⟩
  rw [seen]
  exact tracks.pending epoch found

/-- What a pass of `poll` leaves when it returns: channels counted further, by these events. -/
def Passed (events : List TickEvent) (s' : Session) : Prop :=
  ∃ s afters, Inv s ∧ List.Forall₂ Counted s.channels afters ∧ s' = { s with channels := afters } ∧
    events = between s.channels afters

/-- What a call of `poll` leaves when it raises. -/
def Failed (s' : Session) : Prop := Inv (s'.note .failed)

theorem Inv.fails {s : Session} (inv : Inv s) : Failed s :=
  inv.failed (List.forall₂_same.mpr fun channel _ => .refl channel)

theorem noteSourceRestart_post (round : Round) {s : Session} (inv : Inv s) :
    (noteSourceRestart round).Post (fun _ => Inv) (fun _ => Failed) s := by
  refine .askThen (fun _ => inv.fails) fun restarted _ => ?_
  split
  · exact .bind (.update inv.hold) fun _ _ held => .pure held
  · exact .pure inv

theorem pollOnce_post (maxEvents : Nat) (round : Round) {s : Session} (inv : Inv s) :
    (pollOnce maxEvents round).Post Passed (fun _ => Failed) s := by
  refine .liftThen (fun _ => inv.fails) fun _ => ?_
  refine .bind (noteSourceRestart_post round inv) fun _ s inv => ?_
  refine .requireThen inv.fails (.askThen (fun _ => inv.fails) fun _ _ => ?_)
  refine .requireThen inv.fails ?_
  obtain ⟨counted, made⟩ := drain_spec round maxEvents s.channels []
  unfold Section.Post
  dsimp only
  cases came : (drain round maxEvents s.channels []).1 with
  | ok events => exact ⟨s, _, inv, counted, rfl, made events came⟩
  | error e => exact inv.failed counted

theorem pollRounds_post (maxEvents : Nat) (rounds : List Round) (last : Round) {s : Session}
    (inv : Inv s) : (pollRounds maxEvents rounds last).Post Passed (fun _ => Failed) s := by
  induction rounds generalizing s with
  | nil => exact pollOnce_post maxEvents last inv
  | cons round rounds ih =>
    refine .bind (pollOnce_post maxEvents round inv) fun events s' passed => ?_
    split
    · rename_i nothing
      obtain ⟨before, afters, kept, counted, rfl, made⟩ := passed
      rw [Counted.eq_of_between counted (made.symm.trans nothing)]
      exact ih kept
    · exact .pure passed

theorem poll_inv (timeoutMs maxEvents : Int) (rounds : List Round) (last : Round) {s : Session}
    (inv : Inv s) : Inv (s.call (.poll timeoutMs maxEvents rounds last)) := by
  have idle : ∀ s, Inv s → Passed [] s := fun s inv =>
    ⟨s, s.channels, inv, List.forall₂_same.mpr fun channel _ => .refl channel, rfl,
      (between_self s.channels).symm⟩
  have post : (poll timeoutMs maxEvents rounds last).Post Passed (fun _ => Failed) s := by
    refine .requireThen inv.fails (.requireThen inv.fails (.readThen ?_))
    split
    · exact .pure (idle s inv)
    · exact pollRounds_post _ rounds last inv
  unfold Section.Post at post
  unfold Session.call
  dsimp only
  rcases came : poll timeoutMs maxEvents rounds last s with ⟨result, s'⟩
  rw [came] at post
  cases result with
  | ok events =>
    obtain ⟨before, afters, kept, counted, rfl, rfl⟩ := post
    exact kept.returned counted
  | error e => exact post

/-! ## Resyncs -/

/-- During a resync that began in `s₀` nothing is told to the consumers, and every epoch that is
made is a new one. -/
structure Rebinding (s₀ s : Session) : Prop where
  inv : Inv s
  history_eq : s.history = s₀.history
  tokens_eq : s.tokens = s₀.tokens
  issued_le : s₀.issued ≤ s.issued

/-- An epoch that was made during the resync. -/
def Fresh (s₀ s : Session) (epoch : Nat) : Prop := s₀.issued ≤ epoch ∧ epoch < s.issued

variable {s₀ s : Session}

theorem Inv.rebinding (inv : Inv s) : Rebinding s s := ⟨inv, rfl, rfl, Nat.le_refl _⟩

theorem Rebinding.unseen (rebinding : Rebinding s₀ s) (inv₀ : Inv s₀) (fresh : s₀.issued ≤ epoch)
    (token : Nat) : epoch ∉ (viewOf token s.history).seen := by
  rw [rebinding.history_eq]
  exact fun seen => Nat.not_lt.mpr fresh (inv₀.made token epoch seen)

theorem Rebinding.prepare (rebinding : Rebinding s₀ s) (inv₀ : Inv s₀)
    (fresh : Fresh s₀ s epoch) : Rebinding s₀ (s.prepare token epoch) :=
  { rebinding with inv := rebinding.inv.prepare fresh.2 (rebinding.unseen inv₀ fresh.1 token) }

theorem newEpoch_post (rebinding : Rebinding s₀ s) :
    newEpoch.Post (fun epoch s' => Rebinding s₀ s' ∧ Fresh s₀ s' epoch ∧ s.issued ≤ s'.issued)
      (fun _ => Rebinding s₀) s := by
  refine .readThen (.bind (.update ?_) fun _ _ post => .pure post)
  refine ⟨⟨rebinding.inv.issue (Nat.le_succ _), rebinding.history_eq, rebinding.tokens_eq,
    Nat.le_succ_of_le rebinding.issued_le⟩, ⟨rebinding.issued_le, Nat.lt_succ_self _⟩, Nat.le_succ _⟩

theorem describe_post {P : Session → Prop} (replies : Replies) (token : Nat) (pre : P s) :
    (describe replies token).Post (fun _ s' => s' = s) (fun _ => P) s :=
  .liftThen (fun _ => pre) fun _ => .require (fun _ => rfl) fun _ => pre

theorem acknowledgeHeld_post (tokens : List Nat) (rebinding : Rebinding s₀ s) :
    (acknowledgeHeld replies tokens).Post (fun epochs s' => Rebinding s₀ s' ∧
      s.issued ≤ s'.issued ∧ ∀ entry ∈ epochs, Fresh s₀ s' entry.2) (fun _ => Rebinding s₀) s := by
  induction tokens generalizing s with
  | nil => exact .pure ⟨rebinding, Nat.le_refl _, fun _ mem => absurd mem List.not_mem_nil⟩
  | cons token tokens ih =>
    refine .bind (newEpoch_post rebinding) ?_
    rintro epoch s₁ ⟨rebinding₁, fresh, le₁⟩
    refine .liftThen (fun _ => rebinding₁) fun acknowledged => .requireThen rebinding₁ ?_
    refine .bind (ih rebinding₁) fun rest s₄ ⟨rebinding₄, le₄, others⟩ => .pure ?_
    refine ⟨rebinding₄, Nat.le_trans le₁ le₄, fun entry mem => ?_⟩
    rcases List.mem_cons.mp mem with rfl | later
    · exact ⟨fresh.1, Nat.lt_of_lt_of_le fresh.2 le₄⟩
    · exact others entry later

theorem prepareHeld_post (inv₀ : Inv s₀) (epochs : List (Nat × Nat))
    (rebinding : Rebinding s₀ s) (fresh : ∀ entry ∈ epochs, Fresh s₀ s entry.2) :
    (prepareHeld replies epochs).Post (fun _ => Rebinding s₀) (fun _ => Rebinding s₀) s := by
  induction epochs generalizing s with
  | nil => exact .pure rebinding
  | cons entry epochs ih =>
    obtain ⟨token, epoch⟩ := entry
    refine .bind (describe_post replies token rebinding) ?_
    rintro _ s rfl
    refine .bind (Q := fun _ s' => s' = Session.prepare token epoch s) (.update rfl) ?_
    rintro _ _ rfl
    exact ih (rebinding.prepare inv₀ (fresh _ List.mem_cons_self)) fun entry mem =>
      fresh entry (List.mem_cons_of_mem _ mem)

theorem rebindRestartedSource_post (inv₀ : Inv s₀)
    (rebinding : Rebinding s₀ s) :
    (rebindRestartedSource replies).Post (fun _ => Rebinding s₀) (fun _ => Rebinding s₀) s := by
  refine .readThen (.requireThen rebinding (.liftThen (fun _ => rebinding) fun _ => ?_))
  refine .requireThen rebinding ?_
  refine .bind (acknowledgeHeld_post replies _ rebinding) ?_
  rintro epochs s' ⟨rebinding, -, fresh⟩
  exact prepareHeld_post replies inv₀ epochs rebinding fresh

/-- The epoch that a channel is to take is one that was made and that its consumer has not seen. -/
structure Offered (s₀ : Session) (token epoch : Nat) (s : Session) : Prop extends
    Rebinding s₀ s where
  made : epoch < s.issued
  unseen : epoch ∉ (viewOf token s.history).seen

theorem Rebinding.offered (rebinding : Rebinding s₀ s) (mem : channel ∈ s.channels)
    (pending : channel.pendingBinding = some epoch) : Offered s₀ channel.token epoch s :=
  have tracks := (rebinding.inv.tracks channel mem).pending epoch pending
  ⟨rebinding, tracks.1, tracks.2⟩

theorem prepareOne_post (inv₀ : Inv s₀) (token : Nat)
    (rebinding : Rebinding s₀ s) :
    (prepareOne replies token).Post (fun _ => Rebinding s₀) (fun _ => Rebinding s₀) s := by
  refine .bind (newEpoch_post rebinding) ?_
  rintro epoch s₁ ⟨rebinding₁, fresh, -⟩
  refine .bind (describe_post replies token rebinding₁) ?_
  rintro _ s₁ rfl
  exact .update (rebinding₁.prepare inv₀ fresh)

theorem prepared_post (token : Nat) (rebinding : Rebinding s₀ s) :
    (Section.ask (Session.prepared token)).Post (Offered s₀ token) (fun _ => Rebinding s₀) s := by
  refine .ask (fun epoch found => ?_) fun _ _ => rebinding
  unfold Session.prepared at found
  split at found
  · rename_i pending held
    cases found
    obtain ⟨channel, among, pending⟩ := Option.bind_eq_some_iff.mp held
    have same := List.find?_some among
    rw [← of_decide_eq_true same]
    exact rebinding.offered (List.mem_of_find?_eq_some among) pending
  · cases found

theorem rebindHeld_post (inv₀ : Inv s₀) (mem : channel ∈ s₀.channels) :
    (rebindHeld replies channel).Post (Offered s₀ channel.token) (fun _ => Rebinding s₀) s₀ := by
  unfold rebindHeld
  cases pending : channel.pendingBinding with
  | some epoch => exact .pure (inv₀.rebinding.offered mem pending)
  | none =>
    refine .liftThen (fun _ => inv₀.rebinding) fun reset => ?_
    refine .bind (Q := fun _ => Rebinding s₀) ?_ fun _ s rebinding =>
      prepared_post channel.token rebinding
    cases reset with
    | true => exact rebindRestartedSource_post replies inv₀ inv₀.rebinding
    | false => exact prepareOne_post replies inv₀ channel.token inv₀.rebinding

theorem rebindLive_post (inv₀ : Inv s₀) (channel : Channel) :
    (rebindLive replies channel).Post (Offered s₀ channel.token) (fun _ => Rebinding s₀) s₀ := by
  have rebinding := inv₀.rebinding
  refine .liftThen (fun _ => rebinding) fun reset => .requireThen rebinding ?_
  refine .bind (newEpoch_post rebinding) ?_
  rintro epoch s₁ ⟨rebinding₁, fresh, -⟩
  refine .bind (describe_post replies channel.token rebinding₁) ?_
  rintro _ s₁ rfl
  exact .pure ⟨rebinding₁, fresh.2, rebinding₁.unseen inv₀ fresh.1 channel.token⟩

theorem mem_of_bound (found : s.bound token epoch = .ok channel) :
    channel ∈ s.channels ∧ channel.token = token := by
  unfold Session.bound at found
  split at found
  · rename_i other held
    cases found
    have same := List.find?_some held
    rw [Bool.and_eq_true] at same
    exact ⟨List.mem_of_find?_eq_some held, of_decide_eq_true same.1⟩
  · cases found

theorem resync_post (token epoch : Nat) (acknowledgeDataLoss : Bool) (replies : Replies)
    (inv : Inv s) :
    (resync token epoch acknowledgeDataLoss replies).Post (fun _ => Inv) (fun _ => Rebinding s)
      s := by
  have started := inv.rebinding
  refine .requireThen started (.requireThen started ?_)
  refine .askThen (fun _ => started) fun channel found => .requireThen started ?_
  obtain ⟨mem, rfl⟩ := mem_of_bound found
  refine .bind (Q := Offered s channel.token) ?_ fun epoch s' offered => .update ?_
  · cases channel.awaitingResync with
    | true => exact rebindHeld_post replies inv mem
    | false => exact rebindLive_post replies inv channel
  · refine offered.inv.bind offered.made ?_ offered.unseen
    rw [offered.tokens_eq]
    exact inv.given channel mem

/-! ## The calls of a consumer -/

theorem subscribe_post (instrument : String) (subscribing : Subscribing) (inv : Inv s) :
    (subscribe instrument subscribing).Post (fun _ => Inv) (fun _ => Inv) s := by
  refine .requireThen inv (.requireThen inv (.requireThen inv ?_))
  refine .bind (Q := fun _ => Inv) (.update (inv.sublist (List.Sublist.refl _) s.closed true))
    fun _ s inv => ?_
  cases subscribing with
  | raised | undescribed => exact .raise inv
  | described => exact .update (inv.add instrument)

theorem Inv.call (inv : Inv s) (call : Call) : Inv (s.call call) := by
  cases call with
  | subscribe instrument subscribing =>
    exact (subscribe_post instrument subscribing inv).state
  | poll timeoutMs maxEvents rounds last => exact poll_inv timeoutMs maxEvents rounds last inv
  | resync token epoch acknowledgeDataLoss replies =>
    exact ((resync_post token epoch acknowledgeDataLoss replies inv).mono
      (fun _ _ kept => kept) fun _ _ rebinding => rebinding.inv).state
  | unsubscribe token => exact inv.sublist List.filter_sublist s.closed s.provider
  | close => exact inv.sublist (List.nil_sublist _) true false

theorem opened_inv (instruments : List String) :
    Inv (opened route instruments) := by
  have started : Inv { route, provider := true } :=
    ⟨fun _ => trivial, fun _ mem => absurd mem List.not_mem_nil, List.nodup_nil,
      fun _ mem => absurd mem List.not_mem_nil, fun _ _ => rfl,
      fun _ _ mem => absurd mem List.not_mem_nil, Nat.one_pos⟩
  unfold opened
  generalize ({ route, provider := true } : Session) = s at started ⊢
  induction instruments generalizing s with
  | nil => exact started
  | cons instrument instruments ih => exact ih _ (started.add instrument)

theorem run_inv (instruments : List String) (calls : List Call) :
    Inv (run route instruments calls) := by
  have started := opened_inv route instruments
  unfold run
  generalize opened route instruments = s at started ⊢
  induction calls generalizing s with
  | nil => exact started
  | cons call calls ih => exact ih _ (started.call call)

/-- Whatever the provider answers and whatever the consumer calls, each channel of a session is
reliable: within a binding the cursors of its events rise from 1, one by one unless a poll
raised, nothing follows a restart before a new binding, and no epoch comes twice. -/
theorem channel_reliable (instruments : List String) (calls : List Call)
    (token : Nat) : Reliable (noticesOf token (run route instruments calls).history) :=
  ((run_inv route instruments calls).orderly token).reliable

/-- What a consumer was told fits its channel, and the epoch prepared for it is new to it. -/
theorem consumers_tracked (instruments : List String) (calls : List Call) :
    let s := run route instruments calls
    (s.channels.map Channel.token).Nodup ∧ ∀ channel ∈ s.channels,
      Tracks (viewOf channel.token s.history) s.issued channel :=
  ⟨(run_inv route instruments calls).apart, (run_inv route instruments calls).tracks⟩

end BtApiCtp.Market.Direct
