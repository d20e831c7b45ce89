import Gateway.Types

/-!
# Batching transaction notifications

`subscribeMultiTxs` serves a `newTxs` or `pendingTxs` subscription with
`MultiTxs` set.  It waits for a notification, then drains what the feed
channel holds without waiting, until it has 50 results or nothing is
immediately readable, and sends the results it gathered in one notify.

A run is the sequence of what the reader's `select`s find: a notification,
nothing immediately readable, the channel closed, or the connection gone.
Any arrival pattern of the notifications is such a sequence.  Each
notification is turned into at most one result by `filterAndInclude` (for a
`pendingTxs` feed, of the new-transaction notification it holds), a parameter
here.  Notifies are taken to succeed: the model is of a connection that stays
up while the loop runs.
-/

namespace Gateway.Servers

/-- What a `select` of the reader finds. -/
inductive FeedEvent (N : Type) where
  | notification (n : N)
  /-- The inner `select` takes its `default` branch.  The outer one has none:
  there the reader keeps waiting. -/
  | nothingReady
  /-- The channel is closed; the error is sent when the feed manager still
  knows the subscription. -/
  | closed (subscriptionExists : Bool)
  | disconnect

def FeedEvent.toNotification {N : Type} : FeedEvent N → Option N
  | .notification n => some n
  | _ => none

/-- Where the loop is: at the outer `select`, in the inner draining loop, or
returned. -/
inductive MultiTxsPhase where
  | waiting
  | draining
  | returned
  deriving DecidableEq

/-- The loop's state: `multiTxsResponse.Result`, the results of each notify
sent, the notifications read, and whether the closing error was sent. -/
structure MultiTxsState (N R : Type) where
  phase : MultiTxsPhase
  batch : List R
  sent : List (List R)
  consumed : List N
  errorSent : Bool

namespace MultiTxsState

variable {N R : Type} (filterAndInclude : N → Option R)

def init : MultiTxsState N R := ⟨.waiting, [], [], [], false⟩

/-- The end of the inner loop: notify the batch when it is not empty, and go
back to the outer `select`. -/
def flush (st : MultiTxsState N R) : MultiTxsState N R :=
  { st with
    phase := .waiting
    batch := []
    sent := if st.batch.length > 0 then st.sent ++ [st.batch] else st.sent }

@[simp] theorem flush_phase (st : MultiTxsState N R) : st.flush.phase = .waiting := rfl

@[simp] theorem flush_batch (st : MultiTxsState N R) : st.flush.batch = [] := rfl

@[simp] theorem flush_consumed (st : MultiTxsState N R) : st.flush.consumed = st.consumed := rfl

def step (st : MultiTxsState N R) : FeedEvent N → MultiTxsState N R
  | .notification n =>
    match st.phase with
    | .waiting =>
      { st with
        phase := .draining
        batch := (filterAndInclude n).toList
        consumed := st.consumed ++ [n] }
    | .draining =>
      let st' := { st with
        batch := st.batch ++ (filterAndInclude n).toList
        consumed := st.consumed ++ [n] }
      if st'.batch.length ≥ 50 then st'.flush else st'
    | .returned => st
  | .nothingReady =>
    match st.phase with
    | .draining => st.flush
    | _ => st
  | .closed subscriptionExists =>
    if st.phase = .returned then st else { st with phase := .returned, errorSent := subscriptionExists }
  | .disconnect => if st.phase = .returned then st else { st with phase := .returned }

def run (st : MultiTxsState N R) (events : List (FeedEvent N)) : MultiTxsState N R :=
  events.foldl (step filterAndInclude) st

/-! ## The batching invariant -/

/-- Nothing is lost, duplicated or reordered: the notified results followed by
the pending batch are the results of the notifications read, in order.  Every
notify carries between 1 and 50 results, the reader waits only with an empty
batch, and the pending batch stays below 50. -/
structure Inv (st : MultiTxsState N R) : Prop where
  inOrder : st.sent.flatten ++ st.batch = st.consumed.filterMap filterAndInclude
  sentSizes : ∀ b ∈ st.sent, 0 < b.length ∧ b.length ≤ 50
  waitingEmpty : st.phase = .waiting → st.batch = []
  batchBelow : st.batch.length < 50

theorem inv_init : Inv filterAndInclude (init : MultiTxsState N R) :=
  ⟨rfl, by simp [init], fun _ => rfl, by simp [init]⟩

theorem Inv.flush {st : MultiTxsState N R}
    (hin : st.sent.flatten ++ st.batch = st.consumed.filterMap filterAndInclude)
    (hsizes : ∀ b ∈ st.sent, 0 < b.length ∧ b.length ≤ 50) (hle : st.batch.length ≤ 50) :
    Inv filterAndInclude st.flush := by
  by_cases hpos : st.batch.length > 0
  · have hsent : st.flush.sent = st.sent ++ [st.batch] := if_pos hpos
    refine ⟨by rw [hsent, flush_batch, flush_consumed, ← hin]; simp, ?_, fun _ => rfl,
      by simp⟩
    rw [hsent]
    intro b hb
    rcases List.mem_append.1 hb with hb | hb
    · exact hsizes b hb
    · rw [List.mem_singleton.1 hb]; exact ⟨hpos, hle⟩
  · have hnil : st.batch = [] := List.length_eq_zero.1 (by omega)
    have hsent : st.flush.sent = st.sent := if_neg hpos
    refine ⟨by rw [hsent, flush_batch, flush_consumed, ← hin, hnil],
      by rw [hsent]; exact hsizes, fun _ => rfl, by simp⟩

theorem Inv.step {st : MultiTxsState N R} (hinv : Inv filterAndInclude st) (e : FeedEvent N) :
    Inv filterAndInclude (st.step filterAndInclude e) := by
  obtain ⟨hin, hsizes, hwaiting, hbelow⟩ := hinv
  cases e with
  | notification n =>
    have hone : ((filterAndInclude n).toList).length ≤ 1 := by
      cases filterAndInclude n <;> simp
    have hsingle : [n].filterMap filterAndInclude = (filterAndInclude n).toList := rfl
    cases hphase : st.phase
    · simp only [MultiTxsState.step, hphase]
      exact ⟨by simp [List.filterMap_append, ← hin, hwaiting hphase, hsingle], hsizes, nofun,
        by dsimp only; omega⟩
    · simp only [MultiTxsState.step, hphase]
      split_ifs with hfull
      · exact Inv.flush filterAndInclude (by simp [List.filterMap_append, ← hin, hsingle])
          hsizes (by simp only [List.length_append] at hfull ⊢; omega)
      · exact ⟨by simp [List.filterMap_append, ← hin, hsingle], hsizes,
          fun h => by simp [hphase] at h,
          by simp only [List.length_append] at hfull ⊢; omega⟩
    · simp only [MultiTxsState.step, hphase]
      exact ⟨hin, hsizes, hwaiting, hbelow⟩
  | nothingReady =>
    cases hphase : st.phase
    · simp only [MultiTxsState.step, hphase]
      exact ⟨hin, hsizes, hwaiting, hbelow⟩
    · simp only [MultiTxsState.step, hphase]
      exact Inv.flush filterAndInclude hin hsizes (by omega)
    · simp only [MultiTxsState.step, hphase]
      exact ⟨hin, hsizes, hwaiting, hbelow⟩
  | closed subscriptionExists =>
    simp only [MultiTxsState.step]
    split_ifs
    · exact ⟨hin, hsizes, hwaiting, hbelow⟩
    · exact ⟨hin, hsizes, nofun, hbelow⟩
  | disconnect =>
    simp only [MultiTxsState.step]
    split_ifs
    · exact ⟨hin, hsizes, hwaiting, hbelow⟩
    · exact ⟨hin, hsizes, nofun, hbelow⟩

theorem Inv.run {st : MultiTxsState N R} (hinv : Inv filterAndInclude st)
    (events : List (FeedEvent N)) : Inv filterAndInclude (st.run filterAndInclude events) := by
  induction events generalizing st with
  | nil => exact hinv
  | cons e events ih => exact ih (hinv.step filterAndInclude e)

theorem step_nothingReady {st : MultiTxsState N R} (hinv : Inv filterAndInclude st)
    (hlive : (st.step filterAndInclude .nothingReady).phase ≠ .returned) :
    (st.step filterAndInclude .nothingReady).phase = .waiting ∧
      (st.step filterAndInclude .nothingReady).batch = [] := by
  cases hphase : st.phase
  · simp [step, hphase, hinv.waitingEmpty hphase]
  · simp [step, hphase]
  · simp [step, hphase] at hlive

theorem consumed_run {st : MultiTxsState N R} (hlive : st.phase ≠ .returned)
    {events : List (FeedEvent N)}
    (hopen : ∀ e ∈ events, e = .nothingReady ∨ ∃ n, e = .notification n) :
    (st.run filterAndInclude events).phase ≠ .returned ∧
      (st.run filterAndInclude events).consumed =
        st.consumed ++ events.filterMap FeedEvent.toNotification := by
  induction events generalizing st with
  | nil => exact ⟨hlive, by simp [MultiTxsState.run]⟩
  | cons e events ih =>
    have hstep : (st.step filterAndInclude e).phase ≠ .returned ∧
        (st.step filterAndInclude e).consumed = st.consumed ++ e.toNotification.toList := by
      rcases hopen e (List.mem_cons_self _ _) with rfl | ⟨n, rfl⟩
      · cases hphase : st.phase <;>
          simp_all [MultiTxsState.step, FeedEvent.toNotification]
      · cases hphase : st.phase
        · simp [MultiTxsState.step, hphase, FeedEvent.toNotification]
        · simp only [MultiTxsState.step, hphase]
          split_ifs <;> simp [FeedEvent.toNotification]
        · exact absurd hphase hlive
    obtain ⟨hlive', hconsumed⟩ := ih hstep.1 fun e' he' => hopen e' (List.mem_cons_of_mem _ he')
    refine ⟨hlive', ?_⟩
    rw [MultiTxsState.run, List.foldl_cons] at *
    rw [hconsumed, hstep.2]
    cases e <;> simp [FeedEvent.toNotification]

end MultiTxsState

/-- `subscribeMultiTxs` loses, duplicates and reorders no result: at every
point of any run, the results of the notifies sent so far followed by the
pending batch are the results of the notifications read, and while the
channel is open and the connection up those are all the notifications that
arrived.  Every notify carries between 1 and 50 results, the pending batch
holds fewer than 50, and the reader waits on the feed channel only with an
empty batch: once it finds nothing more ready, it has notified every result it
read and waits again. -/
theorem multiTxs_batches_in_order {N R : Type} (filterAndInclude : N → Option R)
    (events : List (FeedEvent N)) :
    let st := (MultiTxsState.init : MultiTxsState N R).run filterAndInclude events
    st.sent.flatten ++ st.batch = st.consumed.filterMap filterAndInclude ∧
      ((∀ e ∈ events, e = .nothingReady ∨ ∃ n, e = .notification n) →
        st.consumed = events.filterMap FeedEvent.toNotification) ∧
      (∀ b ∈ st.sent, 0 < b.length ∧ b.length ≤ 50) ∧
      st.batch.length < 50 ∧
      (st.phase = .waiting → st.batch = []) ∧
      (∀ pre, events = pre ++ [.nothingReady] → st.phase ≠ .returned →
        st.phase = .waiting ∧ st.batch = []) := by
  have hinv := fun events => (MultiTxsState.inv_init filterAndInclude).run filterAndInclude events
  have ⟨hin, hsizes, hwaiting, hbelow⟩ := hinv events
  refine ⟨hin, fun hopen => ?_, hsizes, hbelow, hwaiting, fun pre hpre hlive => ?_⟩
  · simpa [MultiTxsState.init] using
      (MultiTxsState.consumed_run filterAndInclude
        (show (MultiTxsState.init : MultiTxsState N R).phase ≠ .returned from nofun) hopen).2
  · subst hpre
    simp only [MultiTxsState.run, List.foldl_append, List.foldl_cons, List.foldl_nil] at hlive ⊢
    exact MultiTxsState.step_nothingReady filterAndInclude (hinv pre) hlive

end Gateway.Servers
