import Mathlib.Data.List.Basic

/-!
# The websocket server's lifecycle

`ManageWSServer` keeps the gateway's websocket RPC server in step with the
node's sync status.  With active management, each `Unsynced` update shuts
down the server `ch.websocketServer` points to, and any other update starts
a goroutine running `runWSServer`, which makes a new server, points
`ch.websocketServer` at it, and then calls `ListenAndServe` on the server
`ch.websocketServer` points to by then.  Without active management one such
goroutine starts, and the updates are only consumed.

The goroutines interleave with the loop and with each other in any order: a
run is the sequence of the steps taken, each an update the loop reads or the
next statement of one goroutine.  An `http.Server` binds the port in
`ListenAndServe`, which fails when another server holds it and returns at
once after `Shutdown`; `Shutdown` frees the port.  The server given to
`NewClientHandler` is server 0, not yet started.
-/

namespace Gateway.Servers

/-- Where an `http.Server` of the handler is. -/
inductive ServerStatus where
  | created
  /-- `ListenAndServe` bound the port and serves. -/
  | listening
  /-- `ListenAndServe` returned an error: the port was taken. -/
  | failed
  /-- `Shutdown` was called; `ListenAndServe` returns `ErrServerClosed`. -/
  | closed
  deriving DecidableEq, Repr

/-- Where a `runWSServer` goroutine is: before its assignment of
`ch.websocketServer`, before its `ListenAndServe`, or done. -/
inductive RunWSServerPc where
  | spawned
  | assigned
  | returned
  deriving DecidableEq, Repr

/-- What `shutdownWSServer` and the loop do besides shutting a server down. -/
inductive WsEffect where
  | closeAllClientConnections
  | shutdown (server : Nat)
  | subscriptionReset
  deriving DecidableEq, Repr

/-- The handler's servers, numbered in the order they are made,
`ch.websocketServer`, the `runWSServer` goroutines, and what was done. -/
structure WsLifecycle where
  servers : List ServerStatus
  websocketServer : Nat
  goroutines : List RunWSServerPc
  effects : List WsEffect
  deriving DecidableEq, Repr

/-- A step of a run: the loop reads a sync status update (`true` for any
status but `Unsynced`), or a goroutine runs its assignment or its
`ListenAndServe`. -/
inductive WsAction where
  | syncStatus (synced : Bool)
  | assign (goroutine : Nat)
  | listen (goroutine : Nat)
  deriving DecidableEq, Repr

namespace WsLifecycle

/-- `ListenAndServe` on server `s`: a server shut down returns at once, and
binding the port fails while a server listens on it. -/
def listenAndServe (servers : List ServerStatus) (s : Nat) : List ServerStatus :=
  match servers[s]? with
  | some .created | some .failed =>
    servers.set s (if ServerStatus.listening ∈ servers then .failed else .listening)
  | _ => servers

/-- The handler as `ManageWSServer(activeManagement)` starts it. -/
def init (activeManagement : Bool) : WsLifecycle :=
  ⟨[.created], 0, if activeManagement then [] else [.spawned], []⟩

/-- One step, or `none` when no goroutine of that number is at that
statement. -/
def step (activeManagement : Bool) (st : WsLifecycle) : WsAction → Option WsLifecycle
  | .syncStatus synced =>
    if !activeManagement then some st
    else if synced then some { st with goroutines := st.goroutines ++ [.spawned] }
    else some { st with
      servers := st.servers.set st.websocketServer .closed
      effects := st.effects ++
        [.closeAllClientConnections, .shutdown st.websocketServer, .subscriptionReset] }
  | .assign g =>
    if st.goroutines[g]? = some .spawned then
      some { st with
        servers := st.servers ++ [.created]
        websocketServer := st.servers.length
        goroutines := st.goroutines.set g .assigned }
    else none
  | .listen g =>
    if st.goroutines[g]? = some .assigned then
      some { st with
        servers := listenAndServe st.servers st.websocketServer
        goroutines := st.goroutines.set g .returned }
    else none

def run (activeManagement : Bool) (st : WsLifecycle) (actions : List WsAction) :
    Option WsLifecycle :=
  actions.foldlM (step activeManagement) st

/-! ## Runs -/

/-- Server `s` listens. -/
def Listening (st : WsLifecycle) (s : Nat) : Prop := st.servers[s]? = some .listening

/-- At most one server listens: one port, bound once. -/
def OneListener (st : WsLifecycle) : Prop := ∀ s t, st.Listening s → st.Listening t → s = t

variable {activeManagement : Bool}

theorem run_cons (st : WsLifecycle) (a : WsAction) (actions : List WsAction) :
    run activeManagement st (a :: actions) =
      (step activeManagement st a).bind fun st' => run activeManagement st' actions := rfl

theorem run_preserves (P : WsLifecycle → Prop)
    (hstep : ∀ st a st', P st → step activeManagement st a = some st' → P st') :
    ∀ {actions : List WsAction} {st st' : WsLifecycle},
      P st → run activeManagement st actions = some st' → P st'
  | [], _, _, hp, h => by cases h; exact hp
  | a :: actions, st, st', hp, h => by
    rw [run_cons] at h
    obtain ⟨st1, h1, h2⟩ := Option.bind_eq_some.1 h
    exact run_preserves P hstep (hstep st a st1 hp h1) h2

theorem listenAndServe_of_ne {servers : List ServerStatus} {s t : Nat} (h : s ≠ t) :
    (listenAndServe servers s)[t]? = servers[t]? := by
  unfold listenAndServe
  split <;> simp [h]

theorem listening_listenAndServe {servers : List ServerStatus} {s t : Nat}
    (h : (listenAndServe servers s)[t]? = some .listening) :
    servers[t]? = some .listening ∨ t = s ∧ ServerStatus.listening ∉ servers := by
  by_cases hst : s = t
  · subst hst
    unfold listenAndServe at h
    split at h <;> rename_i hstatus
    all_goals first
      | exact Or.inl h
      | (rw [List.getElem?_set_self', hstatus] at h
         split_ifs at h with hmem
         · simp at h
         · exact Or.inr ⟨rfl, hmem⟩)
  · exact Or.inl (by rwa [listenAndServe_of_ne hst] at h)

theorem listening_step {st st' : WsLifecycle} {a : WsAction} {s : Nat}
    (hstep : step activeManagement st a = some st') (hs : st'.Listening s) :
    st.Listening s ∨ s = st.websocketServer ∧ ∀ t, ¬st.Listening t := by
  cases a with
  | syncStatus synced =>
    simp only [step] at hstep
    split_ifs at hstep <;> cases hstep
    · exact Or.inl hs
    · exact Or.inl hs
    · refine Or.inl ?_
      by_cases hws : st.websocketServer = s
      · subst hws
        simp [Listening, List.getElem?_set] at hs
      · rwa [Listening, List.getElem?_set_ne hws] at hs
  | assign g =>
    simp only [step] at hstep
    split_ifs at hstep
    cases hstep
    refine Or.inl ?_
    rcases lt_or_ge s st.servers.length with hlt | hge
    · rwa [Listening, List.getElem?_append_left hlt] at hs
    · simp [Listening, List.getElem?_append_right hge, List.getElem?_cons] at hs
  | listen g =>
    simp only [step] at hstep
    split_ifs at hstep
    cases hstep
    rcases listening_listenAndServe hs with h | ⟨rfl, hfree⟩
    · exact Or.inl h
    · exact Or.inr ⟨rfl, fun t ht => hfree (List.mem_iff_getElem?.2 ⟨t, ht⟩)⟩

theorem oneListener_step {st st' : WsLifecycle} {a : WsAction} (h : st.OneListener)
    (hstep : step activeManagement st a = some st') : st'.OneListener := by
  intro s t hs ht
  rcases listening_step hstep hs with hs | ⟨rfl, hfree⟩ <;>
    rcases listening_step hstep ht with ht | ⟨rfl, hfree'⟩
  · exact h s t hs ht
  · exact absurd hs (hfree' s)
  · exact absurd ht (hfree t)
  · rfl

theorem orphan_step {st st' : WsLifecycle} {a : WsAction} {s : Nat}
    (hstep : step activeManagement st a = some st') (hs : st.Listening s)
    (hne : st.websocketServer ≠ s) : st'.Listening s ∧ st'.websocketServer ≠ s := by
  cases a with
  | syncStatus synced =>
    simp only [step] at hstep
    split_ifs at hstep <;> cases hstep
    · exact ⟨hs, hne⟩
    · exact ⟨hs, hne⟩
    · exact ⟨by rwa [Listening, List.getElem?_set_ne hne], hne⟩
  | assign g =>
    simp only [step] at hstep
    split_ifs at hstep
    cases hstep
    have hlt : s < st.servers.length := (List.getElem?_eq_some_iff.1 hs).1
    exact ⟨by rwa [Listening, List.getElem?_append_left hlt], by dsimp only; omega⟩
  | listen g =>
    simp only [step] at hstep
    split_ifs at hstep
    cases hstep
    exact ⟨by rwa [Listening, listenAndServe_of_ne hne], hne⟩

theorem oneListener_init : (init activeManagement).OneListener := by
  intro s t hs ht
  simp only [Listening, init] at hs ht
  cases s <;> cases t <;> simp_all

/-! ## Updates one at a time -/

/-- The steps of a run in which each goroutine runs to its end before the
loop reads the next update; goroutines are numbered from `g`. -/
def sequentialRun : Nat → List Bool → List WsAction
  | _, [] => []
  | g, true :: updates =>
    .syncStatus true :: .assign g :: .listen g :: sequentialRun (g + 1) updates
  | g, false :: updates => .syncStatus false :: sequentialRun g updates

theorem run_unsynced {st : WsLifecycle} (hlisten : ∀ s, st.Listening s → s = st.websocketServer) :
    ∃ st', run true st [.syncStatus false] = some st' ∧ st'.goroutines = st.goroutines ∧
      ∀ s, ¬st'.Listening s := by
  refine ⟨{ st with
      servers := st.servers.set st.websocketServer .closed
      effects := st.effects ++
        [.closeAllClientConnections, .shutdown st.websocketServer, .subscriptionReset] },
    rfl, rfl, fun s hs => ?_⟩
  by_cases hws : st.websocketServer = s
  · subst hws
    simp [Listening, List.getElem?_set] at hs
  · rw [Listening, List.getElem?_set_ne hws] at hs
    exact hws (hlisten s hs).symm

theorem run_synced {st : WsLifecycle} (hdone : ∀ pc ∈ st.goroutines, pc = .returned)
    (hfree : ServerStatus.listening ∉ st.servers) :
    ∃ st', run true st [.syncStatus true, .assign st.goroutines.length,
        .listen st.goroutines.length] = some st' ∧
      st'.goroutines.length = st.goroutines.length + 1 ∧
      (∀ pc ∈ st'.goroutines, pc = .returned) ∧ ∀ s, st'.Listening s ↔ s = st'.websocketServer := by
  let g := st.goroutines.length
  have hfree' : ServerStatus.listening ∉ st.servers ++ [.created] := by simp [hfree]
  refine ⟨⟨st.servers ++ [.listening], st.servers.length,
      ((st.goroutines ++ [RunWSServerPc.spawned]).set g .assigned).set g .returned, st.effects⟩,
    by simp [run, step, g, List.getElem?_concat_length, listenAndServe, hfree'],
    by simp [g], fun pc hpc => ?_, fun s => ?_⟩
  · simp only [g, List.set_append_right _ _ (le_refl _), Nat.sub_self, List.set_cons_zero,
      List.mem_append, List.mem_singleton] at hpc
    exact hpc.elim (hdone pc) id
  · rcases lt_or_ge s st.servers.length with hlt | hge
    · simp only [Listening, List.getElem?_append_left hlt]
      exact iff_of_false (fun hs => hfree (List.mem_iff_getElem?.2 ⟨s, hs⟩)) (by omega)
    · simp [Listening, List.getElem?_append_right hge, List.getElem?_cons]
      omega

theorem run_sequentialRun : ∀ (updates : List Bool) (st : WsLifecycle) (last : Bool),
    (∀ pc ∈ st.goroutines, pc = .returned) →
    (∀ s, st.Listening s ↔ last = true ∧ s = st.websocketServer) →
    updates.Chain (fun a b => ¬(a = true ∧ b = true)) last →
    ∃ st', run true st (sequentialRun st.goroutines.length updates) = some st' ∧
      (∀ pc ∈ st'.goroutines, pc = .returned) ∧
      ∀ s, st'.Listening s ↔ updates.getLast?.getD last = true ∧ s = st'.websocketServer
  | [], st, _, hdone, hlisten, _ => ⟨st, rfl, hdone, by simpa using hlisten⟩
  | false :: updates, st, last, hdone, hlisten, hchain => by
    obtain ⟨st1, hstep, hg, hnone⟩ := run_unsynced fun s hs => ((hlisten s).1 hs).2
    obtain ⟨st', hrun, hdone', hlisten'⟩ := run_sequentialRun updates st1 false
      (hg ▸ hdone) (fun s => iff_of_false (hnone s) (by simp)) (List.chain_cons.1 hchain).2
    refine ⟨st', ?_, hdone', fun s => ?_⟩
    · rw [hg] at hrun
      rw [show sequentialRun st.goroutines.length (false :: updates) =
        [.syncStatus false] ++ sequentialRun st.goroutines.length updates from rfl, run,
        List.foldlM_append]
      exact Option.bind_eq_some.2 ⟨st1, hstep, hrun⟩
    · rw [hlisten']
      cases updates <;> simp [List.getLast?_cons]
  | true :: updates, st, last, hdone, hlisten, hchain => by
    obtain ⟨hlast, hchain⟩ := List.chain_cons.1 hchain
    have hfree : ServerStatus.listening ∉ st.servers := fun hmem => by
      obtain ⟨s, hs⟩ := List.mem_iff_getElem?.1 hmem
      exact hlast ⟨((hlisten s).1 hs).1, rfl⟩
    obtain ⟨st3, hstep, hlen, hdone3, hlisten3⟩ := run_synced hdone hfree
    obtain ⟨st', hrun, hdone', hlisten'⟩ :=
      run_sequentialRun updates st3 true hdone3 (fun s => by simpa using hlisten3 s) hchain
    refine ⟨st', ?_, hdone', fun s => ?_⟩
    · rw [hlen] at hrun
      rw [show sequentialRun st.goroutines.length (true :: updates) =
        [.syncStatus true, .assign st.goroutines.length, .listen st.goroutines.length] ++
          sequentialRun (st.goroutines.length + 1) updates from rfl, run, List.foldlM_append]
      exact Option.bind_eq_some.2 ⟨st3, hstep, hrun⟩
    · rw [hlisten']
      cases updates <;> simp [List.getLast?_cons]

end WsLifecycle

/-- Once a server listens while `ch.websocketServer` points to another, it
listens for ever, in either mode and any interleaving: no `Unsynced` update
reaches it, and no server made after it can bind the port. -/
theorem wsServer_orphan_listens_forever (activeManagement : Bool)
    {before after : List WsAction} {st st' : WsLifecycle} {s : Nat}
    (hreach : WsLifecycle.run activeManagement (.init activeManagement) before = some st)
    (hs : st.Listening s) (horphan : st.websocketServer ≠ s)
    (hrun : WsLifecycle.run activeManagement st after = some st') :
    st'.Listening s ∧ ∀ t, st'.Listening t → t = s := by
  have hone : st'.OneListener :=
    WsLifecycle.run_preserves _ (fun _ _ _ hp hstep => WsLifecycle.oneListener_step hp hstep)
      (WsLifecycle.run_preserves _ (fun _ _ _ hp hstep => WsLifecycle.oneListener_step hp hstep)
        WsLifecycle.oneListener_init hreach) hrun
  have horphan' : st'.Listening s ∧ st'.websocketServer ≠ s :=
    WsLifecycle.run_preserves (fun st => st.Listening s ∧ st.websocketServer ≠ s)
      (fun _ _ _ hp hstep => WsLifecycle.orphan_step hstep hp.1 hp.2) ⟨hs, horphan⟩ hrun
  exact ⟨horphan'.1, fun t ht => hone t s ht horphan'.1⟩

/-- Two updates other than `Unsynced` in a row, each run to its end, leave
the first server listening after the next `Unsynced`. -/
theorem synced_twice_leaves_server_listening :
    ∃ st st', WsLifecycle.run true (.init true) (WsLifecycle.sequentialRun 0 [true, true]) = some st ∧
      st.Listening 1 ∧ st.websocketServer ≠ 1 ∧
      WsLifecycle.run true st [.syncStatus false] = some st' ∧
      st'.Listening 1 ∧ ∀ t, st'.Listening t → t = 1 := by
  refine ⟨⟨[.created, .listening, .failed], 2, [.returned, .returned], []⟩,
    ⟨[.created, .listening, .closed], 2, [.returned, .returned],
      [.closeAllClientConnections, .shutdown 2, .subscriptionReset]⟩, ?_⟩
  have hreach : WsLifecycle.run true (.init true) (WsLifecycle.sequentialRun 0 [true, true]) =
      some ⟨[.created, .listening, .failed], 2, [.returned, .returned], []⟩ := rfl
  have hrun : WsLifecycle.run true ⟨[.created, .listening, .failed], 2, [.returned, .returned], []⟩
      [.syncStatus false] = some ⟨[.created, .listening, .closed], 2, [.returned, .returned],
        [.closeAllClientConnections, .shutdown 2, .subscriptionReset]⟩ := rfl
  exact ⟨hreach, rfl, by decide, hrun,
    wsServer_orphan_listens_forever true hreach rfl (by decide) hrun⟩

/-- When each `runWSServer` goroutine finishes before the next update and no
two updates other than `Unsynced` come in a row, a server listens after a
run exactly when the last update was not `Unsynced`, and it is the one
`ch.websocketServer` points to. -/
theorem wsServer_sequential_listens {updates : List Bool}
    (halternate : updates.Chain' fun a b => ¬(a = true ∧ b = true)) :
    ∃ st, WsLifecycle.run true (.init true) (WsLifecycle.sequentialRun 0 updates) = some st ∧
      ∀ s, st.Listening s ↔ updates.getLast? = some true ∧ s = st.websocketServer := by
  have hchain : updates.Chain (fun a b => ¬(a = true ∧ b = true)) false := by
    cases updates with
    | nil => exact List.Chain.nil
    | cons u us => exact List.Chain.cons (by simp) halternate
  obtain ⟨st, hrun, -, hlisten⟩ := WsLifecycle.run_sequentialRun updates (.init true) false
    (fun pc hpc => by simp [WsLifecycle.init] at hpc)
    (fun s => iff_of_false (by cases s <;> simp [WsLifecycle.Listening, WsLifecycle.init])
      (by simp)) hchain
  refine ⟨st, hrun, fun s => ?_⟩
  rw [hlisten]
  cases updates.getLast? with
  | none => simp
  | some b => cases b <;> simp

/-- Three alternating updates, each run to its end. -/
theorem wsServer_sequential_listens_three :
    ∃ st, WsLifecycle.run true (.init true) (WsLifecycle.sequentialRun 0 [true, false, true]) =
      some st ∧ ∀ s, st.Listening s ↔ [true, false, true].getLast? = some true ∧
        s = st.websocketServer :=
  wsServer_sequential_listens (.cons (by decide) (.cons (by decide) .nil))

end Gateway.Servers
