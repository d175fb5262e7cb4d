import EphemeralValidator.Cloner.Worker

/-! The fetch-with-freshness loop of `do_clone`, against any fetcher and subscription slots. -/

namespace EphemeralValidator.Cloner

open Prog (perform)

/-- The key and `min_context_slot` of a fetch. -/
def Op.fetchArgs : Op → Option (Pubkey × Option Slot)
  | .fetchAccountChainSnapshot pubkey minContextSlot => some (pubkey, minContextSlot)
  | _ => none

def Op.isSleep : Op → Bool
  | .sleep _ => true
  | _ => false

/-- The fetches of a run, in order, with the `min_context_slot` each was given. -/
def fetchCalls (tr : List Event) : List (Pubkey × Option Slot) :=
  tr.filterMap (·.op.fetchArgs)

def sleepCount (tr : List Event) : Nat := tr.countP (·.op.isSleep)

/-- The answer of an event that reads the first subscribed slot of `pubkey`. -/
def Prog.Event.firstSubscribedSlotOf (pubkey : Pubkey) : Event → Option (Option Slot)
  | ⟨.getFirstSubscribedSlot k, slot⟩ => if k = pubkey then some slot else none
  | _ => none

/-- The last reading of the first subscribed slot of `pubkey` in a run, if any. -/
def lastFirstSubscribedSlot (pubkey : Pubkey) (tr : List Event) : Option (Option Slot) :=
  tr.reverse.findSome? (Prog.Event.firstSubscribedSlotOf pubkey)

/-- The calls of the first half of `do_clone` for `pubkey`. -/
def Op.FetchPhase (pubkey : Pubkey) : Op → Prop
  | .ensureAccountMonitoring k | .getFirstSubscribedSlot k | .fetchAccountChainSnapshot k _ =>
    k = pubkey
  | .sleep _ => True
  | _ => False

def lastIsFetch (h : List Event) : Bool :=
  match h.getLast? with
  | some e => e.op.fetchArgs.isSome
  | none => false

@[simp] theorem fetchCalls_nil : fetchCalls [] = [] := rfl

@[simp] theorem fetchCalls_cons (e : Event) (tr : List Event) :
    fetchCalls (e :: tr) = (e.op.fetchArgs).toList ++ fetchCalls tr := by
  cases h : e.op.fetchArgs <;> simp [fetchCalls, List.filterMap_cons, h]

@[simp] theorem fetchCalls_append (tr tr' : List Event) :
    fetchCalls (tr ++ tr') = fetchCalls tr ++ fetchCalls tr' :=
  List.filterMap_append _ _ _

@[simp] theorem sleepCount_nil : sleepCount [] = 0 := rfl

@[simp] theorem sleepCount_cons (e : Event) (tr : List Event) :
    sleepCount (e :: tr) = sleepCount tr + if e.op.isSleep then 1 else 0 := by
  simp [sleepCount, List.countP_cons]

@[simp] theorem sleepCount_append (tr tr' : List Event) :
    sleepCount (tr ++ tr') = sleepCount tr + sleepCount tr' := List.countP_append _ _ _

@[simp] theorem lastFirstSubscribedSlot_nil (pubkey : Pubkey) :
    lastFirstSubscribedSlot pubkey [] = none := rfl

@[simp] theorem lastFirstSubscribedSlot_cons (pubkey : Pubkey) (e : Event) (tr : List Event) :
    lastFirstSubscribedSlot pubkey (e :: tr) =
      (lastFirstSubscribedSlot pubkey tr).or (e.firstSubscribedSlotOf pubkey) := by
  simp only [lastFirstSubscribedSlot, List.reverse_cons, List.findSome?_append,
    List.findSome?_cons, List.findSome?_nil]
  rcases e.firstSubscribedSlotOf pubkey with _ | _ <;> rfl

@[simp] theorem lastFirstSubscribedSlot_append (pubkey : Pubkey) (tr tr' : List Event) :
    lastFirstSubscribedSlot pubkey (tr ++ tr') =
      (lastFirstSubscribedSlot pubkey tr').or (lastFirstSubscribedSlot pubkey tr) := by
  simp [lastFirstSubscribedSlot, List.findSome?_append]

@[simp] theorem lastIsFetch_singleton (e : Event) : lastIsFetch [e] = e.op.fetchArgs.isSome := rfl

@[simp] theorem lastIsFetch_cons_cons (e e' : Event) (t : List Event) :
    lastIsFetch (e :: e' :: t) = lastIsFetch (e' :: t) := by
  simp [lastIsFetch]

@[simp] theorem lastIsFetch_append_cons (h t : List Event) (e : Event) :
    lastIsFetch (h ++ e :: t) = lastIsFetch (e :: t) := by
  simp [lastIsFetch, List.getLast?_append, List.getLast?_cons]

/-- The loop's environment: fetch `i` answers `r i`, between the slot readings `m i` and `c i`. -/
def loopOracle (base : Oracle) (r : Nat → Except AccountFetcherError AccountChainSnapshot)
    (m c : Nat → Option Slot) : Oracle := fun h op =>
  match op with
  | .getFirstSubscribedSlot _ =>
    if lastIsFetch h then c (fetchCalls h).length else m ((fetchCalls h).length + 1)
  | .fetchAccountChainSnapshot _ _ => r ((fetchCalls h).length + 1)
  | op => base h op

/-- The `i`-th iteration accepts its snapshot: the fetch succeeded, no older than `c i`. -/
def Satisfactory (r : Nat → Except AccountFetcherError AccountChainSnapshot)
    (c : Nat → Option Slot) (i : Nat) : Prop :=
  ∃ s, r i = .ok s ∧ (c i).getD u64Max ≤ s.atSlot

/-- The calls of one iteration up to its retry decision. -/
def iterationEvents (pubkey : Pubkey) (minContextSlot : Option Slot)
    (fetched : Except AccountFetcherError AccountChainSnapshot) (firstSubscribed : Option Slot) :
    List Event :=
  ⟨.getFirstSubscribedSlot pubkey, minContextSlot⟩ ::
    ⟨.fetchAccountChainSnapshot pubkey minContextSlot, fetched⟩ ::
    match fetched with
    | .ok _ => [⟨.getFirstSubscribedSlot pubkey, firstSubscribed⟩]
    | .error _ => []

/-- What iteration number `fetchCount` decides: a result, or `none` to sleep and retry. -/
def iterationDecision (fetchRetries fetchCount : Nat)
    (fetched : Except AccountFetcherError AccountChainSnapshot) (firstSubscribed : Option Slot) :
    Option (Except AccountClonerError AccountChainSnapshot) :=
  match fetched with
  | .ok s =>
    if firstSubscribed.getD u64Max ≤ s.atSlot then some (.ok s)
    else if fetchCount ≥ fetchRetries then some (.error .failedToFetchSatisfactorySlot) else none
  | .error e => if fetchCount ≥ fetchRetries then some (.error (.accountFetcherError e)) else none

@[simp] theorem fetchCalls_iterationEvents (pubkey : Pubkey) (minContextSlot : Option Slot)
    fetched firstSubscribed :
    fetchCalls (iterationEvents pubkey minContextSlot fetched firstSubscribed) =
      [(pubkey, minContextSlot)] := by
  unfold iterationEvents; split <;> simp [Op.fetchArgs]

@[simp] theorem sleepCount_iterationEvents (pubkey : Pubkey) (minContextSlot : Option Slot)
    fetched firstSubscribed :
    sleepCount (iterationEvents pubkey minContextSlot fetched firstSubscribed) = 0 := by
  unfold iterationEvents; split <;> simp [Op.isSleep]

def exhaustedError (r : Nat → Except AccountFetcherError AccountChainSnapshot) (i : Nat) :
    AccountClonerError :=
  match r i with
  | .ok _ => .failedToFetchSatisfactorySlot
  | .error e => .accountFetcherError e

section

variable {fetchRetries i : Nat} {r : Nat → Except AccountFetcherError AccountChainSnapshot}
  {c : Nat → Option Slot}

theorem iterationDecision_of_satisfactory {s : AccountChainSnapshot} (hs : r i = .ok s)
    (hc : (c i).getD u64Max ≤ s.atSlot) :
    iterationDecision fetchRetries i (r i) (c i) = some (.ok s) := by
  simp [iterationDecision, hs, hc]

theorem iterationDecision_of_retry (hn : ¬ Satisfactory r c i) (hi : i < fetchRetries) :
    iterationDecision fetchRetries i (r i) (c i) = none := by
  unfold iterationDecision
  split
  · rename_i s hs
    have hc : ¬ (c i).getD u64Max ≤ s.atSlot := fun hc => hn ⟨s, hs, hc⟩
    simp [hc, Nat.not_le.mpr hi]
  · simp [Nat.not_le.mpr hi]

theorem iterationDecision_of_last (hn : ¬ Satisfactory r c i) (hi : fetchRetries ≤ i) :
    iterationDecision fetchRetries i (r i) (c i) = some (.error (exhaustedError r i)) := by
  unfold iterationDecision exhaustedError
  split
  · rename_i s hs
    have hc : ¬ (c i).getD u64Max ≤ s.atSlot := fun hc => hn ⟨s, hs, hc⟩
    simp [hs, hc, hi]
  · simp_all

theorem lt_of_iterationDecision_eq_none {fetched : Except AccountFetcherError AccountChainSnapshot}
    {firstSubscribed : Option Slot} (hd : iterationDecision fetchRetries i fetched firstSubscribed = none) :
    i < fetchRetries := by
  unfold iterationDecision at hd
  split at hd <;> split_ifs at hd <;> omega

end

theorem iterationDecision_eq_ok {fetchRetries i : Nat}
    {fetched : Except AccountFetcherError AccountChainSnapshot} {firstSubscribed : Option Slot}
    {s : AccountChainSnapshot}
    (hd : iterationDecision fetchRetries i fetched firstSubscribed = some (.ok s)) :
    fetched = .ok s ∧ firstSubscribed.getD u64Max ≤ s.atSlot := by
  unfold iterationDecision at hd
  split at hd <;> split_ifs at hd <;> simp_all

open ClonerM

variable (w : RemoteAccountClonerWorker) (pubkey : Pubkey)

/-- One iteration of the loop after `k` fetches, against any collaborators. -/
theorem exec_fetchLoop (o : Oracle) (h : List Event) (k : Nat) :
    exec o h (w.fetchLoop pubkey k) =
      let minContextSlot := o h (.getFirstSubscribedSlot pubkey)
      let fetched := o (h ++ [⟨.getFirstSubscribedSlot pubkey, minContextSlot⟩])
        (.fetchAccountChainSnapshot pubkey minContextSlot)
      let firstSubscribed := o (h ++ [⟨.getFirstSubscribedSlot pubkey, minContextSlot⟩,
        ⟨.fetchAccountChainSnapshot pubkey minContextSlot, fetched⟩]) (.getFirstSubscribedSlot pubkey)
      let t := iterationEvents pubkey minContextSlot fetched firstSubscribed
      match iterationDecision w.fetchRetries (k + 1) fetched firstSubscribed with
      | some result => (result, t)
      | none =>
        let t := t ++ [⟨.sleep 200, ()⟩]
        ((exec o (h ++ t) (w.fetchLoop pubkey (k + 1))).1,
          t ++ (exec o (h ++ t) (w.fetchLoop pubkey (k + 1))).2) := by
  rw [RemoteAccountClonerWorker.fetchLoop]
  rcases hr : o (h ++ [⟨.getFirstSubscribedSlot pubkey, o h (.getFirstSubscribedSlot pubkey)⟩])
    (.fetchAccountChainSnapshot pubkey (o h (.getFirstSubscribedSlot pubkey))) with e | s <;>
    simp [exec_bind, hr, RemoteAccountClonerWorker.fetchAccountChainSnapshot, Prog.perform,
      iterationDecision, iterationEvents, Except.mapError] <;>
    split_ifs <;> simp [exec_bind]

/-- The run lemma of the loop: what every decision has and every retry keeps holds of a run. -/
theorem fetchLoop_run {Q : Except AccountClonerError AccountChainSnapshot × List Event → Prop}
    (hdecided : ∀ minContextSlot fetched firstSubscribed k result,
      iterationDecision w.fetchRetries k fetched firstSubscribed = some result →
        Q (result, iterationEvents pubkey minContextSlot fetched firstSubscribed))
    (hretried : ∀ minContextSlot fetched firstSubscribed k run,
      iterationDecision w.fetchRetries k fetched firstSubscribed = none → Q run →
        Q (run.1, (iterationEvents pubkey minContextSlot fetched firstSubscribed ++
          [⟨.sleep 200, ()⟩]) ++ run.2))
    (o : Oracle) (h : List Event) (k : Nat) : Q (exec o h (w.fetchLoop pubkey k)) := by
  refine RemoteAccountClonerWorker.fetchLoop.induct w pubkey
    (fun k => ∀ h, Q (exec o h (w.fetchLoop pubkey k))) (fun k ih h => ?_) k h
  rw [exec_fetchLoop]
  dsimp only
  split
  · exact hdecided _ _ _ _ _ ‹_›
  · exact hretried _ _ _ _ _ ‹_› (ih (Nat.not_le.mpr (lt_of_iterationDecision_eq_none ‹_›)) _)

/-- The loop only reads the first subscribed slot of its key, fetches the key and sleeps. -/
theorem fetchLoop_calls (o : Oracle) (h : List Event) (k : Nat) :
    ∀ e ∈ (exec o h (w.fetchLoop pubkey k)).2, e.op.FetchPhase pubkey := by
  refine fetchLoop_run w pubkey (Q := fun run => ∀ e ∈ run.2, e.op.FetchPhase pubkey)
    (fun _ fetched _ _ _ _ => ?_) (fun _ fetched _ _ _ _ hrun => ?_) o h k
  · cases fetched <;> simp [iterationEvents, Op.FetchPhase]
  · cases fetched <;> simpa [iterationEvents, Op.FetchPhase] using hrun

/-- An accepted snapshot was fetched, and is no older than the last subscribed slot read. -/
def AcceptedFresh (pubkey : Pubkey) (run : Except AccountClonerError AccountChainSnapshot × List Event) :
    Prop :=
  ∀ s, run.1 = .ok s →
    (∃ minContextSlot, (⟨.fetchAccountChainSnapshot pubkey minContextSlot, .ok s⟩ : Event) ∈ run.2) ∧
    ∃ firstSubscribed, lastFirstSubscribedSlot pubkey run.2 = some firstSubscribed ∧
      firstSubscribed.getD u64Max ≤ s.atSlot

theorem fetchLoop_acceptedFresh (o : Oracle) (h : List Event) (k : Nat) :
    AcceptedFresh pubkey (exec o h (w.fetchLoop pubkey k)) := by
  refine fetchLoop_run w pubkey (fun m _ _ _ result hd s hs => ?_)
    (fun _ _ _ _ run _ hrun s hs => ?_) o h k
  · subst hs
    obtain ⟨rfl, hc⟩ := iterationDecision_eq_ok hd
    exact ⟨⟨m, by simp [iterationEvents]⟩, _, by
      simp [iterationEvents, Prog.Event.firstSubscribedSlotOf], hc⟩
  · obtain ⟨⟨m, hm⟩, c, hc, hcs⟩ := hrun s hs
    exact ⟨⟨m, by simp [hm]⟩, c, by simp [hc, Prog.Event.firstSubscribedSlotOf], hcs⟩

theorem exec_fetchLatestAccountChainSnapshot (o : Oracle) (h : List Event)
    (hrefresh : w.permissions.allowCloningRefresh = true) :
    exec o h (w.fetchLatestAccountChainSnapshot pubkey) =
      match o h (.ensureAccountMonitoring pubkey) with
      | .error e => (.error (.accountUpdatesError e), [⟨.ensureAccountMonitoring pubkey, .error e⟩])
      | .ok () =>
        let t := [(⟨.ensureAccountMonitoring pubkey, .ok ()⟩ : Event)]
        ((exec o (h ++ t) (w.fetchLoop pubkey 0)).1, t ++ (exec o (h ++ t) (w.fetchLoop pubkey 0)).2) := by
  rcases he : o h (.ensureAccountMonitoring pubkey) with e | ⟨⟩ <;>
    simp [RemoteAccountClonerWorker.fetchLatestAccountChainSnapshot, hrefresh, exec_bind,
      Prog.perform, he, Except.mapError]

theorem exec_fetchLatestAccountChainSnapshot_of_not_refresh (o : Oracle) (h : List Event)
    (hrefresh : w.permissions.allowCloningRefresh = false) :
    exec o h (w.fetchLatestAccountChainSnapshot pubkey) =
      ((o h (.fetchAccountChainSnapshot pubkey none)).mapError .accountFetcherError,
        [⟨.fetchAccountChainSnapshot pubkey none, o h (.fetchAccountChainSnapshot pubkey none)⟩]) := by
  simp [RemoteAccountClonerWorker.fetchLatestAccountChainSnapshot, hrefresh,
    RemoteAccountClonerWorker.fetchAccountChainSnapshot, Prog.perform]

/-- The first half of `do_clone` makes only the calls of its fetch phase. -/
theorem fetchLatest_calls (o : Oracle) (h : List Event) :
    ∀ e ∈ (exec o h (w.fetchLatestAccountChainSnapshot pubkey)).2, e.op.FetchPhase pubkey := by
  cases hrefresh : w.permissions.allowCloningRefresh
  · simp [exec_fetchLatestAccountChainSnapshot_of_not_refresh w pubkey o h hrefresh, Op.FetchPhase]
  · rw [exec_fetchLatestAccountChainSnapshot w pubkey o h hrefresh]
    split
    · simp [Op.FetchPhase]
    · simpa [Op.FetchPhase] using fetchLoop_calls w pubkey o _ 0

/-- With refresh allowed, the first half of `do_clone` accepts only fresh snapshots. -/
theorem fetchLatest_acceptedFresh (o : Oracle) (h : List Event)
    (hrefresh : w.permissions.allowCloningRefresh = true) :
    AcceptedFresh pubkey (exec o h (w.fetchLatestAccountChainSnapshot pubkey)) := by
  rw [exec_fetchLatestAccountChainSnapshot w pubkey o h hrefresh]
  split
  · rintro _ ⟨⟩
  · intro s hs
    obtain ⟨⟨m, hm⟩, c, hc, hcs⟩ := fetchLoop_acceptedFresh w pubkey o _ 0 s hs
    exact ⟨⟨m, by simp [hm]⟩, c, by simp [hc, Prog.Event.firstSubscribedSlotOf], hcs⟩

/-- A snapshot `do_clone` goes on with is the answer of one of its fetches of the key. -/
theorem fetchLatest_fetched (o : Oracle) (h : List Event) {s : AccountChainSnapshot}
    (hs : (exec o h (w.fetchLatestAccountChainSnapshot pubkey)).1 = .ok s) :
    ∃ minContextSlot, (⟨.fetchAccountChainSnapshot pubkey minContextSlot, .ok s⟩ : Event) ∈
      (exec o h (w.fetchLatestAccountChainSnapshot pubkey)).2 := by
  cases hrefresh : w.permissions.allowCloningRefresh
  · rw [exec_fetchLatestAccountChainSnapshot_of_not_refresh w pubkey o h hrefresh] at hs ⊢
    rcases hr : o h (.fetchAccountChainSnapshot pubkey none) with e | s' <;>
      simp_all [Except.mapError]
  · exact (fetchLatest_acceptedFresh w pubkey o h hrefresh s hs).1

variable (base : Oracle) (r : Nat → Except AccountFetcherError AccountChainSnapshot)
  (m c : Nat → Option Slot)

theorem exec_fetchLoop_loopOracle {h : List Event} {k : Nat} (hk : (fetchCalls h).length = k)
    (hl : lastIsFetch h = false) :
    exec (loopOracle base r m c) h (w.fetchLoop pubkey k) =
      match iterationDecision w.fetchRetries (k + 1) (r (k + 1)) (c (k + 1)) with
      | some result => (result, iterationEvents pubkey (m (k + 1)) (r (k + 1)) (c (k + 1)))
      | none =>
        let t := iterationEvents pubkey (m (k + 1)) (r (k + 1)) (c (k + 1)) ++ [⟨.sleep 200, ()⟩]
        ((exec (loopOracle base r m c) (h ++ t) (w.fetchLoop pubkey (k + 1))).1,
          t ++ (exec (loopOracle base r m c) (h ++ t) (w.fetchLoop pubkey (k + 1))).2) := by
  rw [exec_fetchLoop]
  simp [loopOracle, hk, hl, Op.fetchArgs]

theorem retry_history {h : List Event} {k : Nat} (hk : (fetchCalls h).length = k) :
    (fetchCalls (h ++ (iterationEvents pubkey (m (k + 1)) (r (k + 1)) (c (k + 1)) ++
        [⟨.sleep 200, ()⟩]))).length = k + 1 ∧
      lastIsFetch (h ++ (iterationEvents pubkey (m (k + 1)) (r (k + 1)) (c (k + 1)) ++
        [⟨.sleep 200, ()⟩])) = false := by
  unfold iterationEvents
  split <;> simp [hk, Op.fetchArgs]

theorem exec_fetchLoop_found {j : Nat} (hj : j ≤ w.fetchRetries) (hsat : Satisfactory r c j) :
    ∀ {h : List Event} {k : Nat}, (fetchCalls h).length = k → lastIsFetch h = false → k < j →
      (∀ i, k < i → i < j → ¬ Satisfactory r c i) →
      ∃ s, r j = .ok s ∧ (exec (loopOracle base r m c) h (w.fetchLoop pubkey k)).1 = .ok s ∧
        fetchCalls (exec (loopOracle base r m c) h (w.fetchLoop pubkey k)).2 =
          (List.range' (k + 1) (j - k)).map (fun i => (pubkey, m i)) ∧
        sleepCount (exec (loopOracle base r m c) h (w.fetchLoop pubkey k)).2 = j - 1 - k := by
  intro h k hk hl hkj hfirst
  generalize hn : j - k - 1 = n
  induction n generalizing h k with
  | zero =>
    obtain ⟨s, hs, hc⟩ := hsat
    have hj' : j = k + 1 := by omega
    subst hj'
    refine ⟨s, hs, ?_⟩
    simp [exec_fetchLoop_loopOracle w pubkey base r m c hk hl, iterationDecision_of_satisfactory hs hc]
  | succ n ih =>
    have hnext := iterationDecision_of_retry (hfirst (k + 1) (by omega) (by omega))
      (show k + 1 < w.fetchRetries by omega)
    obtain ⟨hk', hl'⟩ := retry_history pubkey r m c hk
    obtain ⟨s, hs, hres, hcalls, hsleeps⟩ :=
      ih hk' hl' (by omega) (fun i hi hij => hfirst i (by omega) hij) (by omega)
    refine ⟨s, hs, ?_⟩
    rw [exec_fetchLoop_loopOracle w pubkey base r m c hk hl, hnext]
    refine ⟨hres, ?_, ?_⟩
    · simp [hcalls, List.range'_succ, show j - k = j - (k + 1) + 1 by omega, Op.fetchArgs]
    · simp [hsleeps, Op.isSleep]
      omega

theorem exec_fetchLoop_exhausted :
    ∀ {h : List Event} {k : Nat}, (fetchCalls h).length = k → lastIsFetch h = false →
      k < w.fetchRetries → (∀ i, k < i → i ≤ w.fetchRetries → ¬ Satisfactory r c i) →
      (exec (loopOracle base r m c) h (w.fetchLoop pubkey k)).1 =
          .error (exhaustedError r w.fetchRetries) ∧
        fetchCalls (exec (loopOracle base r m c) h (w.fetchLoop pubkey k)).2 =
          (List.range' (k + 1) (w.fetchRetries - k)).map (fun i => (pubkey, m i)) ∧
        sleepCount (exec (loopOracle base r m c) h (w.fetchLoop pubkey k)).2 =
          w.fetchRetries - 1 - k := by
  intro h k hk hl hkR hnone
  generalize hn : w.fetchRetries - k - 1 = n
  induction n generalizing h k with
  | zero =>
    have hlast := iterationDecision_of_last (hnone (k + 1) (by omega) (by omega))
      (show w.fetchRetries ≤ k + 1 by omega)
    rw [exec_fetchLoop_loopOracle w pubkey base r m c hk hl, hlast]
    simp [show w.fetchRetries = k + 1 by omega]
  | succ n ih =>
    have hnext := iterationDecision_of_retry (hnone (k + 1) (by omega) (by omega))
      (show k + 1 < w.fetchRetries by omega)
    obtain ⟨hk', hl'⟩ := retry_history pubkey r m c hk
    obtain ⟨hres, hcalls, hsleeps⟩ :=
      ih hk' hl' (by omega) (fun i hi hiR => hnone i (by omega) hiR) (by omega)
    rw [exec_fetchLoop_loopOracle w pubkey base r m c hk hl, hnext]
    refine ⟨hres, ?_, ?_⟩
    · simp [hcalls, List.range'_succ, Op.fetchArgs,
        show w.fetchRetries - k = w.fetchRetries - (k + 1) + 1 by omega]
    · simp [hsleeps, Op.isSleep]
      omega

/-- The refresh path of `do_clone`: a failed monitoring request stops it, else the first
satisfactory iteration ends it, else it fails as the last of `fetch_retries` fetches did. -/
theorem fetchLatest_refresh_loop (hrefresh : w.permissions.allowCloningRefresh = true)
    (hR : 1 ≤ w.fetchRetries) :
    let run := exec (loopOracle base r m c) [] (w.fetchLatestAccountChainSnapshot pubkey)
    (∀ e, base [] (.ensureAccountMonitoring pubkey) = .error e →
      run = (.error (.accountUpdatesError e), [⟨.ensureAccountMonitoring pubkey, .error e⟩])) ∧
    (base [] (.ensureAccountMonitoring pubkey) = .ok () →
      (∀ j, 1 ≤ j → j ≤ w.fetchRetries → Satisfactory r c j →
        (∀ i, 1 ≤ i → i < j → ¬ Satisfactory r c i) →
        ∃ s, r j = .ok s ∧ run.1 = .ok s ∧
          fetchCalls run.2 = (List.range' 1 j).map (fun i => (pubkey, m i)) ∧
          sleepCount run.2 = j - 1) ∧
      ((∀ i, 1 ≤ i → i ≤ w.fetchRetries → ¬ Satisfactory r c i) →
        run.1 = .error (exhaustedError r w.fetchRetries) ∧
          fetchCalls run.2 = (List.range' 1 w.fetchRetries).map (fun i => (pubkey, m i)) ∧
          sleepCount run.2 = w.fetchRetries - 1)) := by
  have hensure : loopOracle base r m c [] (.ensureAccountMonitoring pubkey) =
      base [] (.ensureAccountMonitoring pubkey) := rfl
  refine ⟨fun e he => ?_, fun he => ⟨fun j hj hjR hsat hfirst => ?_, fun hnone => ?_⟩⟩
  · simp [exec_fetchLatestAccountChainSnapshot w pubkey _ _ hrefresh, hensure, he]
  · obtain ⟨s, hs, hres, hcalls, hsleeps⟩ := exec_fetchLoop_found w pubkey base r m c hjR hsat
      (h := [⟨.ensureAccountMonitoring pubkey, .ok ()⟩]) (k := 0) (by simp [Op.fetchArgs])
      (by simp [Op.fetchArgs]) (by omega) (fun i hi hij => hfirst i hi hij)
    refine ⟨s, hs, ?_⟩
    simp [exec_fetchLatestAccountChainSnapshot w pubkey _ _ hrefresh, hensure, he, hres, hcalls,
      hsleeps, Op.fetchArgs, Op.isSleep]
  · obtain ⟨hres, hcalls, hsleeps⟩ := exec_fetchLoop_exhausted w pubkey base r m c
      (h := [⟨.ensureAccountMonitoring pubkey, .ok ()⟩]) (k := 0) (by simp [Op.fetchArgs])
      (by simp [Op.fetchArgs]) (by omega) (fun i hi hiR => hnone i hi hiR)
    simp [exec_fetchLatestAccountChainSnapshot w pubkey _ _ hrefresh, hensure, he, hres, hcalls,
      hsleeps, Op.fetchArgs, Op.isSleep]

/-- A fetcher that always fails, and one stale four times before the subscription's slot. -/
theorem fetchLatest_refresh_loop_stub :
    let w := RemoteAccountClonerWorker.new .stub none [] none ⟨true, true, true, true, true⟩ 0
    (w.permissions.allowCloningRefresh = true ∧ 1 ≤ w.fetchRetries) ∧
    (let run := exec (loopOracle (fun _ op => op.defaultResp) (fun _ => .error ⟨7⟩)
      (fun _ => none) (fun _ => none)) [] (w.fetchLatestAccountChainSnapshot 9)
    (∀ e, Op.defaultResp (.ensureAccountMonitoring 9) = .error e →
      run = (.error (.accountUpdatesError e), [⟨.ensureAccountMonitoring 9, .error e⟩])) ∧
    (Op.defaultResp (.ensureAccountMonitoring 9) = .ok () →
      (∀ j, 1 ≤ j → j ≤ w.fetchRetries → Satisfactory (fun _ => .error ⟨7⟩) (fun _ => none) j →
        (∀ i, 1 ≤ i → i < j → ¬ Satisfactory (fun _ => .error ⟨7⟩) (fun _ => none) i) →
        ∃ s, (Except.error ⟨7⟩ : Except AccountFetcherError AccountChainSnapshot) = .ok s ∧
          run.1 = .ok s ∧ fetchCalls run.2 = (List.range' 1 j).map (fun _ => (9, none)) ∧
          sleepCount run.2 = j - 1) ∧
      ((∀ i, 1 ≤ i → i ≤ w.fetchRetries →
          ¬ Satisfactory (fun _ => .error ⟨7⟩) (fun _ => none) i) →
        run.1 = .error (exhaustedError (fun _ => .error ⟨7⟩) w.fetchRetries) ∧
          fetchCalls run.2 = (List.range' 1 w.fetchRetries).map (fun _ => (9, none)) ∧
          sleepCount run.2 = w.fetchRetries - 1))) ∧
    let stale : Nat → Except AccountFetcherError AccountChainSnapshot := fun i =>
      .ok ⟨9, if i < 5 then 199 else 200, .undelegated ⟨0, [], 0, false⟩⟩
    let run := exec (loopOracle (fun _ op => op.defaultResp) stale (fun _ => some 200)
      (fun _ => some 200)) [] (w.fetchLatestAccountChainSnapshot 9)
    (Satisfactory stale (fun _ => some 200) 5 ∧
      ∀ i, 1 ≤ i → i < 5 → ¬ Satisfactory stale (fun _ => some 200) i) ∧
    (∀ e, Op.defaultResp (.ensureAccountMonitoring 9) = .error e →
      run = (.error (.accountUpdatesError e), [⟨.ensureAccountMonitoring 9, .error e⟩])) ∧
    (Op.defaultResp (.ensureAccountMonitoring 9) = .ok () →
      (∀ j, 1 ≤ j → j ≤ w.fetchRetries → Satisfactory stale (fun _ => some 200) j →
        (∀ i, 1 ≤ i → i < j → ¬ Satisfactory stale (fun _ => some 200) i) →
        ∃ s, stale j = .ok s ∧ run.1 = .ok s ∧
          fetchCalls run.2 = (List.range' 1 j).map (fun _ => (9, some 200)) ∧
          sleepCount run.2 = j - 1) ∧
      ((∀ i, 1 ≤ i → i ≤ w.fetchRetries → ¬ Satisfactory stale (fun _ => some 200) i) →
        run.1 = .error (exhaustedError stale w.fetchRetries) ∧
          fetchCalls run.2 = (List.range' 1 w.fetchRetries).map (fun _ => (9, some 200)) ∧
          sleepCount run.2 = w.fetchRetries - 1)) := by
  intro w
  have hstale : ∀ i, 1 ≤ i → i < 5 → ¬ Satisfactory (fun i =>
      .ok ⟨9, if i < 5 then 199 else 200, .undelegated ⟨0, [], 0, false⟩⟩) (fun _ => some 200) i := by
    rintro i - hi ⟨s, hs, hc⟩
    simp only [hi, if_true, Except.ok.injEq] at hs
    subst hs
    exact absurd hc (by decide : ¬ (200 : Slot) ≤ 199)
  exact ⟨⟨rfl, by decide⟩, fetchLatest_refresh_loop w 9 (fun _ op => op.defaultResp)
      (fun _ => .error ⟨7⟩) (fun _ => none) (fun _ => none) rfl (by decide),
    ⟨⟨_, rfl, by decide⟩, hstale⟩, fetchLatest_refresh_loop w 9 (fun _ op => op.defaultResp) _
      (fun _ => some 200) (fun _ => some 200) rfl (by decide)⟩

end EphemeralValidator.Cloner
