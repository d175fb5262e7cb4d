import EphemeralValidator.Cloner.Requests

/-! Freshness of clone outcomes against the last observed update. -/

namespace EphemeralValidator.Cloner

open Prog (perform)
open ClonerM

/-- The fetcher's contract: a snapshot fetched with a `min_context_slot` is at or after it. -/
def FetchHonoursMinContextSlot (o : Oracle) : Prop :=
  ∀ h pubkey minContextSlot snapshot,
    o h (.fetchAccountChainSnapshot pubkey (some minContextSlot)) = .ok snapshot →
      minContextSlot ≤ snapshot.atSlot

theorem firstSubscribedSlotOf_eq_none {pubkey : Pubkey} {e : Event}
    (he : e.op.ClonePhase pubkey) : e.firstSubscribedSlotOf pubkey = none := by
  rcases e with ⟨op, resp⟩
  cases op <;> simp_all [Op.ClonePhase, Prog.Event.firstSubscribedSlotOf]

theorem fetchCalls_ne_nil {tr : List Event} {pubkey : Pubkey} {minContextSlot : Option Slot}
    {fetched : Except AccountFetcherError AccountChainSnapshot}
    (he : ⟨.fetchAccountChainSnapshot pubkey minContextSlot, fetched⟩ ∈ tr) : fetchCalls tr ≠ [] :=
  List.ne_nil_of_mem (List.mem_filterMap.mpr ⟨_, he, rfl⟩)

theorem cacheChecks_quiet {tr : List Event} {pubkey : Pubkey}
    (htr : ∀ e ∈ tr, e.op.CacheCheck pubkey) :
    fetchCalls tr = [] ∧ lastFirstSubscribedSlot pubkey tr = none := by
  have hquiet : ∀ e ∈ tr, e.op.fetchArgs = none ∧ e.firstSubscribedSlotOf pubkey = none := by
    rintro ⟨op, resp⟩ he
    rcases htr _ he with rfl | rfl <;> exact ⟨rfl, rfl⟩
  exact ⟨List.filterMap_eq_nil_iff.mpr fun e he => (hquiet e he).1,
    List.findSome?_eq_none_iff.mpr fun e he => (hquiet e (List.mem_reverse.mp he)).2⟩

namespace RemoteAccountClonerWorker

variable (w : RemoteAccountClonerWorker) (o : Oracle)

/-- A clone is permanent, or stamped with a fetched snapshot's slot no older than the last
subscribed slot it read. -/
theorem doClone_fresh (h : List Event) (lastCloneOutput : CloneOutputs) (pubkey : Pubkey)
    (stage : ValidatorStage) (output : AccountClonerOutput)
    (hout : (exec o h (w.doClone lastCloneOutput pubkey stage)).1 = .ok output) :
    (fetchCalls (exec o h (w.doClone lastCloneOutput pubkey stage)).2 = [] →
      output.atSlot = u64Max) ∧
    (w.permissions.allowCloningRefresh = true →
      fetchCalls (exec o h (w.doClone lastCloneOutput pubkey stage)).2 ≠ [] →
      ∃ firstSubscribed, lastFirstSubscribedSlot pubkey
          (exec o h (w.doClone lastCloneOutput pubkey stage)).2 = some firstSubscribed ∧
        firstSubscribed.getD u64Max ≤ output.atSlot ∧
        ∃ minContextSlot snapshot, (⟨.fetchAccountChainSnapshot pubkey minContextSlot, .ok snapshot⟩ :
            Event) ∈ (exec o h (w.doClone lastCloneOutput pubkey stage)).2 ∧
          firstSubscribed.getD u64Max ≤ snapshot.atSlot ∧
          (output.atSlot = snapshot.atSlot ∨ output.atSlot = u64Max)) := by
  by_cases hb : pubkey ∈ w.blacklistedAccounts
  · rw [doClone_of_mem w lastCloneOutput stage hb] at hout ⊢
    cases hout
    simp [AccountClonerOutput.atSlot]
  rw [doClone_of_not_mem w lastCloneOutput stage hb, exec_bind] at hout ⊢
  rcases hf : exec o h (w.fetchLatestAccountChainSnapshot pubkey) with ⟨_ | s, t⟩
  · simp [hf] at hout
  simp only [hf] at hout ⊢
  obtain ⟨m, hm⟩ := hf ▸ fetchLatest_fetched w pubkey o h (s := s) (by rw [hf])
  refine ⟨fun hnil => absurd hnil (fetchCalls_ne_nil (List.mem_append_left _ hm)),
    fun hrefresh _ => ?_⟩
  obtain ⟨-, c, hc, hcs⟩ := hf ▸ fetchLatest_acceptedFresh w pubkey o h hrefresh s (by rw [hf])
  have hnone : lastFirstSubscribedSlot pubkey (exec o (h ++ t)
      (w.cloneAccountChainSnapshot lastCloneOutput pubkey stage s)).2 = none :=
    List.findSome?_eq_none_iff.mpr fun e he => firstSubscribedSlotOf_eq_none
      ((w.cloneAccountChainSnapshot_calls _ _ _ _).exec _ _ e (List.mem_reverse.mp he))
  have hslot : output.atSlot = s.atSlot ∨ output.atSlot = u64Max := by
    rcases (w.cloneAccountChainSnapshot_okResults lastCloneOutput stage s).exec _ _ hout with
      ⟨σ, rfl⟩ | ⟨r, a, rfl, ha, -⟩
    exacts [.inl rfl, ha]
  refine ⟨c, by simp [hc, hnone], ?_, m, s, List.mem_append_left _ hm, hcs, hslot⟩
  rcases hslot with hslot | hslot <;> rw [hslot]
  exacts [hcs, le_u64Max _]

/-- Freshness of `do_clone_or_use_cache(K)`: an outcome without a fetch is at or after the last
known update slot; a refreshed one only at or after the last subscribed slot read. -/
theorem doCloneOrUseCache_fresh (h : List Event) (lastCloneOutput : CloneOutputs)
    (pubkey : Pubkey) (output : AccountClonerOutput)
    (hout : ((w.doCloneOrUseCache lastCloneOutput pubkey).run o h).1.1 = .ok output) :
    (fetchCalls ((w.doCloneOrUseCache lastCloneOutput pubkey).run o h).2 = [] →
      (o h (.getLastKnownUpdateSlot pubkey)).getD 0 ≤ output.atSlot) ∧
    (w.permissions.allowCloningRefresh = true →
      fetchCalls ((w.doCloneOrUseCache lastCloneOutput pubkey).run o h).2 ≠ [] →
      ∃ firstSubscribed, lastFirstSubscribedSlot pubkey
          ((w.doCloneOrUseCache lastCloneOutput pubkey).run o h).2 = some firstSubscribed ∧
        firstSubscribed.getD u64Max ≤ output.atSlot ∧
        ∃ minContextSlot snapshot, (⟨.fetchAccountChainSnapshot pubkey minContextSlot, .ok snapshot⟩ :
            Event) ∈ ((w.doCloneOrUseCache lastCloneOutput pubkey).run o h).2 ∧
          firstSubscribed.getD u64Max ≤ snapshot.atSlot ∧
          (output.atSlot = snapshot.atSlot ∨ output.atSlot = u64Max)) := by
  rcases w.doCloneOrUseCache_cases o h lastCloneOutput pubkey with
    ⟨cached, hrun, hu, -, hchecks⟩ | ⟨checks, hrun, hchecks⟩
  · rw [hrun] at hout
    cases hout
    exact ⟨fun _ => hu, fun _ hne => absurd (cacheChecks_quiet hchecks).1 hne⟩
  · rw [hrun, run_doCloneAndUpdateCache] at hout ⊢
    have hclone : (exec o (h ++ checks) (w.doClone lastCloneOutput pubkey .running)).1 =
        .ok output := by
      split at hout <;> simp_all
    obtain ⟨hfetch, hlast⟩ := cacheChecks_quiet hchecks
    obtain ⟨hpermanent, hfresh⟩ := w.doClone_fresh o _ _ _ _ output hclone
    simp only [fetchCalls_append, hfetch, List.nil_append, lastFirstSubscribedSlot_append, hlast]
    refine ⟨fun hnil => hpermanent hnil ▸ le_u64Max _, fun hrefresh hne => ?_⟩
    obtain ⟨c, hc, hle, m, s, hm, hcs, hslot⟩ := hfresh hrefresh (by simpa using hne)
    exact ⟨c, by simpa using hc, hle, m, s, List.mem_append_right _ hm, hcs, hslot⟩

end RemoteAccountClonerWorker

/-- An update seen at slot 100, a subscription at slot 10, and a fetcher at slot 50 or later. -/
def laggingSubscription : Oracle := fun _ op =>
  match op with
  | .getLastKnownUpdateSlot _ => some 100
  | .getFirstSubscribedSlot _ => some 10
  | .fetchAccountChainSnapshot pubkey minContextSlot =>
    let atSlot := minContextSlot.getD 0
    .ok ⟨pubkey, if atSlot ≤ 50 then 50 else atSlot, .undelegated ⟨0, [], 0, false⟩⟩
  | .dumpUndelegatedAccount _ _ => .ok 0
  | op => op.defaultResp

theorem laggingSubscription_honoursMinContextSlot :
    FetchHonoursMinContextSlot laggingSubscription := by
  intro _ _ minContextSlot _ hs
  cases hs
  show minContextSlot ≤ if minContextSlot ≤ 50 then 50 else minContextSlot
  split_ifs with h50
  · exact h50
  · exact Nat.le_refl _

theorem laggingSubscription_refresh :
    (((RemoteAccountClonerWorker.new .stub none [] none ⟨true, true, true, true, true⟩ 0).doCloneOrUseCache
      (fun _ => none) 9).run laggingSubscription []).1.1 =
      .ok (.cloned ⟨9, 50, .undelegated ⟨0, [], 0, false⟩⟩ 0) := by
  rw [RemoteAccountClonerWorker.doCloneOrUseCache_eq]
  simp [RemoteAccountClonerWorker.canClone, RemoteAccountClonerWorker.new, laggingSubscription,
    Prog.run_bind, RemoteAccountClonerWorker.run_doCloneAndUpdateCache,
    RemoteAccountClonerWorker.doClone_of_not_mem, exec_bind, exec_fetchLatestAccountChainSnapshot,
    exec_fetchLoop, Op.defaultResp, iterationDecision,
    RemoteAccountClonerWorker.cloneAccountChainSnapshot,
    RemoteAccountClonerWorker.doCloneUndelegatedAccount, RemoteAccountClonerWorker.mapDumperError,
    Prog.perform, Except.mapError]

/-- A refreshed outcome older than the update that triggered it, from an honest fetcher. -/
theorem refresh_older_than_update :
    FetchHonoursMinContextSlot laggingSubscription ∧
    ∃ snapshot signature,
      (((RemoteAccountClonerWorker.new .stub none [] none ⟨true, true, true, true, true⟩ 0).doCloneOrUseCache
        (fun _ => none) 9).run laggingSubscription []).1.1 = .ok (.cloned snapshot signature) ∧
      snapshot.atSlot < (laggingSubscription [] (.getLastKnownUpdateSlot 9)).getD 0 :=
  ⟨laggingSubscription_honoursMinContextSlot, _, _, laggingSubscription_refresh, by decide⟩

theorem doCloneOrUseCache_fresh_lagging :
    let w := RemoteAccountClonerWorker.new .stub none [] none ⟨true, true, true, true, true⟩ 0
    let run := (w.doCloneOrUseCache (fun _ => none) 9).run laggingSubscription []
    let output : AccountClonerOutput := .cloned ⟨9, 50, .undelegated ⟨0, [], 0, false⟩⟩ 0
    run.1.1 = .ok output ∧
    (fetchCalls run.2 = [] →
      (laggingSubscription [] (.getLastKnownUpdateSlot 9)).getD 0 ≤ output.atSlot) ∧
    (w.permissions.allowCloningRefresh = true → fetchCalls run.2 ≠ [] →
      ∃ firstSubscribed, lastFirstSubscribedSlot 9 run.2 = some firstSubscribed ∧
        firstSubscribed.getD u64Max ≤ output.atSlot ∧
        ∃ minContextSlot snapshot,
          (⟨.fetchAccountChainSnapshot 9 minContextSlot, .ok snapshot⟩ : Event) ∈ run.2 ∧
          firstSubscribed.getD u64Max ≤ snapshot.atSlot ∧
          (output.atSlot = snapshot.atSlot ∨ output.atSlot = u64Max)) :=
  ⟨laggingSubscription_refresh, RemoteAccountClonerWorker.doCloneOrUseCache_fresh
    (RemoteAccountClonerWorker.new .stub none [] none ⟨true, true, true, true, true⟩ 0)
    laggingSubscription [] (fun _ => none) 9 _ laggingSubscription_refresh⟩

end EphemeralValidator.Cloner
