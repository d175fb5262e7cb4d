import EphemeralValidator.Cloner.Requests

/-! Permanent refusals, and the two refusals the cache does not keep. -/

namespace EphemeralValidator.Cloner

open Prog (perform)
open ClonerM

namespace RemoteAccountClonerWorker

variable (w : RemoteAccountClonerWorker) (o : Oracle)

@[simp] theorem run_serveRequest_cloneOrUseCache (lastCloneOutput : CloneOutputs) (h : List Event)
    (pubkey : Pubkey) :
    (w.serveRequest lastCloneOutput (.cloneOrUseCache pubkey)).run o h =
      (([(pubkey, ((w.doCloneOrUseCache lastCloneOutput pubkey).run o h).1.1)],
        ((w.doCloneOrUseCache lastCloneOutput pubkey).run o h).1.2),
        ((w.doCloneOrUseCache lastCloneOutput pubkey).run o h).2) := by
  simp [serveRequest, Prog.run_bind]

/-- Every outcome of `do_clone_or_use_cache(K)` is cached, but the two pre-clone refusals. -/
theorem doCloneOrUseCache_cached (h : List Event) (lastCloneOutput : CloneOutputs)
    {pubkey : Pubkey} {output : AccountClonerOutput}
    (hout : ((w.doCloneOrUseCache lastCloneOutput pubkey).run o h).1.1 = .ok output)
    (hclone : output ≠ .unclonable pubkey .noCloningAllowed u64Max)
    (hlocal : output ≠ .unclonable pubkey .alreadyLocallyOverriden u64Max) :
    ((w.doCloneOrUseCache lastCloneOutput pubkey).run o h).1.2 pubkey = some output := by
  rcases w.doCloneOrUseCache_cases o h lastCloneOutput pubkey with
    ⟨cached, hrun, -, hcached, -⟩ | ⟨checks, hrun, -⟩
  · rw [hrun] at hout ⊢
    cases hout
    rcases hcached with hcached | rfl | rfl
    exacts [hcached, absurd rfl hclone, absurd rfl hlocal]
  · rw [hrun, run_doCloneAndUpdateCache] at hout ⊢
    split at hout <;> simp_all

theorem canClone_of_permanent_refusal {h : List Event} {lastCloneOutput : CloneOutputs}
    {pubkey : Pubkey} {reason : AccountClonerUnclonableReason}
    (hreason : reason = .isBlacklisted ∨ reason = .isNotAnAllowedProgram)
    (hout : ((w.doCloneOrUseCache lastCloneOutput pubkey).run o h).1.1 =
      .ok (.unclonable pubkey reason u64Max)) : w.canClone = true := by
  by_contra hclone
  rw [doCloneOrUseCache_eq, if_neg hclone] at hout
  rcases hreason with rfl | rfl <;> cases hout

theorem doCloneOrUseCache_cached_refusal {h : List Event} {lastCloneOutput : CloneOutputs}
    {pubkey : Pubkey} {reason : AccountClonerUnclonableReason}
    (hreason : reason = .isBlacklisted ∨ reason = .isNotAnAllowedProgram)
    (hout : ((w.doCloneOrUseCache lastCloneOutput pubkey).run o h).1.1 =
      .ok (.unclonable pubkey reason u64Max)) :
    ((w.doCloneOrUseCache lastCloneOutput pubkey).run o h).1.2 pubkey =
      some (.unclonable pubkey reason u64Max) := by
  refine w.doCloneOrUseCache_cached o h lastCloneOutput hout ?_ ?_ <;>
    rcases hreason with rfl | rfl <;> simp

/-- An entry cached at `u64::MAX` is served to every later request for its key, with no clone. -/
theorem serve_cached_permanent {pubkey : Pubkey} {output : AccountClonerOutput}
    (hclone : w.canClone = true) (hmax : output.atSlot = u64Max) (requests : List Request) :
    ∀ (lastCloneOutput : CloneOutputs) (h : List Event), .hydrate ∉ requests →
      lastCloneOutput pubkey = some output →
      ∀ served ∈ w.serve o lastCloneOutput h requests, served.request = .cloneOrUseCache pubkey →
        served.outcomes = [(pubkey, .ok output)] ∧
          served.calls.map (·.op) = [.getLastKnownUpdateSlot pubkey] := by
  induction requests with
  | nil => simp [serve]
  | cons request requests ih =>
    intro lastCloneOutput h hno hcached served hserved hrequest
    cases request with
    | hydrate => simp at hno
    | cloneOrUseCache other =>
      simp only [List.mem_cons, not_or] at hno
      simp only [serve, run_serveRequest_cloneOrUseCache, List.mem_cons] at hserved
      by_cases hk : other = pubkey
      · subst hk
        have hrun := w.run_doCloneOrUseCache_of_hit o h hclone hcached (hmax ▸ le_u64Max _)
        simp only [hrun] at hserved
        rcases hserved with rfl | hserved
        · simp
        · exact ih _ _ hno.2 hcached served hserved hrequest
      · rcases hserved with rfl | hserved
        · simp [hk] at hrequest
        · exact ih _ _ hno.2 ((w.doCloneOrUseCache_frame o h _ (Ne.symm hk)).trans hcached)
            served hserved hrequest

/-- A blacklisted key or a disallowed program, once refused, is served the same refusal by
every later request, with no call but the update-slot read. -/
theorem permanent_refusal_served (h : List Event) (lastCloneOutput : CloneOutputs)
    {pubkey : Pubkey} {reason : AccountClonerUnclonableReason}
    (hreason : reason = .isBlacklisted ∨ reason = .isNotAnAllowedProgram)
    (hout : ((w.doCloneOrUseCache lastCloneOutput pubkey).run o h).1.1 =
      .ok (.unclonable pubkey reason u64Max))
    (requests : List Request) (hno : .hydrate ∉ requests) :
    ∀ served ∈ w.serve o ((w.doCloneOrUseCache lastCloneOutput pubkey).run o h).1.2
        (h ++ ((w.doCloneOrUseCache lastCloneOutput pubkey).run o h).2) requests,
      served.request = .cloneOrUseCache pubkey →
        served.outcomes = [(pubkey, .ok (.unclonable pubkey reason u64Max))] ∧
          served.calls.map (·.op) = [.getLastKnownUpdateSlot pubkey] := by
  exact w.serve_cached_permanent o (w.canClone_of_permanent_refusal o hreason hout)
    (show (AccountClonerOutput.unclonable pubkey reason u64Max).atSlot = u64Max from rfl) requests _ _ hno
    (w.doCloneOrUseCache_cached_refusal o hreason hout)

end RemoteAccountClonerWorker

/-- A blacklisted key is refused at `u64::MAX` whatever the collaborators answer. -/
theorem blacklisted_refusal :
    (((RemoteAccountClonerWorker.new .stub none [9] none ⟨true, true, true, true, true⟩ 0).doCloneOrUseCache
      (fun _ => none) 9).run (fun _ op => op.defaultResp) []).1.1 =
      .ok (.unclonable 9 .isBlacklisted u64Max) := by
  simp [RemoteAccountClonerWorker.doCloneOrUseCache_eq, RemoteAccountClonerWorker.canClone,
    RemoteAccountClonerWorker.new, RemoteAccountClonerWorker.run_doCloneAndUpdateCache,
    RemoteAccountClonerWorker.doClone_of_mem, Op.defaultResp, Prog.run_bind]

theorem permanent_refusal_served_blacklisted :
    let w := RemoteAccountClonerWorker.new .stub none [9] none ⟨true, true, true, true, true⟩ 0
    let run := (w.doCloneOrUseCache (fun _ => none) 9).run (fun _ op => op.defaultResp) []
    ((AccountClonerUnclonableReason.isBlacklisted = .isBlacklisted ∨
        AccountClonerUnclonableReason.isBlacklisted = .isNotAnAllowedProgram) ∧
      run.1.1 = .ok (.unclonable 9 .isBlacklisted u64Max) ∧ Request.hydrate ∉ [.cloneOrUseCache 9]) ∧
    ∀ served ∈ w.serve (fun _ op => op.defaultResp) run.1.2 ([] ++ run.2) [.cloneOrUseCache 9],
      served.request = .cloneOrUseCache 9 →
        served.outcomes = [(9, .ok (.unclonable 9 .isBlacklisted u64Max))] ∧
          served.calls.map (·.op) = [.getLastKnownUpdateSlot 9] :=
  ⟨⟨.inl rfl, blacklisted_refusal, by simp⟩,
    RemoteAccountClonerWorker.permanent_refusal_served
      (RemoteAccountClonerWorker.new .stub none [9] none ⟨true, true, true, true, true⟩ 0)
      (fun _ op => op.defaultResp) [] (fun _ => none) (.inl rfl) blacklisted_refusal
      [.cloneOrUseCache 9] (by simp)⟩

/-- Collaborators whose local account of the key leaves the bank after the first request. -/
def droppedLocalAccount : Oracle := fun h op =>
  match op with
  | .hasAccount pubkey => h.all fun e => e.op ≠ .hasAccount pubkey
  | .getFirstSubscribedSlot _ => some 0
  | .fetchAccountChainSnapshot pubkey _ => .ok ⟨pubkey, 0, .undelegated ⟨0, [], 0, false⟩⟩
  | .dumpUndelegatedAccount _ _ => .ok 0
  | op => op.defaultResp

/-- A refusal as `AlreadyLocallyOverriden` at `u64::MAX` is not cached: the next request for
the key, once it left the bank, fetches and dumps it. -/
theorem overriden_refusal_reevaluated :
    ((RemoteAccountClonerWorker.new .stub none [] none ⟨true, true, true, true, true⟩ 0).serve
        droppedLocalAccount (fun _ => none) [] [.hydrate, .cloneOrUseCache 9, .cloneOrUseCache 9]).map
      (fun served => (served.outcomes, served.calls.map (·.op))) =
    [([], [.getAllAccounts]),
     ([(9, .ok (.unclonable 9 .alreadyLocallyOverriden u64Max))],
       [.getLastKnownUpdateSlot 9, .hasAccount 9]),
     ([(9, .ok (.cloned ⟨9, 0, .undelegated ⟨0, [], 0, false⟩⟩ 0))],
       [.getLastKnownUpdateSlot 9, .hasAccount 9, .ensureAccountMonitoring 9,
        .getFirstSubscribedSlot 9, .fetchAccountChainSnapshot 9 (some 0), .getFirstSubscribedSlot 9,
        .dumpUndelegatedAccount 9 ⟨0, [], 0, false⟩])] := by
  simp [RemoteAccountClonerWorker.serve, RemoteAccountClonerWorker.serveRequest,
    RemoteAccountClonerWorker.hydrate, RemoteAccountClonerWorker.hydrationKeys,
    RemoteAccountClonerWorker.hydrateAccounts, RemoteAccountClonerWorker.canClone,
    RemoteAccountClonerWorker.new, RemoteAccountClonerWorker.doCloneOrUseCache_eq,
    RemoteAccountClonerWorker.run_doCloneAndUpdateCache, RemoteAccountClonerWorker.doClone_of_not_mem,
    exec_bind, exec_fetchLatestAccountChainSnapshot, exec_fetchLoop, droppedLocalAccount,
    Op.defaultResp, iterationDecision, iterationEvents,
    RemoteAccountClonerWorker.cloneAccountChainSnapshot,
    RemoteAccountClonerWorker.doCloneUndelegatedAccount, RemoteAccountClonerWorker.mapDumperError,
    Prog.perform,
    Prog.run_bind, Except.mapError]

end EphemeralValidator.Cloner
