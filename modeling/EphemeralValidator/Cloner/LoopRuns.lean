import EphemeralValidator.Cloner.Refusals
import EphemeralValidator.Cloner.RequestLoop

/-! The request loop from any reachable state on: waiting callers, permanent entries, coherence. -/

namespace EphemeralValidator.Cloner

open Prog (Path replay)

/-- A request for a key cached at `u64::MAX` answers from the cache, at any point of its run. -/
theorem RemoteAccountClonerWorker.path_of_hit (w : RemoteAccountClonerWorker)
    {lastCloneOutput : CloneOutputs} {pubkey : Pubkey} {output : AccountClonerOutput}
    (hclone : w.canClone = true) (hcached : lastCloneOutput pubkey = some output)
    (hmax : output.atSlot = u64Max) {calls : List Event}
    {rest : Prog (Except AccountClonerError AccountClonerOutput × CloneOutputs)}
    (hpath : Path (w.doCloneOrUseCache lastCloneOutput pubkey) calls rest) :
    (∀ e ∈ calls, e.op = .getLastKnownUpdateSlot pubkey) ∧
      ∀ result c, rest = .pure (result, c) → result = .ok output ∧ c = lastCloneOutput := by
  have hrun := w.run_doCloneOrUseCache_of_hit (replay (fun _ op => op.defaultResp) calls) []
    hclone hcached (hmax ▸ le_u64Max _)
  refine ⟨fun e he => ?_, ?_⟩
  · have hbegins := hpath.prefix_run_replay (fun _ op => op.defaultResp)
    rw [hrun] at hbegins
    rw [List.mem_singleton.mp (hbegins.subset he)]
  · rintro result c rfl
    have hend := hpath.run_replay_pure (fun _ op => op.defaultResp)
    rw [hrun] at hend
    simp only [Prod.mk.injEq] at hend
    exact ⟨hend.1.1.symm, hend.1.2.symm⟩

/-- A request goes past its cache checks only when its key's entry is stale or missing. -/
theorem RemoteAccountClonerWorker.path_of_refresh (w : RemoteAccountClonerWorker)
    {lastCloneOutput : CloneOutputs} {pubkey : Pubkey} {calls : List Event}
    {rest : Prog (Except AccountClonerError AccountClonerOutput × CloneOutputs)}
    (hpath : Path (w.doCloneOrUseCache lastCloneOutput pubkey) calls rest) {e : Event}
    (he : e ∈ calls) (hrefresh : ¬ e.op.CacheCheck pubkey) :
    w.canClone = true ∧ ∃ slot calls', calls = ⟨.getLastKnownUpdateSlot pubkey, slot⟩ :: calls' ∧
      ((∃ output, lastCloneOutput pubkey = some output ∧ output.atSlot < slot.getD 0) ∨
        lastCloneOutput pubkey = none ∧ ∃ calls'', calls' = ⟨.hasAccount pubkey, false⟩ :: calls'') := by
  rw [doCloneOrUseCache_eq] at hpath
  by_cases hclone : w.canClone = true
  swap
  · rw [if_neg hclone] at hpath
    exact (hpath.not_mem_of_pure he).elim
  simp only [if_pos hclone, Prog.perform, Prog.call_bind, Prog.pure_bind] at hpath
  rcases hpath.call_cases with rfl | ⟨slot, calls', rfl, hrest⟩
  · exact absurd he (List.not_mem_nil _)
  have he' : e ∈ calls' := by
    rcases List.mem_cons.mp he with rfl | he'
    exacts [absurd (.inl rfl) hrefresh, he']
  refine ⟨hclone, slot, calls', rfl, ?_⟩
  rcases hc : lastCloneOutput pubkey with _ | output <;> simp only [hc] at hrest
  · rcases hrest.call_cases with rfl | ⟨_ | _, calls'', rfl, hlocal⟩
    · exact absurd he' (List.not_mem_nil _)
    · exact .inr ⟨rfl, calls'', rfl⟩
    · rw [if_pos rfl] at hlocal
      rcases List.mem_cons.mp he' with rfl | he''
      exacts [absurd (.inr rfl) hrefresh, (hlocal.not_mem_of_pure he'').elim]
  · split_ifs at hrest with hfresh
    · exact (hrest.not_mem_of_pure he').elim
    · exact .inl ⟨output, rfl, UInt64.not_le.mp hfresh⟩

namespace RequestLoop

variable {w : RemoteAccountClonerWorker} {o : Oracle} {s t u v : RequestLoop}
  {lastCloneOutput : CloneOutputs}

theorem Reachable.steps (hs : Reachable w o lastCloneOutput s)
    (hrun : Relation.ReflTransGen (Step w o) s t) : Reachable w o lastCloneOutput t := by
  induction hrun with
  | refl => exact hs
  | tail _ h ih => exact .step ih h

theorem Invariant.registered_step (hinv : Invariant w o u) (h : Step w o u v) {sink : Sink}
    (hreg : sink ∈ u.flight.registered) : sink ∈ v.flight.registered := by
  cases h with
  | register => simp [SingleFlight.register_eq, hreg]
  | advance h =>
    rcases hinv.advance_flight h with hadv | ⟨hsame, -⟩
    exacts [hadv.registered_eq.1 ▸ hreg, hsame ▸ hreg]
  | cancel => exact hreg

section Waiting

/-- A waiting sink is sent the first result of its key after `before`. -/
def AwaitsNext (sink : Sink) (before : List (Except AccountClonerError AccountClonerOutput))
    (t : RequestLoop) : Prop :=
  sink ∈ t.flight.registered ∧
    (sink ∉ t.sent.map Prod.fst → t.outcomesOf sink.pubkey = before) ∧
    ∀ x ∈ t.sent, x.1 = sink → (t.outcomesOf sink.pubkey)[before.length]? = some x.2

variable {sink : Sink} {before : List (Except AccountClonerError AccountClonerOutput)}

theorem awaitsNext_of_waiting (hreg : sink ∈ s.flight.registered)
    (hwait : sink ∉ s.sent.map Prod.fst) : AwaitsNext sink (s.outcomesOf sink.pubkey) s :=
  ⟨hreg, fun _ => rfl, fun _ hx hsink => absurd (hsink ▸ List.mem_map_of_mem Prod.fst hx) hwait⟩

theorem AwaitsNext.step (hinv : Invariant w o u) (ha : AwaitsNext sink before u)
    (h : Step w o u v) : AwaitsNext sink before v := by
  obtain ⟨hreg, hwait, hsent⟩ := ha
  refine ⟨hinv.registered_step h hreg, ?_⟩
  rcases hinv.step_key h sink.pubkey with ⟨_, _, houts, _, sent, hv, hother⟩ |
    ⟨_, _, _, _, _, _, _, _, houts, _, hv⟩ | ⟨_, result, _, _, _, _, _, houts, _, hv⟩
  · rw [houts, hv]
    refine ⟨fun hnot => hwait fun hmem => hnot (by simp [hmem]), fun x hx hsink => ?_⟩
    rcases List.mem_append.mp hx with hx | hx
    exacts [hsent x hx hsink, absurd (congrArg Sink.pubkey hsink) (hother x hx)]
  · rw [houts, hv]
    exact ⟨hwait, hsent⟩
  · have hnotified := (SingleFlight.invariant_reachable hinv.flight).notified
    rw [hinv.delivered] at hwait
    rw [houts, hv]
    refine ⟨fun hnot => absurd ?_ hnot, fun x hx hsink => ?_⟩
    · rw [List.map_append, List.mem_append, hinv.delivered]
      by_cases hdone : sink ∈ u.flight.delivered
      · exact .inl hdone
      · exact .inr (List.mem_map.mpr
          ⟨_, List.mem_map.mpr ⟨sink.id, hnotified.mem_listeners hreg hdone, rfl⟩, rfl⟩)
    · rcases List.mem_append.mp hx with hx | hx
      · have hold := hsent x hx hsink
        rw [List.getElem?_append_left (List.getElem?_eq_some_iff.mp hold).1, hold]
      · obtain ⟨listener, hlistener, rfl⟩ := List.mem_map.mp hx
        obtain rfl : listener = sink.id := congrArg Sink.id hsink
        rw [hwait (hnotified.not_delivered_of_mem_listeners hlistener)]
        exact List.getElem?_concat_length _ _

theorem Reachable.awaitsNext (hs : Reachable w o lastCloneOutput s) (ha : AwaitsNext sink before s)
    (hrun : Relation.ReflTransGen (Step w o) s t) : AwaitsNext sink before t := by
  induction hrun with
  | refl => exact ha
  | tail hsu h ih => exact ih.step (hs.steps hsu).invariant h

/-- Callers waiting on one key at the same moment are sent the same result: that of the first
clone of the key to end. -/
theorem loop_waiting_sinks_agree (hs : Reachable w o lastCloneOutput s)
    (hrun : Relation.ReflTransGen (Step w o) s t) (pubkey : Pubkey) :
    let waiting := fun sink : Sink =>
      sink ∈ s.flight.registered ∧ sink ∉ s.sent.map Prod.fst ∧ sink.pubkey = pubkey
    (∀ sink, waiting sink → sink ∉ t.sent.map Prod.fst → t.outcomesOf pubkey = s.outcomesOf pubkey) ∧
    (∀ x ∈ t.sent, waiting x.1 →
      (t.outcomesOf pubkey)[(s.outcomesOf pubkey).length]? = some x.2) ∧
    ∀ x ∈ t.sent, ∀ y ∈ t.sent, waiting x.1 → waiting y.1 → x.2 = y.2 := by
  intro waiting
  have hawaits : ∀ sink, waiting sink → AwaitsNext sink (s.outcomesOf pubkey) t := by
    rintro sink ⟨hreg, hwait, rfl⟩
    exact hs.awaitsNext (awaitsNext_of_waiting hreg hwait) hrun
  have hresult : ∀ x ∈ t.sent, waiting x.1 →
      (t.outcomesOf pubkey)[(s.outcomesOf pubkey).length]? = some x.2 := fun x hx hx1 =>
    hx1.2.2 ▸ (hawaits x.1 hx1).2.2 x hx rfl
  refine ⟨fun sink hsink hnot => hsink.2.2 ▸ (hawaits sink hsink).2.1 hnot, hresult,
    fun x hx y hy hx1 hy1 => ?_⟩
  exact Option.some.inj ((hresult x hx hx1).symm.trans (hresult y hy hy1))

theorem nineTwoWaiting_answered :
    Relation.ReflTransGen
      (Step (RemoteAccountClonerWorker.new .stub none [9] none ⟨true, true, true, true, true⟩ 0)
        delegatedAtSeven)
      (nineTwoWaiting
        (RemoteAccountClonerWorker.new .stub none [9] none ⟨true, true, true, true, true⟩ 0))
      nineBothAnswered := by
  have hslot := Relation.ReflTransGen.single (r := Step
      (RemoteAccountClonerWorker.new .stub none [9] none ⟨true, true, true, true, true⟩ 0)
      delegatedAtSeven)
    (.advance (.call (nineTwoWaiting
      (RemoteAccountClonerWorker.new .stub none [9] none ⟨true, true, true, true, true⟩ 0))
      [] 9 [] (.getLastKnownUpdateSlot 9) _ [] rfl _ rfl))
  have hlocal := hslot.tail (.advance (.call _ [] 9 _ (.hasAccount 9) _ [] rfl _ rfl))
  have hrefused := hlocal.tail (.advance (.finish _ [] 9 _ _ _ [] rfl))
  exact hrefused

theorem loop_waiting_sinks_agree_nine :
    let w := RemoteAccountClonerWorker.new .stub none [9] none ⟨true, true, true, true, true⟩ 0
    let s := nineTwoWaiting w
    let t := nineBothAnswered
    (Reachable w delegatedAtSeven (fun _ => none) s ∧
      Relation.ReflTransGen (Step w delegatedAtSeven) s t) ∧
    let waiting := fun sink : Sink =>
      sink ∈ s.flight.registered ∧ sink ∉ s.sent.map Prod.fst ∧ sink.pubkey = 9
    (∀ sink, waiting sink → sink ∉ t.sent.map Prod.fst → t.outcomesOf 9 = s.outcomesOf 9) ∧
    (∀ x ∈ t.sent, waiting x.1 → (t.outcomesOf 9)[(s.outcomesOf 9).length]? = some x.2) ∧
    ∀ x ∈ t.sent, ∀ y ∈ t.sent, waiting x.1 → waiting y.1 → x.2 = y.2 :=
  ⟨⟨reachable_nineTwoWaiting _ _, nineTwoWaiting_answered⟩,
    loop_waiting_sinks_agree (reachable_nineTwoWaiting _ delegatedAtSeven) nineTwoWaiting_answered 9⟩

/-- The calls made for `pubkey` since `before` all belong to its clone in flight. -/
def CallsSince (pubkey : Pubkey) (before : List Event) (t : RequestLoop) : Prop :=
  ∃ calls, t.callsOf pubkey = before ++ calls ∧ calls <:+ t.pendingCalls pubkey

theorem CallsSince.step {pubkey : Pubkey} {before : List Event} (hinv : Invariant w o u)
    (hc : CallsSince pubkey before u) (h : Step w o u v)
    (hsame : v.outcomesOf pubkey = u.outcomesOf pubkey) : CallsSince pubkey before v := by
  obtain ⟨calls, hcalls, pre, hpre⟩ := hc
  rcases hinv.step_key h pubkey with ⟨hcalls', hpend, _⟩ |
    ⟨_, op, _, resp, _, hpend, hcalls', hpend', _⟩ | ⟨_, _, _, _, _, _, _, houts, _⟩
  · exact ⟨calls, hcalls'.trans hcalls, pre, hpre.trans hpend.symm⟩
  · exact ⟨calls ++ [⟨op, resp⟩], by rw [hcalls', hcalls, List.append_assoc], pre,
      by rw [hpend', ← hpend, ← hpre, List.append_assoc]⟩
  · simp [houts] at hsame

end Waiting

section Permanent

variable {pubkey : Pubkey} {output : AccountClonerOutput}

/-- Since `s₀` the key's entry is `output`, its clones returned it and read only the update slot. -/
def Permanent (pubkey : Pubkey) (output : AccountClonerOutput) (s₀ t : RequestLoop) : Prop :=
  t.lastCloneOutput pubkey = some output ∧
    (∃ outcomes, t.outcomesOf pubkey = s₀.outcomesOf pubkey ++ outcomes ∧
      ∀ result ∈ outcomes, result = .ok output) ∧
    ∃ calls, t.callsOf pubkey = s₀.callsOf pubkey ++ calls ∧
      ∀ e ∈ calls, e.op = .getLastKnownUpdateSlot pubkey

theorem Permanent.step {s₀ : RequestLoop} (hclone : w.canClone = true)
    (hmax : output.atSlot = u64Max) (hinv : Invariant w o u) (hp : Permanent pubkey output s₀ u)
    (h : Step w o u v) : Permanent pubkey output s₀ v := by
  obtain ⟨hentry, ⟨outcomes, houts, hok⟩, calls, hcalls, hread⟩ := hp
  rcases hinv.step_key h pubkey with ⟨hcalls', _, houts', hentry', _⟩ |
    ⟨_, op, _, resp, hf, _, hcalls', _, houts', hentry', _⟩ |
    ⟨_, result, c', hf, _, hcalls', _, houts', hentry', _⟩
  · exact ⟨hentry'.trans hentry, ⟨outcomes, houts'.trans houts, hok⟩, calls,
      hcalls'.trans hcalls, hread⟩
  · obtain ⟨⟨c, hc, hpath⟩, -⟩ := hinv.runs _ hf
    have hop := (w.path_of_hit hclone (hc.trans hentry) hmax (hpath.snoc resp)).1 ⟨op, resp⟩
      (List.mem_append_right _ (List.mem_singleton_self _))
    refine ⟨hentry'.trans hentry, ⟨outcomes, houts'.trans houts, hok⟩, calls ++ [⟨op, resp⟩],
      by rw [hcalls', hcalls, List.append_assoc], ?_⟩
    simp only [List.mem_append, List.mem_singleton]
    rintro e (he | rfl)
    exacts [hread e he, hop]
  · obtain ⟨⟨c, hc, hpath⟩, -⟩ := hinv.runs _ hf
    obtain ⟨rfl, rfl⟩ := (w.path_of_hit hclone (hc.trans hentry) hmax hpath).2 _ _ rfl
    refine ⟨hentry'.trans (hc.trans hentry), ⟨outcomes ++ [.ok output],
      by rw [houts', houts, List.append_assoc], ?_⟩, calls, hcalls'.trans hcalls, hread⟩
    simp only [List.mem_append, List.mem_singleton]
    rintro r (hr | rfl)
    exacts [hok r hr, rfl]

/-- A cache entry at `u64::MAX` is permanent, however the clones and the callers interleave. -/
theorem loop_cached_permanent (hclone : w.canClone = true) (hmax : output.atSlot = u64Max)
    (hs : Reachable w o lastCloneOutput s) (hentry : s.lastCloneOutput pubkey = some output)
    (hrun : Relation.ReflTransGen (Step w o) s t) :
    t.lastCloneOutput pubkey = some output ∧
      (∃ outcomes, t.outcomesOf pubkey = s.outcomesOf pubkey ++ outcomes ∧
        ∀ result ∈ outcomes, result = .ok output) ∧
      ∃ calls, t.callsOf pubkey = s.callsOf pubkey ++ calls ∧
        ∀ e ∈ calls, e.op = .getLastKnownUpdateSlot pubkey := by
  induction hrun with
  | refl => exact ⟨hentry, ⟨[], by simp, by simp⟩, [], by simp, by simp⟩
  | tail hsu h ih => exact Permanent.step hclone hmax (hs.steps hsu).invariant ih h

theorem nineBothAnswered_served_again :
    ∃ t, Relation.ReflTransGen (Step
        (RemoteAccountClonerWorker.new .stub none [9] none ⟨true, true, true, true, true⟩ 0)
        delegatedAtSeven) nineBothAnswered t ∧
      t.outcomesOf 9 = [.ok (.unclonable 9 .isBlacklisted u64Max),
        .ok (.unclonable 9 .isBlacklisted u64Max)] ∧
      t.callsOf 9 = [⟨.getLastKnownUpdateSlot 9, none⟩, ⟨.hasAccount 9, false⟩,
        ⟨.getLastKnownUpdateSlot 9, none⟩] := by
  have hregistered := Relation.ReflTransGen.single (r := Step
      (RemoteAccountClonerWorker.new .stub none [9] none ⟨true, true, true, true, true⟩ 0)
      delegatedAtSeven) (.register nineBothAnswered 9)
  have hpushed := hregistered.tail (.advance (.push _ [] 9 [] rfl))
  have hreceived := hpushed.tail (.advance (.receive _ rfl rfl (List.cons_ne_nil _ _)))
  have hslot := hreceived.tail
    (.advance (.call _ [] 9 [] (.getLastKnownUpdateSlot 9) _ [] rfl _ rfl))
  have hanswered := hslot.tail (.advance (.finish _ [] 9 _ _ _ [] rfl))
  exact ⟨_, hanswered, rfl, rfl⟩

theorem loop_cached_permanent_blacklisted :
    let w := RemoteAccountClonerWorker.new .stub none [9] none ⟨true, true, true, true, true⟩ 0
    let output := AccountClonerOutput.unclonable 9 .isBlacklisted u64Max
    ∃ t, (w.canClone = true ∧ output.atSlot = u64Max ∧
      Reachable w delegatedAtSeven (fun _ => none) nineBothAnswered ∧
      nineBothAnswered.lastCloneOutput 9 = some output ∧
      Relation.ReflTransGen (Step w delegatedAtSeven) nineBothAnswered t ∧
      t.outcomesOf 9 = [.ok output, .ok output]) ∧
    t.lastCloneOutput 9 = some output ∧
      (∃ outcomes, t.outcomesOf 9 = nineBothAnswered.outcomesOf 9 ++ outcomes ∧
        ∀ result ∈ outcomes, result = .ok output) ∧
      ∃ calls, t.callsOf 9 = nineBothAnswered.callsOf 9 ++ calls ∧
        ∀ e ∈ calls, e.op = .getLastKnownUpdateSlot 9 := by
  intro w output
  obtain ⟨t, hrun, houts, -⟩ := nineBothAnswered_served_again
  have hentry : nineBothAnswered.lastCloneOutput 9 = some output := by simp [nineBothAnswered, output]
  exact ⟨t, ⟨rfl, rfl, reachable_nineBothAnswered, hentry, hrun, houts⟩,
    loop_cached_permanent (w := w) (o := delegatedAtSeven) rfl rfl reachable_nineBothAnswered
      hentry hrun⟩

variable {reason : AccountClonerUnclonableReason} {c₀ final : CloneOutputs} {calls : List Event}
  {outcomes : List (Except AccountClonerError AccountClonerOutput)}

end Permanent

section Coherence

variable {pubkey : Pubkey} {c₀ final : CloneOutputs} {calls : List Event}
  {outcomes : List (Except AccountClonerError AccountClonerOutput)}

theorem KeyRuns.entry (hruns : KeyRuns w o pubkey c₀ calls outcomes final) :
    final pubkey = (outcomes.filterMap writtenOutcome).getLast?.or (c₀ pubkey) := by
  induction hruns with
  | nil => rfl
  | @snoc calls outcomes final c final' clone result _ hsame hpath _ ih =>
    have hentry := w.doCloneOrUseCache_entry (replay o clone) [] c pubkey
    rw [hpath.run_replay_pure o] at hentry
    dsimp only at hentry
    rw [hentry, hsame, ih, getLast?_filterMap_writtenOutcome_append,
      getLast?_filterMap_writtenOutcome_singleton]

/-- Cache coherence of the request loop: each key's entry is the last outcome written for it,
or the one it started with. -/
theorem loop_cache_coherent (hs : Reachable w o lastCloneOutput s) (pubkey : Pubkey) :
    s.lastCloneOutput pubkey =
      ((s.outcomesOf pubkey).filterMap writtenOutcome).getLast?.or (lastCloneOutput pubkey) := by
  obtain ⟨done, final, -, hfinal, hruns⟩ := hs.keyTrace pubkey
  rw [← hfinal, hruns.entry]

theorem loop_cache_coherent_nine :
    let w := RemoteAccountClonerWorker.new .stub none [9] none ⟨true, true, true, true, true⟩ 0
    Reachable w delegatedAtSeven (fun _ => none) nineBothAnswered ∧
    nineBothAnswered.lastCloneOutput 9 =
      ((nineBothAnswered.outcomesOf 9).filterMap writtenOutcome).getLast?.or none := by
  intro w
  have hs : Reachable w delegatedAtSeven (fun _ => none) nineBothAnswered :=
    reachable_nineBothAnswered
  exact ⟨hs, loop_cache_coherent hs 9⟩

/-- Cache coherence over `hydrate` and then the request loop. -/
theorem hydrate_then_loop_cache_coherent
    (hs : Reachable w (fun h => o (((w.hydrate c₀).run o []).2 ++ h))
      ((w.hydrate c₀).run o []).1.2 s) (pubkey : Pubkey) :
    let hydrated := (w.hydrate c₀).run o []
    s.lastCloneOutput pubkey =
      (((hydrated.1.1.filter (·.1 = pubkey)).map Prod.snd ++ s.outcomesOf pubkey).filterMap
        writtenOutcome).getLast?.or (c₀ pubkey) := by
  obtain ⟨done, final, -, hfinal, hruns⟩ := hs.keyTrace pubkey
  dsimp only
  rw [← hfinal, hruns.entry, getLast?_filterMap_writtenOutcome_append, ← w.hydrate_entry]

/-- Hydration clones key 9 from the bank and writes its outcome, which the loop then holds. -/
theorem hydrate_then_loop_cache_coherent_start :
    let w := RemoteAccountClonerWorker.new .stub none [] none ⟨true, true, true, true, true⟩ 0
    let hydrated := (w.hydrate fun _ => none).run RemoteAccountClonerWorker.bankHoldsNine []
    Reachable w (fun h => RemoteAccountClonerWorker.bankHoldsNine (hydrated.2 ++ h)) hydrated.1.2
        (start hydrated.1.2) ∧
      (start hydrated.1.2).lastCloneOutput 9 =
        (((hydrated.1.1.filter (·.1 = 9)).map Prod.snd ++ (start hydrated.1.2).outcomesOf 9).filterMap
          writtenOutcome).getLast?.or none :=
  ⟨.start, hydrate_then_loop_cache_coherent .start 9⟩

/-- The loop clones a key again only when its cache entry is missing or stale. -/
theorem loop_refreshes_only_stale (hs : Reachable w o lastCloneOutput s) {f : InFlight}
    (hf : f ∈ s.running) {e : Event} (he : e ∈ f.calls) (hrefresh : ¬ e.op.CacheCheck f.pubkey) :
    w.canClone = true ∧ ∃ slot calls, f.calls = ⟨.getLastKnownUpdateSlot f.pubkey, slot⟩ :: calls ∧
      ((∃ output, s.lastCloneOutput f.pubkey = some output ∧ output.atSlot < slot.getD 0) ∨
        s.lastCloneOutput f.pubkey = none ∧
          ∃ calls', calls = ⟨.hasAccount f.pubkey, false⟩ :: calls') := by
  obtain ⟨⟨c, hc, hpath⟩, -⟩ := hs.invariant.runs f hf
  rw [← hc]
  exact w.path_of_refresh hpath he hrefresh

/-- The clone of key 9, with no entry and the key not local, asks for monitoring. -/
theorem loop_refreshes_only_stale_nine :
    let w := RemoteAccountClonerWorker.new .stub none [] none ⟨true, true, true, true, true⟩ 0
    let calls : List Event := [⟨.getLastKnownUpdateSlot 9, none⟩, ⟨.hasAccount 9, false⟩,
      ⟨.ensureAccountMonitoring 9, .ok ()⟩]
    ∃ rest, let f : InFlight := ⟨9, calls, rest⟩
      let s : RequestLoop := { nineInFlight w with running := [f], history := calls.map (9, ·) }
      (Reachable w delegatedAtSeven (fun _ => none) s ∧ f ∈ s.running ∧
        ⟨.ensureAccountMonitoring 9, .ok ()⟩ ∈ f.calls ∧
        ¬ Op.CacheCheck f.pubkey (.ensureAccountMonitoring 9)) ∧
      w.canClone = true ∧ ∃ slot calls, f.calls = ⟨.getLastKnownUpdateSlot f.pubkey, slot⟩ :: calls ∧
        ((∃ output, s.lastCloneOutput f.pubkey = some output ∧ output.atSlot < slot.getD 0) ∨
          s.lastCloneOutput f.pubkey = none ∧
            ∃ calls', calls = ⟨.hasAccount f.pubkey, false⟩ :: calls') := by
  intro w calls
  have hslot := Reachable.step (reachable_nineInFlight w delegatedAtSeven)
    (.advance (.call (nineInFlight w) [] 9 [] (.getLastKnownUpdateSlot 9) _ [] rfl _ rfl))
  have hlocal := Reachable.step hslot (.advance (.call _ [] 9 _ (.hasAccount 9) _ [] rfl _ rfl))
  have hmonitor := Reachable.step hlocal
    (.advance (.call _ [] 9 _ (.ensureAccountMonitoring 9) _ [] rfl _ rfl))
  have hrefresh : ¬ Op.CacheCheck 9 (.ensureAccountMonitoring 9) := by simp [Op.CacheCheck]
  exact ⟨_, ⟨hmonitor, List.mem_singleton_self _, by simp [calls], hrefresh⟩,
    loop_refreshes_only_stale hmonitor (List.mem_singleton_self _)
      (e := ⟨.ensureAccountMonitoring 9, .ok ()⟩) (by simp [calls]) hrefresh⟩

end Coherence

end RequestLoop

end EphemeralValidator.Cloner
