import Mathlib.Logic.Hydra
import EphemeralValidator.Cloner.Delegation
import EphemeralValidator.Cloner.SingleFlight

/-! The request loop with its clones, interleaved at every call, as a refinement of the single flight. -/

namespace EphemeralValidator.Cloner

open Prog (Path replay)

/-- A `process_clone_request(K)` in flight: the calls made so far, and what remains. -/
structure InFlight where
  pubkey : Pubkey
  calls : List Event
  rest : Prog (Except AccountClonerError AccountClonerOutput × CloneOutputs)

/-- `start_clone_request_processing` and its callers, between atomic steps. -/
structure RequestLoop where
  flight : SingleFlight
  /-- The clones of the current batch that have not ended. -/
  running : List InFlight
  lastCloneOutput : CloneOutputs
  /-- Every call answered so far, with the key of the clone that made it. -/
  history : List (Pubkey × Event)
  /-- The result of every clone that ended, with its key. -/
  outcomes : List (Pubkey × Except AccountClonerError AccountClonerOutput)
  /-- Every result sent to a sink, in order. -/
  sent : List (Sink × Except AccountClonerError AccountClonerOutput)

theorem FetchesDelegatedFrom.replay {o : Oracle} {pubkey : Pubkey} {delegationSlot : Slot}
    {calls : List Event} (hfetch : FetchesDelegatedFrom o pubkey delegationSlot)
    (hcalls : ∀ e ∈ calls, ∃ h, o h e.op = e.resp) :
    FetchesDelegatedFrom (replay o calls) pubkey delegationSlot := by
  intro h minContextSlot snapshot hsnapshot
  obtain ⟨h', hh'⟩ := Prog.replay_answered hcalls h (.fetchAccountChainSnapshot pubkey minContextSlot)
  exact hfetch h' minContextSlot snapshot (hh' ▸ hsnapshot)

namespace InFlight

variable (w : RemoteAccountClonerWorker) (o : Oracle)

/-- A clone in flight is a run of `do_clone_or_use_cache` of its key, cut after its calls. -/
def Runs (lastCloneOutput : CloneOutputs) (f : InFlight) : Prop :=
  (∃ c : CloneOutputs, c f.pubkey = lastCloneOutput f.pubkey ∧
    Path (w.doCloneOrUseCache c f.pubkey) f.calls f.rest) ∧
  ∀ e ∈ f.calls, ∃ h, o h e.op = e.resp

variable {w o} {lastCloneOutput : CloneOutputs}

theorem Runs.congr {f : InFlight} {lastCloneOutput' : CloneOutputs}
    (hf : f.Runs w o lastCloneOutput) (hsame : lastCloneOutput' f.pubkey = lastCloneOutput f.pubkey) :
    f.Runs w o lastCloneOutput' := by
  obtain ⟨⟨c, hc, hpath⟩, hcalls⟩ := hf
  exact ⟨⟨c, hc.trans hsame.symm, hpath⟩, hcalls⟩

theorem Runs.call {pubkey : Pubkey} {calls : List Event} {op : Op}
    {k : op.Resp → Prog (Except AccountClonerError AccountClonerOutput × CloneOutputs)}
    (hf : Runs w o lastCloneOutput ⟨pubkey, calls, .call op k⟩) (h : List Event) :
    Runs w o lastCloneOutput ⟨pubkey, calls ++ [⟨op, o h op⟩], k (o h op)⟩ := by
  obtain ⟨⟨c, hc, hpath⟩, hcalls⟩ := hf
  refine ⟨⟨c, hc, hpath.snoc _⟩, ?_⟩
  simp only [List.mem_append, List.mem_singleton]
  rintro e (he | rfl)
  exacts [hcalls e he, ⟨h, rfl⟩]

theorem Runs.ownCall {pubkey : Pubkey} {calls : List Event} {op : Op}
    {k : op.Resp → Prog (Except AccountClonerError AccountClonerOutput × CloneOutputs)}
    (hf : Runs w o lastCloneOutput ⟨pubkey, calls, .call op k⟩) (resp : op.Resp) :
    op.CacheCheck pubkey ∨ op.FetchPhase pubkey ∨ op.ClonePhase pubkey := by
  obtain ⟨⟨c, -, hpath⟩, -⟩ := hf
  have hbegins := (hpath.snoc resp).prefix_run_replay o
  exact w.doCloneOrUseCache_calls _ [] c pubkey ⟨op, resp⟩
    (hbegins.subset (List.mem_append_right _ (List.mem_singleton_self _)))

variable {pubkey : Pubkey} {delegationSlot : Slot} {first : Option Signature}

theorem Runs.delegationStep (hfetch : FetchesDelegatedFrom o pubkey delegationSlot)
    {f : InFlight} (hf : f.Runs w o lastCloneOutput) (hkey : f.pubkey = pubkey)
    (hc : w.DelegationCache pubkey delegationSlot lastCloneOutput first) :
    ∃ c : CloneOutputs, c pubkey = lastCloneOutput pubkey ∧ Path (w.doCloneOrUseCache c pubkey) f.calls f.rest ∧
      w.DelegationStep pubkey delegationSlot first
        (clonedSignatureOf pubkey
          (pubkey, ((w.doCloneOrUseCache c pubkey).run (replay o f.calls) []).1.1)).toList
        ((w.doCloneOrUseCache c pubkey).run (replay o f.calls) []).2
        ((w.doCloneOrUseCache c pubkey).run (replay o f.calls) []).1.2 := by
  obtain ⟨⟨c, hsame, hpath⟩, hcalls⟩ := hf
  subst hkey
  exact ⟨c, hsame, hpath, w.doCloneOrUseCache_step (replay o f.calls) (hfetch.replay hcalls)
    (hc.congr w hsame) [] f.pubkey⟩

end InFlight

namespace RequestLoop

/-- The loop before any request, on the cache `lastCloneOutput`. -/
def start (lastCloneOutput : CloneOutputs) : RequestLoop :=
  ⟨.initial, [], lastCloneOutput, [], [], []⟩

/-- The calls of the clones of `pubkey`, in order. -/
def callsOf (s : RequestLoop) (pubkey : Pubkey) : List Event :=
  (s.history.filter (·.1 = pubkey)).map Prod.snd

/-- The calls of the clone of `pubkey` in flight, if there is one. -/
def pendingCalls (s : RequestLoop) (pubkey : Pubkey) : List Event :=
  (s.running.filter (·.pubkey = pubkey)).flatMap InFlight.calls

/-- The signatures of the clones of `pubkey` that ended. -/
def clonedSignatures (s : RequestLoop) (pubkey : Pubkey) : List Signature :=
  s.outcomes.filterMap (clonedSignatureOf pubkey)

/-- The results of the clones of `pubkey` that ended, in order. -/
def outcomesOf (s : RequestLoop) (pubkey : Pubkey) :
    List (Except AccountClonerError AccountClonerOutput) :=
  (s.outcomes.filter (·.1 = pubkey)).map Prod.snd

theorem clonedSignatures_eq (s : RequestLoop) (pubkey : Pubkey) :
    s.clonedSignatures pubkey =
      (s.outcomesOf pubkey).filterMap fun result => clonedSignatureOf pubkey (pubkey, result) := by
  unfold clonedSignatures outcomesOf
  induction s.outcomes with
  | nil => rfl
  | cons x outcomes ih =>
    obtain ⟨key, result⟩ := x
    by_cases hkey : key = pubkey
    · subst hkey
      simp [List.filter_cons, filterMap_cons_eq_toList_append, ih]
    · simp [List.filter_cons, hkey, filterMap_cons_eq_toList_append, clonedSignatureOf_of_ne hkey, ih]

variable (w : RemoteAccountClonerWorker) (o : Oracle)

/-- The steps that carry the requests forward: a send, a batch, a clone's call, a clone's end. -/
inductive Advance : RequestLoop → RequestLoop → Prop
  /-- Modelled from the spec: step (2) of a caller, the send of a key whose entry it created. -/
  | push (s : RequestLoop) (pushes₁ : List Pubkey) (pubkey : Pubkey) (pushes₂ : List Pubkey)
      (hpushes : s.flight.pushes = pushes₁ ++ pubkey :: pushes₂) :
      Advance s { s with
        flight := { s.flight with
          pushes := pushes₁ ++ pushes₂, channel := s.flight.channel ++ [pubkey] } }
  | receive (s : RequestLoop) (hbatch : s.flight.batch = []) (hlive : s.flight.cancelled = false)
      (hready : s.flight.channel ≠ []) :
      Advance s { s with
        flight := { s.flight with
          batch := s.flight.channel.take 100, channel := s.flight.channel.drop 100 }
        running := (s.flight.channel.take 100).map fun pubkey =>
          ⟨pubkey, [], w.doCloneOrUseCache s.lastCloneOutput pubkey⟩ }
  | call (s : RequestLoop) (running₁ : List InFlight) (pubkey : Pubkey) (calls : List Event)
      (op : Op) (k : op.Resp → Prog (Except AccountClonerError AccountClonerOutput × CloneOutputs))
      (running₂ : List InFlight)
      (hrunning : s.running = running₁ ++ ⟨pubkey, calls, .call op k⟩ :: running₂)
      (resp : op.Resp) (hresp : resp = o (s.history.map Prod.snd) op) :
      Advance s { s with
        running := running₁ ++ ⟨pubkey, calls ++ [⟨op, resp⟩], k resp⟩ :: running₂
        history := s.history ++ [(pubkey, ⟨op, resp⟩)] }
  | finish (s : RequestLoop) (running₁ : List InFlight) (pubkey : Pubkey) (calls : List Event)
      (result : Except AccountClonerError AccountClonerOutput) (lastCloneOutput : CloneOutputs)
      (running₂ : List InFlight)
      (hrunning : s.running = running₁ ++ ⟨pubkey, calls, .pure (result, lastCloneOutput)⟩ :: running₂) :
      Advance s { s with
        flight := s.flight.finish pubkey
          (running₁.map InFlight.pubkey ++ running₂.map InFlight.pubkey)
        running := running₁ ++ running₂
        lastCloneOutput := Function.update s.lastCloneOutput pubkey (lastCloneOutput pubkey)
        outcomes := s.outcomes ++ [(pubkey, result)]
        sent := s.sent ++
          ((s.flight.cloneListeners pubkey).getD []).map fun listener => (⟨listener, pubkey⟩, result) }

/-- The atomic steps, in any interleaving: a registration, an advance, or the cancellation. -/
inductive Step : RequestLoop → RequestLoop → Prop
  | register (s : RequestLoop) (pubkey : Pubkey) :
      Step s { s with flight := s.flight.register pubkey }
  | advance {s t : RequestLoop} : Advance w o s t → Step s t
  | cancel (s : RequestLoop) (hbatch : s.flight.batch = []) :
      Step s { s with flight := { s.flight with cancelled := true } }

/-- The states the loop reaches from `start lastCloneOutput`, for any collaborators `o`. -/
inductive Reachable (lastCloneOutput : CloneOutputs) : RequestLoop → Prop
  | start : Reachable lastCloneOutput (start lastCloneOutput)
  | step {s t : RequestLoop} : Reachable lastCloneOutput s → Step w o s t →
      Reachable lastCloneOutput t

/-- The loop is the single flight with its clones as batch, and each clone runs as the code. -/
structure Invariant (s : RequestLoop) : Prop where
  flight : SingleFlight.Reachable s.flight
  batch : s.flight.batch = s.running.map InFlight.pubkey
  runs : ∀ f ∈ s.running, f.Runs w o s.lastCloneOutput
  ownCalls : ∀ x ∈ s.history,
    x.2.op.CacheCheck x.1 ∨ x.2.op.FetchPhase x.1 ∨ x.2.op.ClonePhase x.1
  delivered : s.sent.map Prod.fst = s.flight.delivered
  sentOutcome : ∀ x ∈ s.sent, (x.1.pubkey, x.2) ∈ s.outcomes

variable {w o} {s t : RequestLoop} {lastCloneOutput : CloneOutputs}

theorem Invariant.count_le_one (hs : Invariant w o s) (pubkey : Pubkey) :
    (s.running.map InFlight.pubkey).count pubkey ≤ 1 :=
  hs.batch ▸ (SingleFlight.invariant_reachable hs.flight).coalesced.count_batch_le_one pubkey

theorem Invariant.pubkey_ne (hs : Invariant w o s) {running₁ running₂ : List InFlight}
    {f g : InFlight} (hrunning : s.running = running₁ ++ f :: running₂)
    (hg : g ∈ running₁ ++ running₂) : g.pubkey ≠ f.pubkey := by
  intro hkey
  have hcount := hs.count_le_one f.pubkey
  have hpos : 0 < ((running₁ ++ running₂).map InFlight.pubkey).count f.pubkey :=
    List.count_pos_iff.mpr (hkey ▸ List.mem_map_of_mem _ hg)
  rw [hrunning] at hcount
  simp only [List.map_append, List.map_cons, List.count_append, List.count_cons_self] at hcount hpos
  omega

theorem invariant_start : Invariant w o (start lastCloneOutput) :=
  ⟨.initial, rfl, by simp [start], by simp [start], rfl, by simp [start]⟩

theorem cutExpand_next_middle {α : Type} {running₁ running₂ : List (Prog α)} {p q : Prog α}
    (h : Prog.Next q p) :
    Relation.CutExpand Prog.Next (Multiset.ofList (running₁ ++ q :: running₂))
      (Multiset.ofList (running₁ ++ p :: running₂)) := by
  have hmiddle : ∀ r : Prog α, Multiset.ofList (running₁ ++ r :: running₂) =
      {r} + Multiset.ofList (running₁ ++ running₂) := fun r => by
    rw [Multiset.singleton_add, Multiset.cons_coe]
    exact Multiset.coe_eq_coe.mpr List.perm_middle
  rw [hmiddle, hmiddle]
  exact (Relation.cutExpand_add_right _).2 (Relation.cutExpand_singleton_singleton h)

/-- An advance of the loop is one of the single flight, or a call of a clone in flight. -/
theorem Invariant.advance_flight (hs : Invariant w o s) (h : Advance w o s t) :
    SingleFlight.Advance s.flight t.flight ∨
      t.flight = s.flight ∧ Relation.CutExpand Prog.Next
        (Multiset.ofList (t.running.map InFlight.rest)) (Multiset.ofList (s.running.map InFlight.rest)) := by
  cases h with
  | push pushes₁ pubkey pushes₂ hpushes => exact .inl (.push _ _ _ _ hpushes)
  | receive hbatch hlive hready => exact .inl (.receive _ hbatch hlive hready)
  | call running₁ pubkey calls op k running₂ hrunning resp hresp =>
    refine .inr ⟨rfl, ?_⟩
    simp only [hrunning, List.map_append, List.map_cons]
    exact cutExpand_next_middle (.call op k resp)
  | finish running₁ pubkey calls result lastCloneOutput running₂ hrunning =>
    exact .inl (.finish _ _ pubkey _ (by simp [hs.batch, hrunning]))

theorem Invariant.advance (hs : Invariant w o s) (h : Advance w o s t) : Invariant w o t := by
  have hflight : SingleFlight.Reachable t.flight := by
    rcases hs.advance_flight h with hadv | ⟨hsame, -⟩
    exacts [.step hs.flight (.advance hadv), hsame ▸ hs.flight]
  cases h with
  | push pushes₁ pubkey pushes₂ hpushes =>
    exact ⟨hflight, hs.batch, hs.runs, hs.ownCalls, hs.delivered, hs.sentOutcome⟩
  | receive hbatch hlive hready =>
    refine ⟨hflight, by simp [Function.comp_def], ?_, hs.ownCalls, hs.delivered, hs.sentOutcome⟩
    simp only [List.mem_map]
    rintro _ ⟨pubkey, -, rfl⟩
    exact ⟨⟨_, rfl, .nil _⟩, by simp⟩
  | call running₁ pubkey calls op k running₂ hrunning resp hresp =>
    subst hresp
    have hf := hs.runs _ (hrunning ▸ List.mem_append_right _ (List.mem_cons_self _ _))
    refine ⟨hflight, by simpa [hrunning] using hs.batch, fun g hg => ?_, ?_, hs.delivered,
      hs.sentOutcome⟩
    · simp only [List.mem_append, List.mem_cons] at hg
      rcases hg with hg | rfl | hg
      · exact hs.runs g (by simp [hrunning, hg])
      · exact hf.call _
      · exact hs.runs g (by simp [hrunning, hg])
    · simp only [List.mem_append, List.mem_singleton]
      rintro x (hx | rfl)
      exacts [hs.ownCalls x hx, hf.ownCall (o (s.history.map Prod.snd) op)]
  | finish running₁ pubkey calls result lastCloneOutput running₂ hrunning =>
    refine ⟨hflight, by simp, fun g hg => ?_, hs.ownCalls, ?_, ?_⟩
    · refine (hs.runs g ?_).congr (Function.update_noteq (hs.pubkey_ne hrunning hg) _ _)
      rw [hrunning]
      simp only [List.mem_append, List.mem_cons] at hg ⊢
      tauto
    · simp [SingleFlight.finish_eq, hs.delivered, Function.comp_def]
    · simp only [List.mem_append, List.mem_map, List.mem_singleton]
      rintro x (hx | ⟨listener, -, rfl⟩)
      exacts [.inl (hs.sentOutcome x hx), .inr rfl]

theorem Invariant.step (hs : Invariant w o s) (h : Step w o s t) : Invariant w o t := by
  cases h with
  | register pubkey =>
    exact ⟨.step hs.flight (.register _ pubkey), by simpa using hs.batch, hs.runs, hs.ownCalls,
      by simpa [SingleFlight.register_eq] using hs.delivered, hs.sentOutcome⟩
  | advance h => exact hs.advance h
  | cancel hbatch =>
    exact ⟨.step hs.flight (.cancel _ hbatch), hs.batch, hs.runs, hs.ownCalls, hs.delivered,
      hs.sentOutcome⟩

theorem Reachable.invariant (hs : Reachable w o lastCloneOutput s) : Invariant w o s := by
  induction hs with
  | start => exact invariant_start
  | step _ h ih => exact ih.step h

/-- Every run of the loop with its clones is a run of the single flight, with the clones in
flight as its batch; no two clones of one key overlap. -/
theorem loop_refines_single_flight (hs : Reachable w o lastCloneOutput s) :
    SingleFlight.Reachable s.flight ∧ s.flight.batch = s.running.map InFlight.pubkey ∧
      ∀ f ∈ s.running, (s.running.map InFlight.pubkey).count f.pubkey = 1 ∧
        ∃ c : CloneOutputs, c f.pubkey = s.lastCloneOutput f.pubkey ∧
          Path (w.doCloneOrUseCache c f.pubkey) f.calls f.rest := by
  have hinv := hs.invariant
  refine ⟨hinv.flight, hinv.batch, fun f hf => ⟨?_, (hinv.runs f hf).1⟩⟩
  have hpos := List.count_pos_iff.mpr (List.mem_map_of_mem InFlight.pubkey hf)
  have := hinv.count_le_one f.pubkey
  omega

/-- Every caller is sent, at most once, the result of a clone of its key that ended. -/
theorem loop_sends_outcomes (hs : Reachable w o lastCloneOutput s) :
    (s.sent.map Prod.fst).Nodup ∧
      ∀ x ∈ s.sent, x.1 ∈ s.flight.registered ∧ (x.1.pubkey, x.2) ∈ s.outcomes := by
  have hinv := hs.invariant
  have hnotified := (SingleFlight.invariant_reachable hinv.flight).notified
  refine ⟨hinv.delivered ▸ hnotified.nodup_delivered, fun x hx => ⟨?_, hinv.sentOutcome x hx⟩⟩
  exact hnotified.mem_registered (hinv.delivered ▸ List.mem_map_of_mem Prod.fst hx)

/-- A caller registered key 9 and sent it, and the loop received it and started its clone. -/
def nineInFlight (w : RemoteAccountClonerWorker) : RequestLoop where
  flight := { SingleFlight.initial with
    cloneListeners := Function.update (fun _ => none) 9 (some [0])
    batch := [9]
    registered := [⟨0, 9⟩] }
  running := [⟨9, [], w.doCloneOrUseCache (fun _ => none) 9⟩]
  lastCloneOutput := fun _ => none
  history := []
  outcomes := []
  sent := []

theorem reachable_nineInFlight (w : RemoteAccountClonerWorker) (o : Oracle) :
    Reachable w o (fun _ => none) (nineInFlight w) :=
  .step (.step (.step .start (.register _ 9)) (.advance (.push _ [] 9 [] rfl)))
    (.advance (.receive _ rfl rfl (List.cons_ne_nil _ _)))

/-- Two callers of key 9 wait while its clone is in flight. -/
def nineTwoWaiting (w : RemoteAccountClonerWorker) : RequestLoop where
  flight := { SingleFlight.initial with
    cloneListeners :=
      Function.update (Function.update (fun _ => none) 9 (some [0])) 9 (some [0, 1])
    batch := [9]
    registered := [⟨0, 9⟩, ⟨1, 9⟩] }
  running := [⟨9, [], w.doCloneOrUseCache (fun _ => none) 9⟩]
  lastCloneOutput := fun _ => none
  history := []
  outcomes := []
  sent := []

/-- The clone of the blacklisted key 9 refused it, and both callers were sent the refusal. -/
def nineBothAnswered : RequestLoop where
  flight := { SingleFlight.initial with
    cloneListeners := Function.update
      (Function.update (Function.update (fun _ => none) 9 (some [0])) 9 (some [0, 1])) 9 none
    registered := [⟨0, 9⟩, ⟨1, 9⟩]
    delivered := [⟨0, 9⟩, ⟨1, 9⟩] }
  running := []
  lastCloneOutput := Function.update (fun _ => none) 9 (some (.unclonable 9 .isBlacklisted u64Max))
  history := [(9, ⟨.getLastKnownUpdateSlot 9, none⟩), (9, ⟨.hasAccount 9, false⟩)]
  outcomes := [(9, .ok (.unclonable 9 .isBlacklisted u64Max))]
  sent := [(⟨0, 9⟩, .ok (.unclonable 9 .isBlacklisted u64Max)),
    (⟨1, 9⟩, .ok (.unclonable 9 .isBlacklisted u64Max))]

theorem reachable_nineTwoWaiting (w : RemoteAccountClonerWorker) (o : Oracle) :
    Reachable w o (fun _ => none) (nineTwoWaiting w) :=
  .step (reachable_nineInFlight w o) (.register _ 9)

theorem reachable_nineBothAnswered :
    Reachable (RemoteAccountClonerWorker.new .stub none [9] none ⟨true, true, true, true, true⟩ 0)
      delegatedAtSeven (fun _ => none) nineBothAnswered := by
  have hslot := Reachable.step (reachable_nineTwoWaiting _ delegatedAtSeven)
    (.advance (.call (nineTwoWaiting
      (RemoteAccountClonerWorker.new .stub none [9] none ⟨true, true, true, true, true⟩ 0))
      [] 9 [] (.getLastKnownUpdateSlot 9) _ [] rfl _ rfl))
  have hlocal := Reachable.step hslot (.advance (.call _ [] 9 _ (.hasAccount 9) _ [] rfl _ rfl))
  have hrefused := Reachable.step hlocal (.advance (.finish _ [] 9 _ _ _ [] rfl))
  exact hrefused

theorem loop_refines_single_flight_nine :
    let w := RemoteAccountClonerWorker.new .stub none [] none ⟨true, true, true, true, true⟩ 0
    Reachable w delegatedAtSeven (fun _ => none) (nineInFlight w) ∧
      SingleFlight.Reachable (nineInFlight w).flight ∧
      (nineInFlight w).flight.batch = (nineInFlight w).running.map InFlight.pubkey ∧
      ∀ f ∈ (nineInFlight w).running,
        ((nineInFlight w).running.map InFlight.pubkey).count f.pubkey = 1 ∧
        ∃ c : CloneOutputs, c f.pubkey = (nineInFlight w).lastCloneOutput f.pubkey ∧
          Path (w.doCloneOrUseCache c f.pubkey) f.calls f.rest :=
  ⟨reachable_nineInFlight _ _, loop_refines_single_flight (reachable_nineInFlight _ delegatedAtSeven)⟩

theorem loop_sends_outcomes_nine :
    let w := RemoteAccountClonerWorker.new .stub none [9] none ⟨true, true, true, true, true⟩ 0
    Reachable w delegatedAtSeven (fun _ => none) nineBothAnswered ∧
      (nineBothAnswered.sent.map Prod.fst).Nodup ∧
      ∀ x ∈ nineBothAnswered.sent, x.1 ∈ nineBothAnswered.flight.registered ∧
        (x.1.pubkey, x.2) ∈ nineBothAnswered.outcomes :=
  ⟨reachable_nineBothAnswered, loop_sends_outcomes reachable_nineBothAnswered⟩

section Drain

/-! Once callers stop registering, the loop drains. -/

/-- The work left: the single flight's pending requests, then the clones' programs. -/
def remaining (s : RequestLoop) :
    Nat × Multiset (Prog (Except AccountClonerError AccountClonerOutput × CloneOutputs)) :=
  (s.flight.pending, Multiset.ofList (s.running.map InFlight.rest))

theorem Invariant.remaining_lt (hs : Invariant w o s) (h : Advance w o s t) :
    Prod.Lex (· < ·) (Relation.CutExpand Prog.Next) t.remaining s.remaining := by
  rcases hs.advance_flight h with hadv | ⟨hsame, hcut⟩
  · exact .left _ _ hadv.pending_lt
  · simp only [remaining, hsame]
    exact .right _ hcut

theorem Reachable.advances (hs : Reachable w o lastCloneOutput s)
    (hrun : Relation.ReflTransGen (Advance w o) s t) :
    Reachable w o lastCloneOutput t ∧ t.flight.registered = s.flight.registered ∧
      t.flight.cancelled = s.flight.cancelled := by
  induction hrun with
  | refl => exact ⟨hs, rfl, rfl⟩
  | @tail u v _ hadv ih =>
    have hflight : v.flight.registered = u.flight.registered ∧
        v.flight.cancelled = u.flight.cancelled := by
      rcases ih.1.invariant.advance_flight hadv with hflight | ⟨hsame, -⟩
      exacts [hflight.registered_eq, ⟨congrArg _ hsame, congrArg _ hsame⟩]
    exact ⟨.step ih.1 (.advance hadv), hflight.1.trans ih.2.1, hflight.2.trans ih.2.2⟩

theorem acc_advance (hs : Reachable w o lastCloneOutput s) : Acc (fun u t => Advance w o t u) s := by
  have hwf : WellFounded (Prod.Lex (· < ·) (Relation.CutExpand (@Prog.Next
      (Except AccountClonerError AccountClonerOutput × CloneOutputs)))) :=
    WellFounded.prod_lex (wellFounded_lt (α := ℕ)) Prog.wellFounded_next.cutExpand
  have hacc := (InvImage.wf remaining hwf).apply s
  induction hacc with
  | intro s _ ih =>
    exact ⟨_, fun t h => ih t (hs.invariant.remaining_lt h) (.step hs (.advance h))⟩

/-- A live loop with a clone in flight or a request on its way can advance. -/
theorem Invariant.exists_advance (hs : Invariant w o s) (hlive : s.flight.cancelled = false)
    (hbusy : s.running ≠ [] ∨ s.flight.pending ≠ 0) : ∃ t, Advance w o s t := by
  rcases hrunning : s.running with _ | ⟨⟨pubkey, calls, rest⟩, running⟩
  · have hbatch : s.flight.batch = [] := by rw [hs.batch, hrunning]; rfl
    obtain ⟨u, hu⟩ := SingleFlight.exists_advance hlive (by simpa [hrunning] using hbusy)
    cases hu with
    | push pushes₁ key pushes₂ hpushes => exact ⟨_, .push s pushes₁ key pushes₂ hpushes⟩
    | receive hb hl hready => exact ⟨_, .receive s hb hl hready⟩
    | finish batch₁ key batch₂ hb => simp [hbatch] at hb
  · cases rest with
    | pure result => exact ⟨_, .finish s [] pubkey calls result.1 result.2 running hrunning⟩
    | call op k => exact ⟨_, .call s [] pubkey calls op k running hrunning _ rfl⟩

/-- Once callers stop registering, no run of the loop's advances is infinite, and one that cannot
go further has notified every sink. -/
theorem loop_drains (hs : Reachable w o lastCloneOutput s) (hlive : s.flight.cancelled = false) :
    Acc (fun u t => Advance w o t u) s ∧
      ∀ t, Relation.ReflTransGen (Advance w o) s t → (∀ u, ¬ Advance w o t u) →
        t.running = [] ∧ t.flight.pending = 0 ∧
          ∀ sink ∈ s.flight.registered, sink ∈ t.flight.delivered := by
  refine ⟨acc_advance hs, fun t hrun hstuck => ?_⟩
  obtain ⟨hreach, hreg, hc⟩ := hs.advances hrun
  have hinv := hreach.invariant
  have hidle : t.running = [] ∧ t.flight.pending = 0 := by
    by_contra hbusy
    obtain ⟨u, hu⟩ := hinv.exists_advance (hc.trans hlive) (not_and_or.mp hbusy)
    exact hstuck u hu
  exact ⟨hidle.1, hidle.2,
    hreg ▸ (SingleFlight.invariant_reachable hinv.flight).delivered_of_idle hidle.2⟩

theorem loop_drains_nine :
    let w := RemoteAccountClonerWorker.new .stub none [] none ⟨true, true, true, true, true⟩ 0
    (Reachable w delegatedAtSeven (fun _ => none) (nineInFlight w) ∧
      (nineInFlight w).flight.cancelled = false) ∧
    Acc (fun u t => Advance w delegatedAtSeven t u) (nineInFlight w) ∧
      ∀ t, Relation.ReflTransGen (Advance w delegatedAtSeven) (nineInFlight w) t →
        (∀ u, ¬ Advance w delegatedAtSeven t u) →
        t.running = [] ∧ t.flight.pending = 0 ∧
          ∀ sink ∈ (nineInFlight w).flight.registered, sink ∈ t.flight.delivered :=
  ⟨⟨reachable_nineInFlight _ _, rfl⟩, loop_drains (reachable_nineInFlight _ delegatedAtSeven) rfl⟩

end Drain

section PerKey

/-! Projected to one key, the loop is the worker serving that key's requests in sequence. -/

/-- The clones of `pubkey` one after another, each a whole run of `do_clone_or_use_cache`. -/
inductive KeyRuns (w : RemoteAccountClonerWorker) (o : Oracle) (pubkey : Pubkey)
    (lastCloneOutput : CloneOutputs) :
    List Event → List (Except AccountClonerError AccountClonerOutput) → CloneOutputs → Prop
  | nil : KeyRuns w o pubkey lastCloneOutput [] [] lastCloneOutput
  | snoc {calls : List Event} {outcomes : List (Except AccountClonerError AccountClonerOutput)}
      {final c final' : CloneOutputs} {clone : List Event}
      {result : Except AccountClonerError AccountClonerOutput} :
      KeyRuns w o pubkey lastCloneOutput calls outcomes final → c pubkey = final pubkey →
      Path (w.doCloneOrUseCache c pubkey) clone (.pure (result, final')) →
      (∀ e ∈ clone, ∃ h, o h e.op = e.resp) →
      KeyRuns w o pubkey lastCloneOutput (calls ++ clone) (outcomes ++ [result]) final'

/-- What the loop has done for `pubkey`: whole runs, then the calls of its clone in flight. -/
def KeyTrace (w : RemoteAccountClonerWorker) (o : Oracle) (lastCloneOutput : CloneOutputs)
    (pubkey : Pubkey) (s : RequestLoop) : Prop :=
  ∃ done final, s.callsOf pubkey = done ++ s.pendingCalls pubkey ∧
    final pubkey = s.lastCloneOutput pubkey ∧
    KeyRuns w o pubkey lastCloneOutput done (s.outcomesOf pubkey) final

variable {pubkey : Pubkey}

theorem filter_running_eq_nil {running : List InFlight}
    (hnone : ∀ g ∈ running, g.pubkey ≠ pubkey) : running.filter (·.pubkey = pubkey) = [] :=
  List.filter_eq_nil_iff.mpr fun g hg => by simpa using hnone g hg

theorem pendingCalls_eq_nil (hnil : ∀ f ∈ s.running, f.pubkey = pubkey → f.calls = []) :
    s.pendingCalls pubkey = [] := by
  simpa [pendingCalls] using hnil

theorem pendingCalls_of_not_mem (hnone : ∀ g ∈ s.running, g.pubkey ≠ pubkey) :
    s.pendingCalls pubkey = [] :=
  pendingCalls_eq_nil fun f hf hkey => absurd hkey (hnone f hf)

theorem pendingCalls_of_mem {running₁ running₂ : List InFlight} {f : InFlight}
    (hrunning : s.running = running₁ ++ f :: running₂)
    (hothers : ∀ g ∈ running₁ ++ running₂, g.pubkey ≠ f.pubkey) :
    s.pendingCalls f.pubkey = f.calls := by
  simp only [List.mem_append, or_imp, forall_and] at hothers
  simp [pendingCalls, hrunning, List.filter_append, filter_running_eq_nil hothers.1,
    filter_running_eq_nil hothers.2]

/-- What a step does for one key: nothing, a call of its clone, or the end of its clone. -/
theorem Invariant.step_key (hinv : Invariant w o s) (h : Step w o s t) (pubkey : Pubkey) :
    (t.callsOf pubkey = s.callsOf pubkey ∧ t.pendingCalls pubkey = s.pendingCalls pubkey ∧
      t.outcomesOf pubkey = s.outcomesOf pubkey ∧
      t.lastCloneOutput pubkey = s.lastCloneOutput pubkey ∧
      ∃ sent, t.sent = s.sent ++ sent ∧ ∀ x ∈ sent, x.1.pubkey ≠ pubkey) ∨
    (∃ calls op k resp, ⟨pubkey, calls, .call op k⟩ ∈ s.running ∧
      s.pendingCalls pubkey = calls ∧ t.callsOf pubkey = s.callsOf pubkey ++ [⟨op, resp⟩] ∧
      t.pendingCalls pubkey = calls ++ [⟨op, resp⟩] ∧ t.outcomesOf pubkey = s.outcomesOf pubkey ∧
      t.lastCloneOutput pubkey = s.lastCloneOutput pubkey ∧ t.sent = s.sent) ∨
    (∃ calls result c, ⟨pubkey, calls, .pure (result, c)⟩ ∈ s.running ∧
      s.pendingCalls pubkey = calls ∧ t.callsOf pubkey = s.callsOf pubkey ∧
      t.pendingCalls pubkey = [] ∧ t.outcomesOf pubkey = s.outcomesOf pubkey ++ [result] ∧
      t.lastCloneOutput pubkey = c pubkey ∧
      t.sent = s.sent ++ ((s.flight.cloneListeners pubkey).getD []).map
        fun listener => (⟨listener, pubkey⟩, result)) := by
  have hquiet : ∃ sent, s.sent = s.sent ++ sent ∧ ∀ x ∈ sent, x.1.pubkey ≠ pubkey :=
    ⟨[], by simp, by simp⟩
  cases h with
  | register | cancel => exact .inl ⟨rfl, rfl, rfl, rfl, hquiet⟩
  | advance h =>
    cases h with
    | push => exact .inl ⟨rfl, rfl, rfl, rfl, hquiet⟩
    | receive hbatch =>
      have hidle : s.running = [] := by simpa [hbatch] using hinv.batch.symm
      refine .inl ⟨rfl, ?_, rfl, rfl, hquiet⟩
      rw [pendingCalls_of_not_mem (s := s) (by simp [hidle])]
      exact pendingCalls_eq_nil fun f hf _ => by obtain ⟨_, -, rfl⟩ := List.mem_map.mp hf; rfl
    | call running₁ key calls op k running₂ hrunning resp =>
      have hothers := fun g hg => hinv.pubkey_ne hrunning (g := g) hg
      by_cases hkey : key = pubkey
      · subst hkey
        exact .inr (.inl ⟨calls, op, k, resp,
          hrunning ▸ List.mem_append_right _ (List.mem_cons_self _ _),
          pendingCalls_of_mem hrunning hothers, by simp [callsOf, List.filter_append],
          pendingCalls_of_mem (f := ⟨key, calls ++ [⟨op, resp⟩], k resp⟩) rfl hothers,
          rfl, rfl, rfl⟩)
      · exact .inl ⟨by simp [callsOf, List.filter_append, hkey],
          by simp [pendingCalls, hrunning, List.filter_append, hkey], rfl, rfl, hquiet⟩
    | finish running₁ key calls result c running₂ hrunning =>
      have hothers : ∀ g ∈ running₁ ++ running₂, g.pubkey ≠ key := fun g hg =>
        hinv.pubkey_ne hrunning hg
      by_cases hkey : key = pubkey
      · subst hkey
        exact .inr (.inr ⟨calls, result, c,
          hrunning ▸ List.mem_append_right _ (List.mem_cons_self _ _),
          pendingCalls_of_mem hrunning hothers, rfl, pendingCalls_of_not_mem hothers,
          by simp [outcomesOf, List.filter_append], Function.update_same _ _ _, rfl⟩)
      · exact .inl ⟨rfl, by simp [pendingCalls, hrunning, List.filter_append, hkey],
          by simp [outcomesOf, List.filter_append, hkey], Function.update_noteq (Ne.symm hkey) _ _,
          _, rfl, by simp [hkey]⟩

/-- The step lemma of the key's trace. -/
theorem KeyTrace.step (hinv : Invariant w o s) (ht : KeyTrace w o lastCloneOutput pubkey s)
    (h : Step w o s t) : KeyTrace w o lastCloneOutput pubkey t := by
  obtain ⟨done, final, hcalls, hfinal, hruns⟩ := ht
  rcases hinv.step_key h pubkey with
    ⟨hcalls', hpend, houts, hentry, -⟩ | ⟨calls, op, k, resp, -, hpend, hcalls', hpend', houts, hentry, -⟩ |
    ⟨calls, result, c', hf, hpend, hcalls', hpend', houts, hentry, -⟩
  · exact ⟨done, final, by rw [hcalls', hpend, hcalls], hfinal.trans hentry.symm, houts ▸ hruns⟩
  · exact ⟨done, final, by rw [hcalls', hpend', hcalls, hpend, List.append_assoc],
      hfinal.trans hentry.symm, houts ▸ hruns⟩
  · obtain ⟨⟨c, hc, hpath⟩, hanswered⟩ := hinv.runs _ hf
    exact ⟨done ++ calls, c', by rw [hcalls', hpend', List.append_nil, hcalls, hpend],
      hentry.symm, houts ▸ hruns.snoc (hc.trans hfinal.symm) hpath hanswered⟩

theorem Reachable.keyTrace (hs : Reachable w o lastCloneOutput s) (pubkey : Pubkey) :
    KeyTrace w o lastCloneOutput pubkey s := by
  induction hs with
  | start => exact ⟨[], lastCloneOutput, rfl, rfl, .nil⟩
  | step hprev h ih => exact ih.step hprev.invariant h

/-- The request loop refines, key by key, the worker serving requests in sequence: the clones
of a key are whole runs one after another, each on the entry the previous one left. -/
theorem loop_refines_key_runs (hs : Reachable w o lastCloneOutput s) (pubkey : Pubkey) :
    ∃ done final, s.callsOf pubkey = done ++ s.pendingCalls pubkey ∧
      final pubkey = s.lastCloneOutput pubkey ∧
      KeyRuns w o pubkey lastCloneOutput done (s.outcomesOf pubkey) final :=
  hs.keyTrace pubkey

theorem loop_refines_key_runs_nine :
    let w := RemoteAccountClonerWorker.new .stub none [9] none ⟨true, true, true, true, true⟩ 0
    Reachable w delegatedAtSeven (fun _ => none) nineBothAnswered ∧
    ∃ done final, nineBothAnswered.callsOf 9 = done ++ nineBothAnswered.pendingCalls 9 ∧
      final 9 = nineBothAnswered.lastCloneOutput 9 ∧
      KeyRuns w delegatedAtSeven 9 (fun _ => none) done (nineBothAnswered.outcomesOf 9) final :=
  ⟨reachable_nineBothAnswered, loop_refines_key_runs reachable_nineBothAnswered 9⟩

end PerKey

section Delegated

variable {pubkey : Pubkey} {delegationSlot : Slot} {first : Option Signature}

/-- What the loop has done for `pubkey`, as a stretch of the run from `first`. -/
def Tracked (w : RemoteAccountClonerWorker) (pubkey : Pubkey) (delegationSlot : Slot)
    (first : Option Signature) (s : RequestLoop) : Prop :=
  ∃ done, s.callsOf pubkey = done ++ s.pendingCalls pubkey ∧
    w.DelegationStep pubkey delegationSlot first (s.clonedSignatures pubkey) done s.lastCloneOutput

variable {calls : List Event} {outcomes : List (Except AccountClonerError AccountClonerOutput)}
  {final : CloneOutputs}

theorem KeyRuns.delegationStep (hfetch : FetchesDelegatedFrom o pubkey delegationSlot)
    (hc : w.DelegationCache pubkey delegationSlot lastCloneOutput first)
    (hruns : KeyRuns w o pubkey lastCloneOutput calls outcomes final) :
    w.DelegationStep pubkey delegationSlot first
      (outcomes.filterMap fun result => clonedSignatureOf pubkey (pubkey, result)) calls final := by
  induction hruns with
  | nil => exact .nil hc
  | snoc _ hsame hpath hanswered ih =>
    have hlast := w.doCloneOrUseCache_step (replay o _) (hfetch.replay hanswered)
      (ih.cache.congr w hsame) [] pubkey
    rw [hpath.run_replay_pure o] at hlast
    rw [filterMap_append_singleton]
    exact ih.append hlast

theorem Reachable.tracked (hfetch : FetchesDelegatedFrom o pubkey delegationSlot)
    (hc : w.DelegationCache pubkey delegationSlot lastCloneOutput first)
    (hs : Reachable w o lastCloneOutput s) : Tracked w pubkey delegationSlot first s := by
  obtain ⟨done, final, hcalls, hfinal, hruns⟩ := hs.keyTrace pubkey
  refine ⟨done, hcalls, ?_⟩
  rw [clonedSignatures_eq]
  exact (hruns.delegationStep hfetch hc).congr hfinal.symm

theorem Tracked.extend (hfetch : FetchesDelegatedFrom o pubkey delegationSlot)
    (hinv : Invariant w o s) (ht : Tracked w pubkey delegationSlot first s) :
    ∃ signatures rest c,
      w.DelegationStep pubkey delegationSlot first signatures (s.callsOf pubkey ++ rest) c := by
  obtain ⟨done, hcalls, hstep⟩ := ht
  by_cases hflight : ∃ f ∈ s.running, f.pubkey = pubkey
  · obtain ⟨f, hf, rfl⟩ := hflight
    obtain ⟨running₁, running₂, hrunning⟩ := List.append_of_mem hf
    have hpend := pendingCalls_of_mem hrunning fun g hg => hinv.pubkey_ne hrunning hg
    obtain ⟨c, -, hpath, hlast⟩ := (hinv.runs f hf).delegationStep hfetch rfl hstep.cache
    obtain ⟨rest, hrest⟩ := hpath.prefix_run_replay o
    exact ⟨_, rest, _, by rw [hcalls, hpend, List.append_assoc, hrest]; exact hstep.append hlast⟩
  · push_neg at hflight
    rw [pendingCalls_of_not_mem hflight, List.append_nil] at hcalls
    exact ⟨_, [], _, by rw [List.append_nil, hcalls]; exact hstep⟩

theorem Invariant.countP_history (hinv : Invariant w o s) {p : Event → Bool}
    (hp : ∀ e : Event, e.op.isDelegatedDumpOf pubkey = false → p e = false) :
    (s.history.map Prod.snd).countP p = (s.callsOf pubkey).countP p := by
  rw [callsOf, List.countP_map, List.countP_map, List.countP_filter]
  refine List.countP_congr fun x hx => ?_
  by_cases hkey : x.1 = pubkey
  · simp [hkey]
  · simp [hkey, hp x.2 (isDelegatedDumpOf_of_other hkey (hinv.ownCalls x hx))]

theorem Reachable.dumps (hfetch : FetchesDelegatedFrom o pubkey delegationSlot)
    {signatures : List Signature} {calls : List Event}
    (hbefore : w.DelegationStep pubkey delegationSlot first signatures calls lastCloneOutput)
    (hs : Reachable w o lastCloneOutput s) :
    delegatedDumpsOk pubkey (calls ++ s.history.map Prod.snd) ≤ 1 ∧
      (first.isSome → delegatedDumps pubkey (calls ++ s.history.map Prod.snd) = 0) := by
  have hinv := hs.invariant
  obtain ⟨_, rest, _, hloop⟩ := (hs.tracked hfetch hbefore.cache).extend hfetch hinv
  have hall := hbefore.append hloop
  have hdumps : delegatedDumps pubkey (s.history.map Prod.snd) =
      delegatedDumps pubkey (s.callsOf pubkey) := hinv.countP_history fun _ h => h
  have hdumpsOk : delegatedDumpsOk pubkey (s.history.map Prod.snd) =
      delegatedDumpsOk pubkey (s.callsOf pubkey) :=
    hinv.countP_history fun _ h => Bool.eq_false_iff.mpr fun hok => by
      simp [Prog.Event.isDelegatedDumpOf_of_ok hok] at h
  have hok := hall.dumped_once
  simp only [delegatedDumpsOk_append, delegatedDumps_append] at hok hdumps hdumpsOk ⊢
  refine ⟨by omega, fun hsome => ?_⟩
  have hnone := hall.settled hsome
  simp only [delegatedDumps_append] at hnone
  omega

/-- A delegated account is dumped at most once per delegation, however the clones of the
request loop interleave, and every clone of it carries the first one's signature. -/
theorem loop_dumps_delegated_once (hfetch : FetchesDelegatedFrom o pubkey delegationSlot)
    (hc : w.DelegationCache pubkey delegationSlot lastCloneOutput first)
    (hs : Reachable w o lastCloneOutput s) :
    delegatedDumpsOk pubkey (s.history.map Prod.snd) ≤ 1 ∧
      (first.isSome → delegatedDumps pubkey (s.history.map Prod.snd) = 0) ∧
      ∀ signature ∈ s.clonedSignatures pubkey,
        first.or (s.clonedSignatures pubkey).head? = some signature := by
  have hdumps := hs.dumps hfetch (.nil hc)
  rw [List.nil_append] at hdumps
  obtain ⟨_, -, hstep⟩ := hs.tracked hfetch hc
  exact ⟨hdumps.1, hdumps.2, hstep.first_signature⟩

/-- Two clones of key 9 in turn: the first dumps it, the refreshed second reuses the signature. -/
theorem loop_dumps_delegated_once_nine :
    let w := RemoteAccountClonerWorker.new .stub none [] none ⟨false, true, true, true, true⟩ 0
    ∃ s, (FetchesDelegatedFrom delegatedBank 9 7 ∧ w.DelegationCache 9 7 (fun _ => none) none ∧
      Reachable w delegatedBank (fun _ => none) s ∧
      (s.history.map Prod.snd).map (·.op) =
        [.getLastKnownUpdateSlot 9, .hasAccount 9, .fetchAccountChainSnapshot 9 none,
          .dumpDelegatedAccount 9 ⟨0, [], 0, false⟩ 0, .getLastKnownUpdateSlot 9,
          .fetchAccountChainSnapshot 9 none] ∧
      s.clonedSignatures 9 = [1, 1]) ∧
    delegatedDumpsOk 9 (s.history.map Prod.snd) ≤ 1 ∧
      ((none : Option Signature).isSome → delegatedDumps 9 (s.history.map Prod.snd) = 0) ∧
      ∀ signature ∈ s.clonedSignatures 9,
        (none : Option Signature).or (s.clonedSignatures 9).head? = some signature := by
  intro w
  have h₁ := Reachable.step (reachable_nineInFlight w delegatedBank)
    (.advance (.call (nineInFlight w) [] 9 [] (.getLastKnownUpdateSlot 9) _ [] rfl _ rfl))
  have h₂ := Reachable.step h₁ (.advance (.call _ [] 9 _ (.hasAccount 9) _ [] rfl _ rfl))
  have h₃ := Reachable.step h₂
    (.advance (.call _ [] 9 _ (.fetchAccountChainSnapshot 9 none) _ [] rfl _ rfl))
  have hdumped := Reachable.step h₃
    (.advance (.call _ [] 9 _ (.dumpDelegatedAccount 9 ⟨0, [], 0, false⟩ 0) _ [] rfl _ rfl))
  have h₄ := Reachable.step hdumped (.advance (.finish _ [] 9 _ _ _ [] rfl))
  have h₅ := Reachable.step (.step h₄ (.register _ 9)) (.advance (.push _ [] 9 [] rfl))
  have h₆ := Reachable.step h₅ (.advance (.receive _ rfl rfl (List.cons_ne_nil _ _)))
  have h₇ := Reachable.step h₆
    (.advance (.call _ [] 9 [] (.getLastKnownUpdateSlot 9) _ [] rfl _ rfl))
  have h₈ := Reachable.step h₇
    (.advance (.call _ [] 9 _ (.fetchAccountChainSnapshot 9 none) _ [] rfl _ rfl))
  have hreused := Reachable.step h₈ (.advance (.finish _ [] 9 _ _ _ [] rfl))
  have hc : w.DelegationCache 9 7 (fun _ => none) none := by
    simp [RemoteAccountClonerWorker.DelegationCache]
  exact ⟨_, ⟨delegatedBank_fetches 9, hc, hreused, rfl, rfl⟩,
    loop_dumps_delegated_once (delegatedBank_fetches 9) hc hreused⟩

/-- A delegated account is dumped at most once per delegation over `hydrate` and then the
request loop, and never when hydration kept it. -/
theorem hydrate_then_loop_dumps_once (hfetch : FetchesDelegatedFrom o pubkey delegationSlot)
    (hs : Reachable w (fun h => o (((w.hydrate fun _ => none).run o []).2 ++ h))
      ((w.hydrate fun _ => none).run o []).1.2 s) :
    let hydrated := (w.hydrate fun _ => none).run o []
    let calls := hydrated.2 ++ s.history.map Prod.snd
    let signatures :=
      hydrated.1.1.filterMap (clonedSignatureOf pubkey) ++ s.clonedSignatures pubkey
    delegatedDumpsOk pubkey calls ≤ 1 ∧
    (∀ owner snapshot signature account record,
        (pubkey, owner) ∈ w.hydrationKeys (o [] .getAllAccounts) →
        (pubkey, .ok (.cloned snapshot signature)) ∈ hydrated.1.1 →
        snapshot.chainState = .delegated account record →
        (record.authority ≠ Pubkey.default ∧ record.authority = w.validatorIdentity) ∨
          (record.authority = Pubkey.default ∧ owner = record.owner) →
        delegatedDumps pubkey calls = 0) ∧
    ∀ signature ∈ signatures, signatures.head? = some signature := by
  dsimp only
  have hempty : w.DelegationCache pubkey delegationSlot (fun _ => none) none := by
    simp [RemoteAccountClonerWorker.DelegationCache]
  obtain ⟨hhydrate, hkeep⟩ := w.hydrate_step o hfetch hempty []
  have hfetch' : FetchesDelegatedFrom
      (fun h => o (((w.hydrate fun _ => none).run o []).2 ++ h)) pubkey delegationSlot :=
    fun h => hfetch (_ ++ h)
  obtain ⟨_, -, hloop⟩ := hs.tracked hfetch' hhydrate.cache
  refine ⟨(hs.dumps hfetch' hhydrate).1,
    fun owner snapshot signature account record hmem hout hdel hsc => ?_,
    fun signature hsig => by simpa using (hhydrate.append hloop).first_signature signature hsig⟩
  have hcloned : signature ∈
      ((w.hydrate fun _ => none).run o []).1.1.filterMap (clonedSignatureOf pubkey) :=
    List.mem_filterMap.mpr ⟨_, hout, by simp [clonedSignatureOf]⟩
  obtain ⟨first, _, hfirst⟩ := List.exists_cons_of_ne_nil (List.ne_nil_of_mem hcloned)
  have hsettled := (hs.dumps hfetch' (.nil hhydrate.cache)).2
    (by rw [hfirst]; rfl)
  rw [List.nil_append] at hsettled
  rw [delegatedDumps_append, hkeep owner snapshot signature account record hmem hout hdel
    ((ValidatorStage.shouldCloneDelegatedAccount_hydrating_eq_false _ _ _).mpr hsc), hsettled]

/-- Hydration dumps key 9 and keeps key 10; the loop's clones of both reuse their signatures. -/
theorem hydrate_then_loop_dumps_once_start :
    let w := RemoteAccountClonerWorker.new .stub none [] none ⟨false, true, true, true, true⟩ 0
    let hydrated := (w.hydrate fun _ => none).run delegatedBank []
    ∃ s, (FetchesDelegatedFrom delegatedBank 9 7 ∧ FetchesDelegatedFrom delegatedBank 10 7 ∧
      Reachable w (fun h => delegatedBank (hydrated.2 ++ h)) hydrated.1.2 s ∧
      hydrated.2.map (·.op) = [.getAllAccounts, .fetchAccountChainSnapshot 9 none,
        .dumpDelegatedAccount 9 ⟨0, [], 0, false⟩ 0, .fetchAccountChainSnapshot 10 none,
        .newUniqueSignature] ∧
      (s.history.map Prod.snd).map (·.op) = [.getLastKnownUpdateSlot 9, .getLastKnownUpdateSlot 10,
        .fetchAccountChainSnapshot 9 none, .fetchAccountChainSnapshot 10 none] ∧
      s.clonedSignatures 9 = [1] ∧ s.clonedSignatures 10 = [0]) ∧
    (delegatedDumpsOk 9 (hydrated.2 ++ s.history.map Prod.snd) ≤ 1 ∧
      (∀ owner snapshot signature account record,
        (9, owner) ∈ w.hydrationKeys (delegatedBank [] .getAllAccounts) →
        (9, .ok (.cloned snapshot signature)) ∈ hydrated.1.1 →
        snapshot.chainState = .delegated account record →
        (record.authority ≠ Pubkey.default ∧ record.authority = w.validatorIdentity) ∨
          (record.authority = Pubkey.default ∧ owner = record.owner) →
        delegatedDumps 9 (hydrated.2 ++ s.history.map Prod.snd) = 0) ∧
      ∀ signature ∈ hydrated.1.1.filterMap (clonedSignatureOf 9) ++ s.clonedSignatures 9,
        (hydrated.1.1.filterMap (clonedSignatureOf 9) ++ s.clonedSignatures 9).head? =
          some signature) ∧
    (delegatedDumpsOk 10 (hydrated.2 ++ s.history.map Prod.snd) ≤ 1 ∧
      (∀ owner snapshot signature account record,
        (10, owner) ∈ w.hydrationKeys (delegatedBank [] .getAllAccounts) →
        (10, .ok (.cloned snapshot signature)) ∈ hydrated.1.1 →
        snapshot.chainState = .delegated account record →
        (record.authority ≠ Pubkey.default ∧ record.authority = w.validatorIdentity) ∨
          (record.authority = Pubkey.default ∧ owner = record.owner) →
        delegatedDumps 10 (hydrated.2 ++ s.history.map Prod.snd) = 0) ∧
      ∀ signature ∈ hydrated.1.1.filterMap (clonedSignatureOf 10) ++ s.clonedSignatures 10,
        (hydrated.1.1.filterMap (clonedSignatureOf 10) ++ s.clonedSignatures 10).head? =
          some signature) := by
  intro w hydrated
  have h₁ : Reachable w (fun h => delegatedBank (hydrated.2 ++ h)) hydrated.1.2 _ :=
    .step .start (.register _ 9)
  have h₂ := Reachable.step (.step h₁ (.register _ 10)) (.advance (.push _ [] 9 [10] rfl))
  have h₃ := Reachable.step (.step h₂ (.advance (.push _ [] 10 [] rfl)))
    (.advance (.receive _ rfl rfl (List.cons_ne_nil _ _)))
  have h₄ := Reachable.step h₃
    (.advance (.call _ [] 9 [] (.getLastKnownUpdateSlot 9) _ _ rfl _ rfl))
  have h₅ := Reachable.step h₄
    (.advance (.call _ [_] 10 [] (.getLastKnownUpdateSlot 10) _ [] rfl _ rfl))
  have h₆ := Reachable.step h₅
    (.advance (.call _ [] 9 _ (.fetchAccountChainSnapshot 9 none) _ _ rfl _ rfl))
  have h₇ := Reachable.step h₆
    (.advance (.call _ [_] 10 _ (.fetchAccountChainSnapshot 10 none) _ [] rfl _ rfl))
  have h₈ := Reachable.step h₇ (.advance (.finish _ [_] 10 _ _ _ [] rfl))
  have hdone := Reachable.step h₈ (.advance (.finish _ [] 9 _ _ _ [] rfl))
  exact ⟨_, ⟨delegatedBank_fetches 9, delegatedBank_fetches 10, hdone, rfl, rfl, rfl, rfl⟩,
    hydrate_then_loop_dumps_once (delegatedBank_fetches 9) hdone,
    hydrate_then_loop_dumps_once (delegatedBank_fetches 10) hdone⟩

end Delegated

end RequestLoop

end EphemeralValidator.Cloner
