import Mathlib.Data.List.Count
import Mathlib.Data.List.Nodup
import Mathlib.Logic.Relation
import EphemeralValidator.Cloner.Types

/-! The listener registry's single flight, with the callers' two steps and the request loop's batches. -/

namespace EphemeralValidator.Cloner

/-- A result sink of a caller: the `id`-th one registered, for a clone of `pubkey`. -/
structure Sink where
  id : Nat
  pubkey : Pubkey
  deriving DecidableEq

/-- The request loop and its callers, between atomic steps. -/
structure SingleFlight where
  /-- `clone_listeners`: the sinks waiting on each key, by id. -/
  cloneListeners : Pubkey → Option (List Nat)
  /-- Keys sent on the request channel and not yet received. -/
  channel : List Pubkey
  /-- Keys of the current batch whose processing has not yet removed their entry. -/
  batch : List Pubkey
  /-- Keys whose entry a caller created and has not yet sent. -/
  pushes : List Pubkey
  /-- Every sink registered so far; a sink's id is its position. -/
  registered : List Sink
  /-- Every sink sent a result so far. -/
  delivered : List Sink
  /-- How often processing found no entry for its key (`Entry::Vacant`). -/
  vacant : Nat
  cancelled : Bool

namespace SingleFlight

def initial : SingleFlight := ⟨fun _ => none, [], [], [], [], [], 0, false⟩

/-- Modelled from the spec: step (1) of a caller, a fresh sink in the key's entry, created if
absent; the caller that created it has the key still to send. -/
def register (s : SingleFlight) (pubkey : Pubkey) : SingleFlight :=
  let listener := s.registered.length
  match s.cloneListeners pubkey with
  | none =>
    { s with
      cloneListeners := Function.update s.cloneListeners pubkey (some [listener])
      pushes := s.pushes ++ [pubkey]
      registered := s.registered ++ [⟨listener, pubkey⟩] }
  | some listeners =>
    { s with
      cloneListeners := Function.update s.cloneListeners pubkey (some (listeners ++ [listener]))
      registered := s.registered ++ [⟨listener, pubkey⟩] }

/-- The end of `process_clone_request` for a key: take its entry and notify its sinks. -/
def finish (s : SingleFlight) (pubkey : Pubkey) (batch : List Pubkey) : SingleFlight :=
  match s.cloneListeners pubkey with
  | some listeners =>
    { s with
      batch
      cloneListeners := Function.update s.cloneListeners pubkey none
      delivered := s.delivered ++ listeners.map (⟨·, pubkey⟩) }
  | none => { s with batch, vacant := s.vacant + 1 }

theorem register_eq (s : SingleFlight) (pubkey : Pubkey) :
    s.register pubkey = { s with
      cloneListeners := Function.update s.cloneListeners pubkey
        (some ((s.cloneListeners pubkey).getD [] ++ [s.registered.length]))
      pushes := if (s.cloneListeners pubkey).isSome then s.pushes else s.pushes ++ [pubkey]
      registered := s.registered ++ [⟨s.registered.length, pubkey⟩] } := by
  unfold register
  split <;> simp_all

@[simp] theorem register_batch (s : SingleFlight) (pubkey : Pubkey) :
    (s.register pubkey).batch = s.batch := by
  rw [register_eq]

theorem finish_eq (s : SingleFlight) (pubkey : Pubkey) (batch : List Pubkey) :
    s.finish pubkey batch = { s with
      batch
      cloneListeners := Function.update s.cloneListeners pubkey none
      delivered := s.delivered ++ ((s.cloneListeners pubkey).getD []).map (⟨·, pubkey⟩)
      vacant := if (s.cloneListeners pubkey).isSome then s.vacant else s.vacant + 1 } := by
  unfold finish
  split <;> simp_all [Function.update_eq_self_iff]

@[simp] theorem finish_batch (s : SingleFlight) (pubkey : Pubkey) (batch : List Pubkey) :
    (s.finish pubkey batch).batch = batch := by
  rw [finish_eq]

/-- The steps that carry a request forward: a first inserter's send, the reception of a batch
once the last is done, and the end of one clone of the batch. -/
inductive Advance : SingleFlight → SingleFlight → Prop
  /-- Modelled from the spec: step (2) of a caller, the send of a key whose entry it created. -/
  | push (s : SingleFlight) (pushes₁ : List Pubkey) (pubkey : Pubkey) (pushes₂ : List Pubkey)
      (hpushes : s.pushes = pushes₁ ++ pubkey :: pushes₂) :
      Advance s { s with pushes := pushes₁ ++ pushes₂, channel := s.channel ++ [pubkey] }
  | receive (s : SingleFlight) (hbatch : s.batch = []) (hlive : s.cancelled = false)
      (hready : s.channel ≠ []) :
      Advance s { s with batch := s.channel.take 100, channel := s.channel.drop 100 }
  | finish (s : SingleFlight) (batch₁ : List Pubkey) (pubkey : Pubkey) (batch₂ : List Pubkey)
      (hbatch : s.batch = batch₁ ++ pubkey :: batch₂) :
      Advance s (s.finish pubkey (batch₁ ++ batch₂))

/-- The atomic steps of the callers and of `start_clone_request_processing`, interleaved. -/
inductive Step : SingleFlight → SingleFlight → Prop
  | register (s : SingleFlight) (pubkey : Pubkey) : Step s (s.register pubkey)
  | advance {s t : SingleFlight} : Advance s t → Step s t
  | cancel (s : SingleFlight) (hbatch : s.batch = []) : Step s { s with cancelled := true }

inductive Reachable : SingleFlight → Prop
  | initial : Reachable initial
  | step {s t : SingleFlight} : Reachable s → Step s t → Reachable t

/-- A key has an entry exactly when one request for it is on its way, else none is. -/
def Coalesced (s : SingleFlight) : Prop :=
  ∀ pubkey, (s.channel ++ s.batch ++ s.pushes).count pubkey =
    if (s.cloneListeners pubkey).isSome then 1 else 0

/-- Every registered sink was notified once, or still waits in its key's entry. -/
def Notified (s : SingleFlight) : Prop :=
  s.registered.map Sink.id = List.range s.registered.length ∧
  ∀ sink, s.registered.count sink =
    s.delivered.count sink + ((s.cloneListeners sink.pubkey).getD []).count sink.id

structure Invariant (s : SingleFlight) : Prop where
  coalesced : Coalesced s
  noVacant : s.vacant = 0
  notified : Notified s

variable {s t : SingleFlight}

theorem Coalesced.isSome_of_mem (hs : Coalesced s) {pubkey : Pubkey} (hk : pubkey ∈ s.batch) :
    (s.cloneListeners pubkey).isSome := by
  have hpos : 0 < (s.channel ++ s.batch ++ s.pushes).count pubkey :=
    List.count_pos_iff.mpr (List.mem_append_left _ (List.mem_append_right _ hk))
  rw [hs pubkey] at hpos
  by_contra hnone
  simp [hnone] at hpos

theorem Coalesced.count_batch_le_one (hs : Coalesced s) (pubkey : Pubkey) :
    s.batch.count pubkey ≤ 1 := by
  have hk := hs pubkey
  simp only [List.count_append] at hk
  split at hk <;> omega

theorem coalesced_advance (h : Advance s t) (hs : Coalesced s) : Coalesced t := by
  intro key
  have hkey := hs key
  cases h with
  | push pushes₁ pubkey pushes₂ hpushes =>
    simp only [hpushes, List.count_append, List.count_cons, List.count_nil] at hkey ⊢
    omega
  | receive hbatch =>
    have hsplit := congrArg (List.count key) (List.take_append_drop 100 s.channel)
    simp only [hbatch, List.count_append, List.count_nil] at hkey hsplit ⊢
    omega
  | finish batch₁ pubkey batch₂ hbatch =>
    rw [finish_eq]
    simp only [hbatch, List.count_append, List.count_cons] at hkey ⊢
    by_cases hk : key = pubkey
    · subst hk
      rw [if_pos (hs.isSome_of_mem (by simp [hbatch]))] at hkey
      simp at hkey ⊢
      omega
    · simpa [Function.update_noteq hk, Ne.symm hk] using hkey

theorem coalesced_step (h : Step s t) (hs : Coalesced s) : Coalesced t := by
  cases h with
  | register pubkey =>
    intro key
    have hkey := hs key
    rw [register_eq]
    by_cases hk : key = pubkey
    · subst hk
      split at hkey <;> simp_all [List.count_append]
    · split <;> simpa [Function.update_noteq hk, List.count_append, List.count_singleton',
        Ne.symm hk] using hkey
  | advance h => exact coalesced_advance h hs
  | cancel => exact hs

theorem noVacant_advance (h : Advance s t) (hs : Coalesced s) (hv : s.vacant = 0) :
    t.vacant = 0 := by
  cases h with
  | finish batch₁ pubkey batch₂ hbatch =>
    rw [finish_eq]
    simpa [hs.isSome_of_mem (hbatch ▸ List.mem_append_right _ (List.mem_cons_self _ _))] using hv
  | push | receive => exact hv

theorem noVacant_step (h : Step s t) (hs : Coalesced s) (hv : s.vacant = 0) : t.vacant = 0 := by
  cases h with
  | register => rw [register_eq]; exact hv
  | advance h => exact noVacant_advance h hs hv
  | cancel => exact hv

theorem count_map_sink (listeners : List Nat) (listener : Nat) (pubkey key : Pubkey) :
    (listeners.map (Sink.mk · pubkey)).count ⟨listener, key⟩ =
      if pubkey = key then listeners.count listener else 0 := by
  split
  · subst_vars
    exact List.count_map_of_injective listeners (Sink.mk · key) (fun _ _ => congrArg Sink.id) _
  · exact List.count_eq_zero_of_not_mem (by simp [*])

theorem notified_advance (h : Advance s t) (hs : Notified s) : Notified t := by
  obtain ⟨hids, hcount⟩ := hs
  cases h with
  | finish batch₁ pubkey batch₂ hbatch =>
    rw [finish_eq]
    refine ⟨hids, fun ⟨listener, key⟩ => ?_⟩
    have := hcount ⟨listener, key⟩
    by_cases hk : key = pubkey
    · subst hk
      simpa [List.count_append, count_map_sink] using this
    · simpa [Function.update_noteq hk, List.count_append, count_map_sink, Ne.symm hk] using this
  | push | receive => exact ⟨hids, hcount⟩

theorem notified_step (h : Step s t) (hs : Notified s) : Notified t := by
  cases h with
  | register pubkey =>
    obtain ⟨hids, hcount⟩ := hs
    rw [register_eq]
    refine ⟨by simp [hids, List.range_succ], fun ⟨listener, key⟩ => ?_⟩
    have := hcount ⟨listener, key⟩
    by_cases hk : key = pubkey
    · subst hk
      simp [List.count_append, List.count_singleton'] at this ⊢
      omega
    · simpa [Function.update_noteq hk, List.count_append, List.count_singleton', Ne.symm hk]
        using this
  | advance h => exact notified_advance h hs
  | cancel => exact hs

theorem invariant_step (h : Step s t) (hs : Invariant s) : Invariant t :=
  ⟨coalesced_step h hs.coalesced, noVacant_step h hs.coalesced hs.noVacant,
    notified_step h hs.notified⟩

theorem invariant_reachable (h : Reachable s) : Invariant s := by
  induction h with
  | initial => exact ⟨fun _ => rfl, rfl, rfl, fun _ => rfl⟩
  | step _ hst ih => exact invariant_step hst ih

theorem Notified.count_delivered_le (hs : Notified s) (sink : Sink) :
    s.delivered.count sink ≤ s.registered.count sink := by
  have := hs.2 sink
  omega

theorem Notified.nodup_registered (hs : Notified s) : s.registered.Nodup :=
  List.Nodup.of_map Sink.id (hs.1 ▸ List.nodup_range _)

theorem Notified.nodup_delivered (hs : Notified s) : s.delivered.Nodup :=
  List.nodup_iff_count_le_one.mpr fun sink =>
    (hs.count_delivered_le sink).trans (List.nodup_iff_count_le_one.mp hs.nodup_registered sink)

theorem Notified.mem_registered (hs : Notified s) {sink : Sink} (hdel : sink ∈ s.delivered) :
    sink ∈ s.registered :=
  List.count_pos_iff.mp ((List.count_pos_iff.mpr hdel).trans_le (hs.count_delivered_le sink))

theorem Notified.mem_listeners (hs : Notified s) {sink : Sink} (hreg : sink ∈ s.registered)
    (hdel : sink ∉ s.delivered) : sink.id ∈ (s.cloneListeners sink.pubkey).getD [] := by
  have hcount := hs.2 sink
  rw [List.count_eq_zero_of_not_mem hdel, Nat.zero_add] at hcount
  exact List.count_pos_iff.mp (hcount ▸ List.count_pos_iff.mpr hreg)

theorem Notified.not_delivered_of_mem_listeners (hs : Notified s) {sink : Sink}
    (hwait : sink.id ∈ (s.cloneListeners sink.pubkey).getD []) : sink ∉ s.delivered := by
  have hcount := hs.2 sink
  have hle := List.nodup_iff_count_le_one.mp hs.nodup_registered sink
  have hpos := List.count_pos_iff.mpr hwait
  exact List.count_eq_zero.mp (by omega)

/-- The single flight of the listener registry: a key has an entry exactly when one request for
it is on its way, so `Entry::Vacant` is never met and no key is twice in a batch. -/
theorem pending_once_reachable (hs : Reachable s) (pubkey : Pubkey) :
    (s.channel ++ s.batch ++ s.pushes).count pubkey =
        (if (s.cloneListeners pubkey).isSome then 1 else 0) ∧
      (s.pushes = [] → (s.channel ++ s.batch).count pubkey =
        if (s.cloneListeners pubkey).isSome then 1 else 0) ∧
      s.vacant = 0 ∧ s.batch.count pubkey ≤ 1 := by
  have hinv := invariant_reachable hs
  refine ⟨hinv.coalesced pubkey, fun hpushes => ?_, hinv.noVacant,
    hinv.coalesced.count_batch_le_one pubkey⟩
  simpa [hpushes] using hinv.coalesced pubkey

/-- No sink is notified twice or unregistered; one not yet notified waits on a pending request. -/
theorem sinks_notified_once (hs : Reachable s) :
    s.delivered.Nodup ∧ (∀ sink ∈ s.delivered, sink ∈ s.registered) ∧
      ∀ sink ∈ s.registered, sink ∉ s.delivered →
        sink.id ∈ (s.cloneListeners sink.pubkey).getD [] ∧
          (s.channel ++ s.batch ++ s.pushes).count sink.pubkey = 1 := by
  obtain ⟨hcoalesced, -, hnotified⟩ := invariant_reachable hs
  refine ⟨hnotified.nodup_delivered, fun sink hdel => hnotified.mem_registered hdel,
    fun sink hreg hdel => ?_⟩
  have hwait := hnotified.mem_listeners hreg hdel
  refine ⟨hwait, ?_⟩
  rw [hcoalesced sink.pubkey]
  cases h : s.cloneListeners sink.pubkey
  · simp [h] at hwait
  · rfl

section Drain

/-! Once callers stop registering, the worker drains. -/

/-- The requests on their way, weighted by the advances each still needs. -/
def pending (s : SingleFlight) : Nat :=
  3 * s.pushes.length + 2 * s.channel.length + s.batch.length

theorem Advance.pending_lt (h : Advance s t) : t.pending < s.pending := by
  unfold pending
  cases h with
  | push pushes₁ pubkey pushes₂ hpushes =>
    simp only [hpushes, List.length_append, List.length_cons, List.length_nil]
    omega
  | receive hbatch _ hready =>
    have := List.length_pos.mpr hready
    simp only [hbatch, List.length_take, List.length_drop, List.length_nil]
    omega
  | finish batch₁ pubkey batch₂ hbatch =>
    simp only [finish_eq, hbatch, List.length_append, List.length_cons]
    omega

theorem Advance.registered_eq (h : Advance s t) :
    t.registered = s.registered ∧ t.cancelled = s.cancelled := by
  cases h <;> simp [finish_eq]

theorem Reachable.advances (hs : Reachable s) (hrun : Relation.ReflTransGen Advance s t) :
    Reachable t ∧ t.registered = s.registered ∧ t.cancelled = s.cancelled := by
  induction hrun with
  | refl => exact ⟨hs, rfl, rfl⟩
  | tail _ hadv ih =>
    obtain ⟨hreg, hc⟩ := hadv.registered_eq
    exact ⟨.step ih.1 (.advance hadv), hreg.trans ih.2.1, hc.trans ih.2.2⟩

/-- No run of advances is infinite. -/
theorem acc_advance (s : SingleFlight) : Acc (fun u t => Advance t u) s :=
  Subrelation.accessible (fun h => Advance.pending_lt h) ((measure pending).wf.apply s)

/-- A live worker with a request on its way can advance. -/
theorem exists_advance (hlive : s.cancelled = false) (hbusy : s.pending ≠ 0) :
    ∃ t, Advance s t := by
  rcases hb : s.batch with _ | ⟨pubkey, batch⟩
  · by_cases hc : s.channel = []
    · rcases hp : s.pushes with _ | ⟨pubkey, pushes⟩
      · simp [pending, hb, hc, hp] at hbusy
      · exact ⟨_, .push s [] pubkey pushes hp⟩
    · exact ⟨_, .receive s hb hlive hc⟩
  · exact ⟨_, .finish s [] pubkey batch hb⟩

theorem Invariant.delivered_of_idle (hs : Invariant s) (hidle : s.pending = 0) :
    ∀ sink ∈ s.registered, sink ∈ s.delivered := by
  have hempty : s.pushes = [] ∧ s.channel = [] ∧ s.batch = [] := by
    simp only [pending] at hidle
    refine ⟨?_, ?_, ?_⟩ <;> apply List.eq_nil_of_length_eq_zero <;> omega
  intro sink hreg
  have hnone : s.cloneListeners sink.pubkey = none := by
    have hcount := hs.coalesced sink.pubkey
    simp only [hempty.1, hempty.2.1, hempty.2.2, List.append_nil, List.count_nil] at hcount
    cases h : s.cloneListeners sink.pubkey
    · rfl
    · simp [h] at hcount
  have hcount := hs.notified.2 sink
  rw [hnone, Option.getD_none, List.count_nil, Nat.add_zero] at hcount
  exact List.count_pos_iff.mp (hcount ▸ List.count_pos_iff.mpr hreg)

/-- Once callers stop registering, no run of advances is infinite, and one that cannot go
further has notified every sink. -/
theorem advances_drain (hs : Reachable s) (hlive : s.cancelled = false) :
    Acc (fun u t => Advance t u) s ∧
      ∀ t, Relation.ReflTransGen Advance s t → (∀ u, ¬ Advance t u) →
        t.pending = 0 ∧ ∀ sink ∈ s.registered, sink ∈ t.delivered := by
  refine ⟨acc_advance s, fun t hrun hstuck => ?_⟩
  obtain ⟨hreach, hreg, hc⟩ := hs.advances hrun
  have hidle : t.pending = 0 := by
    by_contra hbusy
    obtain ⟨u, hu⟩ := exists_advance (hc.trans hlive) hbusy
    exact hstuck u hu
  exact ⟨hidle, hreg ▸ (invariant_reachable hreach).delivered_of_idle hidle⟩

end Drain

end SingleFlight

/-- The first caller of key 9 has registered and not yet sent it. -/
theorem registered_reachable : SingleFlight.Reachable (SingleFlight.initial.register 9) :=
  .step .initial (.register _ _)

/-- Right after a first inserter's registration, its key is on neither channel nor batch. -/
theorem registered_not_yet_sent :
    SingleFlight.Reachable (SingleFlight.initial.register 9) ∧
      ((SingleFlight.initial.register 9).cloneListeners 9).isSome = true ∧
      ((SingleFlight.initial.register 9).channel ++ (SingleFlight.initial.register 9).batch).count 9
        = 0 :=
  ⟨registered_reachable, by decide, rfl⟩

/-- Key 9 notified, key 10 in the batch with two waiting sinks, key 11 on the channel. -/
def busyFlight : SingleFlight where
  cloneListeners := Function.update (Function.update (Function.update (Function.update
    (Function.update (Function.update (fun _ => none) 9 (some [0])) 9 (some [0, 1])) 9 none)
    10 (some [2])) 10 (some [2, 3])) 11 (some [4])
  channel := [11]
  batch := [10]
  pushes := []
  registered := [⟨0, 9⟩, ⟨1, 9⟩, ⟨2, 10⟩, ⟨3, 10⟩, ⟨4, 11⟩]
  delivered := [⟨0, 9⟩, ⟨1, 9⟩]
  vacant := 0
  cancelled := false

theorem reachable_busyFlight : SingleFlight.Reachable busyFlight := by
  have h₁ := SingleFlight.Reachable.step registered_reachable (.advance (.push _ [] 9 [] rfl))
  have h₂ := SingleFlight.Reachable.step h₁ (.advance (.receive _ rfl rfl (List.cons_ne_nil _ _)))
  have h₃ := SingleFlight.Reachable.step (.step h₂ (.register _ 9))
    (.advance (.finish _ [] 9 [] rfl))
  have h₄ := SingleFlight.Reachable.step (.step h₃ (.register _ 10))
    (.advance (.push _ [] 10 [] rfl))
  have h₅ := SingleFlight.Reachable.step h₄ (.advance (.receive _ rfl rfl (List.cons_ne_nil _ _)))
  have h₆ := SingleFlight.Reachable.step (.step (.step h₅ (.register _ 10)) (.register _ 11))
    (.advance (.push _ [] 11 [] rfl))
  exact h₆

theorem pending_once_busy :
    SingleFlight.Reachable busyFlight ∧
    ((busyFlight.channel ++ busyFlight.batch ++ busyFlight.pushes).count 10 =
        (if (busyFlight.cloneListeners 10).isSome then 1 else 0) ∧
      (busyFlight.pushes = [] →
        (busyFlight.channel ++ busyFlight.batch).count 10 =
          if (busyFlight.cloneListeners 10).isSome then 1 else 0) ∧
      busyFlight.vacant = 0 ∧ busyFlight.batch.count 10 ≤ 1) :=
  ⟨reachable_busyFlight, SingleFlight.pending_once_reachable reachable_busyFlight 10⟩

theorem sinks_notified_once_busy :
    SingleFlight.Reachable busyFlight ∧
    (busyFlight.delivered.Nodup ∧ (∀ sink ∈ busyFlight.delivered, sink ∈ busyFlight.registered) ∧
      ∀ sink ∈ busyFlight.registered, sink ∉ busyFlight.delivered →
        sink.id ∈ (busyFlight.cloneListeners sink.pubkey).getD [] ∧
          (busyFlight.channel ++ busyFlight.batch ++ busyFlight.pushes).count sink.pubkey = 1) :=
  ⟨reachable_busyFlight, SingleFlight.sinks_notified_once reachable_busyFlight⟩

theorem advances_drain_busy :
    SingleFlight.Reachable busyFlight ∧ busyFlight.cancelled = false ∧
    (Acc (fun u t => SingleFlight.Advance t u) busyFlight ∧
      ∀ t, Relation.ReflTransGen SingleFlight.Advance busyFlight t →
        (∀ u, ¬ SingleFlight.Advance t u) →
          t.pending = 0 ∧ ∀ sink ∈ busyFlight.registered, sink ∈ t.delivered) :=
  ⟨reachable_busyFlight, rfl, SingleFlight.advances_drain reachable_busyFlight rfl⟩

end EphemeralValidator.Cloner
