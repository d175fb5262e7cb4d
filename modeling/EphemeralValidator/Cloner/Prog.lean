import EphemeralValidator.Cloner.Types

/-! The worker's collaborators as the calls of a program tree, answered by an oracle. -/

namespace EphemeralValidator.Cloner

/-- The accounts of the local bank as `get_all_accounts` lists them, one per key. -/
structure BankAccounts where
  accounts : List (Pubkey × Account)
  keys_nodup : (accounts.map Prod.fst).Nodup

/-- The calls to the four collaborators, the retry sleep and `Signature::new_unique`. -/
inductive Op where
  | getLastKnownUpdateSlot (pubkey : Pubkey)
  | ensureAccountMonitoring (pubkey : Pubkey)
  | getFirstSubscribedSlot (pubkey : Pubkey)
  | hasAccount (pubkey : Pubkey)
  | getAllAccounts
  | fetchAccountChainSnapshot (pubkey : Pubkey) (minContextSlot : Option Slot)
  | sleep (millis : Nat)
  | newUniqueSignature
  | dumpFeepayerAccount (pubkey : Pubkey) (lamports : UInt64) (owner : Pubkey)
  | dumpUndelegatedAccount (pubkey : Pubkey) (account : Account)
  | dumpDelegatedAccount (pubkey : Pubkey) (account : Account) (owner : Pubkey)
  | dumpProgramAccountWithOldBpf (pubkey : Pubkey) (account : Account)
  | dumpProgramAccounts (programIdPubkey : Pubkey) (programIdAccount : Account)
      (programDataPubkey : Pubkey) (programDataAccount : Account)
      (programIdl : Option (Pubkey × Account))
deriving DecidableEq

abbrev Op.Resp : Op → Type
  | .getLastKnownUpdateSlot _ | .getFirstSubscribedSlot _ => Option Slot
  | .ensureAccountMonitoring _ => Except AccountUpdatesError Unit
  | .hasAccount _ => Bool
  | .getAllAccounts => BankAccounts
  | .fetchAccountChainSnapshot _ _ => Except AccountFetcherError AccountChainSnapshot
  | .sleep _ => Unit
  | .newUniqueSignature => Signature
  | .dumpFeepayerAccount .. | .dumpUndelegatedAccount .. | .dumpDelegatedAccount ..
  | .dumpProgramAccountWithOldBpf .. | .dumpProgramAccounts .. =>
    Except AccountDumperError Signature

/-- Whether a call goes to the dumper, and so may change the local bank. -/
def Op.isDump : Op → Bool
  | .dumpFeepayerAccount .. | .dumpUndelegatedAccount .. | .dumpDelegatedAccount ..
  | .dumpProgramAccountWithOldBpf .. | .dumpProgramAccounts .. => true
  | _ => false

/-- An answer to every call: nothing known, monitoring granted, fetches and dumps failing. -/
def Op.defaultResp : (op : Op) → op.Resp
  | .getLastKnownUpdateSlot _ | .getFirstSubscribedSlot _ => none
  | .ensureAccountMonitoring _ => .ok ()
  | .hasAccount _ => false
  | .getAllAccounts => ⟨[], List.nodup_nil⟩
  | .fetchAccountChainSnapshot _ _ => .error ⟨0⟩
  | .sleep _ => ()
  | .newUniqueSignature => 0
  | .dumpFeepayerAccount .. | .dumpUndelegatedAccount .. | .dumpDelegatedAccount ..
  | .dumpProgramAccountWithOldBpf .. | .dumpProgramAccounts .. => .error ⟨0⟩

/-- An async computation over the collaborators, as the tree of its possible calls. -/
inductive Prog (α : Type) where
  | pure (a : α)
  | call (op : Op) (k : op.Resp → Prog α)

namespace Prog

variable {α β : Type}

def bind : Prog α → (α → Prog β) → Prog β
  | .pure a, f => f a
  | .call op k, f => .call op fun r => (k r).bind f

instance : Monad Prog where
  pure := .pure
  bind := bind

@[simp] theorem pure_eq (a : α) : (Pure.pure a : Prog α) = .pure a := rfl

@[simp] theorem pure_bind (a : α) (f : α → Prog β) : (Prog.pure a >>= f) = f a := rfl

@[simp] theorem map_pure (f : α → β) (a : α) : f <$> Prog.pure a = Prog.pure (f a) := rfl

@[simp] theorem call_bind (op : Op) (k : op.Resp → Prog α) (f : α → Prog β) :
    (Prog.call op k >>= f) = .call op fun r => k r >>= f := rfl

theorem bind_pure (p : Prog α) : p >>= Prog.pure = p := by
  induction p with
  | pure a => rfl
  | call op k ih => exact congrArg (Prog.call op) (funext ih)

theorem bind_assoc {γ : Type} (p : Prog α) (f : α → Prog β) (g : β → Prog γ) :
    p >>= f >>= g = p >>= fun a => f a >>= g := by
  induction p with
  | pure a => rfl
  | call op k ih => exact congrArg (Prog.call op) (funext ih)

instance : LawfulMonad Prog :=
  LawfulMonad.mk' Prog (fun p => bind_pure p) (fun _ _ => rfl) bind_assoc

/-- The one-call program. -/
def perform (op : Op) : Prog op.Resp := .call op .pure

/-- An answered call. -/
structure Event where
  op : Op
  resp : op.Resp

/-- A collaborator environment: an answer may depend on every call answered before it. -/
abbrev Oracle := List Event → (op : Op) → op.Resp

/-- Run `p` after the history `h`: its result and the calls it made, in order. -/
def run (o : Oracle) : Prog α → List Event → α × List Event
  | .pure a, _ => (a, [])
  | .call op k, h =>
    let r := o h op
    let rest := (k r).run o (h ++ [⟨op, r⟩])
    (rest.1, ⟨op, r⟩ :: rest.2)

variable (o : Oracle) (h : List Event)

@[simp] theorem run_pure (a : α) : (Prog.pure a).run o h = (a, []) := rfl

@[simp] theorem run_call (op : Op) (k : op.Resp → Prog α) :
    (Prog.call op k).run o h =
      (((k (o h op)).run o (h ++ [⟨op, o h op⟩])).1,
        ⟨op, o h op⟩ :: ((k (o h op)).run o (h ++ [⟨op, o h op⟩])).2) := rfl

@[simp] theorem run_perform (op : Op) : (perform op).run o h = (o h op, [⟨op, o h op⟩]) := rfl

theorem run_bind (p : Prog α) (f : α → Prog β) :
    (p >>= f).run o h =
      (((f (p.run o h).1).run o (h ++ (p.run o h).2)).1,
        (p.run o h).2 ++ ((f (p.run o h).1).run o (h ++ (p.run o h).2)).2) := by
  induction p generalizing h with
  | pure a => simp
  | call op k ih => simp [ih, List.append_assoc]

@[simp] theorem run_map (f : α → β) (p : Prog α) :
    (f <$> p).run o h = (f (p.run o h).1, (p.run o h).2) := by
  induction p generalizing h with
  | pure a => rfl
  | call op k ih => exact congrArg (fun r => (r.1, _ :: r.2)) (ih _ _)

theorem run_answered {p : Prog α} : ∀ e ∈ (p.run o h).2, ∃ h', o h' e.op = e.resp := by
  induction p generalizing h with
  | pure a => simp
  | call op k ih =>
    simp only [run_call, List.mem_cons, forall_eq_or_imp]
    exact ⟨⟨h, rfl⟩, ih _ _⟩

/-- Every call on every path of the program satisfies `P`. -/
def AllCalls (P : Op → Prop) : Prog α → Prop
  | .pure _ => True
  | .call op k => P op ∧ ∀ r, (k r).AllCalls P

variable {P : Op → Prop}

@[simp] theorem allCalls_pure (a : α) : (Prog.pure a).AllCalls P := trivial

@[simp] theorem allCalls_call (op : Op) (k : op.Resp → Prog α) :
    (Prog.call op k).AllCalls P ↔ P op ∧ ∀ r, (k r).AllCalls P := Iff.rfl

theorem allCalls_bind {p : Prog α} {f : α → Prog β} (hp : p.AllCalls P)
    (hf : ∀ a, (f a).AllCalls P) : (p >>= f).AllCalls P := by
  induction p with
  | pure a => exact hf a
  | call op k ih => exact ⟨hp.1, fun r => ih r (hp.2 r)⟩

theorem allCalls_run {p : Prog α} (hp : p.AllCalls P) : ∀ e ∈ (p.run o h).2, P e.op := by
  induction p generalizing h with
  | pure a => simp
  | call op k ih =>
    simp only [run_call, List.mem_cons, forall_eq_or_imp]
    exact ⟨hp.1, ih _ _ (hp.2 _)⟩

theorem AllCalls.mono {Q : Op → Prop} {p : Prog α} (hp : p.AllCalls P) (hPQ : ∀ op, P op → Q op) :
    p.AllCalls Q := by
  induction p with
  | pure a => trivial
  | call op k ih => exact ⟨hPQ op hp.1, fun r => ih r (hp.2 r)⟩

/-- Every leaf of the tree satisfies `Q`. -/
def AllResults (Q : α → Prop) : Prog α → Prop
  | .pure a => Q a
  | .call _ k => ∀ r, (k r).AllResults Q

variable {Q : α → Prop}

theorem AllResults.mono {R : α → Prop} {p : Prog α} (hp : p.AllResults Q)
    (hQR : ∀ a, Q a → R a) : p.AllResults R := by
  induction p with
  | pure a => exact hQR a hp
  | call op k ih => exact fun r => ih r (hp r)

@[simp] theorem allResults_pure (a : α) : (Prog.pure a).AllResults Q ↔ Q a := Iff.rfl

theorem allResults_of_forall (hQ : ∀ a, Q a) (p : Prog α) : p.AllResults Q := by
  induction p with
  | pure a => exact hQ a
  | call op k ih => exact ih

theorem allResults_bind {R : β → Prop} {p : Prog α} {f : α → Prog β}
    (hp : p.AllResults fun a => (f a).AllResults R) : (p >>= f).AllResults R := by
  induction p with
  | pure a => exact hp
  | call op k ih => exact fun r => ih r (hp r)

theorem allResults_perform (op : Op) {Q : op.Resp → Prop} (hQ : ∀ r, Q r) :
    (perform op).AllResults Q := fun r => hQ r

theorem allResults_run {p : Prog α} (hp : p.AllResults Q) : Q (p.run o h).1 := by
  induction p generalizing h with
  | pure a => exact hp
  | call op k ih => exact ih _ _ (hp _)

section Paths

/-! A program cut after some of its calls, and the oracle that replays them. -/

/-- `p` answers the calls `evs` in order and is left as `q`. -/
inductive Path : Prog α → List Event → Prog α → Prop
  | nil (p : Prog α) : Path p [] p
  | call (op : Op) (k : op.Resp → Prog α) (resp : op.Resp) {evs : List Event} {q : Prog α} :
      Path (k resp) evs q → Path (.call op k) (⟨op, resp⟩ :: evs) q

theorem Path.trans {p q r : Prog α} {evs evs' : List Event} (hp : Path p evs q)
    (hq : Path q evs' r) : Path p (evs ++ evs') r := by
  induction hp with
  | nil => exact hq
  | call op k resp _ ih => exact .call op k resp (ih hq)

theorem Path.snoc {p : Prog α} {evs : List Event} {op : Op} {k : op.Resp → Prog α}
    (hp : Path p evs (.call op k)) (resp : op.Resp) : Path p (evs ++ [⟨op, resp⟩]) (k resp) :=
  hp.trans (.call op k resp (.nil _))

theorem Path.not_mem_of_pure {a : α} {evs : List Event} {q : Prog α} (hp : Path (.pure a) evs q)
    {e : Event} : e ∉ evs := by
  cases hp
  exact List.not_mem_nil _

theorem Path.call_cases {op : Op} {k : op.Resp → Prog α} {evs : List Event} {q : Prog α}
    (hp : Path (.call op k) evs q) :
    evs = [] ∨ ∃ resp evs', evs = ⟨op, resp⟩ :: evs' ∧ Path (k resp) evs' q := by
  cases hp with
  | nil => exact .inl rfl
  | call _ _ resp hrest => exact .inr ⟨resp, _, rfl, hrest⟩

/-- Answers the `i`-th call with the `i`-th event of `evs` when the calls agree, else as `o`. -/
def replay (o : Oracle) (evs : List Event) : Oracle := fun h op =>
  match evs[h.length]? with
  | some e => if hop : e.op = op then hop ▸ e.resp else o h op
  | none => o h op

/-- The replaying oracle runs a program along its path. -/
theorem Path.run_replay {p q : Prog α} {evs : List Event} (hp : Path p evs q) (o : Oracle)
    (post : List Event) : ∀ pre : List Event,
      p.run (replay o (pre ++ evs ++ post)) pre =
        ((q.run (replay o (pre ++ evs ++ post)) (pre ++ evs)).1,
          evs ++ (q.run (replay o (pre ++ evs ++ post)) (pre ++ evs)).2) := by
  induction hp with
  | nil => intro pre; simp
  | @call op k resp evs q _ ih =>
    intro pre
    have hget : (pre ++ ⟨op, resp⟩ :: evs ++ post)[pre.length]? = some ⟨op, resp⟩ := by
      rw [List.append_assoc, List.getElem?_append_right (Nat.le_refl _), Nat.sub_self,
        List.cons_append, List.getElem?_cons_zero]
    have hanswer : replay o (pre ++ ⟨op, resp⟩ :: evs ++ post) pre op = resp := by
      simp only [replay, hget, dite_true]
    have hrest := ih (pre ++ [⟨op, resp⟩])
    rw [run_call, hanswer]
    simp only [List.append_assoc, List.singleton_append, List.cons_append, List.nil_append]
      at hrest ⊢
    rw [hrest]

theorem Path.run_replay_pure {p : Prog α} {evs : List Event} {a : α} (hp : Path p evs (.pure a))
    (o : Oracle) : p.run (replay o evs) [] = (a, evs) := by
  simpa using hp.run_replay o [] []

theorem Path.prefix_run_replay {p q : Prog α} {evs : List Event} (hp : Path p evs q) (o : Oracle) :
    evs <+: (p.run (replay o evs) []).2 := by
  have := hp.run_replay o [] []
  simp only [List.nil_append, List.append_nil] at this
  rw [this]
  exact List.prefix_append _ _

theorem replay_answered {o : Oracle} {evs : List Event}
    (hevs : ∀ e ∈ evs, ∃ h, o h e.op = e.resp) (h : List Event) (op : Op) :
    ∃ h', replay o evs h op = o h' op := by
  unfold replay
  split
  · rename_i e he
    split
    · rename_i hop
      obtain ⟨h', hh'⟩ := hevs e (List.getElem?_mem he)
      subst hop
      exact ⟨h', hh'.symm⟩
    · exact ⟨h, rfl⟩
  · exact ⟨h, rfl⟩

/-- `q` is what remains of `p` once its first call is answered. -/
inductive Next : Prog α → Prog α → Prop
  | call (op : Op) (k : op.Resp → Prog α) (resp : op.Resp) : Next (k resp) (.call op k)

/-- A program answers finitely many calls, however they are answered. -/
theorem wellFounded_next : WellFounded (@Next α) := by
  refine ⟨fun p => ?_⟩
  induction p with
  | pure a => exact ⟨_, fun q h => nomatch h⟩
  | call op k ih => exact ⟨_, fun q h => by cases h; exact ih _⟩

end Paths

end Prog

export Prog (Event Oracle)

/-- `AccountClonerResult`: a program over the collaborators that may fail. -/
abbrev ClonerM := ExceptT AccountClonerError Prog

namespace ClonerM

variable {α β : Type} (o : Oracle) (h : List Event)

/-- Run a fallible program after the history `h`: its result and the calls it made. -/
def exec (x : ClonerM α) : Except AccountClonerError α × List Event := x.run.run o h

@[simp] theorem exec_pure (a : α) : exec o h (pure a) = (.ok a, []) := rfl

@[simp] theorem exec_throw (e : AccountClonerError) :
    exec o h (throw e : ClonerM α) = (.error e, []) := rfl

@[simp] theorem exec_lift (p : Prog α) :
    exec o h (ExceptT.lift p) = (.ok (p.run o h).1, (p.run o h).2) := by
  simp [exec, ExceptT.run_lift]

@[simp] theorem exec_monadLift (p : Prog α) :
    exec o h (MonadLiftT.monadLift p : ClonerM α) = (.ok (p.run o h).1, (p.run o h).2) :=
  exec_lift o h p

@[simp] theorem exec_mk (p : Prog (Except AccountClonerError α)) :
    exec o h (ExceptT.mk p) = p.run o h := rfl

@[simp] theorem exec_map (f : α → β) (x : ClonerM α) :
    exec o h (f <$> x) = ((exec o h x).1.map f, (exec o h x).2) := by
  simp only [exec, ExceptT.run_map, Prog.run_map]

theorem exec_bind (x : ClonerM α) (f : α → ClonerM β) :
    exec o h (x >>= f) =
      match exec o h x with
      | (.ok a, t) => ((exec o (h ++ t) (f a)).1, t ++ (exec o (h ++ t) (f a)).2)
      | (.error e, t) => (.error e, t) := by
  rcases hx : exec o h x with ⟨r, t⟩
  unfold exec at hx
  cases r <;> simp [exec, ExceptT.run_bind, Prog.run_bind, hx]

/-- Every call on every path of `x` satisfies `P`. -/
def AllCalls (P : Op → Prop) (x : ClonerM α) : Prop := x.run.AllCalls P

/-- Every successful result on every path of `x` satisfies `Q`; failures are unconstrained. -/
def OkResults (Q : α → Prop) (x : ClonerM α) : Prop :=
  x.run.AllResults fun r => ∀ a, r = .ok a → Q a

variable {P : Op → Prop} {Q : α → Prop}

theorem allCalls_pure (a : α) : (pure a : ClonerM α).AllCalls P := trivial

theorem allCalls_throw (e : AccountClonerError) : (throw e : ClonerM α).AllCalls P := trivial

theorem allCalls_bind {x : ClonerM α} {f : α → ClonerM β} (hx : x.AllCalls P)
    (hf : ∀ a, (f a).AllCalls P) : (x >>= f).AllCalls P := by
  refine Prog.allCalls_bind hx fun r => ?_
  cases r
  · trivial
  · exact hf _

theorem allCalls_mk {p : Prog (Except AccountClonerError α)} (hp : p.AllCalls P) :
    (ExceptT.mk p).AllCalls P := hp

theorem allCalls_lift {p : Prog α} (hp : p.AllCalls P) :
    (MonadLiftT.monadLift p : ClonerM α).AllCalls P :=
  Prog.allCalls_bind hp fun _ => trivial

theorem allCalls_map {p : Prog α} {f : α → Except AccountClonerError β} (hp : p.AllCalls P) :
    (ExceptT.mk (f <$> p)).AllCalls P :=
  Prog.allCalls_bind hp fun _ => trivial

theorem AllCalls.exec {x : ClonerM α} (hx : x.AllCalls P) : ∀ e ∈ (exec o h x).2, P e.op :=
  Prog.allCalls_run o h hx

theorem okResults_true (x : ClonerM α) : x.OkResults fun _ => True :=
  Prog.allResults_of_forall (fun _ _ _ => trivial) _

theorem okResults_pure {a : α} (ha : Q a) : (pure a : ClonerM α).OkResults Q := by
  rintro _ ⟨⟩
  exact ha

theorem okResults_throw (e : AccountClonerError) : (throw e : ClonerM α).OkResults Q := by
  rintro _ ⟨⟩

theorem okResults_bind {R : β → Prop} {x : ClonerM α} {f : α → ClonerM β}
    (hx : x.OkResults Q) (hf : ∀ a, Q a → (f a).OkResults R) : (x >>= f).OkResults R := by
  refine Prog.allResults_bind (Prog.AllResults.mono hx fun r hr => ?_)
  cases r with
  | error e => rintro _ ⟨⟩
  | ok a => exact hf a (hr a rfl)

theorem OkResults.mono {R : α → Prop} {x : ClonerM α} (hx : x.OkResults Q)
    (hQR : ∀ a, Q a → R a) : x.OkResults R :=
  Prog.AllResults.mono hx fun _ hr a ha => hQR a (hr a ha)

theorem OkResults.exec {x : ClonerM α} (hx : x.OkResults Q) {a : α}
    (ha : (exec o h x).1 = .ok a) : Q a :=
  Prog.allResults_run o h hx a ha

end ClonerM

end EphemeralValidator.Cloner
