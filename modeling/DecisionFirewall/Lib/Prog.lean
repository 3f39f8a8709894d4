import Mathlib

/-!
# Effect Trees

Programs that return, raise, or call an operation and continue with its answer,
with sequencing and exception handling. An environment says what an operation may
answer in a state and what it requires; the precondition calculus reads a program
once and speaks about every run.

- §1 programs
- §2 environments and preconditions
- §3 runs
- §4 histories
- §5 interpreters
-/

namespace DecisionFirewall.Lib

/-- A sequence is fine when both of its parts are. -/
theorem bind_eq_ok {E α β : Type} {x : Except E α} {f : α → Except E β} {b : β} :
    (x >>= f) = .ok b ↔ ∃ a, x = .ok a ∧ f a = .ok b := by
  cases x <;> simp [bind, Except.bind]

/-- A mapped result is fine when the result is. -/
theorem map_eq_ok {E α β : Type} {x : Except E α} {f : α → β} {b : β} :
    x.map f = .ok b ↔ ∃ a, x = .ok a ∧ f a = b := by
  cases x <;> simp [Except.map]

/-! ## §1 Programs -/

/-- A program over the operations `Op` that returns an `α` or raises an `E`. -/
inductive Prog (Op : Type) (Ans : Op → Type) (E α : Type) : Type where
  | ret (a : α)
  | raise (e : E)
  | call (o : Op) (k : Ans o → Prog Op Ans E α)

namespace Prog

variable {Op : Type} {Ans : Op → Type} {E E' α β : Type}

/-- Sequencing: a raise skips the continuation. -/
def bind : Prog Op Ans E α → (α → Prog Op Ans E β) → Prog Op Ans E β
  | .ret a, f => f a
  | .raise e, _ => .raise e
  | .call o k, f => .call o fun a => (k a).bind f

/-- `try p except e: handler(e)`. -/
def tryCatch : Prog Op Ans E α → (E → Prog Op Ans E α) → Prog Op Ans E α
  | .ret a, _ => .ret a
  | .raise e, handler => handler e
  | .call o k, handler => .call o fun a => (k a).tryCatch handler

/-- `try p`, with what was raised as a value. -/
def attempt : Prog Op Ans E α → Prog Op Ans E' (Except E α)
  | .ret a => .ret (.ok a)
  | .raise e => .ret (.error e)
  | .call o k => .call o fun a => (k a).attempt

instance : Monad (Prog Op Ans E) where
  pure := .ret
  bind := bind

/-- Runs an operation and returns its answer. -/
def perform (o : Op) : Prog Op Ans E (Ans o) := .call o .ret

/-- Returns a value or raises an error. -/
def ofExcept : Except E α → Prog Op Ans E α
  | .ok a => .ret a
  | .error e => .raise e

@[simp] theorem pure_eq (a : α) : (pure a : Prog Op Ans E α) = .ret a := rfl

@[simp] theorem bind_eq (p : Prog Op Ans E α) (f : α → Prog Op Ans E β) :
    p >>= f = p.bind f := rfl

@[simp] theorem bind_ret (a : α) (f : α → Prog Op Ans E β) : (ret a).bind f = f a := rfl

@[simp] theorem bind_raise (e : E) (f : α → Prog Op Ans E β) :
    (raise e : Prog Op Ans E α).bind f = raise e := rfl

@[simp] theorem bind_call (o : Op) (k : Ans o → Prog Op Ans E α) (f : α → Prog Op Ans E β) :
    (call o k).bind f = call o fun a => (k a).bind f := rfl

theorem bind_assoc {γ : Type} (p : Prog Op Ans E α) (f : α → Prog Op Ans E β)
    (g : β → Prog Op Ans E γ) : (p.bind f).bind g = p.bind fun a => (f a).bind g := by
  induction p with
  | ret a => rfl
  | raise e => rfl
  | call o k ih => exact congrArg (call o) (funext ih)

/-! ## §2 Environments and preconditions -/

/-- What operations require of a state, what they may answer and what they leave. -/
structure Env (Op : Type) (Ans : Op → Type) (σ : Type) where
  pre : Op → σ → Prop
  step : σ → (o : Op) → Ans o → σ → Prop

variable {σ : Type}

/-- Every run from `s` meets what the operations require, returns only in `Q` and raises
only in `R`. -/
def wp (M : Env Op Ans σ) (Q : α → σ → Prop) (R : E → σ → Prop) : Prog Op Ans E α → σ → Prop
  | .ret a, s => Q a s
  | .raise e, s => R e s
  | .call o k, s => M.pre o s ∧ ∀ a s', M.step s o a s' → (k a).wp M Q R s'

section Rules

variable {M : Env Op Ans σ} {Q Q' : α → σ → Prop} {R R' : E → σ → Prop} {s : σ}

@[simp] theorem wp_ret (a : α) : (ret a : Prog Op Ans E α).wp M Q R s ↔ Q a s := Iff.rfl

@[simp] theorem wp_raise (e : E) : (raise e : Prog Op Ans E α).wp M Q R s ↔ R e s := Iff.rfl

theorem wp_call (o : Op) (k : Ans o → Prog Op Ans E α) :
    (call o k).wp M Q R s ↔ M.pre o s ∧ ∀ a s', M.step s o a s' → (k a).wp M Q R s' := Iff.rfl

theorem wp_perform (o : Op) {P : Ans o → σ → Prop} :
    (perform o : Prog Op Ans E (Ans o)).wp M P R s ↔
      M.pre o s ∧ ∀ a s', M.step s o a s' → P a s' := Iff.rfl

theorem wp_ofExcept {x : Except E α} :
    (ofExcept x : Prog Op Ans E α).wp M Q R s ↔
      (∀ a, x = .ok a → Q a s) ∧ ∀ e, x = .error e → R e s := by
  cases x <;> simp [ofExcept]

/-- Weaker postconditions are easier to reach. -/
theorem wp_mono {p : Prog Op Ans E α} (hQ : ∀ a s, Q a s → Q' a s) (hR : ∀ e s, R e s → R' e s)
    (h : p.wp M Q R s) : p.wp M Q' R' s := by
  induction p generalizing s with
  | ret a => exact hQ a s h
  | raise e => exact hR e s h
  | call o k ih => exact ⟨h.1, fun a s' hs => ih a (h.2 a s' hs)⟩

/-- Two postconditions that both hold hold together. -/
theorem wp_and {p : Prog Op Ans E α} (h : p.wp M Q R s) (h' : p.wp M Q' R' s) :
    p.wp M (fun a s => Q a s ∧ Q' a s) (fun e s => R e s ∧ R' e s) s := by
  induction p generalizing s with
  | ret a => exact ⟨h, h'⟩
  | raise e => exact ⟨h, h'⟩
  | call o k ih => exact ⟨h.1, fun a s' hs => ih a (h.2 a s' hs) (h'.2 a s' hs)⟩

/-- Sequencing composes preconditions. -/
theorem wp_bind {p : Prog Op Ans E α} {f : α → Prog Op Ans E β} {P : β → σ → Prop} :
    (p.bind f).wp M P R s ↔ p.wp M (fun a s => (f a).wp M P R s) R s := by
  induction p generalizing s with
  | ret a => rfl
  | raise e => rfl
  | call o k ih =>
    constructor
    · exact fun h => ⟨h.1, fun a s' hs => (ih a).mp (h.2 a s' hs)⟩
    · exact fun h => ⟨h.1, fun a s' hs => (ih a).mpr (h.2 a s' hs)⟩

/-- A handler runs where its body raises. -/
theorem wp_tryCatch {p : Prog Op Ans E α} {handler : E → Prog Op Ans E α} :
    (p.tryCatch handler).wp M Q R s ↔ p.wp M Q (fun e s => (handler e).wp M Q R s) s := by
  induction p generalizing s with
  | ret a => rfl
  | raise e => rfl
  | call o k ih =>
    constructor
    · exact fun h => ⟨h.1, fun a s' hs => (ih a).mp (h.2 a s' hs)⟩
    · exact fun h => ⟨h.1, fun a s' hs => (ih a).mpr (h.2 a s' hs)⟩

/-- An attempt returns what its body raises. -/
theorem wp_attempt {p : Prog Op Ans E α} {P : Except E α → σ → Prop} {R' : E' → σ → Prop} :
    (p.attempt : Prog Op Ans E' (Except E α)).wp M P R' s ↔
      p.wp M (fun a => P (.ok a)) (fun e => P (.error e)) s := by
  induction p generalizing s with
  | ret a => rfl
  | raise e => rfl
  | call o k ih =>
    constructor
    · exact fun h => ⟨h.1, fun a s' hs => (ih a).mp (h.2 a s' hs)⟩
    · exact fun h => ⟨h.1, fun a s' hs => (ih a).mpr (h.2 a s' hs)⟩

/-- Sequencing from a specification of the first program. -/
theorem wp_seq {p : Prog Op Ans E α} {f : α → Prog Op Ans E β} {P : β → σ → Prop}
    (h : p.wp M Q R' s) (hf : ∀ a s, Q a s → (f a).wp M P R s) (hR : ∀ e s, R' e s → R e s) :
    (p.bind f).wp M P R s :=
  wp_bind.mpr (wp_mono hf hR h)

end Rules

/-! ## §3 Runs -/

/-- A program in a state. -/
abbrev Config (Op : Type) (Ans : Op → Type) (E α σ : Type) := Prog Op Ans E α × σ

/-- One operation is called and answered. -/
inductive Step (M : Env Op Ans σ) : Config Op Ans E α σ → Config Op Ans E α σ → Prop
  | call {o : Op} {k : Ans o → Prog Op Ans E α} {s s' : σ} {a : Ans o}
      (h : M.step s o a s') : Step M (.call o k, s) (k a, s')

/-- Any number of operations. -/
def Reach (M : Env Op Ans σ) : Config Op Ans E α σ → Config Op Ans E α σ → Prop :=
  Relation.ReflTransGen (Step M)

section Runs

variable {M : Env Op Ans σ} {Q : α → σ → Prop} {R : E → σ → Prop} {p p' : Prog Op Ans E α}
  {s s' : σ}

theorem wp_step (h : p.wp M Q R s) (hstep : Step M (p, s) (p', s')) : p'.wp M Q R s' := by
  cases hstep with
  | call hs => exact h.2 _ _ hs

/-- A precondition holds of every configuration a run reaches. -/
theorem wp_reach (h : p.wp M Q R s) (hreach : Reach M (p, s) (p', s')) : p'.wp M Q R s' := by
  -- induction on the run
  suffices hall : ∀ c, Reach M (p, s) c → c.1.wp M Q R c.2 from hall _ hreach
  intro c hc
  induction hc with
  | refl => exact h
  | tail _ hstep ih => exact wp_step ih hstep

/-- A run that has returned is in the postcondition. -/
theorem wp_returned {a : α} (h : p.wp M Q R s) (hreach : Reach M (p, s) (.ret a, s')) : Q a s' :=
  wp_reach h hreach

/-- A run that has raised is in the exceptional postcondition. -/
theorem wp_raised {e : E} (h : p.wp M Q R s) (hreach : Reach M (p, s) (.raise e, s')) : R e s' :=
  wp_reach h hreach

/-- Whatever an operation is called in meets what it requires. -/
theorem wp_called {o : Op} {k : Ans o → Prog Op Ans E α} (h : p.wp M Q R s)
    (hreach : Reach M (p, s) (.call o k, s')) : M.pre o s' :=
  (wp_reach h hreach : (call o k).wp M Q R s').1

/-- The states along a run, for an environment in which every operation requires `I`. -/
theorem invariant_reach {I : σ → Prop} (hpre : ∀ o s, M.pre o s → I s)
    (h : p.wp M (fun _ => I) (fun _ => I) s) (hreach : Reach M (p, s) (p', s')) : I s' := by
  have hp := wp_reach h hreach
  cases p' with
  | ret a => exact hp
  | raise e => exact hp
  | call o k => exact hpre o s' hp.1

/-- A bind runs its first program, then its continuation. -/
theorem Reach.bind {f : α → Prog Op Ans E β} (h : Reach M (p, s) (p', s')) :
    Reach M (p.bind f, s) (p'.bind f, s') := by
  suffices hall : ∀ c, Reach M (p, s) c → Reach M (p.bind f, s) (c.1.bind f, c.2) from
    hall _ h
  intro c hc
  induction hc with
  | refl => exact .refl
  | tail _ hstep ih =>
    cases hstep with
    | call hs => exact ih.tail (.call hs)

end Runs

/-! ## §4 Histories -/

/-- An operation with its answer. -/
structure Event (Op : Type) (Ans : Op → Type) where
  op : Op
  answer : Ans op

/-- The program has a run with this history that arrives at `p'`. -/
inductive Trace : Prog Op Ans E α → List (Event Op Ans) → Prog Op Ans E α → Prop
  | nil (p : Prog Op Ans E α) : Trace p [] p
  | cons {o : Op} {k : Ans o → Prog Op Ans E α} (a : Ans o) {history : List (Event Op Ans)}
      {p' : Prog Op Ans E α} (h : Trace (k a) history p') :
      Trace (.call o k) (⟨o, a⟩ :: history) p'

/-- A history splits where a program in between is. -/
theorem trace_append {p p' : Prog Op Ans E α} {before after : List (Event Op Ans)} :
    Trace p (before ++ after) p' ↔ ∃ q, Trace p before q ∧ Trace q after p' := by
  constructor
  · intro h
    induction before generalizing p with
    | nil => exact ⟨p, .nil p, h⟩
    | cons e before ih =>
      cases h with
      | cons a h =>
        obtain ⟨q, hq, hp'⟩ := ih h
        exact ⟨q, .cons a hq, hp'⟩
  · rintro ⟨q, hq, hp'⟩
    induction hq with
    | nil => exact hp'
    | cons a _ ih => exact .cons a (ih hp')

/-- An environment whose states are read off the history. -/
def observing (pre : Op → σ → Prop) (next : σ → (o : Op) → Ans o → σ) : Env Op Ans σ where
  pre := pre
  step s o a s' := s' = next s o a

/-- The state after a history. -/
def observed (next : σ → (o : Op) → Ans o → σ) (s : σ) (history : List (Event Op Ans)) : σ :=
  history.foldl (fun s e => next s e.op e.answer) s

/-- A precondition over observed states holds after every history of the program. -/
theorem wp_trace {pre : Op → σ → Prop} {next : σ → (o : Op) → Ans o → σ} {Q : α → σ → Prop}
    {R : E → σ → Prop} {p p' : Prog Op Ans E α} {s : σ} {history : List (Event Op Ans)}
    (h : p.wp (observing pre next) Q R s) (ht : Trace p history p') :
    p'.wp (observing pre next) Q R (observed next s history) := by
  induction ht generalizing s with
  | nil => exact h
  | cons a _ ih => exact ih (h.2 a _ rfl)

/-- What an operation of a history was called in meets what it requires. -/
theorem wp_event {pre : Op → σ → Prop} {next : σ → (o : Op) → Ans o → σ} {Q : α → σ → Prop}
    {R : E → σ → Prop} {p p' : Prog Op Ans E α} {s : σ} {before after : List (Event Op Ans)}
    {e : Event Op Ans} (h : p.wp (observing pre next) Q R s)
    (ht : Trace p (before ++ e :: after) p') : pre e.op (observed next s before) := by
  obtain ⟨q, hq, hafter⟩ := trace_append.mp ht
  have hwp := wp_trace h hq
  cases hafter with
  | cons a _ => exact hwp.1

/-- An invariant that every permitted operation keeps holds along the runs of a program that
calls only permitted ones, whatever they answer. -/
theorem wp_invariant {permitted : Op → Prop} {step : σ → (o : Op) → Ans o → σ → Prop} {I : σ → Prop}
    {Q : α → Prop} {p : Prog Op Ans E α} {s : σ}
    (h : p.wp (observing (fun o (_ : Unit) => permitted o) fun s _ _ => s) (fun a _ => Q a)
      (fun _ _ => True) ())
    (hstep : ∀ s o a s', permitted o → I s → step s o a s' → I s') (hI : I s) :
    p.wp ⟨fun _ => I, step⟩ (fun a s => Q a ∧ I s) (fun _ => I) s := by
  induction p generalizing s with
  | ret a => exact ⟨h, hI⟩
  | raise e => exact hI
  | call o k ih => exact ⟨hI, fun a s' hs => ih a (h.2 a () rfl) (hstep s o a s' h.1 hI hs)⟩

/-- Every operation of a history is permitted, and so is what the program returns after it. -/
theorem permitted_of_trace {permitted : Op → Prop} {Q : α → Prop} {p p' : Prog Op Ans E α}
    {history : List (Event Op Ans)}
    (h : p.wp (observing (fun o (_ : Unit) => permitted o) fun s _ _ => s) (fun a _ => Q a)
      (fun _ _ => True) ()) (ht : Trace p history p') :
    (∀ event ∈ history, permitted event.op) ∧ ∀ a, p' = .ret a → Q a := by
  induction ht with
  | nil p =>
    refine ⟨fun _ hevent => absurd hevent List.not_mem_nil, ?_⟩
    rintro a rfl
    exact h
  | cons a _ ih =>
    obtain ⟨hevents, hreturned⟩ := ih (h.2 a () rfl)
    exact ⟨List.forall_mem_cons.mpr ⟨h.1, hevents⟩, hreturned⟩

/-- Where every operation has one answer, the run of a program. -/
def answer (answers : (o : Op) → Ans o) : Prog Op Ans E α → Except E α
  | .ret a => .ok a
  | .raise e => .error e
  | .call o k => (k (answers o)).answer answers

/-- The run has a history. -/
theorem trace_of_answer {answers : (o : Op) → Ans o} {p : Prog Op Ans E α} {a : α}
    (h : p.answer answers = .ok a) : ∃ history, Trace p history (.ret a) := by
  induction p with
  | ret b =>
    cases h
    exact ⟨[], .nil _⟩
  | raise e => cases h
  | call o k ih =>
    obtain ⟨history, htrace⟩ := ih (answers o) h
    exact ⟨_, .cons (answers o) htrace⟩

/-! ## §5 Interpreters -/

/-- How a run ends: with a value, with an exception, or inside an operation. -/
inductive Outcome (E α : Type) where
  | returned (a : α)
  | raised (e : E)
  | stopped
  deriving DecidableEq, Repr

/-- Runs a program. An operation answers, or it ends the run in the state that it leaves. -/
def exec (answer : σ → (o : Op) → Option (Ans o) × σ) : Prog Op Ans E α → σ → Outcome E α × σ
  | .ret a, s => (.returned a, s)
  | .raise e, s => (.raised e, s)
  | .call o k, s => match answer s o with
    | (some a, s') => (k a).exec answer s'
    | (none, s') => (.stopped, s')

/-- A sequence runs its second program where the first one has returned. -/
theorem exec_bind {answer : σ → (o : Op) → Option (Ans o) × σ} {p : Prog Op Ans E α}
    {f : α → Prog Op Ans E β} {s : σ} :
    (p.bind f).exec answer s = match p.exec answer s with
      | (.returned a, s') => (f a).exec answer s'
      | (.raised e, s') => (.raised e, s')
      | (.stopped, s') => (.stopped, s') := by
  induction p generalizing s with
  | ret a => rfl
  | raise e => rfl
  | call o k ih =>
    simp only [bind_call, exec]
    cases hanswer : answer s o with
    | mk a s' =>
      cases a with
      | none => rfl
      | some a => exact ih a

/-- An attempt returns where its body returns or raises. -/
theorem exec_attempt {answer : σ → (o : Op) → Option (Ans o) × σ} {p : Prog Op Ans E α} {s : σ} :
    (p.attempt : Prog Op Ans E' (Except E α)).exec answer s = match p.exec answer s with
      | (.returned a, s') => (.returned (.ok a), s')
      | (.raised e, s') => (.returned (.error e), s')
      | (.stopped, s') => (.stopped, s') := by
  induction p generalizing s with
  | ret a => rfl
  | raise e => rfl
  | call o k ih =>
    simp only [attempt, exec]
    cases hanswer : answer s o with
    | mk a s' =>
      cases a with
      | none => rfl
      | some a => exact ih a

/-- The environment of an interpreter whose runs end inside an operation only in `S`. -/
def answering (answer : σ → (o : Op) → Option (Ans o) × σ) (S : σ → Prop) : Env Op Ans σ where
  pre o s := ∀ s', answer s o = (none, s') → S s'
  step s o a s' := answer s o = (some a, s')

/-- The end of a run is in the postcondition for it. -/
def Settles (Q : α → σ → Prop) (R : E → σ → Prop) (S : σ → Prop) : Outcome E α × σ → Prop
  | (.returned a, s) => Q a s
  | (.raised e, s) => R e s
  | (.stopped, s) => S s

/-- An interpreted run ends where the precondition says. -/
theorem exec_of_wp {answer : σ → (o : Op) → Option (Ans o) × σ} {Q : α → σ → Prop}
    {R : E → σ → Prop} {S : σ → Prop} {p : Prog Op Ans E α} {s : σ}
    (h : p.wp (answering answer S) Q R s) : Settles Q R S (p.exec answer s) := by
  induction p generalizing s with
  | ret a => exact h
  | raise e => exact h
  | call o k ih =>
    unfold exec
    cases hanswer : answer s o with
    | mk a s' =>
      cases a with
      | none => exact h.1 s' hanswer
      | some a => exact ih a (h.2 a s' hanswer)

/-- An interpreted run that returns is a run of every environment that allows the answers. -/
theorem reach_of_exec {answer : σ → (o : Op) → Option (Ans o) × σ} {M : Env Op Ans σ}
    (hstep : ∀ s o a s', answer s o = (some a, s') → M.step s o a s') {p : Prog Op Ans E α} {v : α}
    {s s' : σ} (h : p.exec answer s = (.returned v, s')) : Reach M (p, s) (.ret v, s') := by
  induction p generalizing s with
  | ret b =>
    cases h
    exact .refl
  | raise e => cases h
  | call o k ih =>
    unfold exec at h
    cases hanswer : answer s o with
    | mk a between =>
      rw [hanswer] at h
      cases a with
      | none => cases h
      | some a => exact (ih a h).head (.call (hstep s o a between hanswer))

end Prog

end DecisionFirewall.Lib
