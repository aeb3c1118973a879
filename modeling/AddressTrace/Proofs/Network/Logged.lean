import AddressTrace.Resolve.Analysis
import Mathlib.Control.Monad.Writer
import Mathlib.Data.List.Forall2

/-!
# Logs of questions and answers

The world may change with each question, so that what is asked next depends on what was answered
before.  Here a network in such a world logs each question with its answer.  The log of a
computation is read step by step, and taking it away leaves the computation as it was.

## Main definitions

* `Exchange` — a question and its answer;
* `Logged` — a computation in a world that changes, with the log of its questions;
* `Network.logged` — a network that logs what it is asked and what it answers.

## Main statements

* `Logged.exists_log_mapM` — the log over a list is one part for each element;
* `Logged.unlogged_analyse` — an analysis does not depend on its log.
-/

namespace AddressTrace

/-- **A question and its answer.** -/
inductive Exchange
  | lookup (address chain : String) (reply : Reply (List ContractRecord))
  | call (chain target : String) (method : Abi.Method) (arguments : List String)
      (reply : Reply String)

/-- The question of an exchange. -/
def Exchange.question : Exchange → Question
  | lookup address chain _ => .lookup address chain
  | call chain target method arguments _ => .call chain target method arguments

/-- **A computation in a world that changes**, with the log of what was asked and answered. -/
abbrev Logged (σ : Type) := WriterT (List Exchange) (StateM σ)

namespace Logged

variable {σ α β : Type}

/-- What a computation gives in a state of the world. -/
def value (x : Logged σ α) (s : σ) : α := (x.run s).1.1

/-- **What is asked and answered** in a state of the world. -/
def log (x : Logged σ α) (s : σ) : List Exchange := (x.run s).1.2

/-- The state of the world afterwards. -/
def state (x : Logged σ α) (s : σ) : σ := (x.run s).2

/-- **The computation without its log.** -/
def unlogged (x : Logged σ α) : StateM σ α := fun s => (x.value s, x.state s)

/-- A question is put to the world, and logged with its answer. -/
def ask {ρ : Type} (exchange : ρ → Exchange) (question : StateM σ ρ) : Logged σ ρ :=
  WriterT.mk fun s => let answer := question s; ((answer.1, [exchange answer.1]), answer.2)

@[ext] theorem ext {x y : Logged σ α} (hvalue : ∀ s, x.value s = y.value s)
    (hlog : ∀ s, x.log s = y.log s) (hstate : ∀ s, x.state s = y.state s) : x = y :=
  funext fun s => Prod.ext (Prod.ext (hvalue s) (hlog s)) (hstate s)

section Steps

variable (x : Logged σ α) (f : α → Logged σ β) (a : α) (s : σ)

@[simp] theorem log_pure : (pure a : Logged σ α).log s = [] := rfl

@[simp] theorem log_bind :
    (x >>= f).log s = x.log s ++ (f (x.value s)).log (x.state s) := rfl

end Steps

instance : LawfulMonad (Logged σ) :=
  LawfulMonad.mk' (Logged σ)
    (fun _ => ext (fun _ => rfl) (fun _ => rfl) fun _ => rfl)
    (fun _ _ => ext (fun _ => rfl) (fun _ => rfl) fun _ => rfl)
    (fun _ _ _ => ext (fun _ => rfl) (fun _ => List.append_assoc _ _ _) fun _ => rfl)
    (fun _ _ => rfl) (fun _ _ => rfl) (fun _ _ => rfl)
    (fun _ _ => ext (fun _ => rfl) (fun _ => List.append_nil _) fun _ => rfl)

/-- **The log over a list is one part for each element**, in the order of the list. -/
theorem exists_log_mapM {R : α → List Exchange → Prop} {f : α → Logged σ β} (l : List α)
    (h : ∀ a s, R a ((f a).log s)) (s : σ) :
    ∃ parts, (l.mapM f).log s = parts.flatten ∧ List.Forall₂ R l parts := by
  induction l generalizing s with
  | nil => exact ⟨[], rfl, .nil⟩
  | cons a l ih =>
      obtain ⟨parts, hparts, hall⟩ := ih ((f a).state s)
      refine ⟨(f a).log s :: parts, ?_, .cons (h a s) hall⟩
      rw [List.mapM_cons, log_bind, log_bind, log_pure, List.append_nil, hparts,
        List.flatten_cons]

/-- What holds of all that the steps over a list ask holds of all that is asked. -/
theorem forall_mem_log_mapM {P : Exchange → Prop} {f : α → Logged σ β}
    (h : ∀ a s, ∀ e ∈ (f a).log s, P e) (l : List α) (s : σ) : ∀ e ∈ (l.mapM f).log s, P e := by
  induction l generalizing s with
  | nil => exact List.forall_mem_nil _
  | cons a l ih =>
      rw [List.mapM_cons, log_bind, log_bind, log_pure, List.append_nil]
      exact List.forall_mem_append.2 ⟨h a s, ih _⟩

/-! ### Without the log -/

@[simp] theorem unlogged_pure (a : α) : unlogged (pure a : Logged σ α) = pure a := rfl

@[simp] theorem unlogged_bind (x : Logged σ α) (f : α → Logged σ β) :
    unlogged (x >>= f) = unlogged x >>= fun a => unlogged (f a) := rfl

theorem unlogged_mapM (f : α → Logged σ β) (l : List α) :
    unlogged (l.mapM f) = l.mapM fun a => unlogged (f a) := by
  induction l with
  | nil => rfl
  | cons a l ih => simp only [List.mapM_cons, unlogged_bind, unlogged_pure, ih]

end Logged

/-- **A network that logs** what it is asked and what it answers. -/
def Network.logged {σ : Type} (net : Network (StateM σ)) : Network (Logged σ) where
  lookup address chain := .ask (.lookup address chain) (net.lookup address chain)
  call chain target method arguments :=
    .ask (.call chain target method arguments) (net.call chain target method arguments)

namespace Logged

variable {σ : Type} (net : Network (StateM σ))

theorem unlogged_followLinks (chain : String) (search : Libraries.Search) (levels : Nat)
    (level : List String) :
    unlogged (followLinks net.logged chain search levels level) =
      followLinks net chain search levels level := by
  induction levels generalizing search level with
  | zero => cases level <;> rfl
  | succ levels ih =>
      cases level with
      | nil => rfl
      | cons address addresses =>
          simp only [followLinks, Network.linksOfAll, unlogged_bind, unlogged_mapM, ih]
          rfl

theorem unlogged_loadLibraries (address chain : String) (maxDepth : Nat) :
    unlogged (loadLibraries net.logged address chain maxDepth) =
      loadLibraries net address chain maxDepth := by
  simp only [loadLibraries, unlogged_bind]
  refine bind_congr fun outcome => ?_
  cases outcome with
  | error failure => rfl
  | ok direct => simp only [unlogged_bind, unlogged_followLinks, unlogged_pure]

theorem unlogged_callableLibraries (address chain : String) (maxDepth : Nat) :
    unlogged (callableLibraries net.logged address chain maxDepth) =
      callableLibraries net address chain maxDepth := by
  simp only [callableLibraries, unlogged_bind, unlogged_loadLibraries]
  refine bind_congr fun loaded => ?_
  cases loaded with
  | error failure => rfl
  | ok libraries =>
      simp only [libraryFunctions, unlogged_bind, unlogged_mapM]
      rfl

theorem unlogged_deferredAddress (chain : String) (request : CallRequest) (limit : Nat) :
    unlogged (deferredAddress net.logged chain request limit) =
      deferredAddress net chain request limit := by
  simp only [deferredAddress, unlogged_bind]
  refine bind_congr fun found => ?_
  split
  · rfl
  · split
    · rfl
    · rfl
    · simp only [unlogged_bind, apply_ite unlogged]
      rfl

/-- **An analysis does not depend on its log.** -/
theorem unlogged_analyse (options : Options) (record : ContractRecord) :
    unlogged (analyse net.logged options record) = analyse net options record := by
  have houtcome : ∀ r, unlogged (outcomeOf net.logged record.chain options.callTimeout r) =
      outcomeOf net record.chain options.callTimeout r := by
    intro r
    simp only [outcomeOf]
    split
    · rfl
    · simp only [unlogged_bind, unlogged_deferredAddress, unlogged_pure]
  simp only [analyse]
  split
  · rfl
  · simp only [unlogged_bind, unlogged_callableLibraries, unlogged_mapM, houtcome, unlogged_pure]

end Logged

end AddressTrace
