import AddressTrace.Contract.Store
import AddressTrace.Failure

/-!
# The network

What the program asks the outside world: the records of a contract, and the address that a
function returns.  The monad carries whatever answering changes.

## Main definitions

* `Reply` — an answer or a failure, and how long it took;
* `Network` — the two questions;
* `Network.interface` — the interface of a contract, from its records;
* `World`, `Traced` — a world that always answers alike, and a log of what it was asked.
-/

namespace AddressTrace

open Abi

/-- **The answer to a question**, and the milliseconds that it took. -/
structure Reply (α : Type) where
  delay : Nat
  outcome : Except Failure α

/-- **What can be asked.** -/
structure Network (m : Type → Type) where
  /-- The records of the contract at an address of a chain. -/
  lookup : (address chain : String) → m (Reply (List ContractRecord))
  /-- The address that a function of a contract returns for some arguments. -/
  call : (chain target : String) → Method → (arguments : List String) → m (Reply String)

/-- **The interface that some records of a contract hold**: the first one that is not empty. -/
def interfaceOf (records : List ContractRecord) : Except Failure (Option Interface) :=
  match records.findSome? fun r => r.abi.filter fun text => !text.isEmpty with
  | some text =>
    match Interface.ofJson text with
    | .ok i => .ok (some i)
    | .error problem => .error (.abi problem)
  | none => .ok none

namespace Network

variable {m : Type → Type} [Monad m]

/-- **The interface of a contract**, if it is verified, and how long it took to look it up. -/
def interface (net : Network m) (address chain : String) : m (Reply (Option Interface)) := do
  let reply ← net.lookup address chain
  return ⟨reply.delay, reply.outcome.bind interfaceOf⟩

/-- The overload of a function that returns one address, if the contract has one. -/
def addressMethod (net : Network m) (address chain function : String) :
    m (Reply (Option Method)) := do
  let reply ← net.interface address chain
  return ⟨reply.delay, reply.outcome.map fun i => i.bind fun i => i.addressMethod? function⟩

end Network

/-! ### Worlds that answer alike -/

/-- **A world whose answers depend on the question only.** -/
structure World where
  lookup : (address chain : String) → Reply (List ContractRecord)
  call : (chain target : String) → Method → (arguments : List String) → Reply String

/-- A question that was asked. -/
inductive Question
  | lookup (address chain : String)
  | call (chain target : String) (method : Method) (arguments : List String)
deriving Repr

/-- **A value and the questions that were asked for it**, in their order. -/
structure Traced (α : Type) where
  value : α
  questions : List Question

namespace Traced

instance : Monad Traced where
  pure a := ⟨a, []⟩
  bind x f :=
    let y := f x.value
    ⟨y.value, x.questions ++ y.questions⟩

/-- The answer to one question. -/
def ask {α : Type} (q : Question) (answer : α) : Traced α := ⟨answer, [q]⟩

@[simp] theorem value_pure {α : Type} (a : α) : (pure a : Traced α).value = a := rfl

@[simp] theorem questions_pure {α : Type} (a : α) : (pure a : Traced α).questions = [] := rfl

@[simp] theorem value_bind {α β : Type} (x : Traced α) (f : α → Traced β) :
    (x >>= f).value = (f x.value).value := rfl

@[simp] theorem questions_bind {α β : Type} (x : Traced α) (f : α → Traced β) :
    (x >>= f).questions = x.questions ++ (f x.value).questions := rfl

@[ext] theorem ext {α : Type} {x y : Traced α} (hv : x.value = y.value)
    (hq : x.questions = y.questions) : x = y := by
  cases x; cases y; cases hv; cases hq; rfl

instance : LawfulMonad Traced :=
  LawfulMonad.mk' Traced (fun x => ext rfl (List.append_nil x.questions))
    (fun a f => ext rfl (List.nil_append (f a).questions))
    (fun _ _ _ => ext rfl (List.append_assoc _ _ _))

end Traced

/-- **A world as a network that logs the questions.** -/
def World.network (w : World) : Network Traced where
  lookup address chain := .ask (.lookup address chain) (w.lookup address chain)
  call chain target method arguments :=
    .ask (.call chain target method arguments) (w.call chain target method arguments)

end AddressTrace
