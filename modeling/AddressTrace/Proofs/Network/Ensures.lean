import AddressTrace.Proofs.Network.Traced
import Mathlib.Data.List.Forall2
import Mathlib.Tactic.Choose

/-!
# Computations that give values of a sort

What a computation gives may depend on a state, on a log or on other effects.  A property of all its
values is stated without opening the monad: the computation gives them with a proof.  Such a
property passes from step to step, and what follows a step need only be known for values with the
property.

## Main definitions

* `Ensures` — a computation that gives only values with a property;
* `Network.AnswersAs` — a network whose lookups have the outcomes of a world.

## Main statements

* `Ensures.then`, `Ensures.mapM` — the property of a last step, and of the steps over a list;
* `Ensures.bind_eq_bind` — steps that agree on values with the property;
* `Network.AnswersAs.ensures_loadLibraries` — what is known of libraries from lookups alone.
-/

namespace AddressTrace

section

variable {m : Type → Type} [Monad m] {α β : Type}

/-- **A computation that gives only values with a property.** -/
def Ensures (P : α → Prop) (x : m α) : Prop :=
  ∃ y : m {a : α // P a}, Subtype.val <$> y = x

/-- With a log the property is that of the value. -/
theorem ensures_iff_value {P : α → Prop} {x : Traced α} : Ensures P x ↔ P x.value := by
  constructor
  · rintro ⟨y, rfl⟩
    exact y.value.2
  · intro h
    exact ⟨⟨⟨x.value, h⟩, x.questions⟩, Traced.ext rfl (List.append_nil _)⟩

variable [LawfulMonad m] {P : α → Prop}

theorem Ensures.pure {a : α} (h : P a) : Ensures P (Pure.pure a : m α) :=
  ⟨Pure.pure ⟨a, h⟩, map_pure ..⟩

/-- Whatever comes first, it is the last step that counts. -/
theorem Ensures.bind {x : m β} {f : β → m α} (h : ∀ b, Ensures P (f b)) : Ensures P (x >>= f) := by
  choose g hg using h
  refine ⟨x >>= g, ?_⟩
  rw [map_bind]
  exact bind_congr hg

/-- **Steps that agree on values with the property** do the same. -/
theorem Ensures.bind_eq_bind {x : m α} (h : Ensures P x) {f g : α → m β}
    (hfg : ∀ a, P a → f a = g a) : x >>= f = x >>= g := by
  obtain ⟨y, rfl⟩ := h
  rw [bind_map_left, bind_map_left]
  exact bind_congr fun a => hfg a.1 a.2

/-- The last step may rely on the property of the first one. -/
theorem Ensures.then {Q : β → Prop} {x : m α} (h : Ensures P x) {f : α → m β}
    (hf : ∀ a, P a → Ensures Q (f a)) : Ensures Q (x >>= f) := by
  choose g hg using hf
  obtain ⟨y, rfl⟩ := h
  refine ⟨y >>= fun a => g a.1 a.2, ?_⟩
  rw [map_bind, bind_map_left]
  exact bind_congr fun a => hg a.1 a.2

theorem Ensures.imp {Q : α → Prop} {x : m α} (h : Ensures P x) (hPQ : ∀ a, P a → Q a) :
    Ensures Q x := by
  rw [← bind_pure x]
  exact h.then fun a ha => .pure (hPQ a ha)

/-- Steps over a list, each with a property, give a value with its own property for each element. -/
theorem Ensures.mapM {R : β → α → Prop} {f : β → m α} {l : List β}
    (h : ∀ b ∈ l, Ensures (R b) (f b)) : Ensures (List.Forall₂ R l) (l.mapM f) := by
  induction l with
  | nil => exact .pure .nil
  | cons b l ih =>
      obtain ⟨hb, hl⟩ := List.forall_mem_cons.1 h
      rw [List.mapM_cons]
      exact hb.then fun a ha => (ih hl).then fun as has => .pure (.cons ha has)

/-- Steps over a list, each with one possible value, have one possible list of values. -/
theorem Ensures.mapM_eq {f : β → m α} {g : β → α} {l : List β}
    (h : ∀ b ∈ l, Ensures (g b = ·) (f b)) : Ensures (l.map g = ·) (l.mapM f) :=
  (Ensures.mapM h).imp fun as has => by
    rwa [← List.forall₂_map_left_iff, List.forall₂_eq_eq_eq] at has

end

/-! ### Networks that answer alike -/

/-- **A network whose lookups have the outcomes of a world**, as often as they are repeated.  How
long they take may change, and nothing is said of its calls. -/
def Network.AnswersAs {m : Type → Type} [Monad m] (net : Network m) (w : World) : Prop :=
  ∀ address chain,
    Ensures (fun reply => reply.outcome = (w.lookup address chain).outcome)
      (net.lookup address chain)

theorem World.answersAs_network (w : World) : w.network.AnswersAs w :=
  fun _ _ => ensures_iff_value.2 rfl

namespace Network.AnswersAs

variable {m : Type → Type} [Monad m] [LawfulMonad m] {net : Network m} {w : World}

theorem ensures_links (h : net.AnswersAs w) (address chain : String) :
    Ensures (· = w.linksOutcome chain address) (net.links address chain) :=
  (h address chain).then fun reply hreply => .pure (by rw [hreply]; rfl)

/-- **The direct links that loading libraries finds** are those of the lookup of the contract. -/
theorem ensures_loadLibraries (h : net.AnswersAs w) (address chain : String) (maxDepth : Nat) :
    Ensures (fun loaded => loaded.map Libraries.direct = w.linksOutcome chain address)
      (loadLibraries net address chain maxDepth) := by
  rw [loadLibraries]
  refine (h.ensures_links address chain).then fun outcome houtcome => ?_
  subst houtcome
  cases w.linksOutcome chain address with
  | error failure => exact .pure rfl
  | ok direct => exact .bind fun followed => .pure rfl

end Network.AnswersAs

end AddressTrace
