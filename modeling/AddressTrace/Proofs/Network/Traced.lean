import AddressTrace.Linkage.Load

/-!
# Logs of questions

What is asked one after the other over a list is logged in the order of the list.  In a world that
always answers alike the links of a contract are one question and its answer.

## Main statements

* `Traced.value_mapM`, `Traced.questions_mapM` — answers and questions of a list;
* `World.links_network`, `World.linksOfAll_network` — what asking for links gives and logs.
-/

namespace AddressTrace

namespace Traced

variable {α β : Type}

theorem value_mapM (f : α → Traced β) (l : List α) :
    (l.mapM f).value = l.map fun a => (f a).value := by
  induction l with
  | nil => rfl
  | cons a l ih => rw [List.mapM_cons, value_bind, value_bind, value_pure, ih, List.map_cons]

theorem questions_mapM (f : α → Traced β) (l : List α) :
    (l.mapM f).questions = l.flatMap fun a => (f a).questions := by
  induction l with
  | nil => rfl
  | cons a l ih =>
      rw [List.mapM_cons, questions_bind, questions_bind, questions_pure, List.append_nil, ih,
        List.flatMap_cons]

end Traced

namespace World

/-- What the lookup of a contract says about its links. -/
def linksOutcome (w : World) (chain address : String) : Except Failure Linkage :=
  linksOf address chain (w.lookup address chain).outcome

/-- Asking for the links of a contract is one lookup. -/
theorem links_network (w : World) (chain address : String) :
    w.network.links address chain = ⟨w.linksOutcome chain address, [.lookup address chain]⟩ :=
  rfl

/-- Asking for the links of some contracts is one lookup for each, in their order. -/
theorem linksOfAll_network (w : World) (chain : String) (addresses : List String) :
    w.network.linksOfAll chain addresses =
      ⟨addresses.map fun a => (a, w.linksOutcome chain a), addresses.map (.lookup · chain)⟩ := by
  apply Traced.ext
  · rw [Network.linksOfAll, Traced.value_mapM]
    rfl
  · rw [Network.linksOfAll, Traced.questions_mapM]
    exact List.map_eq_flatMap.symm

end World

end AddressTrace
