/-!
# Splitting text

A text cut at every place of a separator, or at its last place only.

## Main definitions

* `pieces` — the parts between the separators, empty ones included;
* `splitLast?` — the two parts around the last separator.
-/

namespace AddressTrace.Text

/-- **The parts of a text between the separators.**  There is one part more than there are
separators. -/
def pieces (sep : Char) : List Char → List (List Char)
  | [] => [[]]
  | c :: cs =>
    if c = sep then [] :: pieces sep cs
    else
      match pieces sep cs with
      | [] => [[c]]
      | p :: ps => (c :: p) :: ps

/-- **The text before the last separator and the text after it**, if there is a separator. -/
def splitLast? (sep : Char) : List Char → Option (List Char × List Char)
  | [] => none
  | c :: cs =>
    match splitLast? sep cs with
    | some (before, after) => some (c :: before, after)
    | none => if c = sep then some ([], cs) else none

/-- The parts of a text put together again with the separator between them. -/
def unsplit (sep : Char) : List (List Char) → List Char
  | [] => []
  | [p] => p
  | p :: q :: ps => p ++ sep :: unsplit sep (q :: ps)

theorem pieces_ne_nil (sep : Char) (cs : List Char) : pieces sep cs ≠ [] := by
  cases cs with
  | nil => simp [pieces]
  | cons c cs =>
    simp only [pieces]
    split
    · simp
    · split <;> simp

/-- Nothing is lost by splitting but the separators. -/
theorem unsplit_pieces (sep : Char) (cs : List Char) : unsplit sep (pieces sep cs) = cs := by
  induction cs with
  | nil => rfl
  | cons c cs ih =>
    have hne := pieces_ne_nil sep cs
    match h : pieces sep cs with
    | [] => exact absurd h hne
    | p :: ps =>
      rw [h] at ih
      by_cases hc : c = sep
      · simp [pieces, hc, h, unsplit, ih]
      · cases ps <;> simp_all [pieces, unsplit]

/-- What `splitLast?` gives is the text with the separator taken out, and there is no separator
behind it. -/
theorem eq_of_splitLast? {sep : Char} {cs before after : List Char}
    (h : splitLast? sep cs = some (before, after)) :
    cs = before ++ sep :: after ∧ sep ∉ after := by
  induction cs generalizing before with
  | nil => simp [splitLast?] at h
  | cons c cs ih =>
    match hs : splitLast? sep cs with
    | some (b, a) =>
      simp only [splitLast?, hs, Option.some.injEq, Prod.mk.injEq] at h
      obtain ⟨rfl, rfl⟩ := h
      obtain ⟨rfl, hn⟩ := ih hs
      exact ⟨rfl, hn⟩
    | none =>
      simp only [splitLast?, hs] at h
      split at h
      · next hc =>
        simp only [Option.some.injEq, Prod.mk.injEq] at h
        obtain ⟨rfl, rfl⟩ := h
        refine ⟨by simp [hc], fun hm => ?_⟩
        clear ih
        induction cs with
        | nil => simp at hm
        | cons d ds ihd =>
          match hd : splitLast? sep ds with
          | some (x, y) => simp [splitLast?, hd] at hs
          | none =>
            simp only [splitLast?, hd] at hs
            split at hs
            · simp at hs
            · next hne =>
              rcases List.mem_cons.1 hm with heq | hm
              · exact hne heq.symm
              · exact ihd hd hm
      · simp at h

end AddressTrace.Text
