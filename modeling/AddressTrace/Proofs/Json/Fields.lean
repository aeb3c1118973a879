import AddressTrace.Json.Fields
import AddressTrace.Proofs.Data.Pointwise

/-!
# What the fields of a record are read from

A field is read from the one member of its name.  It does not matter where this member stands among
the others, nor which other members there are, as long as their names are texts.  An array says the
same as an object in which its items stand under the names of the fields in order.

## Main definitions

* `Lacks`, `Holds` — there is no member of a name, and there is one;
* `Form.members?` — the members that a form says a record has.

## Main statements

* `Holds.of_mem` — where all names are different, each member is the only one of its name;
* `onlyMember?_eq_none`, `onlyMember?_eq_some` — which members of a name there are;
* `Form.fields?_eq_bind` — an array says what an object says;
* `exists_required_iff`, `exists_optional_iff` — what a field is read from.
-/

namespace AddressTrace.Json

variable {α : Type} {name : String} {members : List (Option String × Form)}

/-- **No member has this name.** -/
def Lacks (members : List (Option String × Form)) (name : String) : Prop :=
  ∀ m ∈ members, m.1 ≠ some name

/-- **One member has this name, and this is its value**; no other member has the name. -/
def Holds (members : List (Option String × Form)) (name : String) (f : Form) : Prop :=
  ∃ before after, members = before ++ (some name, f) :: after ∧
    Lacks before name ∧ Lacks after name

/-- Where all names are different, each member is the only one of its name. -/
theorem Holds.of_mem (hnodup : (members.map Prod.fst).Nodup) {f : Form}
    (h : (some name, f) ∈ members) : Holds members name f := by
  obtain ⟨before, after, rfl⟩ := List.append_of_mem h
  rw [List.map_append, List.map_cons] at hnodup
  obtain ⟨-, hafter, hapart⟩ := List.nodup_append.1 hnodup
  refine ⟨before, after, rfl, fun m hm => ?_, fun m hm heq => ?_⟩
  · exact hapart _ (List.mem_map_of_mem hm) _ List.mem_cons_self
  · have hmem : m.1 ∈ after.map Prod.fst := List.mem_map_of_mem hm
    rw [heq] at hmem
    exact (List.nodup_cons.1 hafter).1 hmem

/-- **The members that a form says a record has**: those of an object, or the items of an array
under the names of the fields, as far as there are any. -/
def Form.members? (names : List String) : Form → Option (List (Option String × Form))
  | .object members => some members
  | .array items =>
    if items.length ≤ names.length then some ((names.map some).zip items) else none
  | _ => none

/-! ### Members of a name -/

theorem filter_eq_nil_iff_lacks :
    members.filter (fun m => m.1 == some name) = [] ↔ Lacks members name := by
  simp only [List.filter_eq_nil_iff, beq_iff_eq, Lacks]

theorem filter_eq_singleton_iff_holds {f : Form} :
    members.filter (fun m => m.1 == some name) = [(some name, f)] ↔ Holds members name f := by
  simp only [List.filter_eq_cons_iff, filter_eq_nil_iff_lacks, beq_iff_eq, true_and, Lacks, Holds]

theorem onlyMember?_eq_none : onlyMember? name members = some none ↔ Lacks members name := by
  rw [← filter_eq_nil_iff_lacks, onlyMember?]
  split
  · next hfilter => exact iff_of_true rfl hfilter
  · next m hfilter => exact iff_of_false nofun (hfilter ▸ nofun)
  · next hnil _ => exact iff_of_false nofun hnil

theorem onlyMember?_eq_some {f : Form} :
    onlyMember? name members = some (some f) ↔ Holds members name f := by
  rw [← filter_eq_singleton_iff_holds, onlyMember?]
  split
  · next hfilter => exact iff_of_false (by simp) (by simp [hfilter])
  · next m hfilter =>
    obtain ⟨-, hname⟩ := List.mem_filter.1 (hfilter ▸ List.mem_singleton_self m)
    rw [beq_iff_eq] at hname
    simp [hfilter, Prod.ext_iff, hname]
  · next _ hsingleton => exact iff_of_false nofun (hsingleton _)

/-- A member of another name is passed over. -/
theorem onlyMember?_cons_of_ne {other : Option String} (h : other ≠ some name) (f : Form) :
    onlyMember? name ((other, f) :: members) = onlyMember? name members := by
  rw [onlyMember?, List.filter_cons_of_neg (by simpa using h), onlyMember?]

/-- A member whose name no other one has is found. -/
theorem onlyMember?_cons_self (h : Lacks members name) (f : Form) :
    onlyMember? name ((some name, f) :: members) = some (some f) :=
  onlyMember?_eq_some.2 ⟨[], members, rfl, nofun, h⟩

/-! ### Fields in order -/

/-- The items of an array are the fields in order, and those behind the last item are missing. -/
theorem mapM_onlyMember?_zip {names : List String} (hnames : names.Nodup) {items : List Form}
    (hlength : items.length ≤ names.length) :
    names.mapM (fun name => onlyMember? name ((names.map some).zip items)) =
      some (items.map some ++ List.replicate (names.length - items.length) none) := by
  induction names generalizing items with
  | nil =>
    obtain rfl := List.eq_nil_of_length_eq_zero (Nat.le_zero.1 hlength)
    rfl
  | cons name names ih =>
    obtain ⟨hname, hnodup⟩ := List.nodup_cons.1 hnames
    cases items with
    | nil =>
      have hrest := ih hnodup (show ([] : List Form).length ≤ names.length from Nat.zero_le _)
      rw [List.zip_nil_right] at hrest ⊢
      rw [List.mapM_cons, hrest]
      rfl
    | cons item items =>
      have hlacks : Lacks ((names.map some).zip items) name := fun m hm heq =>
        hname (by simpa [heq] using (List.of_mem_zip hm).1)
      -- The other fields do not see the first item.
      have hskip : ∀ other ∈ names,
          onlyMember? other ((some name, item) :: (names.map some).zip items) =
            onlyMember? other ((names.map some).zip items) := by
        intro other hother
        have hne : name ≠ other := (ne_of_mem_of_not_mem hother hname).symm
        exact onlyMember?_cons_of_ne (by simpa using hne) item
      rw [List.map_cons, List.zip_cons_cons, List.mapM_cons, onlyMember?_cons_self hlacks,
        mapM_congr hskip, ih hnodup (Nat.le_of_succ_le_succ hlength)]
      simp

/-- **An array says what an object says** in which its items have the names of the fields. -/
theorem Form.fields?_eq_bind {names : List String} (hnames : names.Nodup) (form : Form) :
    form.fields? names = (form.members? names).bind fun members =>
      if members.all fun m => m.1.isSome then names.mapM fun name => onlyMember? name members
      else none := by
  cases form with
  | array items =>
    rw [Form.fields?, Form.members?]
    split
    · next hlength =>
      have hall : ((names.map some).zip items).all (fun m => m.1.isSome) = true := by
        rw [List.all_eq_true]
        intro m hm
        obtain ⟨name, -, hname⟩ := List.mem_map.1 (List.of_mem_zip hm).1
        rw [← hname, Option.isSome_some]
      rw [Option.bind_some, if_pos hall, mapM_onlyMember?_zip hnames hlength]
    · rfl
  | _ => rfl

/-! ### Values of fields -/

variable {read : Form → Option α} {a : α}

/-- A field that must be there is read from the member of its name. -/
theorem exists_required_iff :
    (∃ field, onlyMember? name members = some field ∧ required read field = some a) ↔
      ∃ f, Holds members name f ∧ read f = some a := by
  simp only [required, Option.bind_eq_some_iff, ← onlyMember?_eq_some]
  constructor
  · rintro ⟨_, hfield, f, rfl, hread⟩
    exact ⟨f, hfield, hread⟩
  · rintro ⟨f, hfield, hread⟩
    exact ⟨_, hfield, f, rfl, hread⟩

/-- A field that may be missing is read from the member of its name, if there is one. -/
theorem exists_optional_iff {default : α} :
    (∃ field, onlyMember? name members = some field ∧ optional default read field = some a) ↔
      (∃ f, Holds members name f ∧ read f = some a) ∨ Lacks members name ∧ a = default := by
  simp only [← onlyMember?_eq_some, ← onlyMember?_eq_none]
  constructor
  · rintro ⟨_ | f, hfield, hread⟩
    · exact .inr ⟨hfield, (Option.some.inj hread).symm⟩
    · exact .inl ⟨f, hfield, hread⟩
  · rintro (⟨f, hfield, hread⟩ | ⟨hfield, rfl⟩)
    · exact ⟨_, hfield, hread⟩
    · exact ⟨_, hfield, rfl⟩

theorem Form.text?_eq_some {f : Form} {s : String} : f.text? = some s ↔ f = .string (some s) := by
  cases f <;> simp [Form.text?]

/-- Null stands for nothing, if it is not read as anything else. -/
theorem Form.nullable?_eq_some (hnull : read .null = none) {f : Form} {a : Option α} :
    f.nullable? read = some a ↔ f = .null ∧ a = none ∨ ∃ b, read f = some b ∧ a = some b := by
  cases f with
  | null => simp [Form.nullable?, hnull, eq_comm]
  | _ => simp [Form.nullable?, Option.map_eq_some_iff, eq_comm (a := a)]

end AddressTrace.Json
