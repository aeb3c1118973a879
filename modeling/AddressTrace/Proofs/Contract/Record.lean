import AddressTrace.Contract.Record
import AddressTrace.Proofs.Json.Fields
import AddressTrace.Proofs.Json.Writer

/-!
# Records in JSON

A record is read back from the text that is written for it.  Which texts are read as a record is
said in terms of their members: five fields must be there, the library is empty if it is missing,
and an interface that is missing or null is none.

## Main definitions

* `ContractRecord.members` — what is written for a record;
* `ContractRecord.ReadFrom` — a record is what some members say.

## Main statements

* `ContractRecord.parse?_json` — the text that is written for a record has its members;
* `ContractRecord.ofForm?_eq_some` — the forms that are read as a record;
* `ContractRecord.survives_json` — a record is read back from its text.
-/

namespace AddressTrace.ContractRecord

open Json

/-! ### The text of a record -/

/-- The form of a text that may be none. -/
def abiForm : Option String → Form
  | some text => .string (some text)
  | none => .null

/-- The members that are written for a record, in their order. -/
def members (r : ContractRecord) : List (Option String × Form) :=
  [(some "address", .string (some r.address)), (some "chain", .string (some r.chain)),
    (some "contractPath", .string (some r.path)), (some "contractName", .string (some r.name)),
    (some "sourceCode", .string (some r.sourceCode)), (some "library", .string (some r.library)),
    (some "abi", abiForm r.abi)]

theorem form?_value (r : ContractRecord) : r.value.form? = some (.object r.members) := by
  obtain ⟨_, _, _, _, _, _, abi⟩ := r
  cases abi <;> rfl

/-- **The text that is written for a record** has its members. -/
theorem parse?_json (r : ContractRecord) : Form.parse? r.json = some (.object r.members) := by
  have hparse := Form.parseChars?_render .compact 0 r.form?_value allSpace_nil
  rw [List.append_nil] at hparse
  rw [Form.parse?, json, Value.compact, String.toList_ofList, hparse]

/-! ### The record of a text -/

/-- **A record is what some members say.**  All their names are texts; those that no field has do
not matter, nor does their order. -/
structure ReadFrom (r : ContractRecord) (members : List (Option String × Form)) : Prop where
  names : ∀ m ∈ members, m.1.isSome
  address : Holds members "address" (.string (some r.address))
  chain : Holds members "chain" (.string (some r.chain))
  path : Holds members "contractPath" (.string (some r.path))
  name : Holds members "contractName" (.string (some r.name))
  sourceCode : Holds members "sourceCode" (.string (some r.sourceCode))
  /-- The library may be missing, and is empty then. -/
  library : Holds members "library" (.string (some r.library)) ∨
    Lacks members "library" ∧ r.library = ""
  /-- The interface may be missing or null, and is none then. -/
  abi : (∃ text, Holds members "abi" (.string (some text)) ∧ r.abi = some text) ∨
    (Holds members "abi" .null ∨ Lacks members "abi") ∧ r.abi = none

section Fields

variable {members : List (Option String × Form)} {name : String}

theorem exists_required_text?_iff {s : String} :
    (∃ field, onlyMember? name members = some field ∧ required Form.text? field = some s) ↔
      Holds members name (.string (some s)) := by
  simp [exists_required_iff, Form.text?_eq_some]

theorem exists_optional_text?_iff {s default : String} :
    (∃ field, onlyMember? name members = some field ∧
        optional default Form.text? field = some s) ↔
      Holds members name (.string (some s)) ∨ Lacks members name ∧ s = default := by
  simp [exists_optional_iff, Form.text?_eq_some]

theorem exists_optional_nullable?_iff {a : Option String} :
    (∃ field, onlyMember? name members = some field ∧
        optional none (Form.nullable? Form.text?) field = some a) ↔
      (∃ text, Holds members name (.string (some text)) ∧ a = some text) ∨
        (Holds members name .null ∨ Lacks members name) ∧ a = none := by
  simp only [exists_optional_iff, Form.nullable?_eq_some (show Form.text? .null = none from rfl),
    Form.text?_eq_some]
  constructor
  · rintro (⟨_, hholds, ⟨rfl, ha⟩ | ⟨text, rfl, ha⟩⟩ | ⟨hlacks, ha⟩)
    · exact .inr ⟨.inl hholds, ha⟩
    · exact .inl ⟨text, hholds, ha⟩
    · exact .inr ⟨.inr hlacks, ha⟩
  · rintro (⟨text, hholds, ha⟩ | ⟨hholds | hlacks, ha⟩)
    · exact .inl ⟨_, hholds, .inr ⟨text, rfl, ha⟩⟩
    · exact .inl ⟨_, hholds, .inl ⟨rfl, ha⟩⟩
    · exact .inr ⟨hlacks, ha⟩

end Fields

/-- Seven fields in order are those of the seven names. -/
theorem forall₂_fieldNames {R : String → Option Form → Prop} {fields : List (Option Form)} :
    List.Forall₂ R fieldNames fields ↔ ∃ address chain path name sourceCode library abi,
      fields = [address, chain, path, name, sourceCode, library, abi] ∧
      R "address" address ∧ R "chain" chain ∧ R "contractPath" path ∧ R "contractName" name ∧
      R "sourceCode" sourceCode ∧ R "library" library ∧ R "abi" abi := by
  simp only [fieldNames, List.forall₂_cons_left_iff, List.forall₂_nil_left_iff]
  constructor
  · rintro ⟨_, _, h1, ⟨_, _, h2, ⟨_, _, h3, ⟨_, _, h4, ⟨_, _, h5, ⟨_, _, h6, ⟨_, _, h7, rfl, rfl⟩,
      rfl⟩, rfl⟩, rfl⟩, rfl⟩, rfl⟩, rfl⟩
    exact ⟨_, _, _, _, _, _, _, rfl, h1, h2, h3, h4, h5, h6, h7⟩
  · rintro ⟨_, _, _, _, _, _, _, rfl, h1, h2, h3, h4, h5, h6, h7⟩
    exact ⟨_, _, h1, ⟨_, _, h2, ⟨_, _, h3, ⟨_, _, h4, ⟨_, _, h5, ⟨_, _, h6, ⟨_, _, h7, rfl, rfl⟩,
      rfl⟩, rfl⟩, rfl⟩, rfl⟩, rfl⟩, rfl⟩

/-- **The forms that are read as a record** say it in their members. -/
theorem ofForm?_eq_some {form : Form} {r : ContractRecord} :
    ofForm? form = some r ↔ ∃ members, form.members? fieldNames = some members ∧
      r.ReadFrom members := by
  have hnodup : fieldNames.Nodup := by decide
  simp only [ofForm?, Form.fields?_eq_bind hnodup, Option.bind_eq_bind, Option.bind_eq_some_iff,
    Option.ite_none_right_eq_some, List.all_eq_true, mapM_eq_some, forall₂_fieldNames]
  constructor
  · rintro ⟨_, ⟨members, hmembers, hnames, _, _, _, _, _, _, _, rfl, haddress, hchain, hpath, hname,
      hsource, hlibrary, habi⟩, hread⟩
    simp only [Option.bind_eq_some_iff] at hread
    obtain ⟨_, haddress', _, hchain', _, hpath', _, hname', _, hsource', _, hlibrary', _, habi',
      heq⟩ := hread
    cases heq
    exact ⟨members, hmembers,
      { names := hnames
        address := exists_required_text?_iff.1 ⟨_, haddress, haddress'⟩
        chain := exists_required_text?_iff.1 ⟨_, hchain, hchain'⟩
        path := exists_required_text?_iff.1 ⟨_, hpath, hpath'⟩
        name := exists_required_text?_iff.1 ⟨_, hname, hname'⟩
        sourceCode := exists_required_text?_iff.1 ⟨_, hsource, hsource'⟩
        library := exists_optional_text?_iff.1 ⟨_, hlibrary, hlibrary'⟩
        abi := exists_optional_nullable?_iff.1 ⟨_, habi, habi'⟩ }⟩
  · rintro ⟨members, hmembers, h⟩
    obtain ⟨_, haddress, haddress'⟩ := exists_required_text?_iff.2 h.address
    obtain ⟨_, hchain, hchain'⟩ := exists_required_text?_iff.2 h.chain
    obtain ⟨_, hpath, hpath'⟩ := exists_required_text?_iff.2 h.path
    obtain ⟨_, hname, hname'⟩ := exists_required_text?_iff.2 h.name
    obtain ⟨_, hsource, hsource'⟩ := exists_required_text?_iff.2 h.sourceCode
    obtain ⟨_, hlibrary, hlibrary'⟩ := exists_optional_text?_iff.2 h.library
    obtain ⟨_, habi, habi'⟩ := exists_optional_nullable?_iff.2 h.abi
    refine ⟨_, ⟨members, hmembers, h.names, _, _, _, _, _, _, _, rfl, haddress, hchain, hpath,
      hname, hsource, hlibrary, habi⟩, ?_⟩
    simp only [haddress', hchain', hpath', hname', hsource', hlibrary', habi', Option.bind_some]
    rfl

/-- Members in another order, one without a field, no library and an interface that is null. -/
example : ofForm? (.object [(some "abi", .null), (some "chain", .string (some "1")),
      (some "verified", .bool true), (some "sourceCode", .string (some "contract A;")),
      (some "contractName", .string (some "A")), (some "contractPath", .string (some "A.sol")),
      (some "address", .string (some "0x01"))]) =
    some ⟨"0x01", "1", "A.sol", "A", "contract A;", "", none⟩ := by
  decide

/-! ### There and back -/

/-- The members that are written for a record say this record. -/
theorem readFrom_members (r : ContractRecord) : r.ReadFrom r.members := by
  have hnodup : (r.members.map Prod.fst).Nodup := by simp [members]
  have hholds {name : String} {f : Form} (h : (some name, f) ∈ r.members) :
      Holds r.members name f := .of_mem hnodup h
  exact
    { names := by simp [members]
      address := hholds (by simp [members])
      chain := hholds (by simp [members])
      path := hholds (by simp [members])
      name := hholds (by simp [members])
      sourceCode := hholds (by simp [members])
      library := .inl (hholds (by simp [members]))
      abi := by
        cases h : r.abi with
        | none => exact .inr ⟨.inl (hholds (by simp [members, h, abiForm])), rfl⟩
        | some text => exact .inl ⟨text, hholds (by simp [members, h, abiForm]), rfl⟩ }

theorem ofJson?_json (r : ContractRecord) : ofJson? r.json = some r := by
  rw [ofJson?, parse?_json, Option.bind_some]
  exact ofForm?_eq_some.2 ⟨r.members, rfl, r.readFrom_members⟩

/-- **A record survives its JSON text.**  The text that is written for it has its members under
their names and is read as this record, so writing what was read and reading it again changes
nothing.  A text is read as a record exactly if its members say the record, in whatever order and
with whatever others among them; a library that is missing is empty, and an interface that is
missing or null is none. -/
theorem survives_json :
    (∀ r : ContractRecord,
      Form.parse? r.json = some (.object r.members) ∧ ofJson? r.json = some r) ∧
    (∀ text, ((ofJson? text).bind fun r => ofJson? r.json) = ofJson? text) ∧
    ∀ text r, ofJson? text = some r ↔ ∃ form members, Form.parse? text = some form ∧
      form.members? fieldNames = some members ∧ ReadFrom r members := by
  refine ⟨fun r => ⟨r.parse?_json, r.ofJson?_json⟩, fun text => ?_, fun text r => ?_⟩
  · simp only [ofJson?_json, Option.bind_fun_some]
  · simp only [ofJson?, Option.bind_eq_some_iff, ofForm?_eq_some]
    constructor
    · rintro ⟨form, hform, members, hmembers, hread⟩
      exact ⟨form, members, hform, hmembers, hread⟩
    · rintro ⟨form, members, hform, hmembers, hread⟩
      exact ⟨form, hform, members, hmembers, hread⟩

end AddressTrace.ContractRecord
