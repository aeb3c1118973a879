import AddressTrace.CommandLine.Run
import AddressTrace.Proofs.Json.Writer
import Mathlib.Data.List.Forall2

/-!
# Reports of references

What is printed for some references is JSON, compact or laid out over lines, and reading it gives
all that is reported of each reference under the names of the fields, in the order of the
references.  So the text is the same for two lists exactly if they agree on every field that is
reported.

## Main definitions

* `Reference.form` — the record of a reference as it is written;
* `Reference.SameReport` — references that are reported alike.

## Main statements

* `Reference.form_eq_form` — the record determines what is reported;
* `CommandLine.exists_printed` — what is printed for a value is read as its form;
* `CommandLine.printed_eq_printed` — the printed text determines what is reported.
-/

namespace AddressTrace

open Text Json

theorem Origin.word_inj {o p : Origin} : o.word = p.word ↔ o = p := by
  cases o <;> cases p <;> decide

namespace Reference

/-- **The record of a reference as it is written.** -/
def form (r : Reference) : Json.Form :=
  .object [(some "contractPath", .string (some r.contractPath)),
    (some "contractName", .string (some r.contractName)),
    (some "address", .string (some r.address)),
    (some "locStartLine", .number (.ofInt r.first.line)),
    (some "locStartCol", .number (.ofInt r.first.column)),
    (some "locEndLine", .number (.ofInt r.last.line)),
    (some "locEndCol", .number (.ofInt r.last.column)),
    (some "rangeFrom", .number (.ofInt r.span.start)),
    (some "rangeTo", .number (.ofInt r.span.stop)),
    (some "source", .string (some r.origin.word))]

/-- **References that are reported alike**: they may differ in the node around the place and in the
call that an address waits for, and in nothing else. -/
structure SameReport (r s : Reference) : Prop where
  contractPath_eq : r.contractPath = s.contractPath
  contractName_eq : r.contractName = s.contractName
  address_eq : r.address = s.address
  first_eq : r.first = s.first
  last_eq : r.last = s.last
  span_eq : r.span = s.span
  origin_eq : r.origin = s.origin

variable {r s : Reference}

theorem form?_report (r : Reference) : r.report.form? = some r.form := rfl

/-- **The record determines what is reported.** -/
theorem form_eq_form : r.form = s.form ↔ r.SameReport s := by
  constructor
  · intro h
    obtain ⟨_, _, _, ⟨_, _⟩, ⟨_, _⟩, ⟨_, _⟩, _, _⟩ := r
    obtain ⟨_, _, _, ⟨_, _⟩, ⟨_, _⟩, ⟨_, _⟩, _, _⟩ := s
    simp only [form, Json.Form.object.injEq, List.cons.injEq, Prod.mk.injEq, true_and, and_true,
      Json.Form.string.injEq, Json.Form.number.injEq, Option.some.injEq, Numeral.ofInt_inj,
      Int.natCast_inj, Origin.word_inj] at h
    obtain ⟨rfl, rfl, haddress, rfl, rfl, rfl, rfl, rfl, rfl, rfl⟩ := h
    exact ⟨rfl, rfl, haddress, rfl, rfl, rfl, rfl⟩
  · rintro ⟨hpath, hname, haddress, hfirst, hlast, hspan, horigin⟩
    rw [form, form, hpath, hname, haddress, hfirst, hlast, hspan, horigin]

theorem SameReport.report_eq (h : r.SameReport s) : r.report = s.report := by
  obtain ⟨hpath, hname, haddress, hfirst, hlast, hspan, horigin⟩ := h
  rw [report, report, hpath, hname, haddress, hfirst, hlast, hspan, horigin]

end Reference

namespace CommandLine

theorem itemForms?_report (references : List Reference) :
    itemForms? (references.map Reference.report) = some (references.map Reference.form) := by
  induction references with
  | nil => rfl
  | cons r references ih =>
      rw [List.map_cons, itemForms?, r.form?_report, ih]
      rfl

theorem form?_referencesValue (references : List Reference) :
    (referencesValue references).form? = some (.array (references.map Reference.form)) := by
  rw [referencesValue, Value.form?, itemForms?_report]
  rfl

/-- **What is printed for a value** is read as its form. -/
theorem exists_printed (pretty : Bool) {v : Value} {f : Json.Form} (h : v.form? = some f) :
    ∃ text, printed pretty v = .printed text ∧ Json.Form.parse? text = some f := by
  have hline : AllSpace "\n".toList := by simp [AllSpace, isSpace]
  refine ⟨_, rfl, ?_⟩
  rw [Json.Form.parse?, String.toList_append]
  cases pretty with
  | false =>
      rw [if_neg Bool.false_ne_true, Value.compact, String.toList_ofList]
      exact Json.Form.parseChars?_render .compact 0 h hline
  | true =>
      rw [if_pos rfl, Value.pretty, String.toList_ofList]
      exact Json.Form.parseChars?_render .pretty 0 h hline

/-- **The printed text determines what is reported** of each reference, and nothing else. -/
theorem printed_eq_printed {pretty : Bool} {references others : List Reference} :
    printed pretty (referencesValue references) = printed pretty (referencesValue others) ↔
      List.Forall₂ Reference.SameReport references others := by
  constructor
  · intro h
    obtain ⟨text, htext, hparse⟩ := exists_printed pretty (form?_referencesValue references)
    obtain ⟨text', htext', hparse'⟩ := exists_printed pretty (form?_referencesValue others)
    obtain rfl : text = text' := Outcome.printed.inj (htext.symm.trans (h.trans htext'))
    have hforms : references.map Reference.form = others.map Reference.form :=
      Json.Form.array.inj (Option.some.inj (hparse.symm.trans hparse'))
    rw [← List.forall₂_eq_eq_eq, List.forall₂_map_left_iff, List.forall₂_map_right_iff] at hforms
    exact hforms.imp fun _ _ => Reference.form_eq_form.1
  · intro h
    have hreports : references.map Reference.report = others.map Reference.report := by
      rw [← List.forall₂_eq_eq_eq, List.forall₂_map_left_iff, List.forall₂_map_right_iff]
      exact h.imp fun _ _ => Reference.SameReport.report_eq
    rw [referencesValue, referencesValue, hreports]

end CommandLine

end AddressTrace
