import AddressTrace.Explorer.Etherscan
import AddressTrace.Proofs.Data.SortedMap
import AddressTrace.Proofs.Json.Reader
import AddressTrace.Proofs.Text.Blank
import AddressTrace.Proofs.Text.Bytes

/-!
# The forms of an Etherscan source text

An explorer of the Etherscan kind gives the source of a contract as one text, which is compiler
input in a second pair of braces, a map from paths to files, or a single file.  It does not say
which; the text is tried as each of the first two.  The order of these attempts does not matter, for
no text can be read as both: behind its first brace one of them has another brace or a bracket, and
the other one a name or its end.  So each text gives the files of its own form, and none of them is
lost.

## Main definitions

* `IsWrapped`, `IsMapped` — a source text in one of the two structured forms;
* `IsListing` — the files of a map, each path once and in order;
* `Lists` — a response that lists a contract first.

## Main statements

* `wrappedInput?_eq_some`, `fileMap?_eq_some` — each form is what is read as such;
* `not_isMapped_of_isWrapped` — no text has both;
* `isListing_sources`, `sources_of_neither` — the files of a text;
* `sources_by_form` — all of it, with the records of a response.
-/

namespace AddressTrace

open Json Text

/-- The white space of JSON is blank in every script. -/
theorem Text.allBlank_of_allSpace {cs : List Char} (h : AllSpace cs) : AllBlank cs := by
  intro c hc
  rcases isSpace_iff.1 (h c hc) with ((rfl | rfl) | rfl) | rfl <;> decide

namespace Etherscan

/-! ### The forms of a source text -/

/-- **A text reads as compiler input** with these files. -/
def ReadsAsInput (text : List Char) (files : Files) : Prop :=
  ∃ form, Form.parseChars? text = some form ∧ compilerInput? form = some files

/-- **A text reads as a map** from paths to files. -/
def ReadsAsMap (text : List Char) (files : Files) : Prop :=
  ∃ form, Form.parseChars? text = some form ∧ files? form = some files

/-- **Compiler input in one more pair of braces**, with any white space around it. -/
def IsWrapped (source : List Char) (files : Files) : Prop :=
  ∃ before text after, AllBlank before ∧ AllBlank after ∧
    source = before ++ (openBrace :: text ++ [closeBrace]) ++ after ∧ ReadsAsInput text files

/-- **A map from paths to files**, with any white space around it. -/
def IsMapped (source : List Char) (files : Files) : Prop :=
  ∃ before text after, AllBlank before ∧ AllBlank after ∧ source = before ++ text ++ after ∧
    ReadsAsMap text files

variable {source text : List Char} {files files' : Files}

theorem insideBraces?_eq_some {cs : List Char} :
    insideBraces? cs = some text ↔ cs = openBrace :: text ++ [closeBrace] := by
  cases cs with
  | nil => simp [insideBraces?]
  | cons first rest =>
    simp only [insideBraces?, Option.ite_none_right_eq_some, List.cons_append, List.cons.injEq]
    constructor
    · rintro ⟨⟨rfl, hlast⟩, hrest⟩
      cases hrest
      exact ⟨rfl, (List.dropLast_append_getLast? _ hlast).symm⟩
    · rintro ⟨rfl, rfl⟩
      simp

/-- What is enclosed in braces has no margins. -/
theorem trimChars_braces {before after : List Char} (hbefore : AllBlank before)
    (hafter : AllBlank after) (text : List Char) :
    trimChars (before ++ (openBrace :: text ++ [closeBrace]) ++ after) =
      openBrace :: text ++ [closeBrace] := by
  refine trimChars_append hbefore hafter (fun c hc => ?_) fun c hc => ?_
  · obtain rfl : openBrace = c := Option.some.inj hc
    decide
  · rw [List.getLast?_concat] at hc
    obtain rfl : closeBrace = c := Option.some.inj hc
    decide

/-- **Wrapped compiler input is what is read as such.** -/
theorem wrappedInput?_eq_some : wrappedInput? source = some files ↔ IsWrapped source files := by
  simp only [wrappedInput?, Option.bind_eq_bind, Option.bind_eq_some_iff, insideBraces?_eq_some]
  constructor
  · rintro ⟨text, htrim, form, hform, hfiles⟩
    obtain ⟨before, after, hbefore, hafter, hsource⟩ := exists_eq_trimChars source
    exact ⟨before, text, after, hbefore, hafter, htrim ▸ hsource, form, hform, hfiles⟩
  · rintro ⟨before, text, after, hbefore, hafter, rfl, form, hform, hfiles⟩
    exact ⟨text, trimChars_braces hbefore hafter text, form, hform, hfiles⟩

theorem exists_members_of_files? {form : Form} (h : files? form = some files) :
    ∃ members, form = .object members := by
  cases form with
  | object members => exact ⟨members, rfl⟩
  | _ => cases h

theorem exists_of_compilerInput? {form : Form} (h : compilerInput? form = some files) :
    (∃ items, form = .array items) ∨ ∃ members, form = .object members := by
  cases form with
  | array items => exact .inl ⟨items, rfl⟩
  | object members => exact .inr ⟨members, rfl⟩
  | _ => cases h

/-- **A map is what is read as one.**  The margins that are removed hold all the white space that
the grammar allows around it. -/
theorem fileMap?_eq_some : fileMap? source = some files ↔ IsMapped source files := by
  simp only [fileMap?, Option.bind_eq_bind, Option.bind_eq_some_iff, insideBraces?_eq_some]
  constructor
  · rintro ⟨-, -, form, hform, hfiles⟩
    obtain ⟨before, after, hbefore, hafter, hsource⟩ := exists_eq_trimChars source
    exact ⟨before, trimChars source, after, hbefore, hafter, hsource, form, hform, hfiles⟩
  · rintro ⟨before, text, after, hbefore, hafter, rfl, form, hform, hfiles⟩
    obtain ⟨members, rfl⟩ := exists_members_of_files? hfiles
    obtain ⟨space, own, tail, hspace, htail, rfl, htext⟩ := Form.parseChars?_eq_some.1 hform
    obtain ⟨inside, rfl⟩ := htext.object members rfl
    have hmargins : trimChars (before ++ (space ++ ('{' :: inside ++ ['}']) ++ tail) ++ after) =
        '{' :: inside ++ ['}'] := by
      rw [show before ++ (space ++ ('{' :: inside ++ ['}']) ++ tail) ++ after =
        (before ++ space) ++ ('{' :: inside ++ ['}']) ++ (tail ++ after) by simp]
      exact trimChars_braces (List.forall_mem_append.2 ⟨hbefore, allBlank_of_allSpace hspace⟩)
        (List.forall_mem_append.2 ⟨allBlank_of_allSpace htail, hafter⟩) inside
    rw [hmargins]
    refine ⟨inside, rfl, .object members, Form.parseChars?_eq_some.2
      ⟨[], _, [], List.forall_mem_nil _, List.forall_mem_nil _, ?_, htext⟩, hfiles⟩
    simp

/-- Compiler input begins with a bracket or a brace. -/
theorem head?_of_readsAsInput (h : ReadsAsInput text files) (rest : List Char) :
    (skipSpace (text ++ rest)).head? = some '[' ∨ (skipSpace (text ++ rest)).head? = some '{' := by
  obtain ⟨form, hform, hinput⟩ := h
  obtain ⟨space, own, tail, hspace, -, rfl, htext⟩ := Form.parseChars?_eq_some.1 hform
  rw [List.append_assoc, List.append_assoc, skipSpace_append hspace]
  rcases exists_of_compilerInput? hinput with ⟨items, rfl⟩ | ⟨members, rfl⟩
  · obtain ⟨inside, rfl⟩ := htext.array items rfl
    exact .inl rfl
  · obtain ⟨inside, rfl⟩ := htext.object members rfl
    exact .inr rfl

/-- **No text has both forms.**  Behind its first brace wrapped input has another brace or a
bracket, and a map has a name or its end. -/
theorem not_isMapped_of_isWrapped (h : IsWrapped source files) : ¬ IsMapped source files' := by
  intro hmapped
  obtain ⟨before, text, after, hbefore, hafter, rfl, hinput⟩ := h
  have hmap := fileMap?_eq_some.2 hmapped
  simp only [fileMap?, trimChars_braces hbefore hafter, Option.bind_eq_bind,
    Option.bind_eq_some_iff, Form.parseChars?] at hmap
  obtain ⟨-, -, form, ⟨⟨_, rest⟩, hread, -⟩, -⟩ := hmap
  obtain ⟨c, hc, hcases⟩ := head?_of_readForm?_object hread
  rcases head?_of_readsAsInput hinput [closeBrace] with hhead | hhead <;>
  · obtain rfl := Option.some.inj (hc.symm.trans hhead)
    exact absurd hcases (by decide)

/-! ### The files of a source text -/

/-- The files of either form are read from one map. -/
theorem exists_files? (h : IsWrapped source files ∨ IsMapped source files) :
    ∃ form, files? form = some files := by
  rcases h with ⟨-, text, -, -, -, -, form, -, hinput⟩ | ⟨-, text, -, -, -, -, form, -, hfiles⟩
  · simp only [compilerInput?, Option.bind_eq_bind, Option.bind_eq_some_iff] at hinput
    obtain ⟨fields, -, hfields⟩ := hinput
    split at hfields
    · obtain ⟨sources, -, hfiles⟩ := Option.bind_eq_some_iff.1 hfields
      exact ⟨sources, hfiles⟩
    · cases hfields
  · exact ⟨form, hfiles⟩

/-- The map that a form is read as is one of pairs. -/
theorem exists_ofList_of_files? {form : Form} (h : files? form = some files) :
    ∃ pairs, files = .ofList pairs := by
  obtain ⟨members, rfl⟩ := exists_members_of_files? h
  simp only [files?, Form.entries?, Option.bind_eq_bind, Option.bind_eq_some_iff] at h
  obtain ⟨pairs, -, hfiles⟩ := h
  cases hfiles
  exact ⟨pairs, rfl⟩

/-- **Each path of a map once, with its text**, in ascending order of the bytes of the paths. -/
structure IsListing (listing : List (String × String)) (files : Files) : Prop where
  mem_iff : ∀ path content, (path, content) ∈ listing ↔ files.find? path = some content
  ascending : (listing.map Prod.fst).Pairwise fun p q => p.toUTF8.toList < q.toUTF8.toList

theorem isListing_toList (pairs : List (String × String)) :
    IsListing (SortedMap.ofList pairs).toList (.ofList pairs) where
  mem_iff _ _ := SortedMap.mem_toList
  ascending := (SortedMap.ofList pairs).ascending.imp fun h => lt_iff_bytes_lt.1 h

/-- **A source text of either structured form** gives the files of that form. -/
theorem isListing_sources {source : String}
    (h : IsWrapped source.toList files ∨ IsMapped source.toList files) (name : String) :
    IsListing (sources name source) files := by
  have hread : (wrappedInput? source.toList).or (fileMap? source.toList) = some files := by
    rcases h with h | h
    · rw [wrappedInput?_eq_some.2 h, Option.some_or]
    · have hwrapped : wrappedInput? source.toList = none :=
        Option.eq_none_iff_forall_ne_some.2 fun _ hinput =>
          not_isMapped_of_isWrapped (wrappedInput?_eq_some.1 hinput) h
      rw [hwrapped, Option.none_or, fileMap?_eq_some.2 h]
  obtain ⟨form, hfiles⟩ := exists_files? h
  obtain ⟨pairs, rfl⟩ := exists_ofList_of_files? hfiles
  rw [sources, hread]
  exact isListing_toList pairs

/-- **Any other source text** is a single file as it is. -/
theorem sources_of_neither {source : String} (hwrapped : ∀ files, ¬ IsWrapped source.toList files)
    (hmapped : ∀ files, ¬ IsMapped source.toList files) (name : String) :
    sources name source = [("/" ++ name ++ ".sol", source)] := by
  have hnone : (wrappedInput? source.toList).or (fileMap? source.toList) = none := by
    rw [Option.or_eq_none_iff]
    exact ⟨Option.eq_none_iff_forall_ne_some.2 fun _ h => hwrapped _ (wrappedInput?_eq_some.1 h),
      Option.eq_none_iff_forall_ne_some.2 fun _ h => hmapped _ (fileMap?_eq_some.1 h)⟩
  rw [sources, hnone]

/-! ### The records of a response -/

/-- **A response lists a contract first**, and reports success. -/
def Lists (response : String) (c : Contract) : Prop :=
  ∃ result rest, (Form.parse? response).bind response? = some ("1", result) ∧
    contracts? result = some (c :: rest)

theorem records_eq {response : String} {c : Contract} (h : Lists response c)
    (address chain : String) : records address chain response = .ok (c.records address chain) := by
  obtain ⟨result, rest, hresponse, hcontracts⟩ := h
  simp only [records, hresponse, hcontracts]
  rfl

/-- A response that gives records lists a contract first. -/
theorem exists_lists {address chain response : String} {rs : List ContractRecord}
    (h : records address chain response = .ok rs) (hne : rs ≠ []) : ∃ c, Lists response c := by
  rw [records] at h
  split at h
  · cases h
  · next status result hresponse =>
    split at h
    · cases h
    · next hstatus =>
      rw [not_not] at hstatus
      subst hstatus
      split at h
      · cases h
      · cases h
        exact absurd rfl hne
      · next c rest hcontracts => exact ⟨c, result, rest, hresponse, hcontracts⟩

/-- The records of a contract are its files, none if there is no source. -/
theorem map_records (address chain : String) (c : Contract) :
    (c.records address chain).map (fun r => (r.path, r.sourceCode)) =
      if c.sourceCode = "" then [] else sources c.name c.sourceCode := by
  simp only [Contract.records, String.isEmpty_iff]
  split
  · rfl
  · rw [List.map_map]
    exact List.map_id _

/-- Each record of a contract has what the explorer says of the contract. -/
theorem eq_of_mem_records {address chain : String} {c : Contract} {r : ContractRecord}
    (h : r ∈ c.records address chain) : r.name = c.name ∧ r.library = c.library ∧
      r.abi = some c.abi ∧ r.address = address ∧ r.chain = chain := by
  rw [Contract.records] at h
  split at h
  · cases h
  · obtain ⟨file, -, rfl⟩ := List.mem_map.1 h
    exact ⟨rfl, rfl, rfl, rfl, rfl⟩

/-- **The three forms of a source text never overlap and lose no file.**  No text is both wrapped
compiler input and a map.  A text of either form gives each path of it once, with its text, in
ascending order of the bytes of the paths; any other one gives a single file with the text as it is.
The records of a response are the files of the contract that it lists first, if there is a source,
and each of them has the name, the library and the interface of this contract. -/
theorem sources_by_form :
    (∀ (source : List Char) (files files' : Files),
      ¬ (IsWrapped source files ∧ IsMapped source files')) ∧
    (∀ (name source : String) (files : Files), IsWrapped source.toList files →
      IsListing (sources name source) files) ∧
    (∀ (name source : String) (files : Files), IsMapped source.toList files →
      IsListing (sources name source) files) ∧
    (∀ name source : String, (∀ files, ¬ IsWrapped source.toList files) →
      (∀ files, ¬ IsMapped source.toList files) →
        sources name source = [("/" ++ name ++ ".sol", source)]) ∧
    (∀ (address chain response : String) (rs : List ContractRecord),
      records address chain response = .ok rs → rs ≠ [] → ∃ c, Lists response c) ∧
    ∀ (address chain response : String) (c : Contract), Lists response c →
      ∃ rs, records address chain response = .ok rs ∧
        rs.map (fun r => (r.path, r.sourceCode)) =
          (if c.sourceCode = "" then [] else sources c.name c.sourceCode) ∧
        ∀ r ∈ rs, r.name = c.name ∧ r.library = c.library ∧ r.abi = some c.abi ∧
          r.address = address ∧ r.chain = chain :=
  ⟨fun _ _ _ ⟨hwrapped, hmapped⟩ => not_isMapped_of_isWrapped hwrapped hmapped,
    fun name _ _ h => isListing_sources (.inl h) name,
    fun name _ _ h => isListing_sources (.inr h) name,
    fun name _ hwrapped hmapped => sources_of_neither hwrapped hmapped name,
    fun _ _ _ _ h hne => exists_lists h hne,
    fun address chain _ c h => ⟨_, records_eq h address chain, map_records address chain c,
      fun _ hr => eq_of_mem_records hr⟩⟩

/-- Compiler input in a second pair of braces, with white space around it and with braces in its
files. -/
def bracesInFiles : String :=
  " \x7b\n\x7b\"language\":\"Solidity\",\"sources\":\x7b" ++
    "\"b\":\x7b\"content\":\"\x7d\x7d\"\x7d," ++
    "\"a\":\x7b\"content\":\"\x7b\\\"\"\x7d\x7d\x7d\t\x7d\u2003"

/-- A response that lists a contract with a single file. -/
def oneFile : String :=
  "\x7b\"status\":\"1\",\"result\":[\x7b\"SourceCode\":\" contract C\"," ++
    "\"ABI\":\"[]\",\"ContractName\":\"C\",\"Library\":\"L:1\"\x7d]\x7d"

/-- Both files are there, in the order of their paths, and the single file keeps its margin. -/
theorem sources_by_form_bracesInFiles :
    let files : Files := .ofList [("a", "\x7b\""), ("b", "\x7d\x7d")]
    let c : Contract := ⟨" contract C", "[]", "C", "L:1"⟩
    IsWrapped bracesInFiles.toList files ∧ ¬ IsMapped bracesInFiles.toList files ∧
      IsListing (sources "C" bracesInFiles) files ∧
      Lists oneFile c ∧ sources c.name c.sourceCode = [("/C.sol", " contract C")] ∧
      ∃ rs, records "0x99" "eth" oneFile = .ok rs ∧
        rs.map (fun r => (r.path, r.sourceCode)) = [("/C.sol", " contract C")] ∧
        ∀ r ∈ rs, r.name = "C" ∧ r.library = "L:1" ∧ r.abi = some "[]" := by
  intro files c
  obtain ⟨hapart, hwrapped, -, hneither, -, hrecords⟩ := sources_by_form
  have hinput : IsWrapped bracesInFiles.toList files := by
    refine wrappedInput?_eq_some.1 ?_
    decide +kernel
  have hnoInput : wrappedInput? c.sourceCode.toList = none := by
    decide +kernel
  have hnoMap : fileMap? c.sourceCode.toList = none := by
    decide +kernel
  have hresponse : ((Form.parse? oneFile).bind response?).map (fun e => (e.1, contracts? e.2)) =
      some ("1", some [c]) := by
    decide +kernel
  have hlists : Lists oneFile c := by
    obtain ⟨⟨status, result⟩, hread, heq⟩ := Option.map_eq_some_iff.1 hresponse
    obtain ⟨rfl, hcontracts⟩ := Prod.mk.inj heq
    exact ⟨result, [], hread, hcontracts⟩
  have hsingle : sources c.name c.sourceCode = [("/C.sol", " contract C")] :=
    hneither c.name c.sourceCode
      (fun _ h => by simpa [hnoInput] using wrappedInput?_eq_some.2 h)
      (fun _ h => by simpa [hnoMap] using fileMap?_eq_some.2 h)
  obtain ⟨rs, hrs, hfiles, hall⟩ := hrecords "0x99" "eth" oneFile c hlists
  refine ⟨hinput, fun h => hapart _ _ _ ⟨hinput, h⟩, hwrapped _ _ _ hinput, hlists, hsingle, rs,
    hrs, ?_, fun r hr => ?_⟩
  · rw [hfiles, hsingle]
    exact if_neg (by decide)
  · obtain ⟨hname, hlibrary, habi, -⟩ := hall r hr
    exact ⟨hname, hlibrary, habi⟩

end Etherscan

end AddressTrace
