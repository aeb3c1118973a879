import AddressTrace.Proofs.Data.SortedMap
import AddressTrace.Proofs.Network.Ensures
import AddressTrace.Resolve.Analysis

/-!
# References by path

The source files of a contract are analysed one by one, and their references are put in a map by the
paths of the files.  Every path of a file gets an entry.  Files of one path share the entry, and it
is filled anew for each of them, so it holds the references of the last one, and those of the others
are lost.

## Main statements

* `ensures_addressesByPath` — the paths that have an entry, and what each entry holds;
* `not_every_file_kept` — a file without its references.
-/

namespace AddressTrace

section

variable {m : Type → Type} [Monad m] [LawfulMonad m] {net : Network m} (options : Options)
  {address chain : String} {records : List ContractRecord}

/-- What is known of the files that are put in a map. -/
theorem ensures_ofList_files
    (hlookup : Ensures (fun reply => reply.outcome = .ok records) (net.lookup address chain))
    (hne : records ≠ []) {R : ContractRecord → String × List Reference → Prop}
    (hfile : ∀ r ∈ records, Ensures (R r)
      (do return (r.path, (← analyse net options r).references))) :
    Ensures (fun outcome => ∃ files, List.Forall₂ R records files ∧ outcome = .ok (.ofList files))
      (addressesByPath net options address chain) := by
  refine hlookup.then fun reply hreply => ?_
  rw [hreply]
  cases records with
  | nil => exact absurd rfl hne
  | cons r records => exact (Ensures.mapM hfile).then fun files hfiles => .pure ⟨files, hfiles, rfl⟩

/-- **The references of a contract by path.**  When a lookup gives some files, their paths are the
keys, in ascending order.  Where each analysis of a file always gives the same references, the entry
of a path holds those of the last file of this path: all of them, and no others. -/
theorem ensures_addressesByPath
    (hlookup : Ensures (fun reply => reply.outcome = .ok records) (net.lookup address chain))
    (hne : records ≠ []) :
    Ensures (fun outcome => ∃ files, outcome = .ok files ∧ files.keys.Pairwise (· < ·) ∧
        ∀ path, path ∈ files.keys ↔ ∃ r ∈ records, r.path = path)
      (addressesByPath net options address chain) ∧
    ∀ given : ContractRecord → List Reference,
      (∀ r ∈ records, Ensures (fun a => a.references = given r) (analyse net options r)) →
      Ensures (fun outcome => ∃ files, outcome = .ok files ∧
          ∀ path references, files.find? path = some references ↔
            Assoc.LastAt path references (records.map fun r => (r.path, given r)))
        (addressesByPath net options address chain) := by
  constructor
  -- Of each pair only the path is known: what an analysis gives may change.
  · have hfile : ∀ r ∈ records, Ensures (fun e : String × List Reference => r.path = e.1)
        (do return (r.path, (← analyse net options r).references)) :=
      fun r _ => .bind fun a => .pure rfl
    refine (ensures_ofList_files options hlookup hne hfile).imp ?_
    rintro _ ⟨files, hfiles, rfl⟩
    have hpaths : List.Forall₂ Eq (records.map ContractRecord.path) (files.map Prod.fst) :=
      List.forall₂_map_left_iff.2 (List.forall₂_map_right_iff.2 hfiles)
    rw [List.forall₂_eq_eq_eq] at hpaths
    refine ⟨_, rfl, (SortedMap.ofList files).ascending, fun path => ?_⟩
    rw [SortedMap.mem_keys_ofList, ← hpaths, List.mem_map]
  · intro given hgiven
    have hfile : ∀ r ∈ records, Ensures (fun e : String × List Reference => (r.path, given r) = e)
        (do return (r.path, (← analyse net options r).references)) := fun r hr =>
      (hgiven r hr).then fun a ha => .pure (by rw [ha])
    refine (ensures_ofList_files options hlookup hne hfile).imp ?_
    rintro _ ⟨files, hfiles, rfl⟩
    have hgivens : List.Forall₂ Eq (records.map fun r => (r.path, given r)) files :=
      List.forall₂_map_left_iff.2 hfiles
    rw [List.forall₂_eq_eq_eq] at hgivens
    refine ⟨_, rfl, fun path references => ?_⟩
    rw [SortedMap.find?_ofList_eq_some, hgivens]

end

/-! ### Two files of one path -/

/-- A source file of a contract. -/
def fileAt (path sourceCode : String) : ContractRecord :=
  ⟨"0x9999999999999999999999999999999999999999", "ethereum", path, "C", sourceCode, "", none⟩

/-- The first of two source files at one path. -/
def firstFile : ContractRecord :=
  fileAt "/C.sol" "contract C \x7b address a = 0x1111111111111111111111111111111111111111; \x7d"

/-- A source file at another path. -/
def otherFile : ContractRecord :=
  fileAt "/D.sol" "contract D \x7b address b = 0x2222222222222222222222222222222222222222; \x7d"

/-- The last source file at the path of the first one. -/
def lastFile : ContractRecord :=
  fileAt "/C.sol" "contract E \x7b address e = 0x3333333333333333333333333333333333333333; \x7d"

/-- A world in which each contract has these files. -/
def threeFiles : World where
  lookup _ _ := ⟨0, .ok [firstFile, otherFile, lastFile]⟩
  call _ _ _ _ := ⟨0, .error .http⟩

/-- The entry of the shared path holds the references of its last file, and that of the other path
those of its only file. -/
theorem ensures_addressesByPath_threeFiles :
    ∃ files, (addressesByPath threeFiles.network .standard firstFile.address "ethereum").value =
        .ok files ∧
      files.find? "/C.sol" = some (analyse threeFiles.network .standard lastFile).value.references ∧
      files.find? "/D.sol" =
        some (analyse threeFiles.network .standard otherFile).value.references := by
  have hlookup : Ensures (fun reply => reply.outcome = .ok [firstFile, otherFile, lastFile])
      (threeFiles.network.lookup firstFile.address "ethereum") := ensures_iff_value.2 rfl
  obtain ⟨-, hentries⟩ := ensures_addressesByPath .standard hlookup (List.cons_ne_nil _ _)
  obtain ⟨files, hfiles, hfind⟩ := ensures_iff_value.1 (hentries
    (fun r => (analyse threeFiles.network .standard r).value.references)
    fun r _ => ensures_iff_value.2 rfl)
  have hlast : lastFile.path ≠ "/D.sol" := by decide
  exact ⟨files, hfiles, (hfind _ _).2 ⟨[_, _], [], rfl, List.forall_mem_nil _⟩,
    (hfind _ _).2 ⟨[_], [_], rfl, List.forall_mem_singleton.2 hlast⟩⟩

/-- **A file without its references**: the first one of the shared path has some, and the entry of
its path does not hold them. -/
theorem not_every_file_kept :
    ¬ ∀ r ∈ [firstFile, otherFile, lastFile],
      ∀ reference ∈ (analyse threeFiles.network .standard r).value.references,
        ∃ files references,
          (addressesByPath threeFiles.network .standard firstFile.address "ethereum").value =
            .ok files ∧
          files.find? r.path = some references ∧ reference ∈ references := by
  have hlost : ∃ reference ∈ (analyse threeFiles.network .standard firstFile).value.references,
      reference ∉ ((addressesByPath threeFiles.network .standard firstFile.address
        "ethereum").value.toOption.bind (·.find? firstFile.path)).getD [] := by
    decide +kernel
  intro hkept
  obtain ⟨reference, hreference, hnot⟩ := hlost
  obtain ⟨files, references, hfiles, hfind, hmem⟩ :=
    hkept firstFile List.mem_cons_self reference hreference
  rw [hfiles, Except.toOption, Option.bind_some, hfind] at hnot
  exact hnot hmem

end AddressTrace
