import AddressTrace.Proofs.Solidity.Lexemes
import AddressTrace.Proofs.Solidity.Reading.Statement

/-!
# What is found in a file

The identifiers, numbers and blocks of a file begin with lexemes of their own, in the order of the
nodes.  Lexemes stand one behind the other, so these nodes do, too.

## Main statements

* `Nested.finds_ofDepth` — the parsers for nested parts find the marks of these parts;
* `Parser.finds_sourceUnit` — so does the parser for a file;
* `exists_marked_outlines` — the marks of a file begin with lexemes of its text;
* `pairwise_start_outlines` — the marks of a file begin one behind the other.
-/

namespace AddressTrace.Solidity

open Text Outline

/-- **The parsers for nested parts find the marks of these parts**, at every depth. -/
theorem Nested.finds_ofDepth (rounds depth : Nat) : (Nested.ofDepth rounds depth).Finds := by
  induction depth with
  | zero => exact ⟨Parser.Finds.refuse, Parser.Finds.refuse, Parser.Finds.refuse⟩
  | succ depth ih =>
      constructor
      · exact Parser.finds_expression ih
      · exact Parser.finds_typeName ih
      · exact Parser.finds_statement ih

/-! ### Marks of definitions -/

/-- The marks of the arguments given to a base or a modifier. -/
def Invocation.marks (i : Invocation) : List Mark :=
  (i.arguments.getD []).flatMap fun e => e.outline.marks

@[simp] theorem marksAll_invocationsOutline (invocations : List Invocation) :
    marksAll (invocationsOutline invocations) = invocations.flatMap Invocation.marks := by
  simp only [invocationsOutline, marksAll_flatMap, Expr.outlines_eq, marksAll_map]
  rfl

/-- The marks of a variable: its name and those of its value. -/
def VariableDef.marks (v : VariableDef) : List Mark := marksAll v.parts

/-- The marks of a part of a contract. -/
def ContractPart.marks (p : ContractPart) : List Mark := marksAll p.outlines

/-- The marks of a part of a file. -/
def SourcePart.marks (p : SourcePart) : List Mark := marksAll p.outlines

theorem VariableDef.marks_eq (v : VariableDef) :
    v.marks = v.name.mark :: (v.value.elim [] fun e => e.outline.marks) := by
  obtain ⟨span, name, value⟩ := v
  cases value <;> simp [VariableDef.marks, VariableDef.parts, declared]

namespace Parser

variable {r : Nested}

/-! ### Functions -/

theorem finds_invocation (h : r.Finds) : Finds (invocation r) Invocation.marks := by
  intro c
  refine .pass (passes_path _) fun path _ => ?_
  refine .bind (finds_after "(" (finds_listUntil ")" h.expr _)) fun arguments _ => .pure ?_
  cases arguments <;> simp [Invocation.marks]

theorem passes_overrideTail : Passes (overrideTail r) := by
  refine (passes_after "(" ?_).bind fun _ => .pure _
  exact (passes_separated "," (passes_path _) _).bind fun _ => passes_symbol _

theorem finds_functionAttribute (h : r.Finds) : Finds (functionAttribute r) fun a =>
    a.elim [] fun a => a.elim [] Invocation.marks := by
  intro c
  refine .stay stays_nameAhead fun _ => .ite (fun _ => ?_) fun _ => ?_
  · exact .bind (finds_invocation h) fun i _ => .pure (List.Sublist.refl _)
  · refine .pass (passes_tryKeyword _) fun _ _ => .ite (fun _ => ?_) fun _ => ?_
    · exact .pass passes_overrideTail fun _ _ => .pure (List.nil_sublist _)
    · refine .pass (passes_oneWordOf _) fun word _ => ?_
      cases word with
      | none => exact .pure (List.nil_sublist _)
      | some word => exact .pure (List.nil_sublist _)

theorem finds_results (h : r.Finds) :
    Finds (results r) fun items => items.flatMap fun i => i.elim [] Item.marks := by
  intro c
  refine .pass (passes_tryKeyword _) fun _ _ => .pass (passes_tryKeyword _) fun _ _ => ?_
  refine .ite (fun _ => finds_parameters h _) fun _ => .pure (List.nil_sublist _)

theorem finds_body (h : r.Finds) : Finds (body r) fun s => s.elim [] fun s => s.outline.marks := by
  intro c
  refine .pass (passes_trySymbol _) fun _ _ => .ite (fun _ => ?_) fun _ => ?_
  · exact .pure (List.nil_sublist _)
  · exact .bind (finds_block h) fun s _ => .pure (List.Sublist.refl _)

/-- **What follows the name of a function** finds the marks of the function. -/
theorem finds_functionTail (h : r.Finds) (s : Nat) (name : Option Name)
    {params : Parser (List (Option Item))}
    (hparams : Finds params fun items => items.flatMap fun i => i.elim [] Item.marks) :
    Finds (functionTail r s name params) fun f => f.outline.marks := by
  intro c
  refine .bind hparams fun parameters _ => ?_
  refine .bind (finds_many (finds_functionAttribute h) _) fun attributes _ => ?_
  refine .bind (finds_results h) fun returns _ => .bind (finds_body h) fun body _ => ?_
  refine .spanFrom (.pure ?_)
  have hattributes : (attributes.filterMap id).flatMap Invocation.marks =
      attributes.flatMap fun a => a.elim [] Invocation.marks := by
    induction attributes with
    | nil => rfl
    | cons a as ih => cases a <;> simpa using ih
  have hparameters := marksAll_parametersOutline_sublist parameters
  have hreturns := marksAll_parametersOutline_sublist returns
  simp only [FunctionDef.outline, marks_node, Form.mark?, Option.toList_none, List.nil_append,
    marksAll_append, marksAll_invocationsOutline, hattributes, Stmt.optionalOutline_eq]
  refine ((hparameters.append (List.Sublist.refl _)).append hreturns).append ?_
  cases body <;> simp

theorem finds_modifier (h : r.Finds) (s : Nat) :
    Finds (modifier r s) fun f => f.outline.marks := by
  intro c
  refine .pass (passes_keyword _) fun _ _ => .pass passes_name fun name c => ?_
  refine finds_functionTail h s (some name) (fun c => ?_) c
  refine .stay (stays_nextIs _) fun _ => .ite (fun _ => finds_parameters h _) fun _ => ?_
  exact .pure (List.nil_sublist _)

theorem finds_entryPoint (h : r.Finds) (s : Nat) (word : String) :
    Finds (entryPoint r s word) fun f => f.outline.marks := by
  intro c
  refine .pass (passes_keyword _) fun _ _ => .pass passes_optionalName fun name c => ?_
  exact finds_functionTail h s name (finds_parameters h) c

/-! ### Variables -/

theorem passes_variableAttribute : Passes (variableAttribute r) :=
  (passes_tryKeyword _).bind fun _ =>
    .ite (passes_overrideTail.bind fun _ => .pure _) (passes_oneWordOf _)

theorem reads_variableTail (h : r.Finds) (s : Nat) (name : Name) (c : Cursor) :
    Reads (variableTail r s name) c [name.mark] VariableDef.marks := by
  refine .bind (finds_initializer h) fun value _ => ?_
  refine .spanFrom (.pass (passes_symbol _) fun _ _ => ?_)
  refine .pure ?_
  rw [VariableDef.marks_eq]
  exact List.Sublist.refl _

/-! ### Definitions without values -/

theorem passes_atWordPart (h : r.Finds) : Passes (atWordPart r) := by
  refine (passes_token _).bind fun _ => (passes_symbol _).bind fun _ => ?_
  exact (finds_expression h).passes.bind fun _ => passes_symbol _

theorem passes_enumeration : Passes (enumeration r) := by
  refine (passes_keyword _).bind fun _ => passes_name.bind fun _ => ?_
  refine (passes_symbol _).bind fun _ => ?_
  exact (passes_listUntil closeBrace passes_name _).bind fun _ => .pure _

theorem passes_typeName (h : r.Finds) : Passes (typeName r) := (finds_typeName h).passes

theorem passes_structureMember (h : r.Finds) : Passes (structureMember r) := by
  refine (passes_typeName h).bind fun _ => passes_tryStorage.bind fun _ => ?_
  exact passes_name.bind fun _ => passes_symbol _

theorem passes_structureDefinition (h : r.Finds) : Passes (structureDefinition r) := by
  refine (passes_keyword _).bind fun _ => passes_name.bind fun _ => ?_
  refine (passes_symbol _).bind fun _ => ?_
  exact (passes_allUntil closeBrace (passes_structureMember h) _).bind fun _ => .pure _

theorem passes_event (h : r.Finds) : Passes (event r) := by
  refine (passes_keyword _).bind fun _ => passes_name.bind fun _ => ?_
  refine (passes_symbol _).bind fun _ => ?_
  refine (passes_listUntil ")" ?_ _).bind fun _ => ?_
  · refine (passes_typeName h).bind fun _ => (passes_tryKeyword _).bind fun _ => ?_
    exact passes_optionalName.bind fun _ => .pure _
  · exact (passes_tryKeyword _).bind fun _ => passes_symbol _

theorem passes_errorTail (h : r.Finds) : Passes (errorTail r) := by
  refine (passes_listUntil ")" ?_ _).bind fun _ => passes_symbol _
  exact (passes_typeName h).bind fun _ => passes_optionalName.bind fun _ => .pure _

theorem passes_typeDefinitionTail (h : r.Finds) : Passes (typeDefinitionTail r) := by
  refine passes_name.bind fun _ => (passes_keyword _).bind fun _ => ?_
  exact (passes_typeName h).bind fun _ => passes_symbol _

theorem passes_userOperator : Passes userOperator := by
  refine stays_peek.passes.bind fun _ => ?_
  split
  · exact .ite (passes_symbol _) .refuse
  · exact .refuse

theorem passes_usingDirective (h : r.Finds) : Passes (usingDirective r) := by
  have htype : Passes (do
      if !(← trySymbol "*") then
        let _ ← typeName r
      let _ ← optionalName
      symbol ";") := by
    have hend : Passes (do
        let _ ← optionalName
        symbol ";") :=
      passes_optionalName.bind fun _ => passes_symbol _
    refine (passes_trySymbol _).bind fun _ => .ite ?_ hend
    exact (passes_typeName h).bind fun _ => hend
  refine (passes_keyword _).bind fun _ => (passes_trySymbol _).bind fun _ => .ite ?_ ?_
  · refine (passes_listUntil closeBrace ?_ _).bind fun _ => (passes_keyword _).bind fun _ => htype
    refine (passes_path _).bind fun _ => (passes_tryKeyword _).bind fun _ => ?_
    exact .ite passes_userOperator (.pure _)
  · exact (passes_path _).bind fun _ => (passes_keyword _).bind fun _ => htype

theorem passes_importPath : Passes (importPath r) := by
  refine passes_tryString.bind fun part => ?_
  cases part with
  | none => exact (passes_path _).bind fun _ => .pure _
  | some part => exact .pure _

theorem passes_fromWord : Passes fromWord :=
  passes_name.bind fun _ => .ite (.pure _) .refuse

theorem passes_importAlias : Passes importAlias :=
  (passes_tryKeyword _).bind fun _ => .ite (passes_name.bind fun _ => .pure _) (.pure _)

theorem passes_importDirective : Passes (importDirective r) := by
  refine (passes_keyword _).bind fun _ => (passes_trySymbol _).bind fun _ => .ite ?_ ?_
  · refine (passes_keyword _).bind fun _ => passes_name.bind fun _ => ?_
    refine passes_fromWord.bind fun _ => ?_
    exact passes_importPath.bind fun _ => passes_symbol _
  · refine (passes_trySymbol _).bind fun _ => .ite ?_ ?_
    · refine (passes_separated "," ?_ _).bind fun _ => (passes_symbol _).bind fun _ => ?_
      · exact passes_name.bind fun _ => passes_importAlias
      · refine passes_fromWord.bind fun _ => passes_importPath.bind fun _ => passes_symbol _
    · refine passes_importPath.bind fun _ => passes_importAlias.bind fun _ => passes_symbol _

theorem passes_version : Passes (version r) := by
  refine (passes_separated "." ?_ _).bind fun _ => .pure _
  refine Passes.bind ?_ fun _ => .ite (.pure _) .refuse
  refine stays_peek.passes.bind fun _ => ?_
  split
  · exact (passes_token _).bind fun _ => .pure _
  · exact .pure _

theorem passes_versionRange : Passes (versionRange r) := by
  refine stays_peek.passes.bind fun _ => ?_
  split
  · exact .ite ((passes_symbol _).bind fun _ => passes_version) .refuse
  · exact passes_version.bind fun _ => (passes_after "-" passes_version).bind fun _ => .pure _

theorem passes_pragma : Passes (pragma r) := by
  refine (passes_keyword _).bind fun _ => passes_name.bind fun _ => ?_
  refine stays_peek.passes.bind fun _ => ?_
  split
  · exact (passes_token _).bind fun _ => passes_symbol _
  · exact (passes_token _).bind fun _ => passes_symbol _
  · refine passes_versionRange.bind fun _ => (passes_many ?_ _).bind fun _ => .pure _
    refine (passes_trySymbol _).bind fun _ => .ite (.pure _) ?_
    exact (passes_trySymbol _).bind fun _ => passes_versionRange.bind fun _ => .pure _

/-! ### Parts of files and contracts -/

/-- The attributes, the name and the value of a variable, or the parameters of an error. -/
theorem finds_typedTail (h : r.Finds) (s : Nat) : Finds (typedTail r s) ContractPart.marks := by
  intro c
  have hvariable (name : Name) (c : Cursor) : Reads (do
      return .state (← variableTail r s name)) c [name.mark] ContractPart.marks := by
    refine (reads_variableTail h s name c).andThen fun v _ => .pure ?_
    simp [ContractPart.marks, ContractPart.outlines, VariableDef.marks]
  refine .pass (passes_many passes_variableAttribute _) fun attributes _ => ?_
  refine .bind finds_name fun name _ => .ite (fun _ => ?_) fun _ => hvariable name _
  refine .pass (passes_trySymbol _) fun _ _ => .ite (fun _ => ?_) fun _ => hvariable name _
  exact .pass (passes_errorTail h) fun _ _ => .pure (List.nil_sublist _)

theorem finds_typedDefinition (h : r.Finds) (s : Nat) :
    Finds (typedDefinition r s) ContractPart.marks :=
  fun _ => .pass (passes_typeName h) fun _ c => finds_typedTail h s c

/-- A function without a name, or a variable whose type is that of a function. -/
theorem finds_functionTypeDefinition (h : r.Finds) (s : Nat) :
    Finds (functionTypeDefinition r s) ContractPart.marks := by
  intro c
  refine .bind (finds_functionTypeTail h) fun (parameters, returns) _ => ?_
  refine .stay (stays_nextIs _) fun _ => .stay (stays_nextIs _) fun _ => ?_
  refine .ite (fun _ => ?_) fun _ => ?_
  · refine .bind (finds_body h) fun body _ => .spanFrom (.pure ?_)
    have hparameters := marksAll_parametersOutline_sublist parameters
    have hreturns := marksAll_parametersOutline_sublist returns
    rw [List.flatMap_append, List.nil_append]
    refine List.Sublist.trans ?_ ((hparameters.append hreturns).append_right _)
    cases body <;> simp [ContractPart.marks, ContractPart.outlines, FunctionDef.outline,
      invocationsOutline]
  · refine .spanFrom (.pass ?_ fun e c => ?_)
    · exact fun c => (reads_operandSteps h s r.rounds _ c).weaken fun _ => List.nil_sublist _
    · refine Reads.more ?_ (List.nil_sublist _)
      split
      · refine .bind finds_name fun name c => (reads_variableTail h s name c).andThen fun v _ => ?_
        refine .pure ?_
        simp [ContractPart.marks, ContractPart.outlines, VariableDef.marks]
      · exact finds_typedTail h s c

theorem finds_functionDefinition (h : r.Finds) (s : Nat) :
    Finds (functionDefinition r s) ContractPart.marks := by
  intro c
  refine .pass (passes_keyword _) fun _ _ => .stay stays_nameAhead fun _ => .ite (fun _ => ?_) ?_
  · refine .pass passes_name fun name _ => ?_
    refine .bind (finds_functionTail h s (some name) (finds_parameters h)) fun f _ => .pure ?_
    simp [ContractPart.marks, ContractPart.outlines]
  · exact fun _ => finds_functionTypeDefinition h s _

theorem finds_dropped {p : Parser Unit} (hp : Passes p) : Finds (dropped p) ContractPart.marks :=
  fun _ => .pass hp fun _ _ => .pure (List.nil_sublist _)

/-- **A part that may stand in a file and in a contract** finds its marks. -/
theorem finds_sharedPart (h : r.Finds) (s : Nat) : Finds (sharedPart r s) ContractPart.marks := by
  intro c
  refine .stay stays_peek fun _ => ?_
  split
  · exact finds_dropped (passes_symbol _) c
  · exact finds_dropped (passes_atWordPart h) c
  · exact finds_dropped (passes_structureDefinition h) c
  · exact finds_dropped (passes_event h) c
  · exact finds_dropped passes_enumeration c
  · exact finds_dropped (passes_usingDirective h) c
  · exact finds_functionDefinition h s c
  · refine .stay stays_peekSecond fun _ => .ite (fun _ => ?_) fun _ => finds_typedDefinition h s c
    exact finds_dropped ((passes_keyword _).bind fun _ => passes_typeDefinitionTail h) c
  · exact finds_typedDefinition h s c

theorem finds_contractPart (h : r.Finds) : Finds (contractPart r) ContractPart.marks := by
  intro c
  refine .start (.stay stays_peek fun _ => ?_)
  split
  · refine .ite (fun _ => ?_) fun _ => .ite (fun _ => ?_) fun _ => finds_sharedPart h _ c
    · refine .bind (finds_modifier h _) fun f _ => .pure ?_
      simp [ContractPart.marks, ContractPart.outlines]
    · refine .bind (finds_entryPoint h _ _) fun f _ => .pure ?_
      simp [ContractPart.marks, ContractPart.outlines]
  · exact finds_sharedPart h _ c

/-- **A contract finds its marks.** -/
theorem finds_contract (h : r.Finds) (s : Nat) (word : String) :
    Finds (contract r s word) fun d => d.outline.marks := by
  intro c
  have hparts (name : Name) (bases : List Invocation) (c : Cursor) :
      Reads (do
        symbol openBrace
        let parts ← allUntil closeBrace (contractPart r) r.rounds
        return (⟨← spanFrom s, name, bases, parts⟩ : ContractDef)) c
        (bases.flatMap Invocation.marks) fun d => d.outline.marks := by
    refine .pass (passes_symbol _) fun _ _ => ?_
    refine .bind (finds_allUntil closeBrace (finds_contractPart h) _) fun parts _ => ?_
    refine .spanFrom (.pure ?_)
    simp only [ContractDef.outline, marks_node, Form.mark?, Option.toList_none, List.nil_append,
      marksAll_append, marksAll_invocationsOutline, marksAll_flatMap]
    exact List.Sublist.refl _
  have hrest (c : Cursor) : Reads (do
      let name ← name
      let bases ← do
        if ← tryKeyword "is" then separated "," (invocation r) r.rounds else pure []
      symbol openBrace
      let parts ← allUntil closeBrace (contractPart r) r.rounds
      return (⟨← spanFrom s, name, bases, parts⟩ : ContractDef)) c [] fun d => d.outline.marks := by
    refine .pass passes_name fun name _ => .pass (passes_tryKeyword _) fun _ _ => .ite ?_ ?_
    · refine fun _ => .bind (finds_separated "," (finds_invocation h) _) fun bases c => ?_
      exact hparts name bases c
    · exact fun _ => hparts name [] _
  refine .pass (passes_keyword _) fun _ _ => .ite (fun _ => ?_) fun _ => hrest _
  exact .pass (passes_keyword _) fun _ c => hrest c

theorem marks_ofContractPart (p : ContractPart) : (ofContractPart p).marks = p.marks := by
  cases p <;> simp [ofContractPart, SourcePart.marks, SourcePart.outlines, ContractPart.marks,
    ContractPart.outlines]

/-- **A part of a file finds its marks.** -/
theorem finds_sourcePart (h : r.Finds) : Finds (sourcePart r) SourcePart.marks := by
  intro c
  have hshared (s : Nat) (c : Cursor) : Reads (do
      return ofContractPart (← sharedPart r s)) c [] SourcePart.marks := by
    refine .bind (finds_sharedPart h s) fun p _ => .pure ?_
    rw [marks_ofContractPart]
    exact List.Sublist.refl _
  refine .start (.stay stays_peek fun _ => ?_)
  split
  · exact .pass passes_pragma fun _ _ => .pure (List.nil_sublist _)
  · exact .pass passes_importDirective fun _ _ => .pure (List.nil_sublist _)
  · refine .ite (fun _ => ?_) fun _ => hshared _ c
    refine .bind (finds_contract h _ _) fun d _ => .pure ?_
    simp [SourcePart.marks, SourcePart.outlines]
  · exact hshared _ c

/-- **The parser for a file finds the marks of its parts.** -/
theorem finds_sourceUnit (h : r.Finds) :
    Finds (sourceUnit r) fun unit => unit.flatMap SourcePart.marks := by
  refine finds_many (fun c => ?_) _
  refine .stay stays_peek fun _ => .ite (fun _ => ?_) fun _ => ?_
  · exact .pure (List.nil_sublist _)
  · exact .bind (finds_sourcePart h) fun p _ => .pure (List.Sublist.refl _)

end Parser

/-- **The marks of a file begin with lexemes of its text**, in their order. -/
theorem exists_marked_outlines {source : String} {unit : SourceUnit}
    (h : sourceUnit? source = some unit) :
    ∃ lexemes, lexemes? source.toList = some lexemes ∧
      Marked (marksAll (outlines unit)) lexemes := by
  obtain ⟨lexemes, hlexemes, hparse⟩ := Option.bind_eq_some_iff.1 h
  obtain ⟨⟨unit, c⟩, hrun, rfl⟩ := Option.map_eq_some_iff.1 hparse
  have hfinds := Nested.finds_ofDepth (lexemes.length + 1) (lexemes.length + 1)
  obtain ⟨used, found, htakes, hmarked, hsub⟩ :=
    Parser.finds_sourceUnit hfinds ⟨0, lexemes⟩ unit c hrun
  have hmarks : marksAll (outlines unit) = unit.flatMap SourcePart.marks := by
    rw [outlines, marksAll_flatMap]
    rfl
  have hlexemes' : lexemes = used ++ c.rest := htakes.rest_eq
  refine ⟨lexemes, hlexemes, ?_⟩
  rw [hmarks, hlexemes']
  simpa using (hmarked.sublist hsub).append (.of_nil c.rest)

/-- **The marks of a file begin one behind the other.** -/
theorem pairwise_start_outlines {source : String} {unit : SourceUnit}
    (h : sourceUnit? source = some unit) :
    (marksAll (outlines unit)).Pairwise fun m n => m.start < n.start := by
  obtain ⟨lexemes, hlexemes, hmarked⟩ := exists_marked_outlines h
  exact hmarked.pairwise_start (start_lt_start_of_lexemes? hlexemes)

end AddressTrace.Solidity
