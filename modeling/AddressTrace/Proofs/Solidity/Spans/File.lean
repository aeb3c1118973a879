import AddressTrace.Proofs.Solidity.Reading.File
import AddressTrace.Proofs.Solidity.Spans.Statement

/-!
# The bytes of a file

The numbers, members and blocks of a file take bytes of its text.  The rules for definitions keep
what the rules for expressions and statements give them.

## Main statements

* `Nested.gives_ofDepth` — the parsers for nested parts give nodes in the text;
* `Parser.gives_sourceUnit` — so does the parser for a file;
* `sized_outlines` — the numbers, members and blocks of a file take bytes of its text.
-/

namespace AddressTrace.Solidity

open Text Outline

variable {source : List Char}

/-- **The parsers for nested parts give nodes in the text**, at every depth. -/
theorem Nested.gives_ofDepth (source : List Char) (rounds depth : Nat) :
    (Nested.ofDepth rounds depth).Gives source := by
  induction depth with
  | zero => exact ⟨Nested.finds_ofDepth rounds 0, fun _ => .refuse, fun _ => .refuse⟩
  | succ depth ih =>
      constructor
      · exact Nested.finds_ofDepth rounds (depth + 1)
      · exact Parser.gives_expression ih
      · exact Parser.gives_statement ih

/-- The arguments given to a base or a modifier are nodes in the text. -/
def Invocation.Sized (source : List Char) (i : Invocation) : Prop :=
  ∀ e ∈ i.arguments.getD [], e.Sized source

/-- The nodes of a part of a contract are nodes in the text. -/
abbrev ContractPart.Sized (source : List Char) (p : ContractPart) : Prop :=
  EverywhereAll (Outline.Sized source) p.outlines

theorem sized_invocationsOutline {invocations : List Invocation}
    (h : ∀ i ∈ invocations, i.Sized source) :
    EverywhereAll (Outline.Sized source) (invocationsOutline invocations) := by
  rw [invocationsOutline, everywhereAll_flatMap]
  intro i hi
  rw [Expr.outlines_eq, everywhereAll_map]
  exact h i hi

namespace Parser

variable {r : Nested}

/-! ### Functions -/

theorem gives_invocation (h : r.Gives source) :
    Gives source (invocation r) (Invocation.Sized source) := by
  intro c
  refine .pass (passes_path _) fun path _ _ => ?_
  refine .bind (gives_after "(" (gives_listUntil ")" h.expr _)) fun arguments _ harguments => ?_
  cases arguments with
  | none => exact .pure (by simp [Invocation.Sized])
  | some arguments => exact .pure (harguments arguments rfl)

theorem gives_functionAttribute (h : r.Gives source) : Gives source (functionAttribute r) fun a =>
    ∀ x ∈ a, ∀ i ∈ x, i.Sized source := by
  intro c
  refine .stay stays_nameAhead fun _ => .ite (fun _ => ?_) fun _ => ?_
  · exact .bind (gives_invocation h) fun i _ hi => .pure (by simpa using hi)
  · refine .pass (passes_tryKeyword _) fun _ _ _ => .ite (fun _ => ?_) fun _ => ?_
    · exact .pass passes_overrideTail fun _ _ _ => .pure (by simp)
    · refine .pass (passes_oneWordOf _) fun word _ _ => ?_
      cases word with
      | none => exact .pure (by simp)
      | some word => exact .pure (by simp)

theorem gives_body (h : r.Gives source) :
    Gives source (body r) fun s => ∀ x ∈ s, x.Sized source := by
  intro c
  refine .pass (passes_trySymbol _) fun _ _ _ => .ite (fun _ => .pure (by simp)) fun _ => ?_
  exact keeps_some (gives_block h _)

/-- A function is a node in the text if the arguments of its modifiers and its body are. -/
theorem sized_function {f : FunctionDef} (hinvocations : ∀ i ∈ f.invocations, i.Sized source)
    (hbody : ∀ s ∈ f.body, s.Sized source) : f.outline.Everywhere (Outline.Sized source) := by
  refine ⟨trivial, ?_⟩
  simpa using ⟨sized_parametersOutline _, sized_invocationsOutline hinvocations,
    sized_parametersOutline _, hbody⟩

/-- **What follows the name of a function** gives nodes in the text. -/
theorem gives_functionTail (h : r.Gives source) (s : Nat) (name : Option Name)
    {params : Parser (List (Option Item))} (hparams : Passes params) :
    Gives source (functionTail r s name params)
      fun f => f.outline.Everywhere (Outline.Sized source) := by
  intro c
  refine .pass hparams fun parameters _ _ => ?_
  refine .bind (gives_many (gives_functionAttribute h) _) fun attributes _ hattributes => ?_
  refine .pass (finds_results h.finds).passes fun returns _ _ => ?_
  refine .bind (gives_body h) fun body _ hbody => .spanFrom fun _ => .pure ?_
  refine sized_function (fun i hi => ?_) hbody
  obtain ⟨a, ha, hi⟩ := List.mem_filterMap.1 hi
  exact hattributes a ha i hi

theorem gives_modifier (h : r.Gives source) (s : Nat) :
    Gives source (modifier r s) fun f => f.outline.Everywhere (Outline.Sized source) := by
  intro c
  refine .pass (passes_keyword _) fun _ _ _ => .pass passes_name fun name c _ => ?_
  refine gives_functionTail h s (some name) ?_ c
  refine (stays_nextIs _).passes.bind fun _ => .ite ?_ (.pure _)
  exact (finds_parameters h.finds).passes

theorem gives_entryPoint (h : r.Gives source) (s : Nat) (word : String) :
    Gives source (entryPoint r s word) fun f => f.outline.Everywhere (Outline.Sized source) := by
  intro c
  refine .pass (passes_keyword _) fun _ _ _ => .pass passes_optionalName fun name c _ => ?_
  exact gives_functionTail h s name (finds_parameters h.finds).passes c

/-! ### Variables -/

theorem gives_variableTail (h : r.Gives source) (s : Nat) (name : Name) :
    Gives source (variableTail r s name)
      fun v => EverywhereAll (Outline.Sized source) v.parts := by
  intro c
  refine .bind (gives_initializer h) fun value _ hvalue => .spanFrom fun _ => ?_
  refine .pass (passes_symbol _) fun _ _ _ => .pure ⟨sized_declared _ _, ?_⟩
  simpa using hvalue

/-! ### Parts of files and contracts -/

theorem gives_stateVariable (h : r.Gives source) (s : Nat) (name : Name) :
    Gives source (do return .state (← variableTail r s name)) (ContractPart.Sized source) :=
  fun _ => .bind (gives_variableTail h s name) fun _ _ hv => .pure ⟨⟨trivial, hv⟩, trivial⟩

theorem gives_typedTail (h : r.Gives source) (s : Nat) :
    Gives source (typedTail r s) (ContractPart.Sized source) := by
  intro c
  refine .pass (passes_many passes_variableAttribute _) fun attributes _ _ => ?_
  have hvariable (name : Name) := gives_stateVariable h s name
  refine .pass passes_name fun name c _ => .ite (fun _ => ?_) fun _ => hvariable name c
  refine .pass (passes_trySymbol _) fun _ c _ => .ite (fun _ => ?_) fun _ => hvariable name c
  exact .pass (passes_errorTail h.finds) fun _ _ _ => .pure trivial

theorem gives_typedDefinition (h : r.Gives source) (s : Nat) :
    Gives source (typedDefinition r s) (ContractPart.Sized source) :=
  fun _ => .pass (passes_typeName h.finds) fun _ c _ => gives_typedTail h s c

/-- A function without a name, or a variable whose type is that of a function. -/
theorem gives_functionTypeDefinition (h : r.Gives source) (s : Nat) :
    Gives source (functionTypeDefinition r s) (ContractPart.Sized source) := by
  intro c
  refine .pass (passes_functionTypeTail h.finds) fun (parameters, returns) _ _ => ?_
  refine .stay (stays_nextIs _) fun _ => .stay (stays_nextIs _) fun _ => ?_
  refine .ite (fun _ => ?_) fun _ => ?_
  · refine .bind (gives_body h) fun body _ hbody => .spanFrom fun _ => .pure ⟨?_, trivial⟩
    exact sized_function (by simp) hbody
  · refine .spanFrom fun _ => .pass ?_ fun e c _ => ?_
    · exact fun c => (reads_operandSteps h.finds s r.rounds _ c).weaken
        fun _ => List.nil_sublist _
    · split
      · exact .pass passes_name fun name c _ => gives_stateVariable h s name c
      · exact gives_typedTail h s c

theorem gives_functionDefinition (h : r.Gives source) (s : Nat) :
    Gives source (functionDefinition r s) (ContractPart.Sized source) := by
  intro c
  refine .pass (passes_keyword _) fun _ _ _ => .stay stays_nameAhead fun _ => .ite (fun _ => ?_) ?_
  · refine .pass passes_name fun name _ _ => ?_
    refine .bind (gives_functionTail h s (some name) (finds_parameters h.finds).passes) ?_
    exact fun f _ hf => .pure ⟨hf, trivial⟩
  · exact fun _ => gives_functionTypeDefinition h s _

theorem gives_dropped {p : Parser Unit} (hp : Passes p) :
    Gives source (dropped p) (ContractPart.Sized source) :=
  fun _ => .pass hp fun _ _ _ => .pure trivial

/-- **A part that may stand in a file and in a contract** gives nodes in the text. -/
theorem gives_sharedPart (h : r.Gives source) (s : Nat) :
    Gives source (sharedPart r s) (ContractPart.Sized source) := by
  intro c
  refine .stay stays_peek fun _ => ?_
  split
  · exact gives_dropped (passes_symbol _) c
  · exact gives_dropped (passes_atWordPart h.finds) c
  · exact gives_dropped (passes_structureDefinition h.finds) c
  · exact gives_dropped (passes_event h.finds) c
  · exact gives_dropped passes_enumeration c
  · exact gives_dropped (passes_usingDirective h.finds) c
  · exact gives_functionDefinition h s c
  · refine .stay stays_peekSecond fun _ => .ite (fun _ => ?_) fun _ => gives_typedDefinition h s c
    exact gives_dropped ((passes_keyword _).bind fun _ => passes_typeDefinitionTail h.finds) c
  · exact gives_typedDefinition h s c

theorem gives_contractPart (h : r.Gives source) :
    Gives source (contractPart r) (ContractPart.Sized source) := by
  intro c
  refine .start (.stay stays_peek fun _ => ?_)
  split
  · refine .ite (fun _ => ?_) fun _ => .ite (fun _ => ?_) fun _ => gives_sharedPart h _ c
    · exact .bind (gives_modifier h _) fun f _ hf => .pure ⟨hf, trivial⟩
    · exact .bind (gives_entryPoint h _ _) fun f _ hf => .pure ⟨hf, trivial⟩
  · exact gives_sharedPart h _ c

/-- **A contract gives nodes in the text.** -/
theorem gives_contract (h : r.Gives source) (s : Nat) (word : String) :
    Gives source (contract r s word) fun d => d.outline.Everywhere (Outline.Sized source) := by
  intro c
  have hparts (name : Name) {bases : List Invocation} (hbases : ∀ i ∈ bases, i.Sized source)
      (c : Cursor) : Keeps source (do
        symbol openBrace
        let parts ← allUntil closeBrace (contractPart r) r.rounds
        return (⟨← spanFrom s, name, bases, parts⟩ : ContractDef)) c
        fun d => d.outline.Everywhere (Outline.Sized source) := by
    refine .pass (passes_symbol _) fun _ _ _ => ?_
    refine .bind (gives_allUntil closeBrace (gives_contractPart h) _) fun parts _ hp => ?_
    refine .spanFrom fun _ => .pure ⟨trivial, ?_⟩
    simpa using ⟨sized_invocationsOutline hbases, hp⟩
  have hrest (c : Cursor) : Keeps source (do
      let name ← name
      let bases ← do
        if ← tryKeyword "is" then separated "," (invocation r) r.rounds else pure []
      symbol openBrace
      let parts ← allUntil closeBrace (contractPart r) r.rounds
      return (⟨← spanFrom s, name, bases, parts⟩ : ContractDef)) c
      fun d => d.outline.Everywhere (Outline.Sized source) := by
    refine .pass passes_name fun name _ _ => .pass (passes_tryKeyword _) fun _ _ _ => .ite ?_ ?_
    · refine fun _ => .bind (gives_separated "," (gives_invocation h) _) fun bases c hbases => ?_
      exact hparts name hbases c
    · exact fun _ => hparts name (by simp) _
  refine .pass (passes_keyword _) fun _ _ _ => .ite (fun _ => ?_) fun _ => hrest _
  exact .pass (passes_keyword _) fun _ c _ => hrest c

theorem sized_ofContractPart {p : ContractPart} (h : p.Sized source) :
    EverywhereAll (Outline.Sized source) (ofContractPart p).outlines := by
  cases p with
  | state v => exact ⟨⟨trivial, h.1.2⟩, trivial⟩
  | function f => exact h
  | other => trivial

/-- **A part of a file gives nodes in the text.** -/
theorem gives_sourcePart (h : r.Gives source) : Gives source (sourcePart r)
    fun p => EverywhereAll (Outline.Sized source) p.outlines := by
  intro c
  have hshared (s : Nat) (c : Cursor) : Keeps source (do
      return ofContractPart (← sharedPart r s)) c
      fun p => EverywhereAll (Outline.Sized source) p.outlines :=
    .bind (gives_sharedPart h s) fun p _ hp => .pure (sized_ofContractPart hp)
  refine .start (.stay stays_peek fun _ => ?_)
  split
  · exact .pass passes_pragma fun _ _ _ => .pure trivial
  · exact .pass passes_importDirective fun _ _ _ => .pure trivial
  · refine .ite (fun _ => ?_) fun _ => hshared _ c
    exact .bind (gives_contract h _ _) fun d _ hd => .pure ⟨hd, trivial⟩
  · exact hshared _ c

/-- **The parser for a file gives nodes in the text.** -/
theorem gives_sourceUnit (h : r.Gives source) : Gives source (sourceUnit r)
    fun unit => ∀ p ∈ unit, EverywhereAll (Outline.Sized source) p.outlines := by
  refine gives_many (fun c => ?_) _
  refine .stay stays_peek fun _ => .ite (fun _ => .pure (by simp)) fun _ => ?_
  exact .bind (gives_sourcePart h) fun p _ hp => .pure (by simpa using hp)

end Parser

/-- A cursor in front of the lexemes of a text. -/
theorem within_of_lexemes? {source : List Char} {lexemes : List Lexeme}
    (h : lexemes? source = some lexemes) : Cursor.Within source ⟨0, lexemes⟩ :=
  ⟨Nat.zero_le _, fun _ _ => Nat.zero_le _, scannedIn_of_lexemes? h, before_of_lexemes? h⟩

/-- **The numbers, members and blocks of a file take bytes of its text.** -/
theorem sized_outlines {source : String} {unit : SourceUnit}
    (h : sourceUnit? source = some unit) :
    EverywhereAll (Outline.Sized source.toList) (outlines unit) := by
  obtain ⟨lexemes, hlexemes, hparse⟩ := Option.bind_eq_some_iff.1 h
  obtain ⟨⟨unit, c⟩, hrun, rfl⟩ := Option.map_eq_some_iff.1 hparse
  have hgives := Nested.gives_ofDepth source.toList (lexemes.length + 1) (lexemes.length + 1)
  rw [outlines, everywhereAll_flatMap]
  exact (Parser.gives_sourceUnit hgives _ (within_of_lexemes? hlexemes) unit c hrun).2

end AddressTrace.Solidity
