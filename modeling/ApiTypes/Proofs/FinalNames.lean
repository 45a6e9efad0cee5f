import ApiTypes.Proofs.NamingHistory
import ApiTypes.Proofs.SettledNames
import ApiTypes.Text.Latin

/-!
# The names of models in a result

What a model is called in the end can be read off the document: its registered name, what its
operations suggest, and its origin.

* `ApiDocument.hints` — the suggested names, in the order of the document.
* `namings_of_nil`, `name?_suggestions` — without names from the configuration nothing else counts.
* `ApiDocument.FinalName` — the names that a model may end up with.
* `finalName_of_mem` — **it does end up with one of them**, and changes are counted.
-/

namespace ApiTypes

/-! ## Suggested names -/

namespace ApiDocument

variable [Spelling]

/-- The names that operations suggest for keys, in order: that of its body before those of its
responses. -/
def hints (document : ApiDocument) (config : Config) : List (String × String) :=
  document.operations.flatMap fun o =>
    (o.requestBody.toList.flatMap fun b => (document.bodyHint? config b).toList) ++
      o.responses.flatMap fun e => (document.responseHint? e.1 e.2).toList

/-- The first name that is suggested for a key, or for one that is the same in camel case. -/
def hint? (document : ApiDocument) (config : Config) (key : String) : Option String :=
  ((document.hints config).find? fun e => Name.camelize e.1 = Name.camelize key).map (·.2)

end ApiDocument

namespace ApiDocument.Run

variable [Spelling] {document : ApiDocument} {config : Config} {parts : ResolvedDocument}
  {api : TypedApi} {statistics : Statistics}

/-- Without names from the configuration all names are suggested ones. -/
lemma namings_of_nil (hnames : config.responseNames = []) :
    document.namings config = (document.hints config).map fun hint => ⟨hint.1, hint.2, false⟩ := by
  have hfree : ∀ className : Option String, className.bind config.responseName? = none := by
    intro className
    rw [Option.bind_eq_none_iff]
    intro name _
    rw [Config.responseName?, hnames]
    rfl
  have hresponse : ∀ code r, document.responseNaming? config code r =
      (document.responseHint? code r).map fun hint => ⟨hint.1, hint.2, false⟩ := fun code r => by
    rcases hkey : r.schema.bind (·.referenceName) with _ | key
    · simp [responseNaming?, responseHint?, hkey]
    · simp [responseNaming?, hkey, hfree]
  rw [namings, hints, List.map_flatMap]
  congr 1
  funext o
  simp [hresponse, List.map_flatMap, Option.toList_map]

lemma not_forced_of_nil (hnames : config.responseNames = []) :
    ∀ n ∈ document.namings config, n.forced = false := by
  rw [namings_of_nil hnames]
  exact List.forall_mem_map.2 fun _ _ => rfl

lemma forced_suggestions (run : document.Run config parts api statistics)
    (hnames : config.responseNames = []) :
    (Scope.suggestions ⟨parts.registry, config⟩ document.operations).forced = [] := by
  rw [run.suggestions_eq, Suggestions.ofHistory,
    Suggestions.forced_foldl_record (not_forced_of_nil hnames)]
  rfl

lemma name?_suggestions (run : document.Run config parts api statistics)
    (hnames : config.responseNames = []) (key : String) :
    (Scope.suggestions ⟨parts.registry, config⟩ document.operations).name? key =
      document.hint? config key := by
  have hoverride : document.override? config key = none := by
    rw [override?, Naming.lastForced, Option.map_eq_none_iff, List.find?_eq_none]
    exact fun n hn => by simp [not_forced_of_nil hnames n (List.mem_reverse.1 hn)]
  rw [run.name?_eq, hoverride, suggestion?, namings_of_nil hnames, hint?]
  simp [Naming.firstSuggested, Naming.isFor, List.find?_map, Function.comp_def]

/-- A model says of no change before names are settled. -/
lemma not_renamed (run : document.Run config parts api statistics) :
    ∀ e ∈ parts.registry.models, Settlement.isRenamed e.2 = false := by
  rintro ⟨key, m⟩ he
  have hm := run.parts_consistent.get?_eq_some.2 he
  obtain ⟨spec, hspec, -⟩ := run.exists_spec hm
  obtain ⟨made, memo, before, after, hmade, rfl⟩ := run.exists_made hspec hm
  refine decide_eq_false fun hmem => hmade.not_renamed ?_
  exact (Registry.mem_flags_withMapLike (by decide)).1 hmem

/-- A model is a union when its schema is one. -/
lemma isUnion_iff (run : document.Run config parts api statistics)
    {key : String} {spec : ModelSpec} {m : ModelDescriptor}
    (hspec : (key, spec) ∈ document.models) (hm : parts.registry.get? key = some m) :
    m.isUnion = true ↔ ∃ kind variants, spec.schema.shape = .union kind variants := by
  obtain ⟨made, memo, before, after, hmade, rfl⟩ := run.exists_made hspec hm
  rw [← hmade.isUnion_iff, ModelDescriptor.isUnion, ModelDescriptor.isUnion, List.contains_iff_mem,
    List.contains_iff_mem]
  exact Registry.mem_flags_withMapLike (by decide)

end ApiDocument.Run

/-! ## Final names -/

/-- The class name that a model takes for a suggested name; unions are called enums. -/
def ModelSpec.wanted [Spelling] (spec : ModelSpec) (suggested : String) : String :=
  match spec.schema.shape with
  | .union _ _ => Name.className suggested ++ "Enum"
  | _ => Name.className suggested

lemma ModelSpec.className_desiredName [AsciiSpelling] {spec : ModelSpec} {isUnion : Bool}
    (h : isUnion = true ↔ ∃ kind variants, spec.schema.shape = .union kind variants)
    (suggested : String) :
    Name.className (desiredName suggested isUnion) = spec.wanted suggested := by
  rw [desiredName, wanted]
  split
  · rename_i hunion
    obtain ⟨kind, variants, hshape⟩ := h.1 hunion
    rw [hshape]
    exact Name.className_of_legal (Name.className_legal suggested).append_enum
  · rename_i hunion
    split
    · rename_i kind variants hshape
      exact absurd (h.2 ⟨kind, variants, hshape⟩) hunion
    · rfl

/-- **The names that a model may end up with**, from the one that was registered for its key. -/
def ApiDocument.FinalName [Spelling] (document : ApiDocument) (config : Config) (key : String)
    (spec : ModelSpec) (registered final : String) : Prop :=
  match spec.origin with
  | .declared => final = registered
  | .composed => final = registered ∨ ∃ rest, rest ≠ "" ∧
      (registered = "OneOf" ++ rest ∨ registered = "AnyOf" ++ rest) ∧ final = Name.className rest
  | .requestBody | .inlineResponse =>
    match document.hint? config key with
    | none => final = registered
    | some suggested => Name.NumberedFrom (spec.wanted suggested) final

/-- What has become of a model is called so. -/
lemma Settlement.Outcome.finalName [AsciiSpelling] {document : ApiDocument} {config : Config}
    {key : String} {spec : ModelSpec} {m m' : ModelDescriptor}
    (h : Settlement.Outcome (document.hint? config key) m m') (horigin : m.origin = spec.origin)
    (hunion : m.isUnion = true ↔ ∃ kind variants, spec.schema.shape = .union kind variants) :
    document.FinalName config key spec m.className m'.className := by
  rw [ApiDocument.FinalName]
  cases h with
  | declared h => simp [← horigin, h]
  | composed h hname =>
    rw [← horigin, h, ModelDescriptor.className_called]
    rcases hname with hname | ⟨rest, hrest, hname⟩
    · exact Or.inl hname
    · obtain ⟨hne, hmarker⟩ := withoutUnionMarker_eq_some hrest
      exact Or.inr ⟨rest, hne, hmarker, hname⟩
  | unnamed h hsuggested => rcases h with h | h <;> simp [← horigin, h, hsuggested]
  | body h hsuggested hname =>
    rw [ModelSpec.className_desiredName hunion] at hname
    rw [← horigin, h, hsuggested]
    simpa [ModelDescriptor.asBody] using hname
  | response h hsuggested hname =>
    rw [ModelSpec.className_desiredName hunion] at hname
    rw [← horigin, h, hsuggested]
    simpa using hname

/-- **Every model ends up with one of its names**, when the configuration has none for responses.
It says that its name was changed just when it is not the registered one, and as many changes are
counted as models say so. -/
theorem finalName_of_mem [AsciiSpelling] {document : ApiDocument} {config : Config} {api : TypedApi}
    {statistics : Statistics}
    (hnames : config.responseNames = []) (h : document.resolve config = .ok (api, statistics)) :
    (∀ e ∈ api.models, ∃ spec registered, (e.2.key, spec) ∈ document.models ∧
      (Registry.ofDocument document).1.className? e.2.key = some registered ∧
      document.FinalName config e.2.key spec registered e.1 ∧
      (ModelFlag.renamed ∈ e.2.flags ↔ e.1 ≠ registered)) ∧
    statistics.modelsRenamed = api.models.countP fun e => ModelFlag.renamed ∈ e.2.flags := by
  obtain ⟨parts, run⟩ := ApiDocument.exists_run h
  have hforced := run.forced_suggestions hnames
  constructor
  · intro e he
    obtain ⟨left, m, spec, hleft, htitle, heq, hm, hspec, horigin, -⟩ :=
      run.exists_source he
    have houtcome := outcome_settle run.parts_consistent run.parts_legalNames hforced hm hleft
    rw [run.name?_suggestions hnames] at houtcome
    have hunchanged : ModelFlag.renamed ∉ m.flags :=
      of_decide_eq_false (run.not_renamed _ (Members.mem_of_get? hm))
    refine ⟨spec, m.className, hspec, ?_, ?_, ?_⟩
    · rw [← run.className?_parts]
      exact Settlement.className?_of_get? hm
    · rw [htitle]
      exact houtcome.finalName horigin (run.isUnion_iff hspec hm)
    · rw [htitle, heq]
      exact houtcome.renamed_mem_iff hunchanged
  · rw [run.modelsRenamed_eq, run.models_eq, List.countP_map]
    exact renamed_settle run.parts_consistent run.not_renamed hforced _

theorem petShop_finalName : ({} : Config).responseNames = [] ∧
    ∃ api statistics, ApiDocument.petShop.resolve {} = .ok (api, statistics) ∧
      (∀ e ∈ api.models, ∃ spec registered, (e.2.key, spec) ∈ ApiDocument.petShop.models ∧
        (Registry.ofDocument ApiDocument.petShop).1.className? e.2.key = some registered ∧
        ApiDocument.petShop.FinalName {} e.2.key spec registered e.1 ∧
        (ModelFlag.renamed ∈ e.2.flags ↔ e.1 ≠ registered)) ∧
      statistics.modelsRenamed = api.models.countP fun e => ModelFlag.renamed ∈ e.2.flags := by
  obtain ⟨api, statistics, h⟩ := ApiDocument.exists_result_petShop
  exact ⟨rfl, api, statistics, h, finalName_of_mem rfl h⟩

end ApiTypes
