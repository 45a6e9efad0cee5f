import ApiTypes.Proofs.TakenNames
import ApiTypes.Text.Latin

/-!
# Names that the configuration forces

The configuration has new names for response types, by their registered class names.  They are kept
by keys in camel case, though, and two models whose keys are the same in camel case have different
class names: so the name of one of them is forced on both.  And what is forced on a lifted union
may still lose a marker.

* `ResolvedDocument.forcedName` — what a model ends up with on which a name is forced.
* `forced_finalName` — **which name is forced** on the model of a response, and what comes of it.
  `not_forced_namesakes` — a document where it is another model's.
-/

namespace ApiTypes

open Resolving

/-- The class name that a model ends up with on which a name is forced: the one that it takes for
it, and of a lifted union what is left of that one. -/
def ResolvedDocument.forcedName [Spelling] (parts : ResolvedDocument) (document : ApiDocument)
    (config : Config) (key : String) (origin : Origin) (forced : String) : String :=
  let taken := parts.nameAt document config key (Name.className forced)
  if origin = .composed then parts.unmarkedAt document config key taken else taken

/-- A response of some operation is nothing but a reference to the model of a key. -/
def ApiDocument.Returns (document : ApiDocument) (key : String) : Prop :=
  ∃ o ∈ document.operations, ∃ e ∈ o.responses, e.2.schema.bind (·.referenceName) = some key

namespace ApiDocument

variable {document : ApiDocument} {config : Config} {parts : ResolvedDocument} {api : TypedApi}
  {statistics : Statistics} {key registered wanted : String} {m : ModelDescriptor}

lemma naming_mem_of_returns [Spelling]
    (hregistered : document.registeredName? key = some registered)
    (hconfigured : config.responseName? registered = some wanted)
    (hreturns : document.Returns key) : ⟨key, wanted, true⟩ ∈ document.namings config := by
  obtain ⟨o, ho, e, he, hkey⟩ := hreturns
  have hnaming : document.responseNaming? config e.1 e.2 = some ⟨key, wanted, true⟩ := by
    rw [responseNaming?, hkey]
    simp [hregistered, hconfigured]
  refine List.mem_flatMap.2 ⟨o, ho, List.mem_append_right _ (List.mem_flatMap.2 ⟨e, he, ?_⟩)⟩
  rw [hnaming]
  exact List.mem_singleton_self _

namespace Run

/-- An operation refers to what its responses return. -/
lemma mem_references_of_returns [Spelling] (run : document.Run config parts api statistics)
    (hreturns : document.Returns key) : key ∈ parts.operations.flatMap (·.references) := by
  obtain ⟨models, memo, -, -, hoperations⟩ := run.exists_models
  obtain ⟨spec, hspec, e, he, hkey⟩ := hreturns
  obtain ⟨o, ho, hgives⟩ := exists_given_of_mem hoperations hspec
  obtain ⟨-, -, responses, -, -, hresponses, -, -, -, -, heq⟩ := Scope.operation_cases hgives
  obtain ⟨r, hr, hgives⟩ := exists_given_of_mem hresponses he
  obtain ⟨className, -, htype⟩ := Scope.response_of_reference hkey hgives
  refine List.mem_flatMap.2 ⟨o, ho, List.mem_flatMap.2 ⟨.model key className, ?_, ?_⟩⟩
  · exact List.mem_append_right _ (List.mem_filterMap.2 ⟨r, heq ▸ hr, htype⟩)
  · rw [TypeDescriptor.references_model]
    exact List.mem_singleton_self key

/-- A model that a response returns is in the result when a name is forced on it. -/
lemma className?_of_override [AsciiSpelling] (run : document.Run config parts api statistics)
    (hm : parts.registry.get? key = some m) {forced : String}
    (hoverride : document.override? config key = some forced) (hreturns : document.Returns key) :
    (parts.settled document config).registry.className? key =
      some (parts.forcedName document config key m.origin forced) := by
  have hnamed := run.get?_named_of_override hm hoverride
  have hneeded : key ∉ (parts.named document config).missing (parts.needed document config) :=
    fun hmissing => (run.needed_omissions.of_missing hmissing).2
      (Settlement.mem_referenced.2 (Or.inr (run.mem_references_of_returns hreturns)))
  have hsettled := run.get?_settled_of_named hnamed hneeded
  rw [Settlement.className?_of_get? hsettled, ModelDescriptor.stable_origin.called,
    ModelDescriptor.className_called, ResolvedDocument.forcedName]
  split <;> simp

end Run

end ApiDocument

/-- **What comes of a configured name.**  A model that a response returns is in the result when the
configuration has a name for its registered class name.  Its class name there is made from the name
that is forced on its key last: the configured one, unless a response returns another model whose
key is the same in camel case and which has a configured name, too.  It has a number when another
model held the name at its turn, and a lifted union may have lost a marker. -/
theorem forced_finalName [AsciiSpelling] {document : ApiDocument} {config : Config} {api : TypedApi}
    {statistics : Statistics}
    (h : document.resolve config = .ok (api, statistics)) {key registered wanted : String}
    {spec : ModelSpec} (hspec : (key, spec) ∈ document.models)
    (hregistered : document.registeredName? key = some registered)
    (hconfigured : config.responseName? registered = some wanted)
    (hreturns : document.Returns key) :
    ∃ parts forced, Gives (document.resolveParts config) parts ∧
      document.override? config key = some forced ∧
      ((∀ n ∈ document.namings config, n.forced = true →
        Name.camelize n.key = Name.camelize key → n.key = key) → forced = wanted) ∧
      ∃ e ∈ api.models, e.2.key = key ∧
        e.1 = parts.forcedName document config key spec.origin forced ∧
        (spec.origin ≠ .composed → Name.NumberedFrom (Name.className forced) e.1) := by
  obtain ⟨parts, run⟩ := ApiDocument.exists_run h
  obtain ⟨m, hm, horigin⟩ := run.exists_part hspec
  have hmem := ApiDocument.naming_mem_of_returns hregistered hconfigured hreturns
  obtain ⟨forced, hoverride⟩ := ApiDocument.exists_override hmem rfl
    (decide_eq_true (rfl : Name.camelize key = Name.camelize key))
  refine ⟨parts, forced, run.parts_given, hoverride, fun halone => ?_, ?_⟩
  · obtain ⟨n, hn, hforced, hfor, rfl⟩ := ApiDocument.mem_of_override hoverride
    obtain rfl := halone n hn hforced (of_decide_eq_true hfor)
    rcases ApiDocument.naming_cases hn with ⟨-, hname⟩ | ⟨hsuggested, -⟩
    · rw [hregistered, Option.bind_some, hconfigured] at hname
      exact (Option.some.inj hname).symm
    · rw [hforced] at hsuggested
      cases hsuggested
  · obtain ⟨e, he, hkey, hname⟩ := run.className?_settled_eq_some_iff.1
      (run.className?_of_override hm hoverride hreturns)
    rw [horigin] at hname
    refine ⟨e, he, hkey, hname, fun hlifted => ?_⟩
    rw [hname, ResolvedDocument.forcedName, if_neg hlifted]
    exact parts.nameAt_numberedFrom document config key _

/-- Two declared models whose keys are the same in camel case, each returned by an operation. -/
def ApiDocument.namesakes : ApiDocument :=
  { title := "Animals"
    version := "1"
    models :=
      [("pet", { schema := ⟨.scalar { kind := .string }, []⟩ }),
        ("Pet", { schema := ⟨.scalar { kind := .boolean }, []⟩ })]
    operations :=
      [{ path := "/pet"
         method := "get"
         responses := [("200", { schema := some ⟨.reference "pet", []⟩ })] },
        { path := "/pets"
          method := "get"
          responses := [("200", { schema := some ⟨.reference "Pet", []⟩ })] }] }

/-- A new name for each of them. -/
def Config.namesakes : Config :=
  { responseNames := [("Pet", "Animal"), ("Pet2", "Beast")] }

lemma ApiDocument.registeredName?_namesakes :
    namesakes.registeredName? "pet" = some "Pet" := by
  decide +kernel

lemma ApiDocument.returns_namesakes : namesakes.Returns "pet" :=
  ⟨_, List.mem_cons_self, _, List.mem_cons_self, rfl⟩

lemma ApiDocument.exists_result_namesakes : ∃ api statistics,
    namesakes.resolve .namesakes = .ok (api, statistics) ∧
      api.models.map (fun e => (e.2.key, e.1)) = [("pet", "Beast"), ("Pet", "Beast2")] :=
  exists_result_of (by decide +kernel)

theorem namesakes_forced_finalName : ∃ api statistics,
    ApiDocument.namesakes.resolve .namesakes = .ok (api, statistics) ∧
      ∃ parts forced, Gives (ApiDocument.namesakes.resolveParts .namesakes) parts ∧
        ApiDocument.namesakes.override? .namesakes "pet" = some forced ∧
        ∃ e ∈ api.models, e.2.key = "pet" ∧
          e.1 = parts.forcedName ApiDocument.namesakes .namesakes "pet" .declared forced ∧
          (Origin.declared ≠ .composed → Name.NumberedFrom (Name.className forced) e.1) := by
  obtain ⟨api, statistics, h, -⟩ := ApiDocument.exists_result_namesakes
  obtain ⟨parts, forced, hparts, hoverride, -, hmodel⟩ :=
    forced_finalName h List.mem_cons_self
      ApiDocument.registeredName?_namesakes rfl ApiDocument.returns_namesakes
  exact ⟨api, statistics, h, parts, forced, hparts, hoverride, hmodel⟩

/-- The model that is to be called `Animal` gets the name of the other. -/
theorem not_forced_namesakes : ∃ api statistics,
    ApiDocument.namesakes.resolve .namesakes = .ok (api, statistics) ∧
      ApiDocument.namesakes.registeredName? "pet" = some "Pet" ∧
      Config.namesakes.responseName? "Pet" = some "Animal" ∧
      ApiDocument.namesakes.Returns "pet" ∧
      ¬ ∃ e ∈ api.models, e.2.key = "pet" ∧
        Name.NumberedFrom (Name.className "Animal") e.1 := by
  obtain ⟨api, statistics, h, hnames⟩ := ApiDocument.exists_result_namesakes
  refine ⟨api, statistics, h,
    ApiDocument.registeredName?_namesakes, rfl, ApiDocument.returns_namesakes, ?_⟩
  rintro ⟨e, he, hkey, hname⟩
  have hmem := List.mem_map_of_mem (f := fun e : String × ModelDescriptor => (e.2.key, e.1)) he
  have hanimal : Name.className "Animal" = "Animal" := by decide +kernel
  rw [hnames, hkey] at hmem
  have hbeast : e.1 = "Beast" := by simpa using hmem
  rw [hanimal, hbeast] at hname
  -- no name that begins with `Animal` is `Beast`
  rcases hname with hname | ⟨i, -, hname⟩
  · exact absurd hname (by decide)
  · have hstart := congrArg (fun s : String => s.toList.head?) hname
    simp [Name.toList_numbered] at hstart

end ApiTypes
