import ApiTypes.Proofs.ForcedNames
import ApiTypes.Text.Latin

/-!
# Which declared models keep their names

The name of a declared model is its own: no operation suggests another, and settling leaves it
alone unless a name is forced on it.  When the configuration has no name for it, such a name can
only be lent: it is meant for another model, whose key is the same in camel case.

* `Run.get?_settled_of_declared` — what settling makes of a declared model.
* `ApiDocument.Lends` — a model whose configured name is forced on the key of another one.
* `declared_name_iff` — **when a declared model keeps its name**.  `not_declared_name_namesakes` —
  a document where it does not.
-/

namespace ApiTypes

open Resolving

/-- **A name that is meant for another model.**  A response returns it, the configuration has a name
for it, and its key is the same in camel case. -/
structure ApiDocument.Lends [Spelling] (document : ApiDocument) (config : Config)
    (key other forced : String) : Prop where
  ne : other ≠ key
  camelize_eq : Name.camelize other = Name.camelize key
  returns : document.Returns other
  configured : (document.registeredName? other).bind config.responseName? = some forced

namespace ApiDocument

variable {document : ApiDocument} {config : Config} {parts : ResolvedDocument} {api : TypedApi}
  {statistics : Statistics} {key registered : String} {m : ModelDescriptor}

/-- A name is forced on what a response returns. -/
lemma returns_of_naming_mem [Spelling] {n : Naming} (hn : n ∈ document.namings config)
    (hforced : n.forced = true) : document.Returns n.key := by
  obtain ⟨o, ho, hn⟩ := List.mem_flatMap.1 hn
  rcases List.mem_append.1 hn with hbody | hresponse
  · obtain ⟨b, -, hn⟩ := List.mem_flatMap.1 hbody
    obtain ⟨hint, -, rfl⟩ := Option.map_eq_some_iff.1 (Option.mem_toList.1 hn)
    cases hforced
  · obtain ⟨e, he, hn⟩ := List.mem_flatMap.1 hresponse
    refine ⟨o, ho, e, he, ?_⟩
    rw [Option.mem_toList, responseNaming?] at hn
    split at hn
    · cases hn
    · rename_i hkey
      rw [hkey]
      split at hn
      · rw [← Option.some.inj hn]
      · obtain ⟨hint, -, rfl⟩ := Option.map_eq_some_iff.1 hn
        cases hforced

/-- **What is forced on a model without a configured name is lent.** -/
lemma exists_lends [Spelling] (hregistered : document.registeredName? key = some registered)
    (hunconfigured : config.responseName? registered = none) {forced : String}
    (hoverride : document.override? config key = some forced) :
    ∃ other, document.Lends config key other forced := by
  obtain ⟨n, hn, hforced, hfor, rfl⟩ := mem_of_override hoverride
  have hconfigured : (document.registeredName? n.key).bind config.responseName? = some n.name := by
    rcases naming_cases hn with ⟨-, hname⟩ | ⟨hsuggested, -⟩
    · exact hname
    · rw [hforced] at hsuggested
      cases hsuggested
  refine ⟨n.key, fun hkey => ?_, of_decide_eq_true hfor, returns_of_naming_mem hn hforced,
    hconfigured⟩
  rw [hkey, hregistered, Option.bind_some, hunconfigured] at hconfigured
  cases hconfigured

namespace Run

/-- A declared model on which no name is forced is as it was, and any other takes the forced one. -/
lemma get?_settled_of_declared [AsciiSpelling] (run : document.Run config parts api statistics)
    (hm : parts.registry.get? key = some m) (horigin : m.origin = .declared) :
    (parts.settled document config).registry.get? key = some
      (match document.override? config key with
      | some forced => m.called (parts.nameAt document config key (Name.className forced))
      | none => m) := by
  have hlifted : document.originOf? key ≠ some .composed := by
    rw [run.originOf?_eq, hm, Option.map_some, horigin]
    simp
  rw [run.get?_settled_of_not_composed hlifted]
  cases hoverride : document.override? config key with
  | some forced => exact run.get?_named_of_override hm hoverride
  | none =>
    obtain ⟨-, hturn, heq⟩ := Settlement.get?_applySuggestions
      (s := ⟨parts.registry, 0, 0, []⟩) run.parts_consistent
      (Scope.suggestions ⟨parts.registry, config⟩ document.operations) hm
    have hforced : (Scope.suggestions ⟨parts.registry, config⟩ document.operations).isForced key =
        false := by
      rw [run.isForced_eq, hoverride]
      rfl
    rw [ResolvedDocument.named, heq, Settlement.ruling_of_free hforced, horigin]
    exact hturn

end Run

end ApiDocument

/-- **When a declared model keeps its name.**  It is in the result in any case.  When the
configuration has no name for its registered class name, it has that class name and does not count
as renamed just when a name that is forced on its key, if there is one, comes to the same.  Such a
name is lent, so the model keeps its own when no other model lends it one. -/
theorem declared_name_iff [AsciiSpelling] {document : ApiDocument} {config : Config}
    {api : TypedApi} {statistics : Statistics}
    (h : document.resolve config = .ok (api, statistics)) {key registered : String}
    {spec : ModelSpec} (hspec : (key, spec) ∈ document.models) (horigin : spec.origin = .declared)
    (hregistered : document.registeredName? key = some registered)
    (hunconfigured : config.responseName? registered = none) :
    ∃ parts, Gives (document.resolveParts config) parts ∧
      (∀ forced, document.override? config key = some forced →
        ∃ other, document.Lends config key other forced) ∧
      ∃ e ∈ api.models, e.2.key = key ∧
        ((e.1 = registered ∧ ModelFlag.renamed ∉ e.2.flags) ↔
          ∀ forced, document.override? config key = some forced →
            parts.nameAt document config key (Name.className forced) = registered) ∧
        ((∀ other forced, ¬ document.Lends config key other forced) →
          e.1 = registered ∧ ModelFlag.renamed ∉ e.2.flags) := by
  obtain ⟨parts, run⟩ := ApiDocument.exists_run h
  obtain ⟨m, hm, horigin'⟩ := run.exists_part hspec
  have hname : m.className = registered := by
    have hclassName := Settlement.className?_of_get? hm
    rw [run.className?_parts] at hclassName
    exact Option.some.inj (hclassName.symm.trans hregistered)
  have hunchanged : ModelFlag.renamed ∉ m.flags :=
    of_decide_eq_false (run.not_renamed _ (Members.mem_of_get? hm))
  obtain ⟨hmem, hkey⟩ := run.mem_models_of_get?
    (run.get?_settled_of_declared hm (horigin'.trans horigin))
  refine ⟨parts, run.parts_given, fun forced => ApiDocument.exists_lends hregistered hunconfigured,
    _, hmem, hkey, ?_, fun halone => ?_⟩
  · cases document.override? config key with
    | none => simp [hname, hunchanged]
    | some forced => simp [ModelDescriptor.renamed_mem_called, hname, hunchanged]
  · have hfree : document.override? config key = none := by
      rw [Option.eq_none_iff_forall_ne_some]
      intro forced hforced
      obtain ⟨other, hother⟩ := ApiDocument.exists_lends hregistered hunconfigured hforced
      exact halone other forced hother
    simp [hfree, hname, hunchanged]

/-- A new name for the second of two models whose keys are the same in camel case. -/
def Config.secondNamesake : Config :=
  { responseNames := [("Pet2", "Beast")] }

lemma ApiDocument.exists_result_secondNamesake : ∃ api statistics,
    namesakes.resolve .secondNamesake = .ok (api, statistics) ∧
      api.models.map (fun e => (e.2.key, e.1)) = [("pet", "Beast"), ("Pet", "Beast2")] :=
  exists_result_of (by decide +kernel)

theorem namesakes_declared_name_iff : ∃ api statistics,
    ApiDocument.namesakes.resolve .secondNamesake = .ok (api, statistics) ∧
      ∃ parts, Gives (ApiDocument.namesakes.resolveParts .secondNamesake) parts ∧
        ∃ e ∈ api.models, e.2.key = "pet" ∧
          ((e.1 = "Pet" ∧ ModelFlag.renamed ∉ e.2.flags) ↔
            ∀ forced, ApiDocument.namesakes.override? .secondNamesake "pet" = some forced →
              parts.nameAt ApiDocument.namesakes .secondNamesake "pet" (Name.className forced) =
                "Pet") := by
  obtain ⟨api, statistics, h, -⟩ := ApiDocument.exists_result_secondNamesake
  obtain ⟨parts, hparts, -, e, he, hkey, hiff, -⟩ :=
    declared_name_iff h List.mem_cons_self rfl ApiDocument.registeredName?_namesakes rfl
  exact ⟨api, statistics, h, parts, hparts, e, he, hkey, hiff⟩

/-- The first of the two models gets the name of the second. -/
theorem not_declared_name_namesakes : ∃ api statistics,
    ApiDocument.namesakes.resolve .secondNamesake = .ok (api, statistics) ∧
      ∃ spec, ("pet", spec) ∈ ApiDocument.namesakes.models ∧ spec.origin = .declared ∧
        ApiDocument.namesakes.registeredName? "pet" = some "Pet" ∧
        Config.secondNamesake.responseName? "Pet" = none ∧
        ¬ ∃ e ∈ api.models, e.2.key = "pet" ∧ e.1 = "Pet" ∧ ModelFlag.renamed ∉ e.2.flags := by
  obtain ⟨api, statistics, h, hnames⟩ := ApiDocument.exists_result_secondNamesake
  refine ⟨api, statistics, h, _, List.mem_cons_self, rfl,
    ApiDocument.registeredName?_namesakes, rfl, ?_⟩
  rintro ⟨e, he, hkey, hname, -⟩
  have hmem := List.mem_map_of_mem (f := fun e : String × ModelDescriptor => (e.2.key, e.1)) he
  rw [hnames, hkey, hname] at hmem
  revert hmem
  decide

end ApiTypes
