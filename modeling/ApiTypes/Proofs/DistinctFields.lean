import ApiTypes.Proofs.FieldName
import ApiTypes.Proofs.PropertyCoherence
import ApiTypes.Text.Latin

/-!
# Distinct fields

A property has the field that its name in the document makes, whatever the other properties of the
model are called.  So the fields of a model differ just when no two of the names that are declared
for it clash, and a model that declares two such names has two fields of one name.

* `PropertyDescriptor.FieldNamed` — a property with the field of its own name.
* `parts_fieldNamed` — all properties are so when they are made; `stable_fields`,
  `fields_finished` — and they stay so.
* `fields_nodup_iff` — **when the fields of a model differ.**
* `not_nodup_clashingFields` — a document with a model whose fields do not.
-/

namespace ApiTypes

open Resolving

/-- A property with the field that its name in the document makes. -/
def PropertyDescriptor.FieldNamed [Spelling] (p : PropertyDescriptor) : Prop :=
  p.name = Name.fieldName p.baseName

lemma PropertyFacts.fieldNamed_property [Spelling] (facts : PropertyFacts) (baseName : String)
    (required : Bool) : (facts.property baseName required).FieldNamed := by
  rw [PropertyDescriptor.FieldNamed, PropertyFacts.property]

namespace Scope

variable [Spelling] {scope : Scope} {owner : Owner} {memo memo' : MapLikeMemo}

lemma plainProperties_fieldNamed {schema : ObjectSchema} {ps : List PropertyDescriptor}
    (h : Gives (scope.plainProperties owner schema) ps) : ∀ p ∈ ps, p.FieldNamed := by
  intro p hp
  obtain ⟨e, -, facts, -, rfl⟩ := exists_described h p hp
  exact facts.fieldNamed_property _ _

lemma properties_fieldNamed {required : String → Bool} {declared : List (String × SchemaNode)}
    {ps : List PropertyDescriptor}
    (h : Gives (scope.properties owner required declared memo) (ps, memo')) :
    ∀ p ∈ ps, p.FieldNamed := by
  intro p hp
  obtain ⟨e, -, ⟨-, rfl⟩ | ⟨-, facts, -, rfl⟩⟩ := exists_declared h p hp
  · exact PropertyFacts.fieldNamed_property _ _ _
  · exact facts.fieldNamed_property _ _

lemma Modelled.fieldNamed {key : String} {spec : ModelSpec} {m : ModelDescriptor}
    (h : Modelled scope key spec memo m memo') : ∀ p ∈ m.properties, p.FieldNamed := by
  cases h with
  | record hname hshape hmapLike hps => exact properties_fieldNamed hps
  | _ => simp

end Scope

namespace ModelDescriptor

/-- What is seen of the names of properties: that of the field and that of the document. -/
def fields (m : ModelDescriptor) : List (String × String) :=
  m.properties.map fun p => (p.name, p.baseName)

lemma stable_fields : Stable fields where
  titled _ _ := rfl
  renamedFrom previous m := by
    simp [fields, renamedFrom, rebase, PropertyDescriptor.rebase]
  asBody _ := rfl

lemma fields_finished (classNames : String → Option String) (m : ModelDescriptor) :
    (m.finished classNames).fields = m.fields := by
  simp [fields, finished, withFacts, relabel, mapTypes, PropertyDescriptor.withFacts,
    PropertyDescriptor.mapTypes_eq]

end ModelDescriptor

namespace ApiDocument.Run

variable [Spelling] {document : ApiDocument} {config : Config} {parts : ResolvedDocument}
  {api : TypedApi} {statistics : Statistics}

/-- The properties of a model have their own fields, also those of a map-like object. -/
lemma parts_fieldNamed (run : document.Run config parts api statistics)
    {key : String} {spec : ModelSpec} {m : ModelDescriptor}
    (hspec : (key, spec) ∈ document.models) (hm : parts.registry.get? key = some m) :
    ∀ p ∈ m.properties, p.FieldNamed := by
  obtain ⟨made, _, _, hmade, ⟨-, -, rfl⟩ | ⟨schema, ps, -, hps, rfl⟩⟩ :=
    run.parts_cases hspec hm
  · exact hmade.fieldNamed
  · exact Scope.plainProperties_fieldNamed hps

lemma models_fieldNamed (run : document.Run config parts api statistics)
    {e : String × ModelDescriptor} (he : e ∈ api.models) :
    ∀ p ∈ e.2.properties, p.FieldNamed := by
  obtain ⟨left, m, spec, -, -, heq, hm, hspec, -, hstable⟩ := run.exists_source he
  have hfields : e.2.fields = m.fields := by
    rw [heq, ModelDescriptor.fields_finished, hstable _ ModelDescriptor.stable_fields]
  have hbefore : ∀ names ∈ m.fields, names.1 = Name.fieldName names.2 :=
    List.forall_mem_map.2 (run.parts_fieldNamed hspec hm)
  rw [← hfields] at hbefore
  exact fun p hp => hbefore _ (List.mem_map_of_mem hp)

end ApiDocument.Run

/-- **When the fields of a model differ.**  They are those of the names that are declared for the
model, in order, and they differ just when no two of these names clash.  It is taken for granted
that snake case keeps names compound. -/
theorem fields_nodup_iff [AsciiSpelling] (hsnake : Name.KeepsCompound Spelling.snakeCase)
    {document : ApiDocument} {config : Config} {api : TypedApi} {statistics : Statistics}
    (h : document.resolve config = .ok (api, statistics)) :
    ∀ e ∈ api.models, ∃ spec, (e.2.key, spec) ∈ document.models ∧
      e.2.properties.map (·.name) =
        (document.declared e.2.key spec).map (Name.fieldName ·.1) ∧
      ((e.2.properties.map (·.name)).Nodup ↔
        (document.declared e.2.key spec).Pairwise fun p q => ¬ Name.Clash p.1 q.1) := by
  obtain ⟨parts, run⟩ := ApiDocument.exists_run h
  intro e he
  obtain ⟨spec, hspec, hcoherent⟩ := run.models_coherent he
  have hnamed := run.models_fieldNamed he
  have hnames : e.2.properties.map (·.name) =
      (document.declared e.2.key spec).map (Name.fieldName ·.1) := by
    rw [← List.forall₂_eq_eq_eq, List.forall₂_map_left_iff, List.forall₂_map_right_iff]
    refine ((List.forall₂_and_left _ _).2 ⟨hnamed, hcoherent.properties⟩).imp ?_
    rintro p declared ⟨hp, -, hstands⟩
    exact hp.trans (congrArg Name.fieldName hstands.baseName_eq)
  refine ⟨spec, hspec, hnames, ?_⟩
  rw [hnames, List.Nodup, List.pairwise_map]
  simp only [ne_eq, Name.fieldName_eq_iff hsnake]

/-- A document with a model that declares two names of one field, and one that does not. -/
def ApiDocument.clashingFields : ApiDocument :=
  { title := "Users"
    version := "1"
    models :=
      [("user", { schema := ⟨.object { properties :=
          [("user id", ⟨.scalar { kind := .string }, []⟩),
            ("user-id", ⟨.scalar { kind := .boolean }, []⟩)] }, []⟩ }),
        ("branch", { schema := ⟨.object { properties :=
          [("ref", ⟨.scalar { kind := .string }, []⟩),
            ("self", ⟨.reference "user", []⟩)] }, []⟩ })] }

lemma ApiDocument.exists_result_clashingFields : ∃ api statistics,
    clashingFields.resolve {} = .ok (api, statistics) ∧
      api.models.map (fun e => (e.1, e.2.properties.map (·.name))) =
        [("User", ["user_id", "user_id"]), ("Branch", ["git_ref", "self_"])] :=
  exists_result_of (by decide +kernel)

theorem clashingFields_fields_nodup_iff : ∃ api statistics,
    ApiDocument.clashingFields.resolve {} = .ok (api, statistics) ∧
      api.models.map (·.1) = ["User", "Branch"] ∧
      ∀ e ∈ api.models, ∃ spec, (e.2.key, spec) ∈ ApiDocument.clashingFields.models ∧
        e.2.properties.map (·.name) =
          (ApiDocument.clashingFields.declared e.2.key spec).map (Name.fieldName ·.1) ∧
        ((e.2.properties.map (·.name)).Nodup ↔
          (ApiDocument.clashingFields.declared e.2.key spec).Pairwise
            fun p q => ¬ Name.Clash p.1 q.1) := by
  obtain ⟨api, statistics, h, hview⟩ := ApiDocument.exists_result_clashingFields
  have hnames := congrArg (List.map Prod.fst) hview
  rw [List.map_map] at hnames
  exact ⟨api, statistics, h, hnames, fields_nodup_iff Name.keepsCompound_snakeCase h⟩

/-- The two fields of the first model have one name. -/
theorem not_nodup_clashingFields : ∃ api statistics,
    ApiDocument.clashingFields.resolve {} = .ok (api, statistics) ∧
      ∃ e ∈ api.models, ¬ (e.2.properties.map (·.name)).Nodup := by
  obtain ⟨api, statistics, h, hview⟩ := ApiDocument.exists_result_clashingFields
  have hmem : ("User", ["user_id", "user_id"]) ∈
      api.models.map fun e => (e.1, e.2.properties.map (·.name)) := by
    rw [hview]
    exact List.mem_cons_self
  obtain ⟨e, he, heq⟩ := List.mem_map.1 hmem
  refine ⟨api, statistics, h, e, he, ?_⟩
  rw [(Prod.mk.inj heq).2]
  decide

end ApiTypes
