import ApiTypes.Proofs.DroppedModels

/-!
# The names that models take

When names are settled it is the turn of one model after the other, and a model takes the name that
it is to have unless another model holds it at that time.  So the name that a model ends up with is
told by the name that it is to take and by who held what when it was its turn.

* `ResolvedDocument.nameAt` — the class name that a model takes for a wanted one.
* `Run.get?_named_of_override`, `Run.get?_named_of_body` — a model after its turn: when a name is
  forced on it, and when it is a body on which none is.
* `ResolvedDocument.unmarkedAt`, `Run.get?_settled_of_named` — what is left of it in the end.
* `Run.className?_settled_eq_some_iff` — the models of a result by their keys and class names.
-/

namespace ApiTypes

/-- **The class name that a model takes for a wanted one**: with a number when another model holds
that one at its turn. -/
def ResolvedDocument.nameAt [Spelling] (parts : ResolvedDocument) (document : ApiDocument)
    (config : Config) (key wanted : String) : String :=
  let turn := (Settlement.mk parts.registry 0 0 []).namingTurn
    (Scope.suggestions ⟨parts.registry, config⟩ document.operations) key
  turn.registry.nameFor key wanted

/-- The class name that a lifted union ends up with: without its marker when no other model holds
that name at its turn. -/
def ResolvedDocument.unmarkedAt [Spelling] (parts : ResolvedDocument) (document : ApiDocument)
    (config : Config) (key className : String) : String :=
  ((parts.needed document config).markerTurn key).registry.unmarked className

lemma ResolvedDocument.nameAt_numberedFrom [Spelling] (parts : ResolvedDocument)
    (document : ApiDocument) (config : Config) (key wanted : String) :
    Name.NumberedFrom wanted (parts.nameAt document config key wanted) :=
  Name.unique_eq_or_numbered _ _

namespace ApiDocument.Run

variable {document : ApiDocument} {config : Config} {parts : ResolvedDocument} {api : TypedApi}
  {statistics : Statistics} {key name : String} {m m' : ModelDescriptor}

/-! ## The turn of a model -/

/-- A forced name is taken by any model. -/
lemma get?_named_of_override [Spelling] (run : document.Run config parts api statistics)
    (hm : parts.registry.get? key = some m)
    (hoverride : document.override? config key = some name) :
    (parts.named document config).registry.get? key =
      some (m.called (parts.nameAt document config key (Name.className name))) := by
  obtain ⟨hmoves, hturn, heq⟩ := Settlement.get?_applySuggestions
    (s := ⟨parts.registry, 0, 0, []⟩) run.parts_consistent
    (Scope.suggestions ⟨parts.registry, config⟩ document.operations) hm
  have hruling : (Scope.suggestions ⟨parts.registry, config⟩ document.operations).ruling key
      m.origin m.isUnion = .rename name := by
    simp [Suggestions.ruling, run.isForced_eq, run.name?_eq, hoverride]
  rw [ResolvedDocument.named, heq, hruling]
  exact Settlement.get?_rename (hmoves.consistent run.parts_consistent) hturn name

/-- A body on which no name is forced takes the one that is suggested first.  Without any it stays
as it is, unless it is a union. -/
lemma get?_named_of_body [AsciiSpelling] (run : document.Run config parts api statistics)
    {spec : ModelSpec} (hspec : (key, spec) ∈ document.models)
    (horigin : spec.origin = .requestBody) (hm : parts.registry.get? key = some m)
    (hfree : document.override? config key = none) :
    (parts.named document config).registry.get? key =
      match document.suggestion? config key with
      | some name =>
        some (m.called (parts.nameAt document config key (spec.wanted name))).asBody
      | none => if m.isUnion then none else some m := by
  obtain ⟨hmoves, hturn, heq⟩ := Settlement.get?_applySuggestions
    (s := ⟨parts.registry, 0, 0, []⟩) run.parts_consistent
    (Scope.suggestions ⟨parts.registry, config⟩ document.operations) hm
  have hforced : (Scope.suggestions ⟨parts.registry, config⟩ document.operations).isForced key =
      false := by
    rw [run.isForced_eq, hfree]
    rfl
  have hbody : m.origin = .requestBody := by
    obtain ⟨m', hm', horigin'⟩ := run.exists_part hspec
    rw [Option.some.inj (hm.symm.trans hm'), horigin', horigin]
  have hconsistent := hmoves.consistent run.parts_consistent
  rw [ResolvedDocument.named, heq, Settlement.ruling_of_free hforced, hbody,
    run.name?_eq, hfree, Option.none_or]
  cases document.suggestion? config key with
  | some name =>
    dsimp only
    rw [ResolvedDocument.nameAt, ← ModelSpec.className_desiredName (run.isUnion_iff hspec hm)]
    exact Settlement.get?_markBody (Settlement.get?_rename hconsistent hturn _)
  | none =>
    cases m.isUnion with
    | true => exact (Settlement.get?_carryOut_eq_none_iff hconsistent hturn).2 rfl
    | false => exact hturn

/-! ## After the turns -/

/-- A model that something needs is as it was after its turn, but that a lifted union may lose its
marker. -/
lemma get?_settled_of_named [AsciiSpelling] (run : document.Run config parts api statistics)
    (hm : (parts.named document config).registry.get? key = some m)
    (hneeded : key ∉ (parts.named document config).missing (parts.needed document config)) :
    (parts.settled document config).registry.get? key = some (if m.origin = .composed
      then m.called (parts.unmarkedAt document config key m.className) else m) := by
  have hkey := Registry.mem_keys_iff.2 ⟨m, hm⟩
  have hleft : key ∈ (parts.needed document config).registry.keys :=
    Decidable.byContradiction fun hgone => hneeded ⟨hkey, hgone⟩
  have hmem := (run.needed_omissions.mem_models_iff (key, m)).2 ⟨Members.mem_of_get? hm, hleft⟩
  have hlegal := Settlement.Moves.legalNames (run.named_moves.trans run.needed_moves)
    run.parts_legalNames
  exact Settlement.get?_dropMarkers run.needed_consistent hlegal
    (run.needed_consistent.get?_eq_some.2 hmem)

/-- A model that was not lifted is as it was after its turn. -/
lemma get?_settled_of_not_composed [AsciiSpelling] (run : document.Run config parts api statistics)
    (horigin : document.originOf? key ≠ some .composed) :
    (parts.settled document config).registry.get? key =
      (parts.named document config).registry.get? key := by
  have hneeded : key ∉ (parts.named document config).missing (parts.needed document config) :=
    fun hmissing => horigin (run.originOf?_of_missing hmissing)
  cases hm : (parts.named document config).registry.get? key with
  | none =>
    have hmarkers := Settlement.dropMarkers_moves run.needed_consistent
    exact Members.get?_eq_none.2 fun hmem => Members.get?_eq_none.1 hm
      (run.needed_moves.keys_subset (hmarkers.keys_subset hmem))
  | some m =>
    have hlifted : m.origin ≠ .composed := fun h =>
      horigin (h ▸ run.originOf?_named hm)
    rw [run.get?_settled_of_named hm hneeded, if_neg hlifted]

/-! ## The models of a result -/

/-- Under a class name of its own the model of a key is in the result. -/
lemma className?_settled_eq_some_iff [Spelling] (run : document.Run config parts api statistics)
    {className : String} :
    (parts.settled document config).registry.className? key = some className ↔
      ∃ e ∈ api.models, e.2.key = key ∧ e.1 = className := by
  constructor
  · intro h
    obtain ⟨m, hm, rfl⟩ := Registry.className?_eq_some.1 h
    have hmem := run.settled_consistent.get?_eq_some.1 hm
    have hkey := run.settled_consistent.key_eq _ hmem
    rw [run.models_eq]
    exact ⟨_, List.mem_map_of_mem hmem, hkey, rfl⟩
  · rintro ⟨e, he, rfl, rfl⟩
    obtain ⟨left, -, -, hleft, hname, -⟩ := run.exists_source he
    rw [hname, Settlement.className?_of_get? hleft]

end ApiDocument.Run

end ApiTypes
