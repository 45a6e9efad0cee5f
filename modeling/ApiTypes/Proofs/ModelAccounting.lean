import ApiTypes.Proofs.Run
import ApiTypes.Text.Latin

/-!
# No model is lost on the way

The models of a result go by their class names, and class names are changed and given back all
through a run.  Still every model of the document is in the result once, in its place, or was
counted when it was left out.

* `Run.keys_sublist`, `Run.length_models` — which models are left, and how many.
* `models_accounted` — **every model is accounted for**, under a legal name of its own.
-/

namespace ApiTypes

/-- What is left of a list without repetitions is what the list has in common with it. -/
lemma filter_mem_of_sublist {left all : List String} (h : left.Sublist all) (hnd : all.Nodup) :
    all.filter (· ∈ left) = left := by
  have hsublist : left.Sublist (all.filter (· ∈ left)) := by
    have hfilter := h.filter (· ∈ left)
    rwa [List.filter_eq_self.2 (fun k hk => by simpa using hk)] at hfilter
  have hperm : (all.filter (· ∈ left)).Perm left := by
    rw [List.perm_ext_iff_of_nodup (hnd.filter _) (hnd.sublist h)]
    intro k
    simpa using fun hk => h.subset hk
  exact (hsublist.eq_of_length hperm.length_eq.symm).symm

/-- A part of a list without repetitions is the list without what is missing. -/
lemma exists_dropped {left all : List String} (h : left.Sublist all) (hnd : all.Nodup) :
    ∃ dropped : List String, dropped.Sublist all ∧ left.length + dropped.length = all.length ∧
      left = all.filter (· ∉ dropped) := by
  refine ⟨all.filter (· ∉ left), List.filter_sublist, ?_, ?_⟩
  · have hsplit := all.length_eq_length_filter_add (· ∈ left)
    rw [filter_mem_of_sublist h hnd] at hsplit
    rw [hsplit]
    simp only [decide_not]
  · refine (filter_mem_of_sublist h hnd).symm.trans (List.filter_congr fun k hk => ?_)
    by_cases hleft : k ∈ left <;> simp [hk, hleft]

namespace ApiDocument.Run

variable [Spelling] {document : ApiDocument} {config : Config} {parts : ResolvedDocument}
  {api : TypedApi} {statistics : Statistics}

/-- The models that are left have their origins, and the order they had in the document. -/
lemma origins_sublist (run : document.Run config parts api statistics) :
    (api.models.map fun e => (e.2.key, e.2.origin)).Sublist
      (document.models.map fun e => (e.1, e.2.origin)) := by
  have hview : (api.models.map fun e => (e.2.key, e.2.origin)) =
      (parts.settled document config).registry.view (·.origin) := by
    rw [run.models_eq, List.map_map]
    refine List.map_congr_left fun e he => ?_
    rw [← run.settled_consistent.key_eq e he]
    rfl
  rw [hview, ← run.origins_parts]
  exact run.settled_moves.view_sublist ModelDescriptor.stable_origin

lemma keys_sublist (run : document.Run config parts api statistics) :
    (api.models.map (·.2.key)).Sublist (Members.names document.models) := by
  have h := run.origins_sublist.map Prod.fst
  rwa [List.map_map, List.map_map] at h

/-- What was counted when it was left out makes up for what is missing. -/
lemma length_models (run : document.Run config parts api statistics) :
    api.models.length + statistics.modelsDropped = document.models.length := by
  have hparts : parts.registry.size = document.models.length := by
    have h := congrArg List.length run.origins_parts
    simpa [Registry.view, Registry.size] using h
  have hbalance := run.settled_moves.size_add_dropped run.parts_consistent
  rw [run.modelsDropped_eq, run.models_eq, List.length_map, ← hparts]
  exact hbalance

end ApiDocument.Run

/-- **Every model is accounted for.**  The models of a result are those of the document without the
ones that were left out, each once and in the order of the document; each goes by its class name,
which is legal and held by no other model, and has the origin that it has in the document; and the
counts add up. -/
theorem models_accounted [Spelling] {document : ApiDocument} {config : Config} {api : TypedApi}
    {statistics : Statistics} (h : document.resolve config = .ok (api, statistics)) :
    (∃ dropped : List String, dropped.Sublist (Members.names document.models) ∧
      dropped.length = statistics.modelsDropped ∧
      api.models.map (·.2.key) = (Members.names document.models).filter (· ∉ dropped)) ∧
    (api.models.map (·.2.key)).Nodup ∧
    (∀ e ∈ api.models, e.1 = e.2.className) ∧
    (api.models.map (·.2.className)).Nodup ∧
    (∀ e ∈ api.models, Name.Legal e.2.className) ∧
    (∀ e ∈ api.models, ∃ spec, (e.2.key, spec) ∈ document.models ∧ e.2.origin = spec.origin) ∧
    statistics.modelsResolved = document.models.length ∧
    api.models.length + statistics.modelsDropped = document.models.length := by
  obtain ⟨parts, run⟩ := ApiDocument.exists_run h
  have hkeys := run.keys_sublist
  have hlength := run.length_models
  refine ⟨?_, document.nodup_keys.sublist hkeys, ?_, ?_, ?_, ?_, run.modelsResolved_eq, hlength⟩
  · obtain ⟨dropped, hdropped, hsplit, heq⟩ := exists_dropped hkeys document.nodup_keys
    refine ⟨dropped, hdropped, ?_, heq⟩
    rw [List.length_map, Members.names, List.length_map] at hsplit
    omega
  · intro e he
    rw [run.models_eq] at he
    obtain ⟨e', -, rfl⟩ := List.mem_map.1 he
    rfl
  · rw [run.models_eq, List.map_map]
    exact run.settled_consistent.names_nodup
  · intro e he
    rw [run.models_eq] at he
    obtain ⟨e', he', rfl⟩ := List.mem_map.1 he
    exact run.settled_legalNames e' he'
  · intro e he
    have hmem := run.origins_sublist.subset (List.mem_map_of_mem he)
    obtain ⟨⟨key, spec⟩, hspec, heq⟩ := List.mem_map.1 hmem
    obtain ⟨hkey, horigin⟩ := Prod.mk.inj heq
    exact ⟨spec, hkey ▸ hspec, horigin.symm⟩

theorem petShop_models_accounted : ∃ api statistics,
    ApiDocument.petShop.resolve {} = .ok (api, statistics) ∧
      (∃ dropped : List String, dropped.length = statistics.modelsDropped ∧
        api.models.map (·.2.key) =
          (Members.names ApiDocument.petShop.models).filter (· ∉ dropped)) ∧
      (api.models.map (·.2.className)).Nodup ∧ (∀ e ∈ api.models, Name.Legal e.2.className) ∧
      api.models.length + statistics.modelsDropped = 5 := by
  obtain ⟨api, statistics, h⟩ := ApiDocument.exists_result_petShop
  obtain ⟨⟨dropped, -, hlength, hkeys⟩, -, -, hnames, hlegal, -, -, hcount⟩ :=
    models_accounted h
  exact ⟨api, statistics, h, ⟨dropped, hlength, hkeys⟩, hnames, hlegal, hcount⟩

end ApiTypes
