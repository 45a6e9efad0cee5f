import ApiTypes.Proofs.Outcomes

/-!
# What a run warns of before names are settled

Schemas, models and operations are resolved before any model is left out, so none of these steps
tells of a loss: their warnings are about names that were adjusted, and about schemas that have no
type of their own.

* `Warning.isLoss` — whether a warning tells of something that was left out.
* `Resolving.Quiet` — a step that tells of no loss.
* `Registry.registerAll_quiet` — registering keys is one; `resolveParts_quiet` — **and so is all
  that comes before names are settled.**
-/

namespace ApiTypes

/-- Whether a warning tells of something that was left out. -/
def Warning.isLoss : Warning → Bool
  | .danglingReference .. => true
  | .droppedSyntheticModel .. => true
  | _ => false

namespace Resolving

/-- A step that tells of no loss. -/
def Quiet {α : Type} (x : Resolving α) : Prop :=
  ∀ a warnings, x = Except.ok (a, warnings) → ∀ w ∈ warnings, w.isLoss = false

end Resolving

open Resolving

lemma Registry.namingWarning_quiet (key className : String) (adjustment : Option Name.Adjustment) :
    ∀ w ∈ (namingWarning key className adjustment).toList, w.isLoss = false := by
  rcases adjustment with _ | _ | _ <;> simp [namingWarning, Warning.isLoss]

variable [Spelling]

lemma Registry.register_quiet (r : Registry) (key : String) (origin : Origin) :
    ∀ w ∈ (r.register key origin).2.warning.toList, w.isLoss = false := by
  rw [register]
  split
  · exact List.forall_mem_nil _
  · dsimp only
    exact namingWarning_quiet _ _ _

/-- Registering keys warns of adjusted names alone. -/
lemma Registry.registerAll_quiet (specs : List (String × ModelSpec)) (r : Registry) :
    ∀ w ∈ (registerAll specs r).2, w.isLoss = false := by
  induction specs generalizing r with
  | nil => exact List.forall_mem_nil _
  | cons e rest ih =>
    rw [registerAll]
    exact List.forall_mem_append.2 ⟨register_quiet r e.1 e.2.origin, ih _⟩

/-- **Until names are settled a run tells of no loss.** -/
theorem ApiDocument.resolveParts_quiet (document : ApiDocument) (config : Config) :
    Quiet (document.resolveParts config) := by
  have hleaves : Scope.Leaves ⟨(Registry.ofDocument document).1, config⟩ (fun _ => True)
      (fun w => w.isLoss = false) document.nodes :=
    ⟨fun _ _ _ _ _ _ _ => trivial, fun _ _ _ _ _ _ _ => trivial, fun _ => rfl, fun _ _ => rfl⟩
  exact (resolveParts_tells hleaves (Registry.registerAll_quiet _ _)).warning

end ApiTypes
