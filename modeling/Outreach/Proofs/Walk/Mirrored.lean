import Mathlib.Data.List.Basic
import Mathlib.Data.List.Count
import Outreach.Graph.Walk

set_option autoImplicit false

namespace Outreach

namespace Links

variable {rename : String → String} {links others : Links}

structure Mirrors (rename : String → String) (links others : Links) : Prop where
  injective : Function.Injective rename
  successors : ∀ id, others.successors (rename id) = (links.successors id).map rename
  inDegree : ∀ id, others.inDegree (rename id) = links.inDegree id

def renamed (rename : String → String) (links : Links) : Links :=
  links.map (Prod.map rename rename)

theorem mirrors_renamed (injective : Function.Injective rename) (links : Links) :
    Mirrors rename links (links.renamed rename) where
  injective := injective
  successors id := by
    have sources : (fun link : String × String => link.1 == rename id) ∘ Prod.map rename rename =
        fun link => link.1 == id := by
      funext link
      rw [Bool.eq_iff_iff]
      simp [injective.eq_iff]
    simp only [Links.successors, renamed, List.filter_map, sources, List.map_map]
    rfl
  inDegree id := by
    have same : (links.renamed rename).targets = links.targets.map rename := by
      simp [targets, renamed]
    rw [Links.inDegree, same, List.count_map_of_injective _ _ injective, Links.inDegree]

end Links

namespace Walk

variable {rename : String → String} {links others : Links}

def renamed (rename : String → String) (walk : Walk) : Walk :=
  { queue := walk.queue.map rename, visited := walk.visited.map rename
    emitted := walk.emitted.map rename, arrived := walk.arrived.map rename
    cycleEntries := walk.cycleEntries.map rename }

theorem enqueue_renamed (walk : Walk) (id : String) :
    (walk.renamed rename).enqueue (rename id) = (walk.enqueue id).renamed rename := by
  simp [enqueue, renamed]

theorem enter_renamed (walk : Walk) (id : String) :
    (walk.renamed rename).enter (rename id) = (walk.enter id).renamed rename := by
  simp [enter, enqueue, renamed]

variable (mirrors : links.Mirrors rename others)

include mirrors

theorem pending_renamed (walk : Walk) (id : String) :
    pending others (walk.renamed rename) (rename id) = pending links walk id := by
  simp only [pending, renamed, mirrors.inDegree,
    List.count_map_of_injective _ _ mirrors.injective]

theorem arrive_renamed (walk : Walk) (id : String) :
    arrive others (walk.renamed rename) (rename id) = (arrive links walk id).renamed rename := by
  have moved : { walk.renamed rename with arrived := rename id :: (walk.renamed rename).arrived } =
      { walk with arrived := id :: walk.arrived }.renamed rename := by
    simp [renamed]
  have known (walk : Walk) : rename id ∈ (walk.renamed rename).visited ↔ id ∈ walk.visited :=
    List.mem_map_of_injective mirrors.injective
  simp only [arrive, moved, pending_renamed mirrors, known, enqueue_renamed]
  split <;> rfl

theorem emit_renamed (walk : Walk) (id : String) :
    emit others (walk.renamed rename) (rename id) = (emit links walk id).renamed rename := by
  have moved : { walk.renamed rename with emitted := (walk.renamed rename).emitted ++ [rename id] } =
      { walk with emitted := walk.emitted ++ [id] }.renamed rename := by
    simp [renamed]
  rw [emit, emit, moved, mirrors.successors, List.foldl_map]
  exact List.foldl_hom (renamed rename) fun walk id => arrive_renamed mirrors walk id

theorem resume?_renamed (walk : Walk) :
    resume? others (walk.renamed rename) = (resume? links walk).map rename := by
  have listed : (walk.renamed rename).emitted.flatMap others.successors =
      (walk.emitted.flatMap links.successors).map rename := by
    simp only [renamed, List.flatMap_map, List.map_flatMap, mirrors.successors]
  have fresh : (fun id => !(walk.renamed rename).visited.contains id) ∘ rename =
      fun id => !walk.visited.contains id := by
    funext id
    simp [renamed, mirrors.injective.eq_iff]
  rw [resume?, listed, List.find?_map, fresh, resume?]

theorem step?_renamed (walk : Walk) :
    step? others (walk.renamed rename) = (step? links walk).map (renamed rename) := by
  cases queue : walk.queue with
  | cons id rest =>
    have moved : (walk.renamed rename).queue = rename id :: rest.map rename := by
      simp [renamed, queue]
    simp only [step?, queue, moved]
    exact congrArg some (emit_renamed mirrors { walk with queue := rest } id)
  | nil =>
    have moved : (walk.renamed rename).queue = [] := by simp [renamed, queue]
    have entered : (walk.renamed rename).enter ∘ rename = renamed rename ∘ walk.enter :=
      funext fun id => enter_renamed walk id
    simp only [step?, queue, moved, resume?_renamed mirrors, Option.map_map, entered]

theorem run_renamed (steps : Nat) (walk : Walk) :
    run others steps (walk.renamed rename) = (run links steps walk).renamed rename := by
  induction steps generalizing walk with
  | zero => rfl
  | succ steps ih =>
    rw [run, run, step?_renamed mirrors]
    cases walk.step? links with
    | none => rfl
    | some next => exact ih next

end Walk

end Outreach
