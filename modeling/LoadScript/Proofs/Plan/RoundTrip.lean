import LoadScript.Proofs.Compile.InUse
import LoadScript.Proofs.Plan.Saving

/-!
What saving and loading again keeps: the script of a plan, and its document.
-/

namespace LoadScript

namespace Request

theorem saved_eq_iff (request : Request) :
    request.saved = request ↔ (request.authKind ≠ .bearer → request.bearerToken = "") := by
  constructor
  · intro same other
    rw [← same, saved, if_neg other]
  · intro empty
    have token : (if request.authKind = .bearer then request.bearerToken else "") =
        request.bearerToken := by
      split
      · rfl
      · next other => exact (empty other).symm
    rw [saved, token]

/-- The document of a request does not tell what is left out of it. -/
@[simp] theorem saved_toJson (request : Request) : request.saved.toJson = request.toJson := by
  rw [toJson, toJson, saved]
  by_cases bearer : request.authKind = .bearer <;> simp only [bearer, ↓reduceIte]

end Request

namespace Plan

@[simp] theorem saved_toJson (plan : Plan) : plan.saved.toJson = plan.toJson := by
  have requests : plan.saved.requests.map Request.toJson = plan.requests.map Request.toJson := by
    rw [saved, List.map_map]
    exact List.map_congr_left fun request _ => request.saved_toJson
  rw [toJson, requests]
  rfl

theorem saved_eq_iff (plan : Plan) :
    plan.saved = plan ↔
      ∀ request ∈ plan.requests, request.authKind ≠ .bearer → request.bearerToken = "" := by
  constructor
  · intro same request found
    have requests : plan.requests.map Request.saved = plan.requests.map id := by
      rw [List.map_id]
      exact congrArg Plan.requests same
    rw [← Request.saved_eq_iff]
    exact List.map_inj_left.mp requests request found
  · intro empty
    have requests : plan.requests.map Request.saved = plan.requests := by
      rw [List.map_congr_left fun request found =>
        (Request.saved_eq_iff request).mpr (empty request found), List.map_id']
    rw [saved, requests]

end Plan

/-! The tokens that saving drops are not in use. -/

theorem Request.saved_inUse (mode : PauseMode) (request : Request) :
    request.saved.inUse mode = request.inUse mode := by
  rw [saved, inUse, inUse]
  by_cases bearer : request.authKind = .bearer <;> simp only [bearer, ↓reduceIte]

theorem Plan.saved_inUse (profile : String) (plan : Plan) :
    plan.saved.inUse profile = plan.inUse profile := by
  have requests : plan.saved.requests.map (Request.inUse plan.thinkTime.mode) =
      plan.requests.map (Request.inUse plan.thinkTime.mode) := by
    rw [saved, List.map_map]
    exact List.map_congr_left fun request _ => request.saved_inUse plan.thinkTime.mode
  rw [inUse, inUse, ← requests]
  rfl

namespace Compile.Job

def saved (job : Job) : Job := { job with plan := job.plan.saved }

/-- The script of a plan, and the records written on the way, are those of the plan that its document gives
back. -/
theorem saved_script (job : Job) : job.saved.script = job.script := by
  have same : job.saved.inUse = job.inUse :=
    congrArg (Job.mk · job.profile job.generatedAt job.scriptName) (Plan.saved_inUse job.profile job.plan)
  rw [← inUse_script, same, inUse_script]

end Compile.Job

namespace Plan

/-- Saving a loaded plan and loading it again changes neither the script nor the document. -/
theorem save_keeps_script {reader : Json.Reader} {text : String} {plan : Plan}
    (loaded : Plan.load reader text = .ok plan)
    (indentation : Nat) :
    ∃ again, Plan.load reader (plan.save indentation) = .ok again ∧
      (∀ profile generatedAt scriptName,
        (Compile.Job.mk again profile generatedAt scriptName).script =
          (Compile.Job.mk plan profile generatedAt scriptName).script) ∧
      ∀ other, again.save other = plan.save other := by
  refine ⟨plan.saved, load_save reader (isLoaded_of_load loaded) indentation, ?_, ?_⟩
  · intro profile generatedAt scriptName
    exact Compile.Job.saved_script ⟨plan, profile, generatedAt, scriptName⟩
  · intro other
    rw [save, save, saved_toJson]

def withStrayToken : Plan := { requests := [{ bearerToken := "secret" }] }

def strayTokenDocument : String := "\x7b\"apis\": [\x7b\"bearerToken\": \"secret\"\x7d]\x7d"

theorem load_strayTokenDocument : Plan.load .standard strayTokenDocument = .ok withStrayToken :=
  Outcome.eq_ok_of_toOption (by decide +kernel)

theorem save_withStrayToken_keeps_script :
    Plan.load .standard strayTokenDocument = .ok withStrayToken ∧
      ∃ again, Plan.load .standard (withStrayToken.save 2) = .ok again ∧
        (∀ profile generatedAt scriptName,
          (Compile.Job.mk again profile generatedAt scriptName).script =
            (Compile.Job.mk withStrayToken profile generatedAt scriptName).script) ∧
        ∀ other, again.save other = withStrayToken.save other :=
  ⟨load_strayTokenDocument, save_keeps_script load_strayTokenDocument 2⟩

/-- Loading what was saved gives the plan without the bearer tokens of requests that do not authenticate with
them, and so the plan itself exactly if there are no such tokens. -/
theorem load_save_of_load {reader : Json.Reader} {text : String} {plan : Plan}
    (loaded : Plan.load reader text = .ok plan)
    (indentation : Nat) :
    Plan.load reader (plan.save indentation) = .ok plan.saved ∧
      (Plan.load reader (plan.save indentation) = .ok plan ↔
        ∀ request ∈ plan.requests, request.authKind ≠ .bearer → request.bearerToken = "") := by
  have again := load_save reader (isLoaded_of_load loaded) indentation
  refine ⟨again, ?_⟩
  rw [again, Except.ok.injEq, saved_eq_iff]

theorem load_save_of_strayTokenDocument :
    Plan.load .standard strayTokenDocument = .ok withStrayToken ∧
      Plan.load .standard (withStrayToken.save 2) = .ok withStrayToken.saved ∧
      (Plan.load .standard (withStrayToken.save 2) = .ok withStrayToken ↔
        ∀ request ∈ withStrayToken.requests,
          request.authKind ≠ .bearer → request.bearerToken = "") :=
  ⟨load_strayTokenDocument, load_save_of_load load_strayTokenDocument 2⟩

/-- A bearer token that is not sent is lost by saving and loading. -/
theorem load_save_withStrayToken :
    Plan.load .standard strayTokenDocument = .ok withStrayToken ∧
      Plan.load .standard (withStrayToken.save 2) ≠ .ok withStrayToken := by
  refine ⟨load_strayTokenDocument, ?_⟩
  rw [load_save .standard (isLoaded_of_load load_strayTokenDocument), ne_eq, Except.ok.injEq]
  decide +kernel

end Plan

end LoadScript
