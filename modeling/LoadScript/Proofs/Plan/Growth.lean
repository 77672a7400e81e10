import LoadScript.Proofs.Json.LineEnds
import LoadScript.Proofs.Plan.Refusals
import LoadScript.Proofs.Plan.RoundTrip

/-!
Plans that grow: requests are added at the end, and the plan is saved and loaded in between.
-/

namespace LoadScript.Plan

def extended (plan : Plan) (request : Request) : Plan :=
  { plan with requests := plan.requests ++ [request] }

theorem IsLoaded.extended {plan : Plan} (loaded : plan.IsLoaded) {request : Request}
    (canonical : request.thinkTime.IsCanonical) : (plan.extended request).IsLoaded := {
  loaded with
  requests := fun other member => by
    rcases List.mem_append.mp member with before | last
    · exact loaded.requests other before
    · rwa [List.mem_singleton.mp last] }

theorem IsLoaded.load_unified_save (reader : Json.Reader) {plan : Plan} (loaded : plan.IsLoaded) :
    load reader (Text.unifyLineEnds (plan.save 2)) = .ok plan.saved := by
  have parsed : Json.parse reader (plan.save 2) = .ok plan.toJson :=
    Json.parse_render _ (toJson_isReadable loaded)
  rw [load_of_parse (Json.parse_unifyLineEnds parsed)]
  exact Document.readPlan_toJson loaded

/-- Nothing but the requests of a plan has changed, and these are followed by further ones. Requests are
compared by what is saved of them. -/
structure Gains (before after : Plan) (added : List Request) : Prop where
  kept : { after with requests := before.requests } = before
  requests :
    after.requests.map Request.toJson = before.requests.map Request.toJson ++ added.map Request.toJson

theorem Gains.refl (plan : Plan) : plan.Gains plan [] := ⟨rfl, (List.append_nil _).symm⟩

theorem Gains.trans {first second third : Plan} {added more : List Request}
    (gains : first.Gains second added) (next : second.Gains third more) :
    first.Gains third (added ++ more) where
  kept := by
    have same := gains.kept
    rw [← next.kept] at same
    exact same
  requests := by rw [next.requests, gains.requests, List.map_append, List.append_assoc]

theorem gains_extended_saved (plan : Plan) (request : Request) :
    plan.Gains (plan.extended request).saved [request] where
  kept := rfl
  requests := by
    rw [extended, saved, List.map_map, List.map_append]
    simp

end LoadScript.Plan
