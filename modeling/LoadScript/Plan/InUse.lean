import LoadScript.Plan.Basic

/-!
What of a plan is in use. The rest is switched off: it may be kept in a document, but a test has no use for it.
-/

namespace LoadScript

def Extraction.inUse (extraction : Extraction) : Extraction :=
  if extraction.enabled then extraction else {}

def Request.inUse (mode : PauseMode) (request : Request) : Request :=
  { request with
    body := if request.method.hasBody then request.body else ""
    thinkTime := if mode = .perRequest then request.thinkTime else .zero
    bearerToken := if request.authKind = .bearer then request.bearerToken else ""
    credentials := if request.authKind = .basic then request.credentials else none
    extraction := request.extraction.inUse
    form := none }

def Thresholds.inUse (thresholds : Thresholds) : Thresholds :=
  if thresholds.enabled then thresholds else { enabled := false }

def Plan.inUse (profile : String) (plan : Plan) : Plan :=
  { plan with
    stages := if plan.loadKind = .stages then plan.stages else []
    profiles := [(profile, plan.profileVariables profile)]
    requests := plan.requests.map (Request.inUse plan.thinkTime.mode)
    thresholds := plan.thresholds.inUse }

end LoadScript
