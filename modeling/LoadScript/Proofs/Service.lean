import LoadScript.Proofs.Json.Readers
import LoadScript.Service
import LoadScript.Service.Standard

/-!
How the service answers a request to compile a document.
-/

namespace LoadScript.Service

variable {reader : Json.Reader} {server : Server} {settings : Settings} {now : Moment} {body : String}
  {members : Entries Json}

theorem profileOf_given {profile : Option String} (named : profile ≠ some "")
    (chosen : members.find? "profile" = profile.map .string) :
    profileOf settings members = .ok (profile.getD settings.defaultProfile) := by
  rw [profileOf, chosen]
  cases profile with
  | none => rfl
  | some name =>
      have nonempty : name ≠ "" := fun empty => named (by rw [empty])
      simp [nonempty]

theorem compileJob_eq {profile : String} {document : Json}
    (posted : Json.parse reader body = .ok (.object members))
    (chosen : profileOf settings members = .ok profile) (config : members.find? "config" = some document) :
    compileJob reader settings now body =
      ((Document.readPlan document).mapError .badPlan).map fun plan =>
        { plan, profile, generatedAt := now, scriptName := settings.scriptName } := by
  have bodyRead : readBody reader body = .ok members := by rw [readBody, posted]
  rw [compileJob, bodyRead]
  simp only [bind, Except.bind, chosen, config, Option.getD_some]
  cases (Document.readPlan document).mapError Refusal.badPlan <;> rfl

def CompilesTo (settings : Settings) (profile : Option String) (now : Moment) (document : Json)
    (script : String) : Prop :=
  ∃ plan, Document.readPlan document = .ok plan ∧
    (Compile.Job.mk plan (profile.getD settings.defaultProfile) now settings.scriptName).script.value = .ok script

theorem CompilesTo.unique {profile : Option String} {document : Json} {one other : String}
    (first : CompilesTo settings profile now document one)
    (second : CompilesTo settings profile now document other) : one = other := by
  obtain ⟨plan, loaded, written⟩ := first
  obtain ⟨otherPlan, otherLoaded, otherWritten⟩ := second
  cases loaded.symm.trans otherLoaded
  exact Except.ok.inj (written.symm.trans otherWritten)

namespace Server

theorem answer_compile (conforms : server.Conforms) (settings : Settings) (now : Moment) (body : String) :
    server.answer settings now ⟨"POST", "/compile", body⟩ =
      server.answerBody ⟨"POST", "/compile", body⟩
        (server.answerCompile settings now ⟨"POST", "/compile", body⟩) := by
  have handled : server.receive routes ⟨"POST", "/compile", body⟩ = .handled .compile :=
    conforms.receive_route ⟨"POST", "/compile", .compile⟩ (by simp [routes]) body
  rw [answer, handled]

theorem answer_compile_large (conforms : server.Conforms) (settings : Settings) (now : Moment)
    (large : bodyLimit ≤ body.utf8ByteSize) :
    server.answer settings now ⟨"POST", "/compile", body⟩ = pure (.bare 413) := by
  rw [answer_compile conforms, answerBody, conforms.text_large _ large]

theorem answer_compile_small (conforms : server.Conforms) (settings : Settings) (now : Moment)
    (small : body.utf8ByteSize < bodyLimit) :
    server.answer settings now ⟨"POST", "/compile", body⟩ =
      server.answerCompile settings now ⟨"POST", "/compile", body⟩ body := by
  rw [answer_compile conforms, answerBody, conforms.text_small _ small]

/-- A body that goes beyond a limit of the reader breaks the answer off. -/
theorem answerCompile_overrun (settings : Settings) (now : Moment) (call : Call)
    (beyond : server.reader.Overruns body) :
    ∃ excess, server.answerCompile settings now call body = pure (.failed (.body excess)) := by
  obtain ⟨excess, broken⟩ := beyond
  refine ⟨excess, ?_⟩
  have refused : compileJob server.reader settings now body = .error (.overrun excess) := by
    rw [compileJob, readBody, broken]
    rfl
  rw [answerCompile, refused]
  rfl

theorem answerCompile_ok {call : Call} {job : Compile.Job}
    (read : compileJob server.reader settings now body = .ok job) :
    (server.answerCompile settings now call body).value =
      match job.script.value with
      | .ok script =>
          if server.encodes script then .page ⟨200, "text/javascript", script⟩ else .failed .encoding
      | .error number => .failed (.script number) := by
  rw [answerCompile, read]
  simp only [Logged.value_bind]
  cases job.script.value <;> rfl

theorem refuse_status (call : Call) (refusal : Refusal) (page : Page)
    (answered : (server.refuse call refusal).value = .page page) : page.status = 400 := by
  rw [refuse] at answered
  split at answered
  · cases answered
  · cases answered
    rfl

theorem answerCompile_page {call : Call} {profile : Option String} {document : Json}
    (posted : Json.parse server.reader body = .ok (.object members))
    (config : members.find? "config" = some document) (named : profile ≠ some "")
    (chosen : members.find? "profile" = profile.map .string) (page : Page) :
    (server.answerCompile settings now call body).value = .page page ∧ page.status = 200 ↔
      ∃ script, CompilesTo settings profile now document script ∧ server.encodes script = true ∧
        page = ⟨200, "text/javascript", script⟩ := by
  have job? := @compileJob_eq server.reader settings now body members _ _ posted (profileOf_given named chosen) config
  cases read : Document.readPlan document with
  | error error =>
      rw [read] at job?
      have refused : server.answerCompile settings now call body = server.refuse call (.badPlan error) := by
        rw [answerCompile, job?]
        rfl
      constructor
      · rintro ⟨isPage, ok⟩
        rw [refused] at isPage
        rw [refuse_status _ _ _ isPage] at ok
        cases ok
      · rintro ⟨script, ⟨plan, loaded, -⟩, -⟩
        cases read.symm.trans loaded
  | ok plan =>
      rw [read] at job?
      rw [answerCompile_ok job?]
      constructor
      · rintro ⟨isPage, ok⟩
        split at isPage
        · next script written =>
            split at isPage
            · next encodes =>
                cases isPage
                exact ⟨script, ⟨plan, read, written⟩, encodes, rfl⟩
            · cases isPage
        · cases isPage
      · rintro ⟨script, ⟨other, loaded, written⟩, encodes, rfl⟩
        cases read.symm.trans loaded
        simp only [written, encodes, if_true, and_self]

theorem answer_overrun (conforms : server.Conforms) (settings : Settings) (now : Moment)
    (small : body.utf8ByteSize < bodyLimit) (beyond : server.reader.Overruns body) :
    ∃ excess, (server.answer settings now ⟨"POST", "/compile", body⟩).value = .failed (.body excess) := by
  obtain ⟨excess, broken⟩ := answerCompile_overrun settings now ⟨"POST", "/compile", body⟩ beyond
  refine ⟨excess, ?_⟩
  rw [answer_compile_small conforms settings now small, broken]
  rfl

/-- A request to compile a document succeeds exactly if its body is small enough to be taken and keeps to the limits of
the reader, and the document compiles to a script that can be encoded. The page is this script. -/
theorem answer_page (conforms : server.Conforms) (settings : Settings) (now : Moment) {profile : Option String}
    {document : Json}
    (posted : Json.Spells server.reader.half body (.object members))
    (config : members.find? "config" = some document) (named : profile ≠ some "")
    (chosen : members.find? "profile" = profile.map .string) (page : Page) :
    (server.answer settings now ⟨"POST", "/compile", body⟩).value = .page page ∧ page.status = 200 ↔
      body.utf8ByteSize < bodyLimit ∧ ¬ server.reader.Overruns body ∧
        ∃ script, CompilesTo settings profile now document script ∧ server.encodes script = true ∧
          page = ⟨200, "text/javascript", script⟩ := by
  by_cases small : body.utf8ByteSize < bodyLimit
  · by_cases beyond : server.reader.Overruns body
    · obtain ⟨excess, broken⟩ := answer_overrun conforms settings now small beyond
      simp [broken, beyond]
    · have read := (Json.parse_of_spells posted).resolve_right beyond
      rw [answer_compile_small conforms settings now small, answerCompile_page read config named chosen]
      simp [small, beyond]
  · rw [answer_compile_large conforms settings now (Nat.not_lt.mp small)]
    simp [small]

theorem standard_receive (routes : List Route) (call : Call) :
    Server.standard.receive routes call = Call.received routes call := rfl

theorem standard_conforms : Server.standard.Conforms where
  receive_route route member body := by
    have target : ∀ route ∈ routes, (Target.ofText route.path).error? = none ∧
        (Target.ofText route.path).route = route.path := by decide
    have upper : ∀ route ∈ routes, Text.upper route.method = route.method := by decide
    have found : ∀ route ∈ routes, (routes.filter fun other => other.path = route.path).find?
        (fun other => other.allows route.method) = some route := by decide
    obtain ⟨noError, path⟩ := target route member
    have isPath : Call.path ⟨route.method, route.path, body⟩ = route.path := path
    have isMethod : Call.methodName ⟨route.method, route.path, body⟩ = route.method := upper route member
    rw [standard_receive, Call.received, noError]
    simp only [isPath, isMethod, found route member]
  text_small call small := if_pos small
  text_large call large := if_neg (Nat.not_lt.mpr large)

end Server

end LoadScript.Service
