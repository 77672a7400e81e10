import LoadScript.Compile.Assembly

/-!
The text of a script's functions, told by the texts of the requests that they send.
-/

namespace LoadScript.Compile

open Script

def paragraphs (texts : List String) : String := String.intercalate "\n" texts

def StartsLine (text : String) : Prop := ∃ first rest, text.toList = first :: rest ∧ first ≠ '\n'

def EndsLine (text : String) : Prop := ∃ start last, text.toList = start ++ [last, '\n'] ∧ last ≠ '\n'

/-- A text with no empty line at its start or end, so that a separator of one line end leaves exactly one line
empty between two of them. -/
structure IsParagraph (text : String) : Prop where
  starts : StartsLine text
  ends : EndsLine text

def pauseTexts (thinkTime : ThinkTime) : List String :=
  match thinkTime.mode with
  | .fixed => ["  sleep(" ++ numberText (.real thinkTime.fixed) ++ ");\n"]
  | .random =>
      let spread := (thinkTime.most.sub thinkTime.least).roundTo 10
      [ "  sleep(" ++ numberText (.real thinkTime.least) ++ " + Math.random() * " ++
          numberText (.real spread) ++ ");\n"]
  | .perRequest => []

def entryText (parts : List String) : String :=
  "export default function() " ++ openBrace ++ "\n" ++ paragraphs parts ++ closeBrace ++ "\n"

def helperText (index : Nat) (request : String) : String :=
  "function api" ++ toString index ++ "() " ++ openBrace ++ "\n" ++ request ++ closeBrace ++ "\n"

def callsText (count : Nat) : String :=
  "  // Parallel execution - all APIs called together\n" ++
    String.join ((List.range count).map fun index => "  api" ++ toString index ++ "();\n")

def caseText (index : Nat) (request : String) : String :=
  "    case " ++ toString index ++ ":\n" ++ request ++ "      break;\n"

def switchText (requests : List String) : String :=
  "  // Randomized execution - pick one API per iteration\n" ++
    "  const apiIndex = Math.floor(Math.random() * " ++ toString requests.length ++ ");\n" ++
    "  switch (apiIndex) " ++ openBrace ++ "\n" ++ String.join (requests.mapIdx caseText) ++
    "  " ++ closeBrace ++ "\n"

namespace Job

def preamble (job : Job) : List Stmt :=
  job.header.value ++ job.imports ++ job.environment ++ job.baseUrl.value ++ job.chainingStore ++
    job.optionsSection.value

def sections (job : Job) : List (List Stmt) :=
  [ job.header.value, job.imports, job.environment, job.baseUrl.value, job.chainingStore,
    job.optionsSection.value] ++
  if job.plan.usesScenarios then [job.scenarioFunctions.value]
  else
    (if job.plan.executionMode = .parallel then [job.parallelHelpers.value] else []) ++
      [job.defaultFunction.value]

def sectionTexts (job : Job) : List String :=
  (job.sections.filter fun part => !part.isEmpty).map (render standardUnit 0)

def requestTexts (job : Job) (level : Int) : List String :=
  job.plan.requests.mapIdx fun index request =>
    (requestText request index job.plan.baseUrl job.plan.thinkTime level).value

def scenarioText? (job : Job) (scenario : Scenario) : Option String := do
  let indices := (select scenario.selector job.plan.requests.length).value
  let texts ← indices.mapM fun index => (job.requestTexts 1)[index]?
  pure (paragraphs texts)

end Job

end LoadScript.Compile
