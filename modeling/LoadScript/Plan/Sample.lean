import LoadScript.Plan.Basic

/-!
A plan to start from: a login whose token the later requests send.
-/

namespace LoadScript.Sample

def profile (host key : String) : List Variable :=
  [⟨"BASE_URL", host⟩, ⟨"API_KEY", key⟩]

def statusCheck : Check := ⟨"status is 200", "r.status === 200"⟩

def login : Request := {
  name := "Login - Get Auth Token"
  method := .post
  url := "/auth/login"
  body := "\x7b\"username\": \"testuser\", \"password\": \"testpass\"\x7d"
  extraction := { enabled := true, path := "$.token", savedAs := "authToken" }
  checks := [statusCheck] }

def readUser : Request := {
  name := "Get User Profile"
  url := "/user/profile"
  authKind := .bearer
  bearerToken := "$\x7bauthToken\x7d"
  headers := [⟨"X-API-Key", "$\x7bAPI_KEY\x7d"⟩]
  checks := [statusCheck] }

def updateSettings : Request := {
  name := "Update User Settings"
  method := .put
  url := "/user/settings"
  body := "\x7b\"theme\": \"dark\", \"notifications\": true\x7d"
  authKind := .bearer
  bearerToken := "$\x7bauthToken\x7d"
  checks := [statusCheck] }

def plan : Plan := {
  name := "DemoAPI Test"
  baseUrl := "$\x7bBASE_URL\x7d"
  users := 20
  duration := "2m"
  loadKind := .rampUp
  rampDuration := "1m"
  targetUsers := 50
  thinkTime := { mode := .random, least := .ofNat 1, most := .ofNat 3 }
  profiles := [
    ("dev", profile "https://dev.api.example.com" "dev-api-key-123"),
    ("staging", profile "https://staging.api.example.com" "staging-api-key-456"),
    ("prod", profile "https://api.example.com" "prod-api-key-789")]
  requests := [login, readUser, updateSettings] }

end LoadScript.Sample
