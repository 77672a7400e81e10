/-!
Log records, and results that come with the records written on the way to them.
-/

namespace LoadScript.Log

structure Level where
  severity : Int
deriving DecidableEq, Repr

namespace Level

def debug : Level := ⟨10⟩
def info : Level := ⟨20⟩
def warning : Level := ⟨30⟩
def error : Level := ⟨40⟩
def critical : Level := ⟨50⟩

def name (level : Level) : String :=
  if level.severity = 50 then "CRITICAL"
  else if level.severity = 40 then "ERROR"
  else if level.severity = 30 then "WARNING"
  else if level.severity = 20 then "INFO"
  else if level.severity = 10 then "DEBUG"
  else if level.severity = 0 then "NOTSET"
  else "Level " ++ toString level.severity

end Level

def rootChannel : String := "k6forge"

def channel (name : String) : String := rootChannel ++ "." ++ name

structure Record where
  level : Level
  channel : String
  message : String
deriving DecidableEq, Repr

end LoadScript.Log

namespace LoadScript

structure Logged (α : Type) where
  value : α
  records : List Log.Record

namespace Logged

variable {α β : Type}

instance : Monad Logged where
  pure value := ⟨value, []⟩
  bind first next :=
    let second := next first.value
    ⟨second.value, first.records ++ second.records⟩

instance : LawfulMonad Logged := LawfulMonad.mk' Logged
  (fun logged => by simp [Functor.map])
  (fun _ _ => rfl)
  (fun first next last => by simp [Bind.bind])

def record (level : Log.Level) (channel message : String) : Logged Unit :=
  ⟨(), [⟨level, channel, message⟩]⟩

@[simp] theorem value_pure (value : α) : (pure value : Logged α).value = value := rfl

@[simp] theorem records_pure (value : α) : (pure value : Logged α).records = [] := rfl

@[simp] theorem value_bind (first : Logged α) (next : α → Logged β) :
    (first >>= next).value = (next first.value).value := rfl

@[simp] theorem value_map (change : α → β) (first : Logged α) :
    (change <$> first).value = change first.value := rfl

@[simp] theorem records_bind (first : Logged α) (next : α → Logged β) :
    (first >>= next).records = first.records ++ (next first.value).records := rfl

end Logged

end LoadScript
