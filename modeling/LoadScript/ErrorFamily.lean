/-!
The families of errors. Each family but the widest belongs to wider ones.
-/

namespace LoadScript

inductive ErrorFamily where
  | any
  | settings
  | document
  | command
  | emptyCommand
  | foreignCommand
deriving DecidableEq, Repr

namespace ErrorFamily

def all : List ErrorFamily :=
  [.any, .settings, .document, .command, .emptyCommand, .foreignCommand]

def wider : ErrorFamily → List ErrorFamily
  | .any => []
  | .settings | .command => [.any]
  | .document => [.settings, .any]
  | .emptyCommand | .foreignCommand => [.command, .any]

def ancestry (family : ErrorFamily) : List ErrorFamily :=
  family :: family.wider

end ErrorFamily

end LoadScript
