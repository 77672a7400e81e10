import LoadScript.Log.Record
import LoadScript.Text.Quoted
import LoadScript.Text.Split
import LoadScript.Text.WholeNumber

/-!
Selectors of requests: lists of positions, counted from one.
-/

namespace LoadScript.Compile

def assemblyChannel : String := Log.channel "emit.assembler"

def selectEntry (count : Int) (entry : String) : Logged (List Nat) :=
  match Text.wholeNumber? entry with
  | none => do
      Logged.record .warning assemblyChannel
        ("Ignoring non-numeric request selector entry " ++ Text.quoted entry)
      pure []
  | some position =>
      if 1 ≤ position && position ≤ count then pure [(position - 1).toNat]
      else do
        Logged.record .warning assemblyChannel
          ("Ignoring request selector entry " ++ toString position ++ " (have " ++ toString count ++
            " requests)")
        pure []

def selectEntries (count : Int) : List String → Logged (List Nat)
  | [] => pure []
  | entry :: rest => do
      let first ← selectEntry count entry
      let others ← selectEntries count rest
      pure (first ++ others)

def selectorEntries (selector : String) : List String :=
  (Text.splitAt ',' selector.toList).map fun entry => String.ofList (Text.trimChars entry)

def select (selector : String) (count : Int) : Logged (List Nat) :=
  if Text.isAllBlank selector then pure (List.range count.toNat)
  else selectEntries count (selectorEntries selector)

end LoadScript.Compile
