import LoadScript.Number.Length

/-!
What the readers of JSON text differ in. The escape of a code unit can name half of a surrogate pair, which is no
character: each reader has characters that stand for the halves.
-/

namespace LoadScript.Json

/-- So many lists and objects are read in each other, and whole numbers of so many digits. -/
structure Dialect where
  nestingLimit : Nat
  digitLimit : Nat
  half : Nat → Char
  digitLimit_pos : 0 < digitLimit

def Dialect.takes (dialect : Dialect) (value : Int) : Bool := value.natAbs < Nat.pow 10 dialect.digitLimit

/-- The readers of the program have the limit of numbers in common, and read more lists and objects in each other than
a saved plan has. -/
structure Reader extends Dialect where
  roomy : 16 ≤ nestingLimit
  digitLimit_eq : digitLimit = LongNumber.digitLimit

instance : Coe Reader Dialect := ⟨Reader.toDialect⟩

theorem Reader.takes_eq_fits (reader : Reader) (value : Int) : reader.takes value = LongNumber.fits value := by
  rw [Dialect.takes, reader.digitLimit_eq, LongNumber.fits]

def firstHalf : Nat := 0xD800

def firstPrivate : Nat := 0xF0000

def halfCount : Nat := 0x800

def Reader.standard : Reader where
  nestingLimit := 980
  digitLimit := LongNumber.digitLimit
  half unit := Char.ofNat (firstPrivate + (unit - firstHalf))
  digitLimit_pos := by decide
  roomy := by decide
  digitLimit_eq := rfl

def standsForHalf (character : Char) : Bool :=
  firstPrivate ≤ character.toNat && character.toNat < firstPrivate + halfCount

end LoadScript.Json
