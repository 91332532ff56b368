import Mathlib.Algebra.Order.Ring.Int
import Mathlib.Data.List.Basic

/-!
# Integer-keyed CBOR messages

A struct whose fields carry integer keys is encoded as a map from those keys. Decoding looks each
field up by its key: an unknown key is ignored, an absent one leaves the field as it was, a value of
the wrong type or out of range fails the whole message. How single values are read is left to a
`Reader`; `Reader.Lawful` says what is known of it.
-/

namespace Cbor

inductive Item where
  | uint (n : ℕ)
  | negative (n : ℕ)
  | bytes (data : List (Fin (2 ^ 8)))
  | text (s : String)
  | array (items : List Item)
  | map (fields : List (ℕ × Item))
  | tag (number : ℕ) (content : Item)
  | bool (b : Bool)
  | null

abbrev Fields := List (ℕ × Item)

/-- How an item is read into a field of each type, `none` being an error. -/
structure Reader where
  uint8 : Item → Option (Fin (2 ^ 8))
  uint32 : Item → Option (Fin (2 ^ 32))
  uint32Ptr : Item → Option (Option (Fin (2 ^ 32)))
  bytes : Item → Option (List (Fin (2 ^ 8)))
  text : Item → Option String
  struct : Item → Option Fields

/-- Values of the right type are read back, those of the wrong type or out of range are errors. -/
structure Reader.Lawful (reader : Reader) : Prop where
  uint8_val : ∀ n : Fin (2 ^ 8), reader.uint8 (.uint n.val) = some n
  uint8_out : ∀ n : ℕ, 2 ^ 8 ≤ n → reader.uint8 (.uint n) = none
  text_map : ∀ fields : Fields, reader.text (.map fields) = none

/-- One field of a struct: the item under its key, if the message has one. -/
def readField {T : Type} (read : Item → Option T) (zero : T) (key : ℕ) (fields : Fields) :
    Option T :=
  (fields.lookup key).elim (some zero) read

/-- An encoder writes an omitted field or the field itself in front of the rest. -/
def omitted {T : Type} (key : ℕ) (encode : T → Item) : Option T → Fields
  | none => []
  | some v => [(key, encode v)]

end Cbor
