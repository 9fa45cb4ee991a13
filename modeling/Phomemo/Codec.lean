import Mathlib.Data.Option.Basic
import Mathlib.Data.List.Basic

/-!
# Self-delimiting codes

A stream of symbols whose encodings delimit themselves is read back by decoding one symbol after
the other.  Numbers travel as little-endian byte pairs.
-/

namespace Phomemo.Codec

variable {Symbol Letter : Type}

/-- Decode symbols until the input is used up; the fuel bounds their number. -/
def decodeFuel (decode : List Letter → Option (Symbol × List Letter)) :
    Nat → List Letter → Option (List Symbol)
  | _, [] => some []
  | 0, _ :: _ => none
  | fuel + 1, letter :: letters =>
      match decode (letter :: letters) with
      | none => none
      | some (symbol, rest) => (decodeFuel decode fuel rest).map (symbol :: ·)

/-- Decode a whole input.  Every symbol takes at least one letter, so the length is fuel enough. -/
def decodeAll (decode : List Letter → Option (Symbol × List Letter)) (input : List Letter) :
    Option (List Symbol) :=
  decodeFuel decode input.length input

/-- The decoder reads back one legal symbol and leaves what follows it. -/
def Inverts (decode : List Letter → Option (Symbol × List Letter))
    (encode : Symbol → List Letter) (Legal : Symbol → Prop) : Prop :=
  ∀ symbol, Legal symbol → ∀ rest, decode (encode symbol ++ rest) = some (symbol, rest)

section Streams

variable {decode : List Letter → Option (Symbol × List Letter)}
  {encode : Symbol → List Letter} {Legal : Symbol → Prop}

theorem decodeFuel_flatMap (inverts : Inverts decode encode Legal)
    (nonempty : ∀ symbol, Legal symbol → encode symbol ≠ [])
    {symbols : List Symbol} (legal : ∀ symbol ∈ symbols, Legal symbol)
    {fuel : Nat} (enough : (symbols.flatMap encode).length ≤ fuel) :
    decodeFuel decode fuel (symbols.flatMap encode) = some symbols := by
  induction symbols generalizing fuel with
  | nil => simp [decodeFuel]
  | cons symbol symbols ih =>
      have symbolLegal : Legal symbol := legal symbol List.mem_cons_self
      have decoded := inverts symbol symbolLegal (symbols.flatMap encode)
      have lengths : (encode symbol).length + (symbols.flatMap encode).length ≤ fuel := by
        simpa using enough
      obtain ⟨letter, letters, spelled⟩ := List.exists_cons_of_ne_nil (nonempty symbol symbolLegal)
      rw [spelled] at decoded lengths
      rw [List.length_cons] at lengths
      obtain ⟨fuel, rfl⟩ : ∃ smaller, fuel = smaller + 1 := ⟨fuel - 1, by omega⟩
      rw [List.flatMap_cons, spelled]
      simp only [List.cons_append, decodeFuel] at decoded ⊢
      rw [decoded]
      simp only
      rw [ih (fun other member => legal other (List.mem_cons_of_mem symbol member))
        (by omega)]
      rfl

/-- Decoding a concatenation of encodings gives the encoded symbols back. -/
theorem decodeAll_flatMap (inverts : Inverts decode encode Legal)
    (nonempty : ∀ symbol, Legal symbol → encode symbol ≠ [])
    {symbols : List Symbol} (legal : ∀ symbol ∈ symbols, Legal symbol) :
    decodeAll decode (symbols.flatMap encode) = some symbols :=
  decodeFuel_flatMap inverts nonempty legal (Nat.le_refl _)

end Streams

/-- The two bytes of a number, low byte first. -/
def pair (value : Nat) : List UInt8 :=
  [UInt8.ofNat value, UInt8.ofNat (value / 256)]

/-- The number of a low and a high byte. -/
def ofPair (low high : UInt8) : Nat :=
  low.toNat + 256 * high.toNat

@[simp]
theorem pair_length (value : Nat) : (pair value).length = 2 := rfl

theorem ofPair_pair {value : Nat} (fits : value < 65536) :
    ofPair (UInt8.ofNat value) (UInt8.ofNat (value / 256)) = value := by
  have high : value / 256 < 256 := by omega
  simp only [ofPair, UInt8.toNat_ofNat', Nat.reducePow, Nat.mod_eq_of_lt high]
  omega

end Phomemo.Codec
