import ReplySchema.Datum.Basic

/-!
The order in which a set of numbers shows. The set keeps its members in slots, a power of two in
number: a member goes to the slot that its residue names, or to one of the next nine that is free, or
else to another place worked out from the residue.
-/

namespace ReplySchema

namespace Datum

/-- The prime of which residues are taken. -/
def residuePrime : Nat := Nat.pow 2 61 - 1

/-- A signed residue as a word of 64 bits; minus two stands for minus one too. -/
def residueWord (n : Int) : Nat :=
  ((if n = -1 then -2 else n) % (Nat.pow 2 64 : Int)).toNat

def residueOfInt (n : Int) : Nat := residueWord (Int.tmod n residuePrime)

/-- The residue of a number, the same for equal numbers. A unit of a double is two to the 24th there. -/
def residue? : Datum → Option Nat
  | bool b => some (if b then 1 else 0)
  | int n => some (residueOfInt n)
  | float (.finite negative m) => some (residueOfInt (Double.signedUnits negative m * Nat.pow 2 24))
  | float (.infinity negative) => some (residueWord (if negative then -314159 else 314159))
  | _ => none

/-- Puts a datum into the first free slot on its way from `slot` on. -/
def putInSlot (residue slot : Nat) (d : Datum) : Nat → Array (Option Datum) → Array (Option Datum)
  | 0, slots => slots
  | tries + 1, slots =>
    let near := if slot + 9 < slots.size then 10 else 1
    match (List.range near).find? fun k => ((slots[slot + k]?).join).isNone with
    | some k => slots.set! (slot + k) (some d)
    | none =>
      let residue := residue / 32
      putInSlot residue ((5 * slot + 1 + residue) % slots.size) d tries slots

/-- The least power of two beyond `n`, eight or more. -/
def slotCount (n : Nat) : Nat := max 8 (Nat.pow 2 (n.log2 + 1))

/-- Numbers in the order of their slots; other data stay in the order in which they came. -/
def inSlots (ds : List Datum) : List Datum :=
  match ds.mapM fun d => d.residue?.map fun r => (r, d) with
  | none => ds
  | some placed =>
    let count := if ds.length < 5 then 8 else slotCount (2 * ds.length)
    let slots := placed.foldl
      (fun slots (r, d) => putInSlot r (r % count) d (count + 16) slots)
      (Array.replicate count none)
    slots.toList.filterMap id

end Datum

end ReplySchema
